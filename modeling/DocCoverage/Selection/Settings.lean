import DocCoverage.Glob.Match

/-!
# Settings of the selection

Which files of a tree are selected: those whose paths match one of some patterns, with the exception
of those whose absolute paths hold an excluded text.
-/

namespace DocCoverage.Selection

/-- Which files are selected. -/
structure Settings where
  /-- The texts of the patterns. -/
  patterns : List String
  /-- The text that no selected path holds. -/
  excluded : String
  deriving DecidableEq, Repr

/-- The settings of every check: source files outside of installed packages. -/
def Settings.standard : Settings := ⟨["**/*.ts", "**/*.tsx"], "node_modules"⟩

/-- A text that should be a pattern, and what is wrong with it. -/
structure InvalidPattern where
  text : String
  error : Glob.PatternError
  deriving DecidableEq, Repr

/-- The message of an invalid pattern. -/
def InvalidPattern.message (invalid : InvalidPattern) : String :=
  "Invalid source file pattern: \"" ++ invalid.text ++ "\": " ++ invalid.error.message

/-- The pattern that a text writes. -/
def compilePattern (text : String) : Except InvalidPattern Glob.Pattern :=
  match Glob.Pattern.parse text with
  | .ok pattern => .ok pattern
  | .error error => .error ⟨text, error⟩

/-- The patterns that texts write, or the first that is invalid. -/
def compilePatterns (texts : List String) : Except InvalidPattern (List Glob.Pattern) :=
  texts.mapM compilePattern

end DocCoverage.Selection
