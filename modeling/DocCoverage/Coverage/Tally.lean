import DocCoverage.Coverage.Record
import DocCoverage.DocComment.Scanner
import DocCoverage.Text.Trivia

/-!
# The tally of a source file

Each declaration of a file is documented, undocumented, or preceded by an ordinary comment, by the
comment nearest to it. The tally counts the documented ones and lists the lines of the undocumented
ones.
-/

namespace DocCoverage.Coverage

open Text

/-- The two kinds of declarations, in the order in which they are reported. -/
inductive DeclarationKind where
  | function
  | variable
  deriving DecidableEq, Repr

/-- The word for a kind of declaration. -/
def DeclarationKind.label : DeclarationKind → String
  | .function => "function"
  | .variable => "variable"

/-- A function or a variable that holds one. -/
structure Declaration where
  name : String
  kind : DeclarationKind
  /-- The byte offset from which its leading comments are sought. -/
  commentOffset : Nat
  lines : LineRange
  deriving DecidableEq, Repr

/-- The text of a source file and its declarations in the order of evaluation. -/
structure SourceUnit where
  path : String
  text : List Char
  declarations : List Declaration
  deriving DecidableEq, Repr

/-- How a declaration stands. -/
inductive Status where
  /-- A documentation comment without diagnostics precedes it. -/
  | documented
  /-- No comment precedes it, or a documentation comment with diagnostics. -/
  | undocumented
  /-- An ordinary comment precedes it. -/
  | plainComment
  deriving DecidableEq, Repr

/-- The word for a status. -/
def Status.label : Status → String
  | .documented => "documented"
  | .undocumented => "undocumented"
  | .plainComment => "plain_comment"

/-- Whether a comment is a documentation comment. -/
def isDocComment (comment : List Char) : Bool := ['/', '*', '*'].isPrefixOf comment

/-- The status that a comment gives, under a validator. -/
def statusOf (validate : List Char → List DocComment.Diagnostic) :
    Option (List Char) → Status
  | none => .undocumented
  | some comment =>
    if !isDocComment comment then .plainComment
    else if (validate comment).isEmpty then .documented
    else .undocumented

/-- The comment nearest to a declaration; there is no answer where its offset lies inside a
character. -/
def commentOf? (text : List Char) (declaration : Declaration) : Option (Option (List Char)) :=
  (leadingComments? text declaration.commentOffset).map (nearestComment text)

/-- A declaration with its comment and its status. -/
structure Finding where
  declaration : Declaration
  comment : Option (List Char)
  status : Status
  deriving DecidableEq, Repr

/-- What is found for a declaration of a text. -/
def finding? (validate : List Char → List DocComment.Diagnostic) (text : List Char)
    (declaration : Declaration) : Option Finding :=
  (commentOf? text declaration).map fun comment =>
    ⟨declaration, comment, statusOf validate comment⟩

/-- What is found for the declarations of a unit, in order. -/
def findings? (validate : List Char → List DocComment.Diagnostic) (unit : SourceUnit) :
    Option (List Finding) :=
  unit.declarations.mapM (finding? validate unit.text)

/-- The record of a file with the given findings. -/
def Record.ofFindings (path : String) (findings : List Finding) : Record :=
  { path := path
    total := findings.length
    documented := findings.countP fun f => f.status = .documented
    undocumented :=
      (findings.filter fun f => f.status = .undocumented).map fun f => f.declaration.lines }

/-- The record of a unit; there is no answer where an offset lies inside a character. -/
def tally? (validate : List Char → List DocComment.Diagnostic) (unit : SourceUnit) :
    Option Record :=
  (findings? validate unit).map (Record.ofFindings unit.path)

end DocCoverage.Coverage
