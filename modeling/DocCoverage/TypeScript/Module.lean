import DocCoverage.Text.LineIndex
import DocCoverage.TypeScript.ModuleItems

/-!
# Modules

The grammar ties the productions together. A phrase that holds others is read with a smaller depth
than its own, and the depth of a module is so large that its text cannot nest deeper.

The items of a module have spans in byte offsets of the text that was read, which is the text
without a byte order mark in front.
-/

namespace DocCoverage.TypeScript

open Text Parse

/-- The production of a nonterminal over a grammar. -/
def production (g : Grammar) : Grammar
  | .assignment => assignmentRule g
  | .unary => unaryRule g
  | .member => memberRule g
  | .leftHandSide => leftHandSideRule g
  | .pattern lexical => patternRule g lexical
  | .type => typeRule g
  | .plainType => plainTypeRule g
  | .statement declarations moduleLevel => statementRule g declarations moduleLevel
  | .element => elementRule g

/-- The grammar of phrases that nest up to a depth. -/
def grammar : Nat → Grammar
  | 0 => fun _ => fail .nestingTooDeep
  | depth + 1 => production (grammar depth)

/-- A bound for the depth of the phrases of a text. Between two nested phrases of one kind, of which
there are nine, a character is passed. -/
def depthBound (text : List Char) : Nat := 9 * (text.length + 9)

/-- The items of a text. -/
def items (g : Grammar) : Parse (List Item) := do
  let found ← repeatWhile [] fun found => do
    if ← atEnd then return (found, false)
    let item ← g (.statement true true)
    return (item :: found, true)
  return found.reverse

/-- How a file is read, by its name. -/
structure Dialect where
  /-- Whether tags may stand in expressions. -/
  markup : Bool
  /-- Whether the file only describes what is defined elsewhere. -/
  ambient : Bool
  deriving DecidableEq, Repr

/-- The dialect of the file with a path. -/
def Dialect.ofPath (path : String) : Dialect :=
  ⟨".tsx".toList.isSuffixOf path.toList, ".d.ts".toList.isSuffixOf path.toList⟩

/-- The number of characters of the `#!` line with which a text starts. -/
def interpreterLineLength : List Char → Nat
  | '#' :: '!' :: rest => 2 + (rest.takeWhile fun c => !isLineEnd c).length
  | _ => 0

/-- The items of a text with spans in characters. -/
def readItems (dialect : Dialect) (text : List Char) : Except SyntaxError (List Item) :=
  let start := interpreterLineLength text
  let scope : Scope :=
    { bound := text.length + 1, markup := dialect.markup, ambient := dialect.ambient }
  match items (grammar (depthBound text)) scope (Cursor.ofText start (text.drop start)) with
  | .ok found _ => .ok found
  | .error error _ => .error error

/-- A span of characters of a text in bytes. -/
def Span.inBytes (text : List Char) (span : Span) : Span :=
  ⟨byteOffset text span.start, byteOffset text span.stop⟩

/-- A declarator with its span in bytes. -/
def Declarator.inBytes (text : List Char) (declarator : Declarator) : Declarator :=
  { declarator with span := declarator.span.inBytes text }

/-- What an item declares, with spans in bytes. -/
def ItemKind.inBytes (text : List Char) : ItemKind → ItemKind
  | .variables declarators => .variables (declarators.map (·.inBytes text))
  | .exportedVariables declarators => .exportedVariables (declarators.map (·.inBytes text))
  | kind => kind

/-- An item with its spans in bytes. -/
def Item.inBytes (text : List Char) (item : Item) : Item :=
  ⟨item.kind.inBytes text, item.span.inBytes text⟩

/-- Why a module cannot be read, and the line on which that is reported. -/
structure ModuleError where
  cause : Cause
  line : Nat
  deriving DecidableEq, Repr

/-- The message of an error in the module with a path. -/
def ModuleError.message (path : String) (error : ModuleError) : String :=
  path ++ ":" ++ Nat.repr error.line ++ ": " ++ error.cause.message

/-- A text without the byte order mark that it starts with. -/
def dropByteOrderMark : List Char → List Char
  | '\ufeff' :: rest => rest
  | text => text

/-- The line of a character of a text. The end of the text lies on the line of its last
character. -/
def lineOfIndex (text : List Char) (index : Nat) : Nat :=
  (LineIndex.ofText text).lineOf (min (byteOffset text index) (byteOffset text text.length - 1))

/-- The items of the module with a text. Spans count the bytes after a byte order mark. -/
def readModule (dialect : Dialect) (text : List Char) : Except ModuleError (List Item) :=
  let body := dropByteOrderMark text
  match readItems dialect body with
  | .ok found => .ok (found.map (·.inBytes body))
  | .error error => .error ⟨error.cause, lineOfIndex body error.index⟩

end DocCoverage.TypeScript
