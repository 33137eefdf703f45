import DocCoverage.DocComment.Diagnostic
import DocCoverage.Text.Blank

/-!
# The content of a documentation comment

A comment stands between its delimiters. Its content lines are the lines in between without the
blanks at their ends and without the star that decorates every line but the first. Fenced code is
emptied, and what remains is flattened into cells: characters that remember their line.
-/

namespace DocCoverage.DocComment

open Text

/-- A character and the line of the comment on which it stands. -/
structure Cell where
  char : Char
  line : Nat
  deriving DecidableEq, Repr

/-- The text between the delimiters of a comment, or the delimiter that is missing. -/
def inner (comment : List Char) : Except Problem (List Char) :=
  match comment with
  | '/' :: '*' :: '*' :: body =>
    match body.reverse with
    | '/' :: '*' :: reversed => .ok reversed.reverse
    | _ => .error .missingClosingDelimiter
  | _ => .error .missingOpeningDelimiter

/-- A line without its star and one space after the star. -/
def undecorate : List Char → List Char
  | '*' :: ' ' :: rest => rest
  | '*' :: rest => rest
  | line => line

/-- The content lines of the text between the delimiters. -/
def contentLines (text : List Char) : List (List Char) :=
  match pieces '\n' text with
  | [] => []
  | first :: others => trim first :: others.map fun line => undecorate (trim line)

/-- A fence line starts with three backticks. -/
def isFence (line : List Char) : Bool :=
  ['\x60', '\x60', '\x60'].isPrefixOf (trimStart line)

/-- The lines that lie outside fenced code as they are and the others empty, together with the line
of the fence that is left open. `fence` is the line of the open fence, if any, before the given
lines, the first of which has number `number`. -/
def maskFences (fence : Option Nat) (number : Nat) :
    List (List Char) → List (List Char) × Option Nat
  | [] => ([], fence)
  | line :: rest =>
    if isFence line then
      let masked := maskFences (if fence.isSome then none else some number) (number + 1) rest
      ([] :: masked.1, masked.2)
    else
      let masked := maskFences fence (number + 1) rest
      ((if fence.isSome then [] else line) :: masked.1, masked.2)

/-- The cells of one line. -/
def lineCells (number : Nat) (line : List Char) : List Cell := line.map fun c => ⟨c, number⟩

/-- The cells of lines that follow another line; the line feed before a line belongs to it. -/
def laterCells (number : Nat) : List (List Char) → List Cell
  | [] => []
  | line :: rest => ⟨'\n', number⟩ :: lineCells number line ++ laterCells (number + 1) rest

/-- The cells of all lines. -/
def flatten : List (List Char) → List Cell
  | [] => []
  | first :: rest => lineCells 1 first ++ laterCells 2 rest

end DocCoverage.DocComment
