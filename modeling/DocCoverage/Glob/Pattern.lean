/-!
# Patterns of paths

A pattern is a sequence of pieces. A question mark stands for one character, brackets for one out of
a set or outside of it, an asterisk for any characters, and two asterisks that fill a component for
any number of components. All other characters stand for themselves.
-/

namespace DocCoverage.Glob

/-- The characters from one to another, both included. -/
structure CharRange where
  first : Char
  last : Char
  deriving DecidableEq, Repr

/-- Whether a character lies in a range. -/
def CharRange.holds (range : CharRange) (c : Char) : Bool := range.first ≤ c && c ≤ range.last

/-- A piece of a pattern. -/
inductive Piece where
  | literal (c : Char)
  | anyChar
  /-- One character out of some ranges. -/
  | oneOf (ranges : List CharRange)
  /-- One character outside of some ranges. -/
  | noneOf (ranges : List CharRange)
  /-- Any number of characters. -/
  | anySequence
  /-- Any number of components, each with the slash after it. -/
  | anyComponents
  deriving DecidableEq, Repr

/-- Why a text is no pattern. -/
inductive Fault where
  /-- Three or more asterisks stand together. -/
  | tooManyAsterisks
  /-- Two asterisks do not fill a component. -/
  | partialComponent
  /-- Brackets are not closed, or hold nothing. -/
  | badBrackets
  deriving DecidableEq, Repr

/-- The words for a fault. -/
def Fault.text : Fault → String
  | tooManyAsterisks => "wildcards are either regular `*` or recursive `**`"
  | partialComponent => "recursive wildcards must form a single path component"
  | badBrackets => "invalid range pattern"

/-- A fault and the index of the character near which it was found. -/
structure PatternError where
  fault : Fault
  index : Nat
  deriving DecidableEq, Repr

/-- The message of an error. -/
def PatternError.message (error : PatternError) : String :=
  "Pattern syntax error near position " ++ Nat.repr error.index ++ ": " ++ error.fault.text

/-- The ranges that the text between brackets writes. A hyphen between two characters joins them to
a range. -/
def rangesOf : List Char → List CharRange
  | first :: '-' :: last :: rest => ⟨first, last⟩ :: rangesOf rest
  | c :: rest => ⟨c, c⟩ :: rangesOf rest
  | [] => []

/-- The text between brackets cut at the first right bracket that is not its first character, given
the text after the left bracket and an exclamation mark. -/
def splitBrackets : List Char → Option (List Char × List Char)
  | [] => none
  | first :: rest =>
    match rest.dropWhile (· != ']') with
    | [] => none
    | _ :: after => some (first :: rest.takeWhile (· != ']'), after)

/-- The piece that brackets write and the text after them, given the text after the left bracket. -/
def bracketPiece : List Char → Option (Piece × List Char)
  | '!' :: rest => (splitBrackets rest).map fun cut => (.noneOf (rangesOf cut.1), cut.2)
  | text => (splitBrackets text).map fun cut => (.oneOf (rangesOf cut.1), cut.2)

/-- The piece that two asterisks write and the text after them, given the index of the asterisks,
the character before them and the text after them. -/
def componentsPiece (index : Nat) (before : Option Char) (after : List Char) :
    Except PatternError (Piece × List Char) :=
  if before.all (· == '/') then
    match after with
    | [] => .ok (.anyComponents, [])
    | '/' :: rest => .ok (.anyComponents, rest)
    | _ => .error ⟨.partialComponent, index + 2⟩
  else .error ⟨.partialComponent, index - 1⟩

/-- The piece that asterisks write and the text after them, given the index and the number of the
asterisks. -/
def asteriskPiece (index count : Nat) (before : Option Char) (after : List Char) :
    Except PatternError (Piece × List Char) :=
  if count = 1 then .ok (.anySequence, after)
  else if count = 2 then componentsPiece index before after
  else .error ⟨.tooManyAsterisks, index + 2⟩

/-- The first piece of a text and the text after it, given the index of the text and the character
before it. -/
def nextPiece (index : Nat) (before : Option Char) (c : Char) (rest : List Char) :
    Except PatternError (Piece × List Char) :=
  if c = '?' then .ok (.anyChar, rest)
  else if c = '*' then
    asteriskPiece index (1 + (rest.takeWhile (· == '*')).length) before (rest.dropWhile (· == '*'))
  else if c = '[' then
    match bracketPiece rest with
    | some found => .ok found
    | none => .error ⟨.badBrackets, index⟩
  else .ok (.literal c, rest)

/-- The pieces of a text with an index, read in at most so many steps. -/
def piecesFrom : Nat → Nat → Option Char → List Char → Except PatternError (List Piece)
  | 0, _, _, _ => .ok []
  | _, _, _, [] => .ok []
  | steps + 1, index, before, c :: rest => do
    let (piece, after) ← nextPiece index before c rest
    let taken := rest.length + 1 - after.length
    let pieces ← piecesFrom steps (index + taken) ((c :: rest)[taken - 1]?) after
    return piece :: pieces

/-- A pattern of paths. -/
structure Pattern where
  pieces : List Piece
  deriving DecidableEq, Repr

/-- The pattern that a text writes. Every piece takes a character, so the length of the text bounds
their number. -/
def Pattern.parse (text : String) : Except PatternError Pattern :=
  (piecesFrom text.toList.length 0 none text.toList).map Pattern.mk

end DocCoverage.Glob
