import DocCoverage.Text.ColumnTable
import DocCoverage.Text.Opening

/-!
# Columns of a text

The number of terminal columns that a text takes. A character takes none, one, two or three columns
by itself, but what it takes in a text hangs on how the text after it opens: a carriage return
before a line feed takes none, a character before an emoji selector two, an Arabic lam before an
alef none.

The columns of a text are found from its end. A blank joins nothing after it and nothing before it
joins a blank, so the columns of two texts with a blank between them add up.
-/

namespace DocCoverage.Text

/-- The columns of a character that joins no other. -/
def charColumns (c : Char) : Nat :=
  if inRanges zeroWidthRanges c then 0
  else if inRanges wideRanges c then 2
  else if c = '\u17d8' then 3
  else 1

/-- A mark over which Arabic letters join. -/
def isArabicMark (c : Char) : Bool :=
  inRanges zeroWidthRanges c && !inRanges opaqueMarkRanges c

/-- A quotation mark that the wide selector changes. -/
def isQuotationMark (c : Char) : Bool := inRanges [(0x2018, 0x2019), (0x201C, 0x201D)] c

/-- The columns of a stretch of text and how it opens. The columns that its opening holds back are
not counted. -/
structure Stretch where
  settled : Nat := 0
  opening : Opening := {}
  deriving DecidableEq, Repr

namespace Stretch

/-- All columns of a stretch. -/
def total (stretch : Stretch) : Nat := stretch.settled + stretch.opening.sequence.held

/-- Put some columns before a stretch whose opening does not go on. -/
def lead (stretch : Stretch) (columns : Nat) (opening : Opening) : Stretch :=
  ⟨stretch.total + columns, opening⟩

/-- Put a character before a stretch whose opening does not go on. -/
def leadWith (stretch : Stretch) (c : Char) : Stretch :=
  let sequence := Sequence.ofChar c
  stretch.lead (charColumns c - sequence.held) { sequence }

/-- A stretch whose selector has changed nothing. The selector is dropped, and with it a sequence that
does not go on before one. -/
def unselect (stretch : Stretch) : Stretch :=
  let sequence := stretch.opening.sequence
  if stretch.opening.selector.isNone || sequence.takesSelectors then
    { stretch with opening := { sequence } }
  else stretch.lead 0 {}

/-- Put a control character, an ASCII character or a no-break space before a stretch. -/
def pushNarrow (c : Char) (stretch : Stretch) : Stretch :=
  if c = '\r' ∧ stretch.opening.sequence = .lineFeed then stretch.lead 0 {}
  else stretch.lead 1 { sequence := if c = '\n' then .lineFeed else .plain }

/-- Put a selector before a stretch. -/
def pushSelector (selector : Selector) (stretch : Stretch) : Stretch :=
  let sequence := stretch.opening.sequence
  if sequence.takesSelectors || (selector = .emoji && sequence.joinsEmoji) then
    { stretch with opening := ⟨sequence, some selector⟩ }
  else stretch.lead 0 { selector := some selector }

/-- Put a character before a stretch that opens with a sequence. -/
def pushLetter (c : Char) (stretch : Stretch) : Stretch :=
  let sequence := stretch.opening.sequence
  match sequence.extend? c with
  | some (columns, next) => ⟨stretch.settled + columns, { sequence := next }⟩
  | none => if sequence = .alef && isArabicMark c then stretch else stretch.leadWith c

/-- The columns of a character that a selector before a stretch changes. -/
def selectedColumns? (c : Char) (opening : Opening) : Option Nat :=
  match opening.selector with
  | some .emoji =>
    if isSelectable c then some (if opening.sequence.joinsEmoji then 0 else 2) else none
  | some .text => if isTextual c then some 1 else none
  | some .wide => if isQuotationMark c then some 2 else none
  | none => none

/-- Put a character before a stretch. -/
def push (c : Char) (stretch : Stretch) : Stretch :=
  match selectedColumns? c stretch.opening with
  | some columns =>
    stretch.lead columns
      { sequence := if stretch.opening.selector = some .emoji then .emoji else .plain }
  | none =>
    if c ≤ '\u00a0' then stretch.unselect.pushNarrow c
    else
      match Selector.ofChar? c with
      | some selector => stretch.unselect.pushSelector selector
      | none => stretch.unselect.pushLetter c

end Stretch

/-- The columns of a text. -/
def columns (text : List Char) : Nat := (text.foldr Stretch.push {}).total

end DocCoverage.Text
