import DocCoverage.Text.Utf8

/-!
# Line numbers

A line ends after a line feed, after a carriage return, or after the two together. The index of a
text holds the byte offset at which each line starts; an offset lies on the last line that starts
at or before it, and lines count from one.
-/

namespace DocCoverage.Text

/-- The byte offsets at which the lines of a text start, in increasing order. -/
structure LineIndex where
  starts : List Nat
  deriving DecidableEq, Repr

namespace LineIndex

/-- The starts of the lines after the first, for a text that begins at a byte offset. -/
def laterStarts : Nat → List Char → List Nat
  | _, [] => []
  | offset, '\r' :: '\n' :: rest => (offset + 2) :: laterStarts (offset + 2) rest
  | offset, c :: rest =>
    if c = '\r' ∨ c = '\n' then (offset + 1) :: laterStarts (offset + 1) rest
    else laterStarts (offset + c.utf8Size) rest

/-- The index of a text. -/
def ofText (text : List Char) : LineIndex := ⟨0 :: laterStarts 0 text⟩

/-- The line on which a byte offset lies. -/
def lineOf (index : LineIndex) (offset : Nat) : Nat :=
  (index.starts.takeWhile (· ≤ offset)).length

end LineIndex

end DocCoverage.Text
