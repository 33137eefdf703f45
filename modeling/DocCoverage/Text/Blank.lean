/-!
# Blank characters

The characters of the Unicode property White_Space, which separate words in comments and tokens
in source text, and the removal of blanks from the ends of a line. `blankRanges` lists the property
in code point order.
-/

namespace DocCoverage.Text

/-- The code points of White_Space, as inclusive ranges in increasing order. -/
def blankRanges : List (Nat × Nat) :=
  [(0x09, 0x0D), (0x20, 0x20), (0x85, 0x85), (0xA0, 0xA0), (0x1680, 0x1680), (0x2000, 0x200A),
    (0x2028, 0x2029), (0x202F, 0x202F), (0x205F, 0x205F), (0x3000, 0x3000)]

/-- A character is blank when it has the property White_Space. -/
def isBlank (c : Char) : Bool :=
  blankRanges.any fun range => range.1 ≤ c.toNat && c.toNat ≤ range.2

/-- Drop the blanks at the front. -/
def trimStart (text : List Char) : List Char := text.dropWhile isBlank

/-- Drop the blanks at the end. -/
def trimEnd (text : List Char) : List Char := (text.reverse.dropWhile isBlank).reverse

/-- Drop the blanks at both ends. -/
def trim (text : List Char) : List Char := trimEnd (trimStart text)

/-- The pieces of a text between the occurrences of a separator; there is always one. -/
def pieces (separator : Char) : List Char → List (List Char)
  | [] => [[]]
  | c :: rest =>
    match pieces separator rest with
    | [] => [[c]]
    | first :: others => if c = separator then [] :: first :: others else (c :: first) :: others

/-- A text with a separator has at least one piece. -/
theorem pieces_ne_nil (separator : Char) (text : List Char) : pieces separator text ≠ [] := by
  cases text with
  | nil => simp [pieces]
  | cons c rest =>
    rw [pieces]
    split
    · simp
    · split <;> simp

end DocCoverage.Text
