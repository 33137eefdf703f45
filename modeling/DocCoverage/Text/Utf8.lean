/-!
# Byte offsets

Positions in a source text count the bytes of its UTF-8 encoding. A position is a character
boundary when a prefix of the text has exactly that many bytes; `suffixAt?` cuts the text there.
-/

namespace DocCoverage.Text

/-- The number of bytes of the encoding of a text. -/
def byteLength (text : List Char) : Nat := text.foldl (fun size c => size + c.utf8Size) 0

/-- An empty text has no bytes. -/
@[simp]
theorem byteLength_nil : byteLength [] = 0 := rfl

/-- The size of a text does not depend on where the count starts. -/
theorem foldl_utf8Size (text : List Char) (start : Nat) :
    text.foldl (fun size c => size + c.utf8Size) start = start + byteLength text := by
  induction text generalizing start with
  | nil => rfl
  | cons c rest ih =>
    simp only [byteLength, List.foldl_cons] at ih ⊢
    rw [ih, ih (0 + c.utf8Size)]
    omega

/-- The first character adds its bytes. -/
@[simp]
theorem byteLength_cons (c : Char) (rest : List Char) :
    byteLength (c :: rest) = c.utf8Size + byteLength rest := by
  rw [byteLength, List.foldl_cons, foldl_utf8Size, Nat.zero_add]

/-- The bytes of two texts add up. -/
@[simp]
theorem byteLength_append (first second : List Char) :
    byteLength (first ++ second) = byteLength first + byteLength second := by
  rw [byteLength, List.foldl_append, foldl_utf8Size, ← byteLength]

/-- The text from a byte offset on, when the offset is a character boundary of the text. -/
def suffixAt? : List Char → Nat → Option (List Char)
  | text, 0 => some text
  | [], _ + 1 => none
  | c :: rest, n + 1 => if c.utf8Size ≤ n + 1 then suffixAt? rest (n + 1 - c.utf8Size) else none

/-- The text before a byte offset, up to the last character that ends there or earlier. -/
def prefixAt : List Char → Nat → List Char
  | [], _ => []
  | c :: rest, n => if c.utf8Size ≤ n then c :: prefixAt rest (n - c.utf8Size) else []

/-- The part of a text between two byte offsets. -/
def slice (text : List Char) (start stop : Nat) : List Char :=
  prefixAt ((suffixAt? text start).getD []) (stop - start)

/-- The byte offset of the character with a given index in a text that starts at an offset. -/
def byteOffsetFrom (start : Nat) : List Char → Nat → Nat
  | c :: rest, index + 1 => byteOffsetFrom (start + c.utf8Size) rest index
  | _, _ => start

/-- The byte offset of the character with a given index, or the length past the end. -/
def byteOffset (text : List Char) (index : Nat) : Nat := byteOffsetFrom 0 text index

/-- The offset of a character is where the text starts and the size of the characters before. -/
theorem byteOffsetFrom_eq (start : Nat) (text : List Char) (index : Nat) :
    byteOffsetFrom start text index = start + byteLength (text.take index) := by
  induction text generalizing start index with
  | nil => simp [byteOffsetFrom]
  | cons c rest ih =>
    cases index with
    | zero => simp [byteOffsetFrom]
    | succ index =>
      rw [byteOffsetFrom, ih, List.take_succ_cons, byteLength_cons, Nat.add_assoc]

/-- The offset of a character is the size of the characters before it. -/
theorem byteOffset_eq (text : List Char) (index : Nat) :
    byteOffset text index = byteLength (text.take index) := by
  rw [byteOffset, byteOffsetFrom_eq, Nat.zero_add]

end DocCoverage.Text
