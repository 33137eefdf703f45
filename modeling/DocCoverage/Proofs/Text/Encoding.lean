import DocCoverage.Proofs.Text.Boundary
import DocCoverage.Proofs.Text.ByteOrder

/-!
# The bytes of a text

A text is stored as the bytes of its characters. A character below 128 is one byte with its number. All
bytes of every other character are at least 128, and the first of them differs from those that continue a
character. So the byte at a position tells whether a character starts there, and the characters below 128
can be sought among the bytes.
-/

namespace DocCoverage.Text

/-- The bytes of the encoding of characters. -/
def encoded (text : List Char) : List UInt8 := utf8Bytes (String.ofList text)

/-- A byte that continues a character. -/
def isContinuation (byte : UInt8) : Bool := 0x80 ≤ byte && byte < 0xC0

/-- Whether bytes may be cut at a position: at their ends, and where the next byte does not continue a
character. -/
def isCutPoint (bytes : List UInt8) (pos : Nat) : Bool :=
  pos == 0 ||
    match bytes[pos]? with
    | none => pos == bytes.length
    | some byte => !isContinuation byte

/-! ## The bytes of a character -/

/-- A character below 128 is one byte. -/
theorem utf8EncodeChar_of_lt {c : Char} (hc : c.toNat < 128) :
    String.utf8EncodeChar c = [c.toUInt8] := by
  refine String.utf8EncodeChar_eq_singleton ?_
  rw [Char.utf8Size_eq_one_iff, UInt32.le_iff_toNat_le]
  exact Nat.le_of_lt_succ hc

/-- The byte of a character below 128 is its number. -/
theorem toNat_toUInt8_of_lt {c : Char} (hc : c.toNat < 128) : c.toUInt8.toNat = c.toNat := by
  change c.toNat % 256 = c.toNat
  omega

/-- Two characters below 128 with the same byte are the same. -/
theorem toUInt8_inj_of_lt {c d : Char} (hc : c.toNat < 128) (hd : d.toNat < 128) :
    c.toUInt8 = d.toUInt8 ↔ c = d := by
  rw [← UInt8.toNat_inj, toNat_toUInt8_of_lt hc, toNat_toUInt8_of_lt hd, Char.toNat_inj]

/-- Any other character has a first byte that does not continue a character, and only bytes after it
that do. -/
theorem exists_utf8EncodeChar {c : Char} (hc : 128 ≤ c.toNat) :
    ∃ first later, String.utf8EncodeChar c = first :: later ∧ 0xC0 ≤ first ∧
      ∀ byte ∈ later, isContinuation byte = true := by
  have hlarge : ¬ c.val.toNat ≤ 127 := Nat.not_le_of_lt hc
  have hbyte {n : Nat} (hn : n < 256) : (UInt8.ofNat n).toNat = n := UInt8.toNat_ofNat_of_lt' hn
  have hfirst {n m : Nat} (hm : 192 ≤ m) (hn : n + m < 256) : 0xC0 ≤ UInt8.ofNat (n + m) := by
    rw [UInt8.le_iff_toNat_le, hbyte hn]
    exact Nat.le_add_left_of_le hm
  have hlater (n : Nat) : isContinuation (UInt8.ofNat (n % 64 + 128)) = true := by
    simp only [isContinuation, Bool.and_eq_true, decide_eq_true_eq, UInt8.le_iff_toNat_le,
      UInt8.lt_iff_toNat_lt]
    rw [hbyte (by omega)]
    exact ⟨Nat.le_add_left _ _, Nat.add_lt_of_lt_sub (Nat.mod_lt _ (by decide))⟩
  rw [String.utf8EncodeChar, if_neg hlarge]
  -- one case for each number of bytes
  split
  · exact ⟨_, _, rfl, hfirst (by decide) (by omega), by simp only [List.forall_mem_cons, hlater]; simp⟩
  split
  · exact ⟨_, _, rfl, hfirst (by decide) (by omega), by simp only [List.forall_mem_cons, hlater]; simp⟩
  · exact ⟨_, _, rfl, hfirst (by decide) (by omega), by simp only [List.forall_mem_cons, hlater]; simp⟩

/-- All bytes of a character from 128 on are at least 128. -/
theorem le_of_mem_utf8EncodeChar {c : Char} (hc : 128 ≤ c.toNat) {byte : UInt8}
    (hbyte : byte ∈ String.utf8EncodeChar c) : 0x80 ≤ byte := by
  obtain ⟨first, later, hbytes, hfirst, hlater⟩ := exists_utf8EncodeChar hc
  rw [hbytes, List.mem_cons] at hbyte
  rcases hbyte with rfl | hmem
  · exact UInt8.le_trans (by decide) hfirst
  · have hcontinues := hlater byte hmem
    rw [isContinuation, Bool.and_eq_true] at hcontinues
    exact of_decide_eq_true hcontinues.1

/-- A byte of a character is that of a character below 128 only where the two are the same. -/
theorem eq_toUInt8_iff_of_mem {c d : Char} (hd : d.toNat < 128) {byte : UInt8}
    (hbyte : byte ∈ String.utf8EncodeChar c) : byte = d.toUInt8 ↔ c = d := by
  by_cases hc : c.toNat < 128
  · rw [utf8EncodeChar_of_lt hc, List.mem_singleton] at hbyte
    rw [hbyte, toUInt8_inj_of_lt hc hd]
  · have hle := le_of_mem_utf8EncodeChar (Nat.le_of_not_lt hc) hbyte
    refine iff_of_false ?_ ?_
    · rintro rfl
      rw [UInt8.le_iff_toNat_le, toNat_toUInt8_of_lt hd] at hle
      exact Nat.not_le_of_lt hd hle
    · rintro rfl
      exact hc hd

/-! ## The bytes of a text -/

/-- The bytes of a text are those of its characters. -/
theorem encoded_eq_flatMap (text : List Char) : encoded text = text.flatMap String.utf8EncodeChar := by
  rw [encoded, utf8Bytes_eq_flatMap, String.toList_ofList]

/-- Without characters there are no bytes. -/
@[simp]
theorem encoded_nil : encoded [] = [] := rfl

/-- The bytes of a text start with those of its first character. -/
@[simp]
theorem encoded_cons (c : Char) (rest : List Char) :
    encoded (c :: rest) = String.utf8EncodeChar c ++ encoded rest := by
  rw [encoded_eq_flatMap, encoded_eq_flatMap, List.flatMap_cons]

/-- A character below 128 is the first byte of a text. -/
theorem encoded_cons_of_lt {c : Char} (hc : c.toNat < 128) (rest : List Char) :
    encoded (c :: rest) = c.toUInt8 :: encoded rest := by
  rw [encoded_cons, utf8EncodeChar_of_lt hc, List.singleton_append]

/-- The bytes of two texts follow each other as the texts do. -/
@[simp]
theorem encoded_append (first second : List Char) :
    encoded (first ++ second) = encoded first ++ encoded second := by
  rw [encoded_eq_flatMap, encoded_eq_flatMap, encoded_eq_flatMap, List.flatMap_append]

/-- There are as many bytes as the characters take. -/
@[simp]
theorem length_encoded (text : List Char) : (encoded text).length = byteLength text := by
  induction text with
  | nil => rfl
  | cons c rest ih =>
    rw [encoded_cons, List.length_append, ih, String.length_utf8EncodeChar, byteLength_cons]

/-- The bytes after some characters are those of the text after them. -/
theorem drop_encoded_append (front after : List Char) :
    (encoded (front ++ after)).drop (byteLength front) = encoded after := by
  rw [encoded_append, List.drop_left' (length_encoded front)]

/-- The byte at a position after some characters is one of the text after them. -/
theorem getElem?_encoded_append (front after : List Char) (pos : Nat) :
    (encoded (front ++ after))[byteLength front + pos]? = (encoded after)[pos]? := by
  rw [encoded_append, List.getElem?_append_right (by rw [length_encoded]; exact Nat.le_add_right _ _),
    length_encoded, Nat.add_sub_cancel_left]

/-- A text that is not empty has a byte of its first character in front. -/
theorem exists_encoded_cons (c : Char) (rest : List Char) :
    ∃ first later, encoded (c :: rest) = first :: later ∧ first ∈ String.utf8EncodeChar c := by
  obtain ⟨first, later, hbytes⟩ := List.exists_cons_of_ne_nil (String.utf8EncodeChar_ne_nil (c := c))
  refine ⟨first, later ++ encoded rest, ?_, ?_⟩
  · rw [encoded_cons, hbytes, List.cons_append]
  · rw [hbytes]
    exact List.mem_cons_self

/-- The byte of a character below 128 stands in front exactly where the character does. -/
theorem head?_encoded_eq_iff {d : Char} (hd : d.toNat < 128) (text : List Char) :
    (encoded text).head? = some d.toUInt8 ↔ text.head? = some d := by
  cases text with
  | nil => simp
  | cons c rest =>
    obtain ⟨first, later, hbytes, hfirst⟩ := exists_encoded_cons c rest
    rw [hbytes, List.head?_cons, List.head?_cons, Option.some.injEq, Option.some.injEq,
      eq_toUInt8_iff_of_mem hd hfirst]

/-! ## Where bytes may be cut -/

/-- The first byte of a text does not continue a character. -/
theorem isContinuation_of_getElem?_zero {text : List Char} {byte : UInt8}
    (hbyte : (encoded text)[0]? = some byte) : isContinuation byte = false := by
  cases text with
  | nil => simp at hbyte
  | cons c rest =>
    rw [encoded_cons] at hbyte
    by_cases hc : c.toNat < 128
    · rw [utf8EncodeChar_of_lt hc] at hbyte
      obtain rfl : c.toUInt8 = byte := by simpa using hbyte
      have hlow : ¬ 0x80 ≤ c.toUInt8 := by
        rw [UInt8.le_iff_toNat_le, toNat_toUInt8_of_lt hc]
        exact Nat.not_le_of_lt hc
      rw [isContinuation, decide_eq_false hlow, Bool.false_and]
    · obtain ⟨first, later, hbytes, hfirst, -⟩ := exists_utf8EncodeChar (Nat.le_of_not_lt hc)
      rw [hbytes] at hbyte
      obtain rfl : first = byte := by simpa using hbyte
      rw [isContinuation, decide_eq_false (UInt8.not_lt.mpr hfirst), Bool.and_false]

/-- A byte that is not at a boundary continues a character. -/
theorem isContinuation_of_not_isBoundary {text : List Char} {pos : Nat} {byte : UInt8}
    (hbyte : (encoded text)[pos]? = some byte) (hinside : ¬ IsBoundary text pos) :
    isContinuation byte = true := by
  induction text generalizing pos with
  | nil => simp at hbyte
  | cons c rest ih =>
    have hzero : pos ≠ 0 := by
      rintro rfl
      exact hinside (isBoundary_zero _)
    rw [encoded_cons] at hbyte
    by_cases hlt : pos < c.utf8Size
    · -- not the first byte of the first character
      rw [List.getElem?_append_left (by rw [String.length_utf8EncodeChar]; exact hlt)] at hbyte
      obtain ⟨index, rfl⟩ := Nat.exists_eq_succ_of_ne_zero hzero
      by_cases hc : c.toNat < 128
      · rw [utf8EncodeChar_of_lt hc] at hbyte
        simp at hbyte
      · obtain ⟨first, later, hbytes, -, hlater⟩ := exists_utf8EncodeChar (Nat.le_of_not_lt hc)
        rw [hbytes, List.getElem?_cons_succ] at hbyte
        exact hlater byte (List.mem_of_getElem? hbyte)
    · have hle : c.utf8Size ≤ pos := Nat.le_of_not_lt hlt
      rw [List.getElem?_append_right (by rw [String.length_utf8EncodeChar]; exact hle),
        String.length_utf8EncodeChar] at hbyte
      refine ih hbyte fun hboundary => hinside ?_
      obtain ⟨before, after, rfl, hsize⟩ := hboundary
      exact ⟨c :: before, after, rfl, by rw [byteLength_cons]; omega⟩

/-- The bytes of a text may be cut exactly at its boundaries. -/
theorem isCutPoint_encoded_iff (text : List Char) (pos : Nat) :
    isCutPoint (encoded text) pos = true ↔ IsBoundary text pos := by
  rw [isCutPoint, Bool.or_eq_true, beq_iff_eq]
  constructor
  · rintro (rfl | hcut)
    · exact isBoundary_zero text
    · cases hbyte : (encoded text)[pos]? with
      | none =>
        rw [hbyte] at hcut
        obtain rfl : pos = byteLength text := by simpa using hcut
        exact ⟨text, [], (List.append_nil text).symm, rfl⟩
      | some byte =>
        by_contra hinside
        rw [hbyte] at hcut
        simp [isContinuation_of_not_isBoundary hbyte hinside] at hcut
  · rintro ⟨before, after, rfl, rfl⟩
    have hbytes := getElem?_encoded_append before after 0
    rw [Nat.add_zero] at hbytes
    rw [hbytes]
    cases hbyte : (encoded after)[0]? with
    | none =>
      have hempty : byteLength after = 0 := by
        simpa using List.getElem?_eq_none_iff.mp hbyte
      simp [hempty]
    | some byte => simp [isContinuation_of_getElem?_zero hbyte]

end DocCoverage.Text
