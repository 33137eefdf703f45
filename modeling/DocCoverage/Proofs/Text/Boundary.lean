import DocCoverage.Text.Utf8

/-!
# Character boundaries

A byte offset is a character boundary of a text when it is the size of some characters in front of
it. Texts are cut and sliced at boundaries without a loss, and two boundaries are ordered as the
texts before them are.
-/

namespace DocCoverage.Text

/-- An offset is a character boundary of a text: some characters in front take so many bytes. -/
def IsBoundary (text : List Char) (offset : Nat) : Prop :=
  ∃ before after, text = before ++ after ∧ byteLength before = offset

/-- A text without bytes is empty. -/
theorem eq_nil_of_byteLength_eq_zero {text : List Char} (hzero : byteLength text = 0) :
    text = [] := by
  cases text with
  | nil => rfl
  | cons c rest =>
    rw [byteLength_cons] at hzero
    have hpos := c.utf8Size_pos
    omega

/-- The text after some characters is the suffix at the offset that they take. -/
theorem suffixAt?_append (before after : List Char) :
    suffixAt? (before ++ after) (byteLength before) = some after := by
  induction before with
  | nil =>
    rw [List.nil_append, byteLength_nil]
    cases after <;> rfl
  | cons c rest ih =>
    have hpos := c.utf8Size_pos
    obtain ⟨n, hn⟩ : ∃ n, byteLength (c :: rest) = n + 1 :=
      Nat.exists_eq_succ_of_ne_zero (by rw [byteLength_cons]; omega)
    rw [byteLength_cons] at hn
    rw [List.cons_append, byteLength_cons, hn, suffixAt?, if_pos (by omega), ← hn,
      Nat.add_sub_cancel_left, ih]

/-- A suffix at an offset follows some characters that take so many bytes. -/
theorem exists_append_of_suffixAt? {text after : List Char} {offset : Nat}
    (hafter : suffixAt? text offset = some after) :
    ∃ before, text = before ++ after ∧ byteLength before = offset := by
  fun_induction suffixAt? text offset with
  | case1 text => exact ⟨[], Option.some.inj hafter, rfl⟩
  | case2 n => simp at hafter
  | case3 c rest n hle ih =>
    obtain ⟨before, htext, hsize⟩ := ih hafter
    refine ⟨c :: before, by rw [htext, List.cons_append], ?_⟩
    rw [byteLength_cons]
    omega
  | case4 c rest n hlt => simp at hafter

/-- There is a suffix exactly at a boundary. -/
theorem isBoundary_iff_isSome (text : List Char) (offset : Nat) :
    IsBoundary text offset ↔ (suffixAt? text offset).isSome = true := by
  rw [Option.isSome_iff_exists]
  constructor
  · intro h
    obtain ⟨before, after, rfl, rfl⟩ := h
    exact ⟨after, suffixAt?_append before after⟩
  · intro h
    obtain ⟨after, hafter⟩ := h
    obtain ⟨before, htext, hsize⟩ := exists_append_of_suffixAt? hafter
    exact ⟨before, after, htext, hsize⟩

instance (text : List Char) (offset : Nat) : Decidable (IsBoundary text offset) :=
  decidable_of_iff _ (isBoundary_iff_isSome text offset).symm

/-- The start of a text is a boundary. -/
theorem isBoundary_zero (text : List Char) : IsBoundary text 0 := ⟨[], text, rfl, rfl⟩

/-- The offset of a character is a boundary. -/
theorem isBoundary_byteOffset (text : List Char) (index : Nat) :
    IsBoundary text (byteOffset text index) :=
  ⟨text.take index, text.drop index, (List.take_append_drop index text).symm,
    (byteOffset_eq text index).symm⟩

/-- A boundary does not lie past the end of the text. -/
theorem IsBoundary.le_byteLength {text : List Char} {offset : Nat} (h : IsBoundary text offset) :
    offset ≤ byteLength text := by
  obtain ⟨before, after, rfl, rfl⟩ := h
  rw [byteLength_append]
  exact Nat.le_add_right _ _

/-- The text before a boundary. -/
theorem prefixAt_append (before after : List Char) :
    prefixAt (before ++ after) (byteLength before) = before := by
  induction before with
  | nil =>
    cases after with
    | nil => rfl
    | cons c rest =>
      have hpos := c.utf8Size_pos
      rw [List.nil_append, prefixAt, byteLength_nil, if_neg (by omega)]
  | cons c rest ih =>
    rw [List.cons_append, prefixAt, byteLength_cons, if_pos (Nat.le_add_right _ _),
      Nat.add_sub_cancel_left, ih]

/-- The slice between two boundaries. -/
theorem slice_append (before middle after : List Char) :
    slice (before ++ (middle ++ after)) (byteLength before)
      (byteLength before + byteLength middle) = middle := by
  rw [slice, suffixAt?_append, Option.getD_some, Nat.add_sub_cancel_left, prefixAt_append]

/-- Two boundaries cut a text in three: the characters before the first, the slice between them and
the suffix at the second. -/
theorem exists_slice {text : List Char} {start stop : Nat} (hstart : IsBoundary text start)
    (hstop : IsBoundary text stop) (hle : start ≤ stop) :
    ∃ before middle after, text = before ++ (middle ++ after) ∧ byteLength before = start ∧
      start + byteLength middle = stop ∧ slice text start stop = middle ∧
      suffixAt? text stop = some after := by
  obtain ⟨before, rest, htext, rfl⟩ := hstart
  obtain ⟨front, after, htext', rfl⟩ := hstop
  have hbefore : before <+: front := by
    have hprefix : before <+: front ∨ front <+: before :=
      List.prefix_or_prefix_of_prefix ⟨rest, htext.symm⟩ ⟨after, htext'.symm⟩
    rcases hprefix with hprefix | ⟨middle, rfl⟩
    · exact hprefix
    · rw [byteLength_append] at hle
      obtain rfl : middle = [] := eq_nil_of_byteLength_eq_zero (by omega)
      exact ⟨[], by rw [List.append_nil, List.append_nil]⟩
  obtain ⟨middle, rfl⟩ := hbefore
  have hsuffix : suffixAt? text (byteLength (before ++ middle)) = some after := by
    rw [htext', suffixAt?_append]
  rw [List.append_assoc] at htext'
  refine ⟨before, middle, after, htext', rfl, (byteLength_append before middle).symm, ?_, hsuffix⟩
  rw [htext', byteLength_append, slice_append]

end DocCoverage.Text
