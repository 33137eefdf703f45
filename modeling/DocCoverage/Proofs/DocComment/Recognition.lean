import DocCoverage.Proofs.DocComment.BlockTags
import DocCoverage.Proofs.DocComment.ElementTags
import DocCoverage.Proofs.DocComment.Extent

/-!
# The validator accepts exactly the well formed comments

The scanner passes over a construct without a problem exactly when the characters passed are a unit
of the grammar. It reports nothing, then, exactly when the text is a sequence of units, and the
validator exactly when the comment is well formed.
-/

namespace DocCoverage.DocComment

open Text

/-- A construct has no problem exactly when its characters are a unit. -/
theorem construct_eq_iff (previous : Option Char) (start : Cell) {cells : List Cell}
    {unit after : List Char} (hchars : cells.map Cell.char = unit ++ after) :
    construct previous start cells = ⟨[], unit.length⟩ ↔
      IsTextUnit previous (start.char :: unit) after := by
  constructor
  · intro h
    rw [construct] at h
    split at h
    · next hc => exact hc ▸ .escape ((backslash_eq_iff start hchars).mp h)
    · next hc => exact hc ▸ .codeSpan ((codeSpan_eq_iff start hchars).mp h)
    · next hc => exact hc ▸ .inlineTag ((inlineTag_eq_iff start hchars).mp h)
    · simp at h
    · next hc => exact hc ▸ .blockTag ((blockTag_eq_iff previous start hchars).mp h)
    · next hc => exact hc ▸ .elementTag ((htmlTag_eq_iff start hchars).mp h)
    · simp at h
    · next h₁ h₂ h₃ h₄ h₅ h₆ h₇ =>
      obtain rfl : unit = [] := List.length_eq_zero_iff.mp (Construct.mk.inj h).2.symm
      refine .plain ⟨start.char, rfl, ?_⟩
      simp only [specialChars, List.mem_cons, List.not_mem_nil, or_false, not_or]
      exact ⟨h₁, h₂, h₃, h₄, h₅, h₆, h₇⟩
  · intro h
    -- the first character of a unit selects the routine
    cases h with
    | plain h =>
      obtain ⟨c, hunit, hc⟩ := h
      obtain ⟨rfl, rfl⟩ := List.cons.inj hunit
      simp only [specialChars, List.mem_cons, List.not_mem_nil, or_false, not_or] at hc
      rw [construct]
      simp [hc]
    | escape h =>
      have hc : start.char = '\\' := by
        obtain ⟨c, hunit, -⟩ := h
        exact (List.cons.inj hunit).1
      rw [hc] at h
      simp only [construct, hc]
      exact (backslash_eq_iff start hchars).mpr h
    | codeSpan h =>
      have hc : start.char = '\x60' := by
        obtain ⟨body, hunit, -⟩ := h
        exact (List.cons.inj hunit).1
      rw [hc] at h
      simp only [construct, hc]
      exact (codeSpan_eq_iff start hchars).mpr h
    | inlineTag h =>
      have hc : start.char = '{' := by
        obtain ⟨name, body, tag, hunit, -⟩ := h
        exact (List.cons.inj hunit).1
      rw [hc] at h
      simp only [construct, hc]
      exact (inlineTag_eq_iff start hchars).mpr h
    | blockTag h =>
      have hc : start.char = '@' := by
        obtain ⟨name, block, tag, hunit, -⟩ := h
        exact (List.cons.inj hunit).1
      rw [hc] at h
      simp only [construct, hc]
      exact (blockTag_eq_iff previous start hchars).mpr h
    | elementTag h =>
      have hc : start.char = '<' := by
        obtain ⟨slash, name, text, hunit, -⟩ := h
        exact (List.cons.inj hunit).1
      rw [hc] at h
      simp only [construct, hc]
      exact (htmlTag_eq_iff start hchars).mpr h

/-- A character without a meaning of its own starts no construct. -/
theorem construct_of_notMem (previous : Option Char) {start : Cell} (rest : List Cell)
    (hstart : start.char ∉ specialChars) : construct previous start rest = ⟨[], 0⟩ :=
  (construct_eq_iff previous start rfl).mpr (.plain ⟨start.char, rfl, hstart⟩)

/-- A unit is not empty. -/
theorem IsTextUnit.ne_nil {previous : Option Char} {unit rest : List Char}
    (hunit : IsTextUnit previous unit rest) : unit ≠ [] := by
  intro hnil
  subst hnil
  cases hunit with
  | plain h => obtain ⟨c, hunit, -⟩ := h; simp at hunit
  | escape h => obtain ⟨c, hunit, -⟩ := h; simp at hunit
  | codeSpan h => obtain ⟨body, hunit, -⟩ := h; simp at hunit
  | inlineTag h => obtain ⟨name, body, tag, hunit, -⟩ := h; simp at hunit
  | blockTag h => obtain ⟨name, block, tag, hunit, -⟩ := h; simp at hunit
  | elementTag h => obtain ⟨slash, name, text, hunit, -⟩ := h; simp at hunit

/-- The scanner reports nothing exactly when the text is a sequence of units. -/
theorem scan_eq_nil_iff (previous : Option Char) (cells : List Cell) :
    scan previous cells = [] ↔ TextUnits previous (cells.map Cell.char) := by
  -- the induction is on the scan, which goes on after a whole construct
  fun_induction scan previous cells with
  | case1 previous => exact ⟨fun _ => .nil previous, fun _ => rfl⟩
  | case2 previous start rest found last ih =>
    rw [List.append_eq_nil_iff, ih]
    constructor
    · intro h
      obtain ⟨hnone, hunits⟩ := h
      have hle : found.length ≤ rest.length := construct_length_le previous start rest
      have hchars : rest.map Cell.char =
          (rest.take found.length).map Cell.char ++ (rest.drop found.length).map Cell.char := by
        rw [← List.map_append, List.take_append_drop]
      have hunit := (construct_eq_iff previous start hchars).mp (by
        rw [List.length_map, List.length_take, Nat.min_eq_left hle, ← hnone])
      have hlast : last = (start.char :: (rest.take found.length).map Cell.char).getLast? := by
        rw [← List.map_cons, List.getLast?_map]
      rw [hlast] at hunits
      rw [List.map_cons, hchars]
      exact .cons hunit hunits
    · intro h
      generalize htext : (start :: rest).map Cell.char = text at h
      cases h with
      | nil => simp at htext
      | @cons _ unit after hunit hunits =>
        obtain ⟨c, unit, rfl⟩ := List.exists_cons_of_ne_nil hunit.ne_nil
        obtain ⟨hc, hchars⟩ : start.char = c ∧ rest.map Cell.char = unit ++ after :=
          List.cons.inj htext
        subst hc
        have hfound : found = ⟨[], unit.length⟩ :=
          (construct_eq_iff previous start hchars).mpr hunit
        refine ⟨by rw [hfound], ?_⟩
        have htake : (rest.take unit.length).map Cell.char = unit := by
          rw [List.map_take, hchars, List.take_left]
        have hlast : last = (start.char :: unit).getLast? := by
          rw [← htake, ← List.map_cons, List.getLast?_map]
          simp only [last, hfound]
        rw [hlast, hfound, map_char_drop hchars rfl]
        exact hunits

/-- The inner text of a comment is what stands between its delimiters. -/
theorem inner_eq_ok_iff (comment text : List Char) :
    inner comment = .ok text ↔ comment = ['/', '*', '*'] ++ text ++ ['*', '/'] := by
  unfold inner
  split
  · next body =>
    have hcancel : '/' :: '*' :: '*' :: body = ['/', '*', '*'] ++ text ++ ['*', '/'] ↔
        body.reverse = '/' :: '*' :: text.reverse := by
      rw [List.append_assoc, List.cons_append, List.cons_append, List.cons_append, List.nil_append,
        List.cons.injEq, List.cons.injEq, List.cons.injEq, ← List.reverse_inj]
      simp
    rw [hcancel]
    split
    · next reversed heq => rw [heq, Except.ok.injEq, ← List.reverse_inj]; simp
    · next hne =>
      refine iff_of_false (by simp) fun h => ?_
      exact hne _ h
  · next hne =>
    refine iff_of_false (by simp) fun h => ?_
    exact hne _ h

/-- A comment that does not start with its opening delimiter misses it. -/
theorem inner_eq_missingOpeningDelimiter {comment : List Char}
    (hopening : ¬ ['/', '*', '*'] <+: comment) :
    inner comment = .error .missingOpeningDelimiter := by
  unfold inner
  split
  · next body => exact absurd ⟨body, rfl⟩ hopening
  · rfl

/-- A comment that does not end with its closing delimiter after the opening one misses it. -/
theorem inner_eq_missingClosingDelimiter {body : List Char} (hclosing : ¬ ['*', '/'] <:+ body) :
    inner (['/', '*', '*'] ++ body) = .error .missingClosingDelimiter := by
  change inner ('/' :: '*' :: '*' :: body) = _
  rw [inner]
  split
  · next reversed heq =>
    have hbody := congrArg List.reverse heq
    rw [List.reverse_reverse, List.reverse_cons, List.reverse_cons, List.append_assoc] at hbody
    exact absurd ⟨reversed.reverse, hbody.symm⟩ hclosing
  · rfl

/-- A comment without both delimiters has a diagnostic. -/
theorem validate_ne_nil_of_inner_eq_error {comment : List Char} {problem : Problem}
    (herror : inner comment = .error problem) : validate comment ≠ [] := by
  rw [validate, herror]
  split <;> simp_all

/-- A comment between its delimiters has no diagnostics exactly when its fences are closed and its
text outside of them is a sequence of units. -/
theorem validate_eq_nil_iff_of_inner {comment text : List Char}
    (hinner : inner comment = .ok text) :
    validate comment = [] ↔ FencesClosed (contentLines text) ∧
      TextUnits none (['\n'].intercalate (outsideFences (contentLines text))) := by
  simp only [validate, hinner]
  rw [List.append_eq_nil_iff, List.map_eq_nil_iff, Option.toList_eq_nil_iff,
    maskFences_none_snd_eq_none_iff, scan_eq_nil_iff, flatten_map_char, maskFences_none_fst]

/-- A comment without diagnostics is well formed. -/
theorem wellFormed_of_validate_eq_nil {comment : List Char} (hvalidate : validate comment = []) :
    WellFormed comment := by
  cases hinner : inner comment with
  | error problem => exact absurd hvalidate (validate_ne_nil_of_inner_eq_error hinner)
  | ok text =>
    exact ⟨text, (inner_eq_ok_iff comment text).mp hinner,
      (validate_eq_nil_iff_of_inner hinner).mp hvalidate⟩

/-- A well formed comment has no diagnostics. -/
theorem validate_eq_nil_of_wellFormed {comment : List Char} (hcomment : WellFormed comment) :
    validate comment = [] := by
  obtain ⟨text, hdelimited, hunits⟩ := hcomment
  exact (validate_eq_nil_iff_of_inner ((inner_eq_ok_iff comment text).mpr hdelimited)).mpr hunits

/-- The validator accepts a comment exactly when it is well formed. -/
theorem validate_eq_nil_iff (comment : List Char) : validate comment = [] ↔ WellFormed comment :=
  ⟨wellFormed_of_validate_eq_nil, validate_eq_nil_of_wellFormed⟩

end DocCoverage.DocComment
