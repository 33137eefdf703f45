import DocCoverage.Text.Blank

/-!
# Classes of characters

The blanks and the ASCII letters and digits by their code points, which tells them apart.
-/

namespace DocCoverage.Text

/-- The blanks by their code points. -/
theorem isBlank_iff (c : Char) :
    isBlank c = true ↔ (9 ≤ c.toNat ∧ c.toNat ≤ 13) ∨ c.toNat = 32 ∨ c.toNat = 0x85 ∨
      c.toNat = 0xA0 ∨ c.toNat = 0x1680 ∨ (0x2000 ≤ c.toNat ∧ c.toNat ≤ 0x200A) ∨
      (0x2028 ≤ c.toNat ∧ c.toNat ≤ 0x2029) ∨ c.toNat = 0x202F ∨ c.toNat = 0x205F ∨
      c.toNat = 0x3000 := by
  simp only [isBlank, blankRanges, List.any_cons, List.any_nil, Bool.or_eq_true, Bool.and_eq_true,
    decide_eq_true_eq, Bool.or_false]
  omega

/-- The letters and digits by their code points. -/
theorem isAlphanum_iff (c : Char) :
    c.isAlphanum = true ↔ (48 ≤ c.toNat ∧ c.toNat ≤ 57) ∨ (65 ≤ c.toNat ∧ c.toNat ≤ 90) ∨
      (97 ≤ c.toNat ∧ c.toNat ≤ 122) := by
  have hrange (first last : UInt32) : (decide (first ≤ c.val) && decide (c.val ≤ last)) = true ↔
      first.toNat ≤ c.toNat ∧ c.toNat ≤ last.toNat := by
    rw [Bool.and_eq_true, decide_eq_true_iff, decide_eq_true_iff, UInt32.le_iff_toNat_le,
      UInt32.le_iff_toNat_le]
    rfl
  have hupper : c.isUpper = true ↔ 65 ≤ c.toNat ∧ c.toNat ≤ 90 := decide_eq_true_iff
  have hlower : c.isLower = true ↔ 97 ≤ c.toNat ∧ c.toNat ≤ 122 := hrange 97 122
  have hdigit : c.isDigit = true ↔ 48 ≤ c.toNat ∧ c.toNat ≤ 57 := hrange 48 57
  change (c.isUpper || c.isLower || c.isDigit) = true ↔ _
  rw [Bool.or_eq_true, Bool.or_eq_true, hupper, hlower, hdigit]
  omega

/-- A blank is neither a letter nor a digit. -/
theorem isAlphanum_eq_false_of_isBlank {c : Char} (hc : isBlank c = true) :
    c.isAlphanum = false := by
  rw [← Bool.not_eq_true, isAlphanum_iff]
  rw [isBlank_iff] at hc
  omega

end DocCoverage.Text
