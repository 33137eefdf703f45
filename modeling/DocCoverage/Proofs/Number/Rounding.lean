import DocCoverage.Number.Rounding
import Mathlib

/-!
# The order of rounded ratios

Rounding keeps the order of ratios: to whole numbers, a tie going to the even neighbour or up, and to
a fixed number of binary digits. The latter goes through the exponent of a ratio. Ratios with one
exponent are rounded on one grid, and the powers of two that bound them lie on that grid, so ratios
with different exponents do not cross when they are rounded. A ratio is moved by at most a half of the last
digit that is kept.
-/

namespace DocCoverage

/-- A quotient is rounded to at most `k` exactly when it lies below the middle between `k` and the
next whole number, or is that middle and `k` is even. -/
theorem divNearestEven_le_iff {num den k : ℕ} (hden : 0 < den) :
    divNearestEven num den ≤ k ↔
      (num / den : ℚ) < k + 1 / 2 ∨ ((num / den : ℚ) = k + 1 / 2 ∧ k % 2 = 0) := by
  have hcast : (0 : ℚ) < den := by exact_mod_cast hden
  -- both sides in natural numbers
  have hlt : (num / den : ℚ) < k + 1 / 2 ↔ 2 * num < (2 * k + 1) * den := by
    rw [div_lt_iff₀ hcast, ← Nat.cast_lt (α := ℚ)]
    push_cast
    constructor <;> intro h <;> linarith
  have heq : (num / den : ℚ) = k + 1 / 2 ↔ 2 * num = (2 * k + 1) * den := by
    rw [div_eq_iff hcast.ne', ← Nat.cast_inj (R := ℚ)]
    push_cast
    constructor <;> intro h <;> linarith
  rw [hlt, heq]
  have hnum : den * (num / den) + num % den = num := Nat.div_add_mod num den
  have hmod : num % den < den := Nat.mod_lt num hden
  simp only [divNearestEven]
  generalize num / den = whole at hnum ⊢
  generalize num % den = rest at hnum hmod ⊢
  subst hnum
  rcases lt_trichotomy whole k with hk | rfl | hk
  · -- the whole part is less than `k`, so that the quotient is at most `k`
    have hprod : den * (whole + 1) ≤ den * k := Nat.mul_le_mul_left den hk
    have hbelow : 2 * (den * whole + rest) < (2 * k + 1) * den := by linarith
    refine iff_of_true ?_ (Or.inl hbelow)
    split_ifs <;> omega
  · have hring : (2 * whole + 1) * den = 2 * (den * whole) + den := by ring
    rw [hring]
    split_ifs <;> omega
  · have hprod : den * (k + 1) ≤ den * whole := Nat.mul_le_mul_left den hk
    have habove : (2 * k + 1) * den < 2 * (den * whole + rest) := by linarith
    refine iff_of_false ?_ (by omega)
    split_ifs <;> omega

/-- Rounding to whole numbers keeps the order. -/
theorem divNearestEven_le_divNearestEven {a b c d : ℕ} (hb : 0 < b) (hd : 0 < d)
    (h : (a / b : ℚ) ≤ c / d) : divNearestEven a b ≤ divNearestEven c d := by
  rw [divNearestEven_le_iff hb]
  rcases (divNearestEven_le_iff hd).mp (le_refl (divNearestEven c d)) with hlt | ⟨heq, heven⟩
  · exact Or.inl (h.trans_lt hlt)
  · exact (h.trans_eq heq).lt_or_eq.imp_right fun htie => ⟨htie, heven⟩

/-- A whole number is not changed. -/
theorem divNearestEven_one (k : ℕ) : divNearestEven k 1 = k := by
  simp [divNearestEven, Nat.mod_one]

/-- A quotient that is at most a whole number is rounded to at most that number. -/
theorem divNearestEven_le {num den k : ℕ} (hden : 0 < den) (h : (num / den : ℚ) ≤ k) :
    divNearestEven num den ≤ k := by
  have hmono := divNearestEven_le_divNearestEven (c := k) hden one_pos (by simpa using h)
  rwa [divNearestEven_one] at hmono

/-- A quotient that is at least a whole number is rounded to at least that number. -/
theorem le_divNearestEven {num den k : ℕ} (hden : 0 < den) (h : (k : ℚ) ≤ num / den) :
    k ≤ divNearestEven num den := by
  have hmono := divNearestEven_le_divNearestEven (a := k) one_pos hden (by simpa using h)
  rwa [divNearestEven_one] at hmono

/-- A quotient is rounded by at most a half. -/
theorem abs_divNearestEven_sub_le {num den : ℕ} (hden : 0 < den) :
    |(divNearestEven num den - num / den : ℚ)| ≤ 1 / 2 := by
  rw [abs_le]
  constructor
  · -- the quotient is not past the middle to the next whole number
    rcases (divNearestEven_le_iff hden).mp (le_refl (divNearestEven num den)) with hlt | ⟨heq, -⟩
    · linarith
    · linarith
  · cases hrounded : divNearestEven num den with
    | zero =>
      have hnonneg : (0 : ℚ) ≤ num / den := by positivity
      rw [Nat.cast_zero]
      linarith
    | succ below =>
      have hpast : ¬ divNearestEven num den ≤ below := by omega
      rw [divNearestEven_le_iff hden, not_or, not_lt] at hpast
      push_cast
      linarith [hpast.1]

/-- A quotient is rounded to at most `k`, a tie going up, exactly when it lies below the middle
between `k` and the next whole number. -/
theorem divNearestUp_le_iff {num den k : ℕ} (hden : 0 < den) :
    divNearestUp num den ≤ k ↔ (num / den : ℚ) < k + 1 / 2 := by
  have hcast : (0 : ℚ) < den := by exact_mod_cast hden
  rw [divNearestUp, ← Nat.lt_succ_iff, Nat.div_lt_iff_lt_mul (by positivity), div_lt_iff₀ hcast,
    ← Nat.cast_lt (α := ℚ)]
  push_cast
  constructor <;> intro h <;> linarith

/-- Rounding to whole numbers, a tie going up, keeps the order. -/
theorem divNearestUp_le_divNearestUp {a b c d : ℕ} (hb : 0 < b) (hd : 0 < d)
    (h : (a / b : ℚ) ≤ c / d) : divNearestUp a b ≤ divNearestUp c d :=
  (divNearestUp_le_iff hb).mpr (h.trans_lt ((divNearestUp_le_iff hd).mp le_rfl))

/-- A quotient that is a whole number is not changed, a tie going up. -/
theorem divNearestUp_of_div_eq {num den k : ℕ} (hden : 0 < den) (h : (num / den : ℚ) = k) :
    divNearestUp num den = k := by
  refine le_antisymm ((divNearestUp_le_iff hden).mpr (by rw [h]; norm_num)) ?_
  have hnext := (divNearestUp_le_iff hden).mp (le_refl (divNearestUp num den))
  rw [h] at hnext
  have hlt : (k : ℚ) < (divNearestUp num den + 1 : ℕ) := by
    push_cast
    linarith
  exact Nat.lt_succ_iff.mp (Nat.cast_lt.mp hlt)

/-- Rounded to a whole number, a tie going up, a quotient lies less than a half above the result or at
most a half below it. -/
theorem divNearestUp_bounds {num den : ℕ} (hden : 0 < den) :
    (divNearestUp num den : ℚ) - 1 / 2 ≤ num / den ∧
      (num / den : ℚ) < divNearestUp num den + 1 / 2 := by
  refine ⟨?_, (divNearestUp_le_iff hden).mp le_rfl⟩
  cases hrounded : divNearestUp num den with
  | zero =>
    have hnonneg : (0 : ℚ) ≤ num / den := by positivity
    rw [Nat.cast_zero]
    linarith
  | succ below =>
    have hpast : ¬ divNearestUp num den ≤ below := by omega
    rw [divNearestUp_le_iff hden, not_lt] at hpast
    push_cast
    linarith

/-- A power of two as a rational number. -/
theorem cast_twoPow (exponent : ℕ) : ((twoPow exponent : ℕ) : ℚ) = 2 ^ exponent := by
  rw [twoPow]
  exact_mod_cast rfl

/-- A power of two is positive. -/
theorem twoPow_pos (exponent : ℕ) : 0 < twoPow exponent := Nat.pow_pos two_pos

/-- A shift up and a shift down make one power of two. -/
theorem twoPow_div_twoPow (shift : ℤ) :
    (twoPow shift.toNat / twoPow (-shift).toNat : ℚ) = 2 ^ shift := by
  rw [cast_twoPow, cast_twoPow]
  rcases le_total 0 shift with h | h
  · lift shift to ℕ using h
    simp
  · obtain ⟨n, rfl⟩ : ∃ n : ℕ, shift = -n := ⟨(-shift).toNat, by omega⟩
    simp

namespace Ratio

/-- The number that a ratio stands for. -/
def value (ratio : Ratio) : ℚ := ratio.num / ratio.den

/-- A ratio of positive numbers is positive. -/
theorem value_pos {ratio : Ratio} (hnum : 0 < ratio.num) (hden : 0 < ratio.den) :
    0 < ratio.value := by
  rw [value]
  positivity

/-- The exponent of a positive ratio: it lies between a power of two and the next. -/
theorem exponent_spec {ratio : Ratio} (hnum : 0 < ratio.num) (hden : 0 < ratio.den) :
    (2 : ℚ) ^ ratio.exponent ≤ ratio.value ∧ ratio.value < 2 ^ (ratio.exponent + 1) := by
  have hcast : (0 : ℚ) < ratio.den := by exact_mod_cast hden
  -- the logarithms of the numerator and of the denominator bound the ratio
  have hnumLow : (2 : ℚ) ^ (ratio.num.log2 : ℤ) ≤ ratio.num := by
    exact_mod_cast Nat.log2_self_le hnum.ne'
  have hnumHigh : (ratio.num : ℚ) < 2 ^ ((ratio.num.log2 : ℤ) + 1) := by
    exact_mod_cast Nat.lt_log2_self (n := ratio.num)
  have hdenLow : (2 : ℚ) ^ (ratio.den.log2 : ℤ) ≤ ratio.den := by
    exact_mod_cast Nat.log2_self_le hden.ne'
  have hdenHigh : (ratio.den : ℚ) < 2 ^ ((ratio.den.log2 : ℤ) + 1) := by
    exact_mod_cast Nat.lt_log2_self (n := ratio.den)
  set estimate : ℤ := (ratio.num.log2 : ℤ) - (ratio.den.log2 : ℤ) with hestimate
  have hhigh : ratio.value < 2 ^ (estimate + 1) := by
    rw [value, div_lt_iff₀ hcast]
    calc (ratio.num : ℚ) < 2 ^ ((ratio.num.log2 : ℤ) + 1) := hnumHigh
      _ = 2 ^ (estimate + 1) * 2 ^ (ratio.den.log2 : ℤ) := by
        rw [← zpow_add₀ two_ne_zero]
        congr 1
        omega
      _ ≤ 2 ^ (estimate + 1) * ratio.den := by gcongr
  have hlow : (2 : ℚ) ^ (estimate - 1) ≤ ratio.value := by
    rw [value, le_div_iff₀ hcast]
    calc (2 : ℚ) ^ (estimate - 1) * ratio.den
        ≤ 2 ^ (estimate - 1) * 2 ^ ((ratio.den.log2 : ℤ) + 1) := by gcongr
      _ = 2 ^ (ratio.num.log2 : ℤ) := by
        rw [← zpow_add₀ two_ne_zero]
        congr 1
        omega
      _ ≤ ratio.num := hnumLow
  -- the test says whether the estimate is one too high
  have htest : ratio.den * twoPow estimate.toNat ≤ ratio.num * twoPow (-estimate).toNat ↔
      (2 : ℚ) ^ estimate ≤ ratio.value := by
    have hpow : (0 : ℚ) < twoPow (-estimate).toNat := by exact_mod_cast twoPow_pos _
    rw [value, ← twoPow_div_twoPow, div_le_div_iff₀ hpow hcast, ← Nat.cast_le (α := ℚ)]
    push_cast
    rw [mul_comm (ratio.den : ℚ)]
  rw [exponent]
  simp only [← hestimate, htest]
  split_ifs with hle
  · exact ⟨hle, hhigh⟩
  · rw [sub_add_cancel]
    exact ⟨hlow, not_le.mp hle⟩

/-- The shift that brings a ratio to `precision` binary digits before the point. -/
def shift (ratio : Ratio) : ℤ := (precision : ℤ) - 1 - ratio.exponent

/-- The digits that are kept of a ratio. -/
def digits (ratio : Ratio) : ℕ :=
  divNearestEven (ratio.num * twoPow ratio.shift.toNat) (ratio.den * twoPow (-ratio.shift).toNat)

/-- A positive ratio is rounded to its digits, shifted back. -/
theorem round_eq {ratio : Ratio} (hnum : 0 < ratio.num) :
    ratio.round = ⟨ratio.digits * twoPow (-ratio.shift).toNat, twoPow ratio.shift.toNat⟩ := by
  rw [round, if_neg hnum.ne']
  rfl

/-- A rounded ratio has a positive denominator. -/
theorem round_den_pos (ratio : Ratio) : 0 < ratio.round.den := by
  rw [round]
  split
  · exact one_pos
  · exact twoPow_pos _

/-- The number that a rounded ratio stands for. -/
theorem value_round {ratio : Ratio} (hnum : 0 < ratio.num) :
    ratio.round.value = ratio.digits * 2 ^ (-ratio.shift) := by
  rw [round_eq hnum, value]
  push_cast
  rw [mul_div_assoc, ← twoPow_div_twoPow, neg_neg]

/-- What the digits are the rounding of. -/
theorem shifted_eq (ratio : Ratio) :
    ((ratio.num * twoPow ratio.shift.toNat : ℕ) / (ratio.den * twoPow (-ratio.shift).toNat : ℕ) : ℚ) =
      ratio.value * 2 ^ ratio.shift := by
  push_cast
  rw [mul_div_mul_comm, twoPow_div_twoPow, value]

/-- A ratio that is at most a number on its grid is rounded to at most that number. -/
theorem value_round_le {ratio : Ratio} {k : ℕ} (hnum : 0 < ratio.num) (hden : 0 < ratio.den)
    (h : ratio.value ≤ k * 2 ^ (-ratio.shift)) : ratio.round.value ≤ k * 2 ^ (-ratio.shift) := by
  have hdigits : ratio.digits ≤ k := by
    refine divNearestEven_le (Nat.mul_pos hden (twoPow_pos _)) ?_
    rw [shifted_eq, ← le_div_iff₀ (by positivity), div_eq_mul_inv, ← zpow_neg]
    exact h
  rw [value_round hnum]
  gcongr

/-- A ratio that is at least a number on its grid is rounded to at least that number. -/
theorem le_value_round {ratio : Ratio} {k : ℕ} (hnum : 0 < ratio.num) (hden : 0 < ratio.den)
    (h : k * 2 ^ (-ratio.shift) ≤ ratio.value) : k * 2 ^ (-ratio.shift) ≤ ratio.round.value := by
  have hdigits : k ≤ ratio.digits := by
    refine le_divNearestEven (Nat.mul_pos hden (twoPow_pos _)) ?_
    rw [shifted_eq, ← div_le_iff₀ (by positivity), div_eq_mul_inv, ← zpow_neg]
    exact h
  rw [value_round hnum]
  gcongr

/-- The powers of two from the exponent of a ratio on lie on its grid. -/
theorem zpow_exponent_add (ratio : Ratio) (n : ℕ) :
    (2 : ℚ) ^ (ratio.exponent + n) = (2 ^ (precision - 1 + n) : ℕ) * 2 ^ (-ratio.shift) := by
  push_cast
  rw [← zpow_natCast, ← zpow_add₀ two_ne_zero, shift]
  congr 1
  simp only [precision]
  omega

/-- A rounded ratio lies between the powers of two that bound the ratio, both included. -/
theorem value_round_bounds {ratio : Ratio} (hnum : 0 < ratio.num) (hden : 0 < ratio.den) :
    (2 : ℚ) ^ ratio.exponent ≤ ratio.round.value ∧
      ratio.round.value ≤ 2 ^ (ratio.exponent + 1) := by
  obtain ⟨hlow, hhigh⟩ := exponent_spec hnum hden
  have hfirst := zpow_exponent_add ratio 0
  have hnext := zpow_exponent_add ratio 1
  rw [Nat.cast_zero, add_zero] at hfirst
  rw [Nat.cast_one] at hnext
  constructor
  · rw [hfirst] at hlow ⊢
    exact le_value_round hnum hden hlow
  · rw [hnext] at hhigh ⊢
    exact value_round_le hnum hden hhigh.le

/-- A rounded ratio is not negative. -/
theorem value_nonneg (ratio : Ratio) : 0 ≤ ratio.value := by
  rw [value]
  positivity

/-- Zero is not changed. -/
theorem value_round_of_num_eq_zero {ratio : Ratio} (hnum : ratio.num = 0) :
    ratio.round.value = 0 := by
  rw [round, if_pos hnum, value, Nat.cast_zero, zero_div]

/-- Rounding to a fixed number of binary digits keeps the order. -/
theorem value_round_mono {a b : Ratio} (ha : 0 < a.den) (hb : 0 < b.den) (h : a.value ≤ b.value) :
    a.round.value ≤ b.round.value := by
  rcases Nat.eq_zero_or_pos a.num with haNum | haNum
  · rw [value_round_of_num_eq_zero haNum]
    exact value_nonneg b.round
  have hbNum : 0 < b.num := by
    refine Nat.pos_of_ne_zero fun hzero => ?_
    have hbValue : b.value = 0 := by rw [value, hzero, Nat.cast_zero, zero_div]
    exact absurd (value_pos haNum ha) (not_lt.mpr (hbValue ▸ h))
  obtain ⟨haLow, haHigh⟩ := exponent_spec haNum ha
  obtain ⟨hbLow, hbHigh⟩ := exponent_spec hbNum hb
  have hexponent : a.exponent < b.exponent + 1 :=
    (zpow_lt_zpow_iff_right₀ one_lt_two).mp (haLow.trans_lt (h.trans_lt hbHigh))
  rcases (Int.lt_add_one_iff.mp hexponent).eq_or_lt with heq | hlt
  · -- one grid for both
    have hshift : a.shift = b.shift := by rw [shift, shift, heq]
    rw [value_round haNum, value_round hbNum, hshift]
    gcongr
    refine divNearestEven_le_divNearestEven (Nat.mul_pos ha (twoPow_pos _))
      (Nat.mul_pos hb (twoPow_pos _)) ?_
    rw [shifted_eq, shifted_eq, hshift]
    gcongr
  · calc a.round.value ≤ 2 ^ (a.exponent + 1) := (value_round_bounds haNum ha).2
      _ ≤ 2 ^ b.exponent := zpow_le_zpow_right₀ one_le_two hlt
      _ ≤ b.round.value := (value_round_bounds hbNum hb).1

/-- A positive ratio is rounded to a positive one. -/
theorem value_round_pos {ratio : Ratio} (hnum : 0 < ratio.num) (hden : 0 < ratio.den) :
    0 < ratio.round.value :=
  lt_of_lt_of_le (by positivity) (value_round_bounds hnum hden).1

/-- A whole number with no more than `precision` binary digits is not changed. -/
theorem value_round_of_value_eq {ratio : Ratio} {n : ℕ} (hden : 0 < ratio.den)
    (hvalue : ratio.value = n) (hn : n < 2 ^ precision) : ratio.round.value = n := by
  rcases Nat.eq_zero_or_pos ratio.num with hnum | hnum
  · have hzero : ratio.value = 0 := by rw [value, hnum, Nat.cast_zero, zero_div]
    rw [value_round_of_num_eq_zero hnum, ← hvalue, hzero]
  have hexponent : ratio.exponent < precision := by
    have hlt : (2 : ℚ) ^ ratio.exponent < 2 ^ (precision : ℤ) := by
      refine (exponent_spec hnum hden).1.trans_lt ?_
      rw [hvalue, zpow_natCast]
      exact_mod_cast hn
    exact (zpow_lt_zpow_iff_right₀ one_lt_two).mp hlt
  obtain ⟨up, hup⟩ : ∃ up : ℕ, ratio.shift = up := by
    refine ⟨ratio.shift.toNat, (Int.toNat_of_nonneg ?_).symm⟩
    rw [shift]
    omega
  have hgrid : ((n * 2 ^ up : ℕ) : ℚ) * 2 ^ (-ratio.shift) = n := by
    push_cast
    rw [hup, mul_assoc, ← zpow_natCast, ← zpow_add₀ two_ne_zero, add_neg_cancel, zpow_zero, mul_one]
  rw [← hgrid]
  exact le_antisymm (value_round_le hnum hden (hvalue.trans hgrid.symm).le)
    (le_value_round hnum hden (hgrid.trans hvalue.symm).le)

/-- A ratio is rounded by at most one part in two to the power of the precision. -/
theorem abs_value_round_sub_le {ratio : Ratio} (hden : 0 < ratio.den) :
    |ratio.round.value - ratio.value| ≤ ratio.value / 2 ^ precision := by
  rcases Nat.eq_zero_or_pos ratio.num with hnum | hnum
  · have hzero : ratio.value = 0 := by rw [value, hnum, Nat.cast_zero, zero_div]
    rw [value_round_of_num_eq_zero hnum, hzero, sub_zero, abs_zero, zero_div]
  have hdigits : |ratio.digits - ratio.value * 2 ^ ratio.shift| ≤ 1 / 2 := by
    rw [← shifted_eq]
    exact abs_divNearestEven_sub_le (Nat.mul_pos hden (twoPow_pos _))
  have hunshift : ratio.value * 2 ^ ratio.shift * 2 ^ (-ratio.shift) = ratio.value := by
    rw [mul_assoc, ← zpow_add₀ two_ne_zero, add_neg_cancel, zpow_zero, mul_one]
  have hgrid : (0 : ℚ) < 2 ^ (-ratio.shift) := zpow_pos two_pos _
  -- a half of the last digit that is kept
  have hhalf : (1 / 2 : ℚ) * 2 ^ (-ratio.shift) = 2 ^ ratio.exponent / 2 ^ precision := by
    rw [← zpow_natCast, ← zpow_sub₀ two_ne_zero, one_div, ← zpow_neg_one, ← zpow_add₀ two_ne_zero,
      shift]
    congr 1
    omega
  calc |ratio.round.value - ratio.value|
      = |(ratio.digits - ratio.value * 2 ^ ratio.shift) * 2 ^ (-ratio.shift)| := by
        rw [sub_mul, hunshift, value_round hnum]
    _ = |ratio.digits - ratio.value * 2 ^ ratio.shift| * 2 ^ (-ratio.shift) := by
        rw [abs_mul, abs_of_pos hgrid]
    _ ≤ 1 / 2 * 2 ^ (-ratio.shift) := by gcongr
    _ = 2 ^ ratio.exponent / 2 ^ precision := hhalf
    _ ≤ ratio.value / 2 ^ precision := by
        gcongr
        exact (exponent_spec hnum hden).1

end Ratio

end DocCoverage
