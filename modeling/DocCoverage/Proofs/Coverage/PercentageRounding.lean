import DocCoverage.Proofs.Coverage.PercentageOrder

/-!
# How exact percentages are

A share of counts is rounded twice to 53 binary digits before it is rounded to a whole percentage. The two
move it by less than one in two to the power of 45. A share that is not halfway between two whole numbers
is farther from there, as the distance is a multiple of one in twice the total. So it stays on its side of
every such middle, and the percentage is the nearest whole number. A share that is halfway may be moved to
either side.
-/

namespace DocCoverage.Coverage

/-- The share of `documented` in `total` in percent, exactly. -/
def exactShare (documented total : ℕ) : ℚ := 100 * documented / total

/-- A whole number that is nearer to a number than any other. -/
def IsNearest (whole : ℤ) (number : ℚ) : Prop :=
  ∀ other : ℤ, other ≠ whole → |number - whole| < |number - other|

/-- A whole number less than a half away is the nearest one. -/
theorem isNearest_of_abs_lt {whole : ℤ} {number : ℚ} (h : |number - whole| < 1 / 2) :
    IsNearest whole number := by
  intro other hne
  have hapart : (1 : ℚ) ≤ |(whole : ℚ) - other| := by
    exact_mod_cast Int.one_le_abs (sub_ne_zero.mpr hne.symm)
  have htriangle : |(whole : ℚ) - other| ≤ |number - whole| + |number - other| := by
    rw [abs_sub_comm number whole]
    exact abs_sub_le _ _ _
  linarith

namespace Percentage

section Rounding

variable {documented total : ℕ}

/-- The rounded quotient of two ratios is off by at most one part in two to the power of the precision. -/
theorem abs_value_div_sub_le {a b : Ratio} (hden : 0 < a.den * b.num) :
    |(a.div b).value - a.value / b.value| ≤ a.value / b.value / 2 ^ precision := by
  rw [← value_quotient]
  exact Ratio.abs_value_round_sub_le hden

/-- The rounded product of a ratio and a whole number is off by at most one part in two to the power of the
precision. -/
theorem abs_value_scale_sub_le {a : Ratio} (hden : 0 < a.den) (n : ℕ) :
    |(a.scale n).value - a.value * n| ≤ a.value * n / 2 ^ precision := by
  rw [← value_scaled]
  exact Ratio.abs_value_round_sub_le hden

/-- The two roundings before the last one move a share of at most a hundred percent by less than one in
two to the power of 45. -/
theorem abs_hundredfold_sub_lt (hle : documented ≤ total) (hpos : 0 < total)
    (htotal : total < 2 ^ 53) :
    |(hundredfold documented total).value - exactShare documented total| < 1 / 2 ^ 45 := by
  have hcast : (0 : ℚ) < total := by exact_mod_cast hpos
  have hratio : (documented / total : ℚ) ≤ 1 := by
    rw [div_le_one hcast]
    exact_mod_cast hle
  have hquotient := abs_value_div_sub_le (quotient_den_pos hpos documented)
  rw [value_ofNat (hle.trans_lt htotal), value_ofNat htotal] at hquotient
  have hscaled : |(hundredfold documented total).value -
      ((Ratio.ofNat documented).div (Ratio.ofNat total)).value * (100 : ℕ)| ≤
        ((Ratio.ofNat documented).div (Ratio.ofNat total)).value * (100 : ℕ) / 2 ^ precision :=
    abs_value_scale_sub_le (Ratio.round_den_pos _) 100
  have hshare : exactShare documented total = (documented / total : ℚ) * (100 : ℕ) := by
    rw [exactShare]
    push_cast
    ring
  rw [hshare]
  rw [abs_le] at hquotient hscaled
  rw [abs_lt]
  norm_num [precision] at hquotient hscaled ⊢
  constructor <;> linarith

/-- A share that is not halfway between two whole numbers is far from there. -/
theorem le_abs_exactShare_sub (hpos : 0 < total) {whole : ℤ}
    (hne : exactShare documented total ≠ whole + 1 / 2) :
    1 / (2 * total) ≤ |exactShare documented total - (whole + 1 / 2)| := by
  have hcast : (0 : ℚ) < total := by exact_mod_cast hpos
  have hdifference : exactShare documented total - (whole + 1 / 2) =
      ((200 * documented - (2 * whole + 1) * total : ℤ) : ℚ) / (2 * total) := by
    rw [exactShare]
    push_cast
    field_simp
    ring
  have hnumerator : (200 * documented - (2 * whole + 1) * total : ℤ) ≠ 0 := by
    intro hzero
    rw [hzero, Int.cast_zero, zero_div, sub_eq_zero] at hdifference
    exact hne hdifference
  rw [hdifference, abs_div, abs_of_pos (by positivity : (0 : ℚ) < 2 * total)]
  gcongr
  exact_mod_cast Int.one_le_abs hnumerator

/-- Rounding moves no share of a total of less than 33 binary digits past a middle between two whole
numbers. -/
theorem hundredfold_lt_iff (hle : documented ≤ total) (hpos : 0 < total) (htotal : total < 2 ^ 32)
    {whole : ℤ} (hne : exactShare documented total ≠ whole + 1 / 2) :
    (hundredfold documented total).value < whole + 1 / 2 ↔
      exactShare documented total < whole + 1 / 2 := by
  have hcast : (0 : ℚ) < total := by exact_mod_cast hpos
  have hsize : (total : ℚ) < 2 ^ 32 := by exact_mod_cast htotal
  have hmoved := abs_hundredfold_sub_lt hle hpos (htotal.trans (by norm_num))
  have hnear : |(hundredfold documented total).value - exactShare documented total| <
      |exactShare documented total - (whole + 1 / 2)| :=
    calc |(hundredfold documented total).value - exactShare documented total|
        < 1 / 2 ^ 45 := hmoved
      _ < 1 / (2 * 2 ^ 32) := by norm_num
      _ ≤ 1 / (2 * total) := by gcongr
      _ ≤ |exactShare documented total - (whole + 1 / 2)| := le_abs_exactShare_sub hpos hne
  rcases lt_or_gt_of_ne hne with hlow | hhigh
  · rw [abs_of_neg (sub_neg.mpr hlow), abs_lt] at hnear
    exact iff_of_true (by linarith) hlow
  · rw [abs_of_pos (sub_pos.mpr hhigh), abs_lt] at hnear
    exact iff_of_false (by linarith) hhigh.not_gt

/-- The limit does not touch the percentage of a part. -/
theorem percent_eq (hle : documented ≤ total) (hpos : 0 < total) :
    percent documented total =
      divNearestUp (hundredfold documented total).num (hundredfold documented total).den := by
  have hmost := percent_le hle hpos
  rw [percent, limit] at hmost ⊢
  omega

/-- The percentage is the hundredfold share rounded to a whole number, a half going up. -/
theorem percent_bounds (hle : documented ≤ total) (hpos : 0 < total) :
    (percent documented total : ℚ) - 1 / 2 ≤ (hundredfold documented total).value ∧
      (hundredfold documented total).value < percent documented total + 1 / 2 := by
  rw [percent_eq hle hpos]
  exact divNearestUp_bounds (hundredfold_den_pos documented total)

/-- The percentage is less than a half off a share that is not halfway between two whole numbers. -/
theorem abs_exactShare_sub_percent_lt (hle : documented ≤ total) (hpos : 0 < total)
    (htotal : total < 2 ^ 32)
    (hne : ∀ whole : ℤ, exactShare documented total ≠ whole + 1 / 2) :
    |exactShare documented total - percent documented total| < 1 / 2 := by
  obtain ⟨hlow, hhigh⟩ := percent_bounds hle hpos
  have hbelow := hundredfold_lt_iff hle hpos htotal (hne (percent documented total - 1))
  have habove := hundredfold_lt_iff hle hpos htotal (hne (percent documented total))
  have hdiffers := hne (percent documented total - 1)
  push_cast at hbelow habove hdiffers
  have hright : exactShare documented total < percent documented total + 1 / 2 := habove.mp hhigh
  have hleft : ¬ exactShare documented total < percent documented total - 1 + 1 / 2 :=
    fun hless => absurd (hbelow.mpr hless) (by linarith)
  have hstrict : (percent documented total - 1 + 1 / 2 : ℚ) < exactShare documented total :=
    lt_of_le_of_ne (not_lt.mp hleft) hdiffers.symm
  rw [abs_lt]
  constructor <;> linarith

/-- The percentage of a share halfway between two whole numbers is one of them. -/
theorem percent_of_halfway (hle : documented ≤ total) (hpos : 0 < total) (htotal : total < 2 ^ 32)
    {whole : ℤ} (hhalfway : exactShare documented total = whole + 1 / 2) :
    (percent documented total : ℤ) = whole ∨ (percent documented total : ℤ) = whole + 1 := by
  obtain ⟨hlow, hhigh⟩ := percent_bounds hle hpos
  have hmoved := abs_hundredfold_sub_lt hle hpos (htotal.trans (by norm_num))
  rw [hhalfway, abs_lt] at hmoved
  have hleast : (whole : ℚ) < ((percent documented total : ℤ) + 1 : ℤ) := by
    push_cast
    linarith
  have hmost : ((percent documented total : ℤ) : ℚ) < (whole + 2 : ℤ) := by
    push_cast
    linarith
  rw [Int.cast_lt] at hleast hmost
  omega

/-- The percentage of a part of a total of less than 33 binary digits is the whole number nearest to the
exact share, and where that is halfway between two whole numbers it is one of these. -/
theorem of_rounds_exactShare (hle : documented ≤ total) (hpos : 0 < total) (htotal : total < 2 ^ 32) :
    ∃ percent : ℕ, Percentage.of documented total = .value percent ∧
      ((∀ whole : ℤ, exactShare documented total ≠ whole + 1 / 2) →
        IsNearest percent (exactShare documented total)) ∧
      ∀ whole : ℤ, exactShare documented total = whole + 1 / 2 →
        (percent : ℤ) = whole ∨ (percent : ℤ) = whole + 1 := by
  refine ⟨percent documented total, of_eq_value hpos documented, fun hne => ?_, fun whole => ?_⟩
  · refine isNearest_of_abs_lt ?_
    rw [Int.cast_natCast]
    exact abs_exactShare_sub_percent_lt hle hpos htotal hne
  · exact percent_of_halfway hle hpos htotal

end Rounding

/-- A third is rounded to the nearest whole number, and 29 in 200, which is halfway between two, to one of
them. -/
theorem thirdAndHalfway_of :
    (Percentage.of 1 3 = .value 33 ∧ IsNearest 33 (exactShare 1 3)) ∧
    ∃ percent : ℕ, Percentage.of 29 200 = .value percent ∧
      ((percent : ℤ) = 14 ∨ (percent : ℤ) = 15) := by
  constructor
  · obtain ⟨percent, hof, hnearest, -⟩ :=
      of_rounds_exactShare (by decide : 1 ≤ 3) (by decide) (by decide)
    have hthird : Percentage.of 1 3 = .value 33 := by decide +kernel
    obtain rfl : percent = 33 := by simpa [hof] using hthird
    refine ⟨hof, hnearest fun whole hhalfway => ?_⟩
    have hwhole : (200 : ℚ) = 6 * whole + 3 := by
      rw [exactShare] at hhalfway
      norm_num at hhalfway
      linarith
    have hinteger : (200 : ℤ) = 6 * whole + 3 := by exact_mod_cast hwhole
    omega
  · obtain ⟨percent, hof, -, hhalfway⟩ :=
      of_rounds_exactShare (by decide : 29 ≤ 200) (by decide) (by decide)
    refine ⟨percent, hof, hhalfway 14 ?_⟩
    rw [exactShare]
    norm_num

example : Percentage.of 29 200 = .value 14 ∧ Percentage.of 1 8 = .value 13 := by decide +kernel

end Percentage

end DocCoverage.Coverage
