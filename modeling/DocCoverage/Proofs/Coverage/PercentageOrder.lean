import DocCoverage.Coverage.Record
import DocCoverage.Proofs.Number.Rounding

/-!
# The order of percentages

A percentage comes from three roundings: of a quotient, of its hundredfold, and to a whole number.
Each of them keeps the order. So a greater share never has a smaller percentage, a share of at most
one has at most a hundred percent, and the percentage of all files lies between those of the files.

The counts themselves are rounded first. Counts of fewer than 54 binary digits are not changed by
that, and no count overtakes another.
-/

namespace DocCoverage.Coverage

namespace Percentage

/-- The hundredfold share of `documented` in `total`, before it is rounded to a whole number. -/
def hundredfold (documented total : ℕ) : Ratio :=
  ((Ratio.ofNat documented).div (Ratio.ofNat total)).scale 100

/-- The hundredfold share has a positive denominator. -/
theorem hundredfold_den_pos (documented total : ℕ) : 0 < (hundredfold documented total).den :=
  Ratio.round_den_pos _

/-- The percentage of `documented` in `total`, where there is something to document. -/
def percent (documented total : ℕ) : ℕ :=
  min (divNearestUp (hundredfold documented total).num (hundredfold documented total).den) limit

/-- There is a percentage where there is something to document. -/
theorem of_eq_value {total : ℕ} (htotal : 0 < total) (documented : ℕ) :
    of documented total = .value (percent documented total) := by
  rw [of, if_neg htotal.ne']
  rfl

/-- The number that the quotient of two ratios is the rounding of. -/
theorem value_quotient (a b : Ratio) :
    Ratio.value ⟨a.num * b.den, a.den * b.num⟩ = a.value / b.value := by
  rw [Ratio.value, Ratio.value, Ratio.value]
  push_cast
  rw [div_div_div_eq]

/-- The number that the hundredfold of a ratio is the rounding of. -/
theorem value_scaled (a : Ratio) (n : ℕ) : Ratio.value ⟨a.num * n, a.den⟩ = a.value * n := by
  rw [Ratio.value, Ratio.value]
  push_cast
  rw [mul_div_right_comm]

/-- A rounded count is in order with others. -/
theorem value_ofNat_mono {m n : ℕ} (h : m ≤ n) : (Ratio.ofNat m).value ≤ (Ratio.ofNat n).value := by
  refine Ratio.value_round_mono one_pos one_pos ?_
  rw [Ratio.value, Ratio.value]
  gcongr

/-- A count of few digits is not changed. -/
theorem value_ofNat {n : ℕ} (hn : n < 2 ^ 53) : (Ratio.ofNat n).value = n :=
  Ratio.value_round_of_value_eq one_pos (by rw [Ratio.value, Nat.cast_one, div_one]) hn

/-- The denominator of a rounded quotient is positive before it is rounded. -/
theorem quotient_den_pos {total : ℕ} (htotal : 0 < total) (documented : ℕ) :
    0 < (Ratio.ofNat documented).den * (Ratio.ofNat total).num := by
  refine Nat.mul_pos (Ratio.round_den_pos _) (Nat.pos_of_ne_zero fun hzero => ?_)
  have hpos : 0 < (Ratio.ofNat total).value := Ratio.value_round_pos htotal one_pos
  rw [Ratio.value, hzero, Nat.cast_zero, zero_div] at hpos
  exact hpos.false

/-- The hundredfold keeps the order of the quotients of rounded counts. -/
theorem value_hundredfold_mono {d₁ t₁ d₂ t₂ : ℕ} (ht₁ : 0 < t₁) (ht₂ : 0 < t₂)
    (h : (Ratio.ofNat d₁).value / (Ratio.ofNat t₁).value ≤
      (Ratio.ofNat d₂).value / (Ratio.ofNat t₂).value) :
    (hundredfold d₁ t₁).value ≤ (hundredfold d₂ t₂).value := by
  refine Ratio.value_round_mono (Ratio.round_den_pos _) (Ratio.round_den_pos _) ?_
  rw [value_scaled, value_scaled]
  gcongr
  refine Ratio.value_round_mono (quotient_den_pos ht₁ d₁) (quotient_den_pos ht₂ d₂) ?_
  rw [value_quotient, value_quotient]
  exact h

/-- Percentages keep the order of the quotients of rounded counts. -/
theorem percent_mono {d₁ t₁ d₂ t₂ : ℕ} (ht₁ : 0 < t₁) (ht₂ : 0 < t₂)
    (h : (Ratio.ofNat d₁).value / (Ratio.ofNat t₁).value ≤
      (Ratio.ofNat d₂).value / (Ratio.ofNat t₂).value) :
    percent d₁ t₁ ≤ percent d₂ t₂ :=
  min_le_min_right limit <|
    divNearestUp_le_divNearestUp (hundredfold_den_pos d₁ t₁) (hundredfold_den_pos d₂ t₂)
      (value_hundredfold_mono ht₁ ht₂ h)

/-- Everything documented is a hundred percent. -/
theorem percent_self {total : ℕ} (htotal : 0 < total) : percent total total = 100 := by
  have hpos : 0 < (Ratio.ofNat total).value := Ratio.value_round_pos htotal one_pos
  have hquotient : ((Ratio.ofNat total).div (Ratio.ofNat total)).value = (1 : ℕ) := by
    refine Ratio.value_round_of_value_eq (quotient_den_pos htotal total) ?_ (by norm_num [precision])
    rw [value_quotient, div_self hpos.ne', Nat.cast_one]
  have hhundred : (hundredfold total total).value = (100 : ℕ) := by
    refine Ratio.value_round_of_value_eq (Ratio.round_den_pos _) ?_ (by norm_num [precision])
    rw [value_scaled, hquotient, Nat.cast_one, one_mul]
  rw [percent, divNearestUp_of_div_eq (hundredfold_den_pos total total) hhundred]
  rfl

/-- A part of a total is at most a hundred percent. -/
theorem percent_le {documented total : ℕ} (h : documented ≤ total) (htotal : 0 < total) :
    percent documented total ≤ 100 := by
  rw [← percent_self htotal]
  refine percent_mono htotal htotal (div_le_div_of_nonneg_right (value_ofNat_mono h) ?_)
  exact Ratio.value_nonneg _

/-- Shares of counts of few digits have their percentages in order. -/
theorem percent_le_percent {d₁ t₁ d₂ t₂ : ℕ} (hd₁ : d₁ < 2 ^ 53) (ht₁ : t₁ < 2 ^ 53)
    (hd₂ : d₂ < 2 ^ 53) (ht₂ : t₂ < 2 ^ 53) (hpos₁ : 0 < t₁) (hpos₂ : 0 < t₂)
    (h : d₁ * t₂ ≤ d₂ * t₁) : percent d₁ t₁ ≤ percent d₂ t₂ := by
  refine percent_mono hpos₁ hpos₂ ?_
  rw [value_ofNat hd₁, value_ofNat ht₁, value_ofNat hd₂, value_ofNat ht₂,
    div_le_div_iff₀ (by exact_mod_cast hpos₁) (by exact_mod_cast hpos₂)]
  exact_mod_cast h

end Percentage

/-- Shares that are all at most a quotient are at most that quotient together. -/
theorem sumOf_documented_mul_le {records : List Record} {num den : ℕ}
    (h : ∀ record ∈ records, record.documented * den ≤ num * record.total) :
    sumOf Record.documented records * den ≤ num * sumOf Record.total records := by
  induction records with
  | nil => exact (Nat.zero_mul den).le.trans (Nat.zero_le _)
  | cons record rest ih =>
    obtain ⟨hfirst, hrest⟩ := List.forall_mem_cons.mp h
    change (record.documented + sumOf Record.documented rest) * den ≤
      num * (record.total + sumOf Record.total rest)
    rw [add_mul, mul_add]
    exact Nat.add_le_add hfirst (ih hrest)

/-- Shares that are all at least a quotient are at least that quotient together. -/
theorem mul_sumOf_total_le {records : List Record} {num den : ℕ}
    (h : ∀ record ∈ records, num * record.total ≤ record.documented * den) :
    num * sumOf Record.total records ≤ sumOf Record.documented records * den := by
  induction records with
  | nil => exact Nat.zero_le _
  | cons record rest ih =>
    obtain ⟨hfirst, hrest⟩ := List.forall_mem_cons.mp h
    change num * (record.total + sumOf Record.total rest) ≤
      (record.documented + sumOf Record.documented rest) * den
    rw [add_mul, mul_add]
    exact Nat.add_le_add hfirst (ih hrest)

/-- No record has more declarations than all records together. -/
theorem total_le_sumOf_total {records : List Record} {record : Record} (hmem : record ∈ records) :
    record.total ≤ sumOf Record.total records := by
  induction records with
  | nil => exact absurd hmem List.not_mem_nil
  | cons first rest ih =>
    rcases List.mem_cons.mp hmem with rfl | hrest
    · exact Nat.le_add_right _ _
    · exact (ih hrest).trans (Nat.le_add_left _ _)

/-- Shares are in order when their cross products are. -/
theorem share_le_share_iff {record other : Record} (hrecord : 0 < record.total)
    (hother : 0 < other.total) :
    (record.documented / record.total : ℚ) ≤ other.documented / other.total ↔
      record.documented * other.total ≤ other.documented * record.total := by
  rw [div_le_div_iff₀ (by exact_mod_cast hrecord) (by exact_mod_cast hother)]
  exact_mod_cast Iff.rfl

/-- Some record has the greatest share. -/
theorem exists_greatest_share {records : List Record}
    (hcounts : ∀ record ∈ records, record.documented ≤ record.total)
    (hsome : ∃ record ∈ records, 0 < record.total) :
    ∃ record ∈ records, 0 < record.total ∧
      ∀ other ∈ records, other.documented * record.total ≤ record.documented * other.total := by
  obtain ⟨found, hfound, hpos⟩ := hsome
  obtain ⟨record, hrecord, hgreatest⟩ := Finset.exists_max_image
    (records.toFinset.filter fun record => 0 < record.total)
    (fun record => (record.documented / record.total : ℚ))
    ⟨found, by simp [hfound, hpos]⟩
  simp only [Finset.mem_filter, List.mem_toFinset] at hrecord hgreatest
  refine ⟨record, hrecord.1, hrecord.2, fun other hother => ?_⟩
  rcases Nat.eq_zero_or_pos other.total with hzero | hpositive
  · have hnone : other.documented = 0 := by
      have hle := hcounts other hother
      omega
    rw [hnone, Nat.zero_mul]
    exact Nat.zero_le _
  · exact (share_le_share_iff hpositive hrecord.2).mp (hgreatest other ⟨hother, hpositive⟩)

/-- Some record has the least share of those with something to document. -/
theorem exists_least_share {records : List Record}
    (hsome : ∃ record ∈ records, 0 < record.total) :
    ∃ record ∈ records, 0 < record.total ∧
      ∀ other ∈ records, record.documented * other.total ≤ other.documented * record.total := by
  obtain ⟨found, hfound, hpos⟩ := hsome
  obtain ⟨record, hrecord, hleast⟩ := Finset.exists_min_image
    (records.toFinset.filter fun record => 0 < record.total)
    (fun record => (record.documented / record.total : ℚ))
    ⟨found, by simp [hfound, hpos]⟩
  simp only [Finset.mem_filter, List.mem_toFinset] at hrecord hleast
  refine ⟨record, hrecord.1, hrecord.2, fun other hother => ?_⟩
  rcases Nat.eq_zero_or_pos other.total with hzero | hpositive
  · rw [hzero, Nat.mul_zero]
    exact Nat.zero_le _
  · exact (share_le_share_iff hrecord.2 hpositive).mp (hleast other ⟨hother, hpositive⟩)

/-- The percentages of the records with something to document. -/
def percentsOf (records : List Record) : Set ℕ :=
  {percent | ∃ record ∈ records, 0 < record.total ∧ record.percentage = .value percent}

/-- The percentages of records are those of their counts. -/
theorem mem_percentsOf_iff {records : List Record} {percent : ℕ} :
    percent ∈ percentsOf records ↔
      ∃ record ∈ records, 0 < record.total ∧
        Percentage.percent record.documented record.total = percent := by
  refine exists_congr fun record => and_congr_right fun _ => and_congr_right fun hpos => ?_
  rw [Record.percentage, Percentage.of_eq_value hpos, Percentage.value.injEq]

/-- The percentage of all files lies between the least and the greatest of those of the files. -/
theorem percentage_totals_between {records : List Record}
    (hcounts : ∀ record ∈ records, record.documented ≤ record.total)
    (hsome : ∃ record ∈ records, 0 < record.total)
    (hsum : sumOf Record.total records < 2 ^ 53) :
    ∃ least greatest percent, IsLeast (percentsOf records) least ∧
      IsGreatest (percentsOf records) greatest ∧
      (Report.ofRecords records).totals.percentage = .value percent ∧
      least ≤ percent ∧ percent ≤ greatest := by
  have htotal : ∀ record ∈ records, record.total < 2 ^ 53 := fun record hmem =>
    (total_le_sumOf_total hmem).trans_lt hsum
  have hdocumented : ∀ record ∈ records, record.documented < 2 ^ 53 := fun record hmem =>
    (hcounts record hmem).trans_lt (htotal record hmem)
  have hsumDocumented : sumOf Record.documented records < 2 ^ 53 := by
    have hle : sumOf Record.documented records * 1 ≤ 1 * sumOf Record.total records :=
      sumOf_documented_mul_le (by simpa using hcounts)
    omega
  obtain ⟨low, hlow, hlowPos, hleast⟩ := exists_least_share hsome
  obtain ⟨high, hhigh, hhighPos, hgreatest⟩ := exists_greatest_share hcounts hsome
  have hsumPos : 0 < sumOf Record.total records := hlowPos.trans_le (total_le_sumOf_total hlow)
  refine ⟨_, _, _, ⟨mem_percentsOf_iff.mpr ⟨low, hlow, hlowPos, rfl⟩, ?_⟩,
    ⟨mem_percentsOf_iff.mpr ⟨high, hhigh, hhighPos, rfl⟩, ?_⟩, Percentage.of_eq_value hsumPos _,
    ?_, ?_⟩
  · intro percent hpercent
    obtain ⟨record, hmem, hpos, rfl⟩ := mem_percentsOf_iff.mp hpercent
    exact Percentage.percent_le_percent (hdocumented low hlow) (htotal low hlow)
      (hdocumented record hmem) (htotal record hmem) hlowPos hpos (hleast record hmem)
  · intro percent hpercent
    obtain ⟨record, hmem, hpos, rfl⟩ := mem_percentsOf_iff.mp hpercent
    exact Percentage.percent_le_percent (hdocumented record hmem) (htotal record hmem)
      (hdocumented high hhigh) (htotal high hhigh) hpos hhighPos (hgreatest record hmem)
  · exact Percentage.percent_le_percent (hdocumented low hlow) (htotal low hlow) hsumDocumented
      hsum hlowPos hsumPos (mul_sumOf_total_le hleast)
  · exact Percentage.percent_le_percent hsumDocumented hsum (hdocumented high hhigh)
      (htotal high hhigh) hsumPos hhighPos (sumOf_documented_mul_le hgreatest)

/-- A percentage lies between zero and a hundred and is a hundred where everything is documented;
the percentages of shares are in the order of the shares; and the percentage of all files lies
between those of the files. -/
theorem percentage_in_order :
    (∀ documented total, documented ≤ total → 0 < total →
      ∃ percent, Percentage.of documented total = .value percent ∧ percent ≤ 100 ∧
        (documented = total → percent = 100)) ∧
    (∀ d₁ t₁ d₂ t₂, d₁ < 2 ^ 53 → t₁ < 2 ^ 53 → d₂ < 2 ^ 53 → t₂ < 2 ^ 53 → 0 < t₁ → 0 < t₂ →
      d₁ * t₂ ≤ d₂ * t₁ →
      ∃ p₁ p₂, Percentage.of d₁ t₁ = .value p₁ ∧ Percentage.of d₂ t₂ = .value p₂ ∧ p₁ ≤ p₂ ∧
        (d₁ * t₂ = d₂ * t₁ → p₁ = p₂)) ∧
    ∀ records : List Record, (∀ record ∈ records, record.documented ≤ record.total) →
      (∃ record ∈ records, 0 < record.total) → sumOf Record.total records < 2 ^ 53 →
      ∃ least greatest percent, IsLeast (percentsOf records) least ∧
        IsGreatest (percentsOf records) greatest ∧
        (Report.ofRecords records).totals.percentage = .value percent ∧
        least ≤ percent ∧ percent ≤ greatest := by
  refine ⟨?_, ?_, fun records hcounts hsome hsum => percentage_totals_between hcounts hsome hsum⟩
  · intro documented total hle htotal
    refine ⟨_, Percentage.of_eq_value htotal documented, Percentage.percent_le hle htotal, ?_⟩
    rintro rfl
    exact Percentage.percent_self htotal
  · intro d₁ t₁ d₂ t₂ hd₁ ht₁ hd₂ ht₂ hpos₁ hpos₂ hle
    have hpercent := Percentage.percent_le_percent hd₁ ht₁ hd₂ ht₂ hpos₁ hpos₂ hle
    refine ⟨_, _, Percentage.of_eq_value hpos₁ d₁, Percentage.of_eq_value hpos₂ d₂, hpercent, ?_⟩
    intro heq
    exact le_antisymm hpercent
      (Percentage.percent_le_percent hd₂ ht₂ hd₁ ht₁ hpos₂ hpos₁ heq.ge)

/-- Two files with declarations and one without. -/
def mixedRecords : List Record := [⟨"a.ts", 3, 1, []⟩, ⟨"b.ts", 0, 0, []⟩, ⟨"c.ts", 200, 29, []⟩]

/-- The percentages of 29 in 200, of two equal shares, and of files together. -/
theorem mixedRecords_percentage_in_order :
    (∃ percent, Percentage.of 29 200 = .value percent ∧ percent ≤ 100) ∧
    (∃ percent, Percentage.of 1 3 = .value percent ∧ Percentage.of 2 6 = .value percent) ∧
    ∃ least greatest percent, IsLeast (percentsOf mixedRecords) least ∧
      IsGreatest (percentsOf mixedRecords) greatest ∧
      (Report.ofRecords mixedRecords).totals.percentage = .value percent ∧
      least ≤ percent ∧ percent ≤ greatest := by
  obtain ⟨hrange, horder, htotals⟩ := percentage_in_order
  refine ⟨?_, ?_, htotals mixedRecords (by decide) (by decide) (by decide)⟩
  · obtain ⟨percent, hof, hle, -⟩ := hrange 29 200 (by decide) (by decide)
    exact ⟨percent, hof, hle⟩
  · obtain ⟨p₁, p₂, hfirst, hsecond, -, heq⟩ := horder 1 3 2 6 (by decide) (by decide) (by decide)
      (by decide) (by decide) (by decide) (by decide)
    exact ⟨p₁, hfirst, heq (by decide) ▸ hsecond⟩

end DocCoverage.Coverage
