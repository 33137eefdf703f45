import DocCoverage.Proofs.Coverage.Findings

/-!
# Every declaration is accounted for once

A tally puts each declaration of a unit into one of three classes, by the comment nearest to it: it
is documented, undocumented, or preceded by an ordinary comment. The record counts the first class
and lists the lines of the second. The third is counted in the total only, so the first two make up
the total exactly when the third is empty.
-/

namespace DocCoverage.Coverage

open Text

/-- The status that a comment gives. -/
theorem statusOf_some (validate : List Char → List DocComment.Diagnostic) (comment : List Char) :
    statusOf validate (some comment) =
      if ['/', '*', '*'] <+: comment then
        if validate comment = [] then .documented else .undocumented
      else .plainComment := by
  simp only [statusOf, isDocComment, List.isEmpty_iff, Bool.not_eq_true', ← Bool.not_eq_true,
    List.isPrefixOf_iff_prefix, ite_not]

section Classes

variable (validate : List Char → List DocComment.Diagnostic) (text : List Char)
  (declaration : Declaration)

/-- The comment nearest to a declaration is a documentation comment without diagnostics. -/
def IsDocumented : Prop :=
  ∃ comment, commentOf? text declaration = some (some comment) ∧
    ['/', '*', '*'] <+: comment ∧ validate comment = []

/-- No comment leads a declaration, or the nearest one is a documentation comment with
diagnostics. -/
def IsUndocumented : Prop :=
  commentOf? text declaration = some none ∨
    ∃ comment, commentOf? text declaration = some (some comment) ∧
      ['/', '*', '*'] <+: comment ∧ validate comment ≠ []

/-- The comment nearest to a declaration is no documentation comment. -/
def HasPlainComment : Prop :=
  ∃ comment, commentOf? text declaration = some (some comment) ∧ ¬ ['/', '*', '*'] <+: comment

/-- A documented declaration has that status. -/
theorem isDocumented_iff :
    IsDocumented validate text declaration ↔
      (commentOf? text declaration).map (statusOf validate) = some .documented := by
  rw [IsDocumented]
  rcases commentOf? text declaration with _ | _ | comment
  · simp
  · simp [statusOf]
  · by_cases hdoc : ['/', '*', '*'] <+: comment <;> by_cases hvalid : validate comment = [] <;>
      simp [statusOf_some, hdoc, hvalid]

/-- An undocumented declaration has that status. -/
theorem isUndocumented_iff :
    IsUndocumented validate text declaration ↔
      (commentOf? text declaration).map (statusOf validate) = some .undocumented := by
  rw [IsUndocumented]
  rcases commentOf? text declaration with _ | _ | comment
  · simp
  · simp [statusOf]
  · by_cases hdoc : ['/', '*', '*'] <+: comment <;> by_cases hvalid : validate comment = [] <;>
      simp [statusOf_some, hdoc, hvalid]

/-- A declaration after an ordinary comment has that status, whatever the validator. -/
theorem hasPlainComment_iff :
    HasPlainComment text declaration ↔
      (commentOf? text declaration).map (statusOf validate) = some .plainComment := by
  rw [HasPlainComment]
  rcases commentOf? text declaration with _ | _ | comment
  · simp
  · simp [statusOf]
  · by_cases hdoc : ['/', '*', '*'] <+: comment <;> by_cases hvalid : validate comment = [] <;>
      simp [statusOf_some, hdoc, hvalid]

instance : Decidable (IsDocumented validate text declaration) :=
  decidable_of_iff _ (isDocumented_iff validate text declaration).symm

instance : Decidable (IsUndocumented validate text declaration) :=
  decidable_of_iff _ (isUndocumented_iff validate text declaration).symm

end Classes

/-- A record accounts for the declarations of a unit under a validator. -/
structure Accounts (validate : List Char → List DocComment.Diagnostic) (unit : SourceUnit)
    (record : Record) : Prop where
  total : record.total = unit.declarations.length
  documented : record.documented =
    unit.declarations.countP fun declaration => IsDocumented validate unit.text declaration
  undocumented : record.undocumented =
    (unit.declarations.filter fun declaration =>
      IsUndocumented validate unit.text declaration).map Declaration.lines
  atMost : record.documented + record.undocumented.length ≤ record.total
  exact_iff : record.documented + record.undocumented.length = record.total ↔
    ∀ declaration ∈ unit.declarations, ¬ HasPlainComment unit.text declaration

/-- The findings of a unit are about its declarations in order, and each has the status of the
comment nearest to its declaration. -/
theorem findings?_eq_some {validate : List Char → List DocComment.Diagnostic} {unit : SourceUnit}
    {findings : List Finding} (hfindings : findings? validate unit = some findings) :
    findings.map Finding.declaration = unit.declarations ∧
      ∀ finding ∈ findings, (commentOf? unit.text finding.declaration).map (statusOf validate) =
        some finding.status := by
  rw [findings?] at hfindings
  revert hfindings
  induction unit.declarations generalizing findings with
  | nil =>
    intro hfindings
    obtain rfl : [] = findings := Option.some.inj hfindings
    exact ⟨rfl, fun _ hmem => absurd hmem List.not_mem_nil⟩
  | cons declaration rest ih =>
    intro hfindings
    rw [List.mapM_cons] at hfindings
    obtain ⟨first, hfirst, hfindings⟩ := Option.bind_eq_some_iff.mp hfindings
    obtain ⟨others, hothers, hfindings⟩ := Option.bind_eq_some_iff.mp hfindings
    obtain rfl : first :: others = findings := Option.some.inj hfindings
    obtain ⟨comment, hcomment, rfl⟩ := Option.map_eq_some_iff.mp hfirst
    obtain ⟨hdeclarations, hstatus⟩ := ih hothers
    refine ⟨by rw [List.map_cons, hdeclarations], List.forall_mem_cons.mpr ⟨?_, hstatus⟩⟩
    rw [hcomment, Option.map_some]

/-- The three classes make up all findings. -/
theorem countP_status (findings : List Finding) :
    findings.countP (fun f => f.status = .documented) +
      findings.countP (fun f => f.status = .undocumented) +
      findings.countP (fun f => f.status = .plainComment) = findings.length := by
  induction findings with
  | nil => rfl
  | cons finding rest ih =>
    cases hstatus : finding.status <;> simp [hstatus] <;> omega

/-- The record of a unit that is tallied accounts for its declarations. -/
theorem accounts_of_tally? {validate : List Char → List DocComment.Diagnostic} {unit : SourceUnit}
    {record : Record} (htally : tally? validate unit = some record) :
    Accounts validate unit record := by
  obtain ⟨findings, hfindings, rfl⟩ := Option.map_eq_some_iff.mp htally
  obtain ⟨hdeclarations, hstatus⟩ := findings?_eq_some hfindings
  have hclasses := countP_status findings
  have hlength : ((findings.filter fun f => f.status = .undocumented).map
      fun f => f.declaration.lines).length =
        findings.countP fun f => f.status = .undocumented := by
    rw [List.length_map, List.countP_eq_length_filter]
  constructor
  case total => rw [← hdeclarations, List.length_map, Record.ofFindings]
  case documented =>
    rw [← hdeclarations, List.countP_map, Record.ofFindings]
    refine List.countP_congr fun finding hmem => ?_
    rw [Function.comp_apply, decide_eq_true_iff, decide_eq_true_iff, isDocumented_iff,
      hstatus finding hmem, Option.some.injEq]
  case undocumented =>
    rw [← hdeclarations, List.filter_map, List.map_map, Record.ofFindings]
    refine congrArg (List.map _) (List.filter_congr fun finding hmem => ?_)
    rw [Function.comp_apply, decide_eq_decide, isUndocumented_iff, hstatus finding hmem,
      Option.some.injEq]
  case atMost =>
    simp only [Record.ofFindings, hlength]
    omega
  case exact_iff =>
    -- nothing is left for the total only exactly when the third class is empty
    have hplain : findings.countP (fun f => f.status = .plainComment) = 0 ↔
        ∀ declaration ∈ unit.declarations, ¬ HasPlainComment unit.text declaration := by
      rw [List.countP_eq_zero, ← hdeclarations, List.forall_mem_map]
      refine forall₂_congr fun finding hmem => ?_
      rw [decide_eq_true_iff, hasPlainComment_iff validate, hstatus finding hmem,
        Option.some.injEq]
    rw [← hplain]
    simp only [Record.ofFindings, hlength]
    omega

/-- A count that is at most another in every record is so in their sum. -/
theorem sumOf_le_sumOf {count other : Record → Nat} {records : List Record}
    (hle : ∀ record ∈ records, count record ≤ other record) :
    sumOf count records ≤ sumOf other records := by
  induction records with
  | nil => exact Nat.le_refl 0
  | cons record rest ih =>
    obtain ⟨hfirst, hrest⟩ := List.forall_mem_cons.mp hle
    exact Nat.add_le_add hfirst (ih hrest)

/-- A unit whose comment offsets are boundaries of its text, or lie past its end, has a record that
accounts for its declarations, under every validator; and no totals of such records count more
documented declarations than there are. -/
theorem tally?_accounts :
    (∀ validate unit, (∀ declaration ∈ unit.declarations,
        IsBoundary unit.text declaration.commentOffset ∨
          byteLength unit.text ≤ declaration.commentOffset) →
      ∃ record, tally? validate unit = some record ∧ Accounts validate unit record) ∧
    ∀ records : List Record, (∀ record ∈ records, ∃ validate unit,
        tally? validate unit = some record) →
      (Report.ofRecords records).totals.documented ≤ (Report.ofRecords records).totals.total := by
  constructor
  · intro validate unit hoffsets
    obtain ⟨record, hrecord⟩ : ∃ record, tally? validate unit = some record := by
      rw [← Option.isSome_iff_exists, tally?_isSome_iff]
      intro declaration hmem
      exact (leadingComments?_isSome_iff _ _).mpr (hoffsets declaration hmem)
    exact ⟨record, hrecord, accounts_of_tally? hrecord⟩
  · intro records hrecords
    refine sumOf_le_sumOf fun record hmem => ?_
    obtain ⟨validate, unit, htally⟩ := hrecords record hmem
    have haccounts := accounts_of_tally? htally
    rw [haccounts.total, haccounts.documented]
    exact List.countP_le_length

/-- A unit with a documented function, one after an ordinary comment, and one without a comment. -/
def threeClasses : SourceUnit where
  path := "m.ts"
  text := "/** é. */\nfunction f() {}\n// g\nfunction g() {}\nfunction h() {}".toList
  declarations := [⟨"f", .function, 0, ⟨2, 2⟩⟩, ⟨"g", .function, 26, ⟨4, 4⟩⟩,
    ⟨"h", .function, 47, ⟨5, 5⟩⟩, ⟨"late", .variable, 100, ⟨6, 7⟩⟩]

/-- The function after an ordinary comment is counted in the total only. -/
theorem threeClasses_accounts :
    ∃ record, tally? DocComment.validate threeClasses = some record ∧
      Accounts DocComment.validate threeClasses record ∧
      record = ⟨"m.ts", 4, 1, [⟨5, 5⟩, ⟨6, 7⟩]⟩ ∧
      (Report.ofRecords [record, record]).totals.documented ≤
        (Report.ofRecords [record, record]).totals.total := by
  have hoffsets : ∀ declaration ∈ threeClasses.declarations,
      IsBoundary threeClasses.text declaration.commentOffset ∨
        byteLength threeClasses.text ≤ declaration.commentOffset := by decide
  have hrecord : tally? DocComment.validate threeClasses =
      some ⟨"m.ts", 4, 1, [⟨5, 5⟩, ⟨6, 7⟩]⟩ := by decide +kernel
  obtain ⟨record, htally, haccounts⟩ := tally?_accounts.1 DocComment.validate threeClasses hoffsets
  refine ⟨record, htally, haccounts, Option.some.inj (htally.symm.trans hrecord), ?_⟩
  refine tally?_accounts.2 [record, record] fun each hmem => ?_
  have heach : each = record := by simpa using hmem
  exact ⟨DocComment.validate, threeClasses, heach ▸ htally⟩

end DocCoverage.Coverage
