import DocCoverage.Check
import DocCoverage.Proofs.Coverage.LoadedOffsets
import Mathlib.Data.List.Forall2

/-!
# The report on selected files

A report has one record for each selected file, in order: that of the unit which the file alone is
loaded to. A file that cannot be loaded fails the report, and so does one whose unit has no tally where
all files are loaded.
-/

namespace DocCoverage

open FileTree Selection Coverage

section MapM

variable {ε α β : Type} {f : α → Except ε β} {items : List α} {values : List β}

/-- What follows on a value has one where both have. -/
theorem bind_eq_ok_iff {first : Except ε α} {value : β} :
    first >>= f = .ok value ↔ ∃ between, first = .ok between ∧ f between = .ok value := by
  cases first <;> simp [bind, Except.bind]

/-- The values of items, in order, where each of them has one. -/
theorem mapM_eq_ok_iff :
    items.mapM f = .ok values ↔ List.Forall₂ (fun item value => f item = .ok value) items values := by
  induction items generalizing values with
  | nil => simp [pure, Except.pure, eq_comm]
  | cons item rest ih =>
    rw [List.mapM_cons, List.forall₂_cons_left_iff]
    constructor
    · intro h
      obtain ⟨value, hvalue, h⟩ := bind_eq_ok_iff.mp h
      obtain ⟨others, hothers, h⟩ := bind_eq_ok_iff.mp h
      exact ⟨value, others, hvalue, ih.mp hothers, (Except.ok.inj h).symm⟩
    · rintro ⟨value, others, hvalue, hothers, rfl⟩
      exact bind_eq_ok_iff.mpr ⟨value, hvalue, bind_eq_ok_iff.mpr ⟨others, ih.mpr hothers, rfl⟩⟩

/-- The first item without a value fails all. -/
theorem mapM_append_cons_eq_error {before : List α} {item : α} {error : ε}
    (hbefore : before.mapM f = .ok values) (hitem : f item = .error error) (after : List α) :
    (before ++ item :: after).mapM f = .error error := by
  rw [List.mapM_append, List.mapM_cons, hbefore, hitem]
  rfl

end MapM

/-- A selected file is loaded to a unit whose tally is a record. -/
def SelectedFile.Records (file : SelectedFile) (record : Record) : Prop :=
  ∃ unit, file.load = .ok unit ∧ tally? DocComment.validate unit = some record

/-- The record of a unit is its tally. -/
theorem recordUnit_eq_ok_iff {unit : SourceUnit} {record : Record} :
    recordUnit unit = .ok record ↔ tally? DocComment.validate unit = some record := by
  rw [recordUnit]
  cases tally? DocComment.validate unit <;> simp

/-- A unit without a tally has no record. -/
theorem recordUnit_of_tally?_eq_none {unit : SourceUnit}
    (hnone : tally? DocComment.validate unit = none) :
    recordUnit unit = .error (.splitCharacter unit.path) := by
  rw [recordUnit, hnone]

/-- The units of files that have records. -/
theorem exists_units_of_records {files : List SelectedFile} {records : List Record}
    (h : List.Forall₂ SelectedFile.Records files records) :
    ∃ units, files.mapM SelectedFile.load = .ok units ∧ units.mapM recordUnit = .ok records := by
  induction h with
  | nil => exact ⟨[], rfl, rfl⟩
  | cons hfirst _ ih =>
    obtain ⟨unit, hload, htally⟩ := hfirst
    obtain ⟨units, hunits, hrecords⟩ := ih
    rw [mapM_eq_ok_iff] at hunits hrecords
    exact ⟨unit :: units, mapM_eq_ok_iff.mpr (.cons hload hunits),
      mapM_eq_ok_iff.mpr (.cons (recordUnit_eq_ok_iff.mpr htally) hrecords)⟩

/-- The records of the units of files. -/
theorem records_of_units {files : List SelectedFile} {units : List SourceUnit} {records : List Record}
    (hunits : List.Forall₂ (fun file unit => SelectedFile.load file = .ok unit) files units)
    (hrecords : List.Forall₂ (fun unit record => recordUnit unit = .ok record) units records) :
    List.Forall₂ SelectedFile.Records files records := by
  induction hunits generalizing records with
  | nil =>
    cases hrecords
    exact .nil
  | cons hload _ ih =>
    cases hrecords with
    | cons hrecord hrest => exact .cons ⟨_, hload, recordUnit_eq_ok_iff.mp hrecord⟩ (ih hrest)

/-- A report has one record for each file, in order. -/
theorem reportOn_eq_ok_iff {files : List SelectedFile} {report : Report} :
    reportOn files = .ok report ↔
      ∃ records, List.Forall₂ SelectedFile.Records files records ∧ report = .ofRecords records := by
  constructor
  · intro h
    rw [reportOn] at h
    split at h
    · cases h
    · next units hunits =>
      cases hrecords : units.mapM recordUnit with
      | error error =>
        rw [hrecords] at h
        cases h
      | ok records =>
        rw [hrecords] at h
        exact ⟨records, records_of_units (mapM_eq_ok_iff.mp hunits) (mapM_eq_ok_iff.mp hrecords),
          (Except.ok.inj h).symm⟩
  · rintro ⟨records, hall, rfl⟩
    obtain ⟨units, hunits, hrecords⟩ := exists_units_of_records hall
    simp only [reportOn, hunits, hrecords, Except.map]

section OneFails

variable {before after : List SelectedFile} {records others : List Record} {file : SelectedFile}

/-- A file that cannot be loaded fails the report. -/
theorem reportOn_of_load_eq_error (hbefore : List.Forall₂ SelectedFile.Records before records)
    {error : LoadError} (hload : file.load = .error error) :
    reportOn (before ++ file :: after) = .error (.load error) := by
  obtain ⟨units, hunits, -⟩ := exists_units_of_records hbefore
  rw [reportOn, mapM_append_cons_eq_error hunits hload after]

/-- A file without a tally fails the report where the others have records. -/
theorem reportOn_of_tally?_eq_none (hbefore : List.Forall₂ SelectedFile.Records before records)
    (hafter : List.Forall₂ SelectedFile.Records after others) {unit : SourceUnit}
    (hload : file.load = .ok unit) (hnone : tally? DocComment.validate unit = none) :
    reportOn (before ++ file :: after) = .error (.splitCharacter unit.path) := by
  obtain ⟨units, hunits, hrecords⟩ := exists_units_of_records hbefore
  obtain ⟨units', hunits', -⟩ := exists_units_of_records hafter
  have hall : (before ++ file :: after).mapM SelectedFile.load = .ok (units ++ unit :: units') := by
    rw [mapM_eq_ok_iff] at hunits hunits' ⊢
    exact List.rel_append hunits (.cons hload hunits')
  have hfails := mapM_append_cons_eq_error hrecords (recordUnit_of_tally?_eq_none hnone) units'
  simp only [reportOn, hall, hfails, Except.map]

end OneFails

/-- A loaded unit has the path of its file. -/
theorem path_eq_of_loadUnit {path : String} {content : Except FileError (List UInt8)}
    {unit : SourceUnit} (hload : loadUnit path content = .ok unit) : unit.path = path := by
  simp only [loadUnit, SourceUnit.read] at hload
  split at hload
  · cases hload
  · split at hload
    · cases hload
    · next read hread =>
      obtain rfl := Except.ok.inj hload
      split at hread
      · obtain rfl := Except.ok.inj hread
        rfl
      · cases hread

/-- A record has the path of its file. -/
theorem SelectedFile.Records.path_eq {file : SelectedFile} {record : Record}
    (h : file.Records record) : record.path = file.path := by
  obtain ⟨unit, hload, htally⟩ := h
  obtain ⟨findings, -, rfl⟩ := Option.map_eq_some_iff.mp htally
  exact path_eq_of_loadUnit hload

/-- The records of files have their paths. -/
theorem map_path_of_records {files : List SelectedFile} {rows : List Record}
    (hrows : List.Forall₂ SelectedFile.Records files rows) :
    rows.map Record.path = files.map SelectedFile.path := by
  induction hrows with
  | nil => rfl
  | cons hfirst _ ih => rw [List.map_cons, List.map_cons, hfirst.path_eq, ih]

/-- The records of consecutive files are consecutive. -/
theorem exists_append_of_records {before after : List SelectedFile} {rows : List Record}
    (hrows : List.Forall₂ SelectedFile.Records (before ++ after) rows) :
    ∃ rows₁ rows₂, rows = rows₁ ++ rows₂ ∧ List.Forall₂ SelectedFile.Records before rows₁ ∧
      List.Forall₂ SelectedFile.Records after rows₂ := by
  induction before generalizing rows with
  | nil => exact ⟨[], rows, rfl, .nil, hrows⟩
  | cons file rest ih =>
    cases hrows with
    | cons hfirst hrest =>
      obtain ⟨rows₁, rows₂, rfl, hbefore, hafter⟩ := ih hrest
      exact ⟨_ :: rows₁, rows₂, rfl, .cons hfirst hbefore, hafter⟩

/-- A file that is loaded can be read. -/
theorem exists_content_of_load {file : SelectedFile} {unit : SourceUnit} (hload : file.load = .ok unit) :
    ∃ content, file.content = .ok content := by
  obtain ⟨text, -, htext, -⟩ := loadUnit_eq_ok hload
  obtain ⟨content, hcontent, -⟩ := bind_eq_ok_iff.mp htext
  exact ⟨content, hcontent⟩

/-- A check that succeeds reports on what a scan selects. -/
theorem exists_scan_of_check {tree : Node} {working : List String} {root : String} {report : Report}
    (hcheck : check tree working root = .ok report) :
    ∃ result, scan .standard tree working root = .ok result ∧
      reportOn (result.files.map (SelectedFile.read tree working root)) = .ok report := by
  rw [check] at hcheck
  split at hcheck
  · cases hcheck
  · next result hscan => exact ⟨result, hscan, hcheck⟩

end DocCoverage
