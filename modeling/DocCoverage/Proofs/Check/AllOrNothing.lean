import DocCoverage.CommandLine.Outcome
import DocCoverage.Proofs.Check.AddedFile
import DocCoverage.Proofs.Text.WrittenText

/-!
# A check reports on all files or on none

The selected files are loaded together, in any order, before the first of them is tallied. Whoever loads
them keeps their places and fails where one of them cannot be loaded, with the error of such a file. A
check then has three answers: a report with the record of every selected file, the error of a file that
cannot be loaded, and the error of a file whose unit has no tally. The last one is given only where all
files are loaded, and only for a file that starts with two byte order marks. A check of a root that
cannot be resolved fails before. Nothing is written to the output of the program where a check fails.
-/

namespace DocCoverage

open FileTree Selection Coverage CommandLine Text

/-! ## Files that are loaded together -/

section Collects

variable {ε α β : Type} {f : α → Except ε β}

/-- The values of items are found together: they are in the order of the items, and where an item has
none, the error is that of such an item. -/
structure Collects (f : α → Except ε β) (collect : List α → Except ε (List β)) : Prop where
  ok_iff : ∀ items values,
    collect items = .ok values ↔ List.Forall₂ (fun item value => f item = .ok value) items values
  error_of : ∀ items error, collect items = .error error → ∃ item ∈ items, f item = .error error

/-- What follows on a value fails where the value is missing, and where it fails itself. -/
theorem bind_eq_error_iff {first : Except ε α} {error : ε} :
    first >>= f = .error error ↔
      first = .error error ∨ ∃ between, first = .ok between ∧ f between = .error error := by
  cases first <;> simp [bind, Except.bind]

/-- One item after the other fails with the error of one of them. -/
theorem exists_mem_of_mapM_eq_error {items : List α} {error : ε} (h : items.mapM f = .error error) :
    ∃ item ∈ items, f item = .error error := by
  induction items with
  | nil => cases h
  | cons item rest ih =>
    rw [List.mapM_cons, bind_eq_error_iff] at h
    rcases h with hitem | ⟨value, -, h⟩
    · exact ⟨item, List.mem_cons_self, hitem⟩
    · rcases bind_eq_error_iff.mp h with hrest | ⟨values, -, h⟩
      · obtain ⟨other, hother, herror⟩ := ih hrest
        exact ⟨other, List.mem_cons_of_mem item hother, herror⟩
      · cases h

/-- One item after the other is a way to find their values together. -/
theorem collects_mapM : Collects f (List.mapM f) where
  ok_iff _ _ := mapM_eq_ok_iff
  error_of _ _ := exists_mem_of_mapM_eq_error

end Collects

/-! ## Files that can be loaded -/

/-- The bytes that encode a text. -/
theorem decodeText_eq_ok_iff {bytes : List UInt8} {text : List Char} :
    decodeText bytes = .ok text ↔ utf8Bytes (String.ofList text) = bytes := by
  constructor
  · intro h
    rw [decodeText, String.fromUTF8?] at h
    split at h
    · next decoded hdecoded =>
      obtain rfl := Except.ok.inj h
      split at hdecoded
      · obtain rfl := Option.some.inj hdecoded
        rw [String.ofList_toList]
        rfl
      · cases hdecoded
    · cases h
  · rintro rfl
    have hvalid := (String.ofList text).isValidUTF8
    have hread : String.fromUTF8? (String.ofList text).toByteArray = some (String.ofList text) :=
      dif_pos hvalid
    rw [decodeText, utf8Bytes, Array.toArray_toList, hread]
    simp

/-- A file that can be read as the encoding of a text, and whose text can be parsed. -/
def SelectedFile.IsSource (file : SelectedFile) : Prop :=
  ∃ text items, file.content = .ok (utf8Bytes (String.ofList text)) ∧
    TypeScript.readModule (.ofPath file.path) (TypeScript.dropByteOrderMark text) = .ok items

/-- A file that is loaded to a unit without a tally. -/
def SelectedFile.LacksTally (file : SelectedFile) : Prop :=
  ∃ unit, file.load = .ok unit ∧ tally? DocComment.validate unit = none

section File

variable {file : SelectedFile}

/-- The files that are loaded are those that can be read and parsed. -/
theorem isSource_iff_load : file.IsSource ↔ ∃ unit, file.load = .ok unit := by
  constructor
  · rintro ⟨text, items, hcontent, hitems⟩
    have htext : file.content.bind decodeText = .ok text := by
      rw [hcontent]
      exact decodeText_eq_ok_iff.mpr rfl
    simp only [SelectedFile.load, loadUnit, htext, SourceUnit.read, hitems]
    exact ⟨_, rfl⟩
  · rintro ⟨unit, hload⟩
    obtain ⟨text, items, htext, hunit, hitems, -⟩ := loadUnit_eq_ok hload
    obtain ⟨bytes, hcontent, hbytes⟩ := bind_eq_ok_iff.mp htext
    rw [hunit] at hitems
    exact ⟨text, items, decodeText_eq_ok_iff.mp hbytes ▸ hcontent, hitems⟩

/-- A file that cannot be loaded cannot be read or cannot be parsed. -/
theorem not_isSource_of_load_eq_error {error : LoadError} (hload : file.load = .error error) :
    ¬ file.IsSource := by
  rw [isSource_iff_load]
  rintro ⟨unit, hunit⟩
  cases hload.symm.trans hunit

/-- The error of a file names its path. -/
theorem path_infix_message {error : LoadError} (hload : file.load = .error error) :
    file.path.toList <:+: error.message.toList := by
  have hnamed (before mark after : String) :
      file.path.toList <:+: (before ++ file.path ++ mark ++ after).toList := by
    rw [String.append_assoc, String.toList_append, String.toList_append]
    exact List.infix_append _ _ _
  rw [SelectedFile.load, loadUnit] at hload
  split at hload
  · obtain rfl := Except.error.inj hload
    exact hnamed _ _ _
  · split at hload
    · obtain rfl := Except.error.inj hload
      exact hnamed _ _ _
    · cases hload

/-- A file with a record can be read and parsed, and its unit has a tally. -/
theorem SelectedFile.Records.isSource {record : Record} (h : file.Records record) :
    file.IsSource ∧ ¬ file.LacksTally := by
  obtain ⟨unit, hload, htally⟩ := h
  refine ⟨isSource_iff_load.mpr ⟨unit, hload⟩, ?_⟩
  rintro ⟨other, hother, hnone⟩
  obtain rfl := Except.ok.inj (hload.symm.trans hother)
  cases htally.symm.trans hnone

/-- A file without a tally starts with two byte order marks. -/
theorem SelectedFile.LacksTally.twoMarks (h : file.LacksTally) :
    ∃ text, file.content = .ok (utf8Bytes (String.ofList text)) ∧ ['\ufeff', '\ufeff'] <+: text := by
  obtain ⟨unit, hload, hnone⟩ := h
  obtain ⟨text, htext, hmarks⟩ := twoMarks_of_tally?_eq_none hload hnone
  obtain ⟨bytes, hcontent, hbytes⟩ := bind_eq_ok_iff.mp htext
  exact ⟨text, decodeText_eq_ok_iff.mp hbytes ▸ hcontent, hmarks⟩

end File

/-! ## What a check answers -/

/-- The answers of a check of selected files. -/
inductive Answers (files : List SelectedFile) : Except CheckError Report → Prop where
  /-- The report has the record of each file, in order. -/
  | report {records : List Record} (hrecords : List.Forall₂ SelectedFile.Records files records) :
      Answers files (.ok (.ofRecords records))
  /-- The error is that of a file which cannot be read or parsed itself, and names it. -/
  | unloaded {file : SelectedFile} {error : LoadError} (hfile : file ∈ files)
      (hsource : ¬ file.IsSource) (hload : file.load = .error error)
      (hnamed : file.path.toList <:+: error.message.toList) : Answers files (.error (.load error))
  /-- All files are loaded, and one that starts with two byte order marks has no tally. -/
  | untallied {file : SelectedFile} {text : List Char} (hsources : ∀ file ∈ files, file.IsSource)
      (hfile : file ∈ files) (hlacks : file.LacksTally)
      (hcontent : file.content = .ok (utf8Bytes (String.ofList text)))
      (hmarks : ['\ufeff', '\ufeff'] <+: text) : Answers files (.error (.splitCharacter file.path))

/-- A member of a list has a partner in a list that is related to it. -/
theorem exists_mem_of_forall₂ {α β : Type} {R : α → β → Prop} {items : List α} {values : List β}
    (h : List.Forall₂ R items values) {item : α} (hitem : item ∈ items) :
    ∃ value ∈ values, R item value := by
  induction h with
  | nil => cases hitem
  | cons hfirst _ ih =>
    rcases List.mem_cons.mp hitem with rfl | hrest
    · exact ⟨_, List.mem_cons_self, hfirst⟩
    · obtain ⟨value, hvalue, hrelated⟩ := ih hrest
      exact ⟨value, List.mem_cons_of_mem _ hvalue, hrelated⟩

/-- Files that are loaded together have one of these answers. -/
theorem answers_reportOn {loadAll : Loader} (hloads : Collects SelectedFile.load loadAll)
    (files : List SelectedFile) : Answers files (reportOn files loadAll) := by
  rw [reportOn]
  cases hall : loadAll files with
  | error error =>
    obtain ⟨file, hfile, hload⟩ := hloads.error_of files error hall
    exact .unloaded hfile (not_isSource_of_load_eq_error hload) hload (path_infix_message hload)
  | ok units =>
    have hunits := (hloads.ok_iff files units).mp hall
    change Answers files ((units.mapM recordUnit).map Report.ofRecords)
    cases htallies : units.mapM recordUnit with
    | ok records => exact .report (records_of_units hunits (mapM_eq_ok_iff.mp htallies))
    | error error =>
      obtain ⟨unit, hunit, herror⟩ := exists_mem_of_mapM_eq_error htallies
      obtain ⟨file, hfile, hload⟩ := exists_mem_of_forall₂ (List.Forall₂.flip hunits) hunit
      have hsources : ∀ file ∈ files, file.IsSource := by
        intro other hother
        obtain ⟨value, -, hvalue⟩ := exists_mem_of_forall₂ hunits hother
        exact isSource_iff_load.mpr ⟨value, hvalue⟩
      cases htally : tally? DocComment.validate unit with
      | some record => cases (recordUnit_eq_ok_iff.mpr htally).symm.trans herror
      | none =>
        rw [recordUnit_of_tally?_eq_none htally, path_eq_of_loadUnit hload] at herror
        obtain rfl := Except.error.inj herror
        have hlacks : file.LacksTally := ⟨unit, hload, htally⟩
        obtain ⟨text, hcontent, hmarks⟩ := hlacks.twoMarks
        exact .untallied hsources hfile hlacks hcontent hmarks

/-- There is a report where all files can be read and parsed and have tallies. -/
theorem Answers.report_iff {files : List SelectedFile} {answer : Except CheckError Report}
    (h : Answers files answer) :
    (∃ report, answer = .ok report) ↔ ∀ file ∈ files, file.IsSource ∧ ¬ file.LacksTally := by
  cases h with
  | report hrecords =>
    refine iff_of_true ⟨_, rfl⟩ fun file hfile => ?_
    obtain ⟨record, -, hrecord⟩ := exists_mem_of_forall₂ hrecords hfile
    exact hrecord.isSource
  | unloaded hfile hsource =>
    refine iff_of_false (by simp) fun hall => ?_
    exact hsource (hall _ hfile).1
  | untallied _ hfile hlacks =>
    refine iff_of_false (by simp) fun hall => ?_
    exact (hall _ hfile).2 hlacks

/-- A scan with the standard settings fails where the root cannot be resolved, and only there. -/
theorem scan_standard_cases (tree : Node) (working : List String) (root : String) :
    (∃ cause, resolve { entryCheck := .names } tree working root = .error cause ∧
      scan .standard tree working root = .error (.unresolved root cause)) ∨
    ∃ resolved result, resolve { entryCheck := .names } tree working root = .ok resolved ∧
      scan .standard tree working root = .ok result := by
  rw [scan, compilePatterns_standard]
  cases resolve { entryCheck := .names } tree working root with
  | error cause => exact .inl ⟨cause, rfl, rfl⟩
  | ok resolved =>
    refine .inr ?_
    dsimp only
    split
    · exact ⟨resolved, _, rfl, rfl⟩
    · exact ⟨resolved, _, rfl, rfl⟩

/-- How the program ends after a check: with zero and the table of the report, or without output, with
two and with the error of the check. A file without a tally stops it with a code of its own. -/
def EndsAfter (color : Bool) (outcome : Outcome) : Except CheckError Report → Prop
  | .ok report => outcome.exitCode = 0 ∧ outcome.output = report.tableText color
  | .error (.splitCharacter _) => outcome.exitCode = 101 ∧ outcome.output = ""
  | .error error => outcome.exitCode = 2 ∧ outcome.output = "" ∧
      ("Error: " ++ error.message).toList <:+: outcome.errors.toList

/-- The outcome of a check is such an end. -/
theorem endsAfter_checkOutcome (color : Bool) (warned : List String)
    (answer : Except CheckError Report) :
    EndsAfter color (checkOutcome color warned answer) answer := by
  have hwritten (line : String) : line.toList <:+: (unlines (warned ++ [line])).toList := by
    rw [toList_unlines, List.flatMap_append, List.flatMap_singleton, ← List.append_assoc]
    exact List.infix_append _ _ _
  cases answer with
  | ok report => simp only [EndsAfter, checkOutcome, and_self]
  | error error =>
    cases error with
    | scan cause => exact ⟨rfl, rfl, hwritten _⟩
    | load cause => exact ⟨rfl, rfl, hwritten _⟩
    | splitCharacter path => exact ⟨rfl, rfl⟩

/-- A run of the program that checks ends after the check of the working directory. -/
theorem endsAfter_run (color : Bool) (tree : Node) (working : List String) (loadAll : Loader) :
    EndsAfter color (run color tree working ["check"] loadAll) (check tree working "." loadAll) := by
  have hrequest : (requestOf .top ["check"]).answer? = none := by cbv
  rw [run, hrequest, Option.getD_none, runCheck, check]
  cases scan .standard tree working "." with
  | error error => exact endsAfter_checkOutcome color [] _
  | ok result => exact endsAfter_checkOutcome color (warnings "." result) _

/-- However files are loaded together, a check gives a report if and only if the root can be resolved,
every selected file can be read and parsed, and none of them lacks a tally. Otherwise it fails with the
error of the root or with that of a selected file, and the program ends with what the check gives. -/
theorem check_all_or_nothing {loadAll : Loader} (hloads : Collects SelectedFile.load loadAll)
    (color : Bool) (tree : Node) (working : List String) (root : String) :
    ((∃ report, check tree working root loadAll = .ok report) ↔
      ∃ resolved result, resolve { entryCheck := .names } tree working root = .ok resolved ∧
        scan .standard tree working root = .ok result ∧
        ∀ file ∈ readSelected tree working root result, file.IsSource ∧ ¬ file.LacksTally) ∧
    ((∃ cause, resolve { entryCheck := .names } tree working root = .error cause ∧
        check tree working root loadAll = .error (.scan (.unresolved root cause))) ∨
      ∃ result, scan .standard tree working root = .ok result ∧
        Answers (readSelected tree working root result) (check tree working root loadAll)) ∧
    EndsAfter color (run color tree working ["check"] loadAll) (check tree working "." loadAll) := by
  rcases scan_standard_cases tree working root with
    ⟨cause, hroot, hscan⟩ | ⟨resolved, result, hroot, hscan⟩
  · have hcheck : check tree working root loadAll = .error (.scan (.unresolved root cause)) := by
      rw [check, hscan]
    refine ⟨?_, .inl ⟨cause, hroot, hcheck⟩, endsAfter_run color tree working loadAll⟩
    rw [hcheck, hroot]
    simp
  · have hanswers : Answers (readSelected tree working root result)
        (check tree working root loadAll) := by
      rw [check, hscan]
      exact answers_reportOn hloads _
    refine ⟨?_, .inr ⟨result, hscan, hanswers⟩, endsAfter_run color tree working loadAll⟩
    rw [hanswers.report_iff, hroot, hscan]
    simp

/-- The selected files of a directory with one source file. -/
theorem readSelected_singleSource (content : List UInt8) :
    readSelected (singleSource content) [] "." ⟨[["m.ts"]], []⟩ = [⟨"m.ts", .ok content⟩] := by
  simp only [readSelected, List.map_cons, List.map_nil, singleSource]
  rw [read_here (by decide) rfl]

/-- Files that are loaded one after the other: a source file is reported, and one that is no text fails
the check with an error that names it. -/
theorem singleSource_all_or_nothing :
    Collects SelectedFile.load (List.mapM SelectedFile.load) ∧
      (∃ report, check (singleSource plainFile) [] "." = .ok report) ∧
      (∃ error, check (singleSource [255]) [] "." = .error (.load error) ∧
        "m.ts".toList <:+: error.message.toList) ∧
      (run false (singleSource [255]) [] ["check"]).exitCode = 2 ∧
      (run false (singleSource [255]) [] ["check"]).output = "" := by
  have hplain : SelectedFile.Records ⟨"m.ts", .ok plainFile⟩ ⟨"m.ts", 1, 0, [⟨1, 1⟩]⟩ :=
    ⟨⟨"m.ts", "function f(){}".toList, [⟨"f", .function, 0, ⟨1, 1⟩⟩]⟩,
      eq_ok_of_toOption_eq_some (by decide +kernel), by decide +kernel⟩
  have hbroken : SelectedFile.load ⟨"m.ts", .ok [255]⟩ = .error (.unreadable "m.ts" .notText) := rfl
  refine ⟨collects_mapM, ?_, ?_⟩
  · have hreport := (check_all_or_nothing collects_mapM false (singleSource plainFile) [] ".").1
    refine hreport.mpr ⟨[], _, resolve_here _ _, scan_singleSource _, ?_⟩
    simpa [readSelected_singleSource] using hplain.isSource
  · obtain ⟨-, hcases, hends⟩ :=
      check_all_or_nothing collects_mapM false (singleSource [255]) [] "."
    rcases hcases with ⟨cause, hroot, -⟩ | ⟨result, hscan, hanswers⟩
    · cases (resolve_here _ _).symm.trans hroot
    · obtain rfl := Except.ok.inj ((scan_singleSource [255]).symm.trans hscan)
      rw [readSelected_singleSource] at hanswers
      generalize check (singleSource [255]) [] "." = answer at hanswers hends ⊢
      cases hanswers with
      | report hrecords =>
        cases hrecords with
        | cons hrecord _ => exact absurd hrecord.isSource.1 (not_isSource_of_load_eq_error hbroken)
      | unloaded hfile _ _ hnamed =>
        obtain rfl := List.mem_singleton.mp hfile
        exact ⟨⟨_, rfl, hnamed⟩, hends.1, hends.2.1⟩
      | untallied hsources =>
        exact absurd (hsources _ List.mem_cons_self) (not_isSource_of_load_eq_error hbroken)

/-- A file with two marks can be read and parsed and is the only one selected, and there is no report. -/
theorem splitCharacterFile_isSource_without_report :
    resolve { entryCheck := .names } (singleSource splitCharacterFile) [] "." = .ok [] ∧
      scan .standard (singleSource splitCharacterFile) [] "." = .ok ⟨[["m.ts"]], []⟩ ∧
      (∀ file ∈ readSelected (singleSource splitCharacterFile) [] "." ⟨[["m.ts"]], []⟩,
        file.IsSource) ∧
      (∀ report, check (singleSource splitCharacterFile) [] "." ≠ .ok report) ∧
      (run false (singleSource splitCharacterFile) [] ["check"]).exitCode = 101 := by
  have hload : SelectedFile.load ⟨"m.ts", .ok splitCharacterFile⟩ =
      .ok ⟨"m.ts", '\ufeff' :: "a('€')\n/** D. */\nfunction g(){}".toList,
        [⟨"g", .function, 8, ⟨2, 3⟩⟩]⟩ :=
    eq_ok_of_toOption_eq_some (by decide +kernel)
  have hcheck : check (singleSource splitCharacterFile) [] "." = .error (.splitCharacter "m.ts") := by
    rw [check_singleSource]
    exact reportOn_of_tally?_eq_none .nil .nil hload (by decide +kernel)
  have hends := endsAfter_run false (singleSource splitCharacterFile) [] (List.mapM SelectedFile.load)
  rw [hcheck] at hends ⊢
  refine ⟨resolve_here _ _, scan_singleSource _, ?_, by simp, hends.1⟩
  simpa [readSelected_singleSource] using isSource_iff_load.mpr ⟨_, hload⟩

end DocCoverage
