import DocCoverage.Proofs.Check.Reports
import DocCoverage.Proofs.Coverage.LoadedOffsets
import DocCoverage.Proofs.Selection.OpenedFiles

/-!
# A file that is added to a tree

A file is added to a directory of a tree whose check gives a report. Everything that was seen in the
tree is seen as before, so the same files are selected, with the exception of the added one, and they
have the same records. If the added file is not selected, the report is the same. If it is, and has a
record, this is inserted at the place of its path and added to the totals. The check fails if the file
cannot be loaded, and also if its unit has no tally. The latter happens only to files that start with
two byte order marks.
-/

namespace DocCoverage

open FileTree Selection Coverage Text

section AddFile

variable {tree : Node} {working place resolved path : List String} {root name : String}
  {access : Access} {content : List UInt8} {readable : Bool} {skips : String → Bool}

/-- What a scan meets after a file is added, and is not that file, it has met before. -/
theorem meets_of_addFile
    (hplace : tree.kindAt place = some (.directory access))
    (hfresh : tree.kindAt (place ++ [name]) = none)
    (hroot : resolve { entryCheck := .names } tree working root = .ok resolved)
    (hmeets : Meets skips (tree.addFile place name content readable) working root resolved path)
    (hother : resolved ++ path ≠ place ++ [name]) : Meets skips tree working root resolved path := by
  have hextends := extends_addFile hplace hfresh content readable
  have hresolve {resolution : Resolution} {names : List String} (hnames : resolve resolution
      (tree.addFile place name content readable) working root = .ok names) :
      resolve resolution tree working root = .ok names :=
    (resolve_compare hroot rfl hextends hnames).1
  obtain ⟨⟨names, hnames⟩, hreaches, hdirect⟩ := hmeets
  refine ⟨⟨names, hresolve hnames⟩, hreaches.congr fun front hfront => ?_,
    fun hnil => hresolve (hdirect hnil)⟩
  -- the added file is not on the way, where directories are
  rw [kindAt_addFile hplace hfresh, if_neg]
  intro hplaced
  obtain ⟨rest, rfl⟩ := hfront
  cases rest with
  | nil => exact hother (by rwa [List.append_nil])
  | cons next rest =>
    obtain ⟨found, hdirectory⟩ := hreaches.kinds.2 front next rest rfl
    rw [kindAt_addFile hplace hfresh, if_pos hplaced] at hdirectory
    cases hdirectory

/-- What is read of an added file that a scan meets are its bytes. -/
theorem content_eq_of_addFile (hnamed : WellNamed tree)
    (hplace : tree.kindAt place = some (.directory access)) (hname : IsFileName name)
    (hfresh : tree.kindAt (place ++ [name]) = none)
    (hroot : resolve { entryCheck := .names } (tree.addFile place name content readable) working root =
      .ok resolved)
    (hmeets : Meets skips (tree.addFile place name content readable) working root resolved path)
    (hplaced : resolved ++ path = place ++ [name]) {bytes : List UInt8}
    (hread : fileContent (tree.addFile place name content readable) working (openedPath root path) =
      .ok bytes) : bytes = content := by
  have hkind := kindAt_of_fileContent_openedPath (hnamed.addFile hplace hname content readable) hroot
    hmeets hread
  rw [hplaced, kindAt_addFile hplace hfresh, if_pos rfl] at hkind
  exact (Kind.file.inj (Option.some.inj hkind)).1.symm

/-- After a file is added, a scan finds the same files, or those and the added one. -/
theorem scan_addFile {settings : Settings} {result : ScanResult} (hnamed : WellNamed tree)
    (hscan : scan settings tree working root = .ok result)
    (hplace : tree.kindAt place = some (.directory access)) (hname : IsFileName name)
    (hfresh : tree.kindAt (place ++ [name]) = none) (content : List UInt8) (readable : Bool) :
    ∃ resolved result',
      resolve { entryCheck := .names } (tree.addFile place name content readable) working root =
        .ok resolved ∧
      scan settings (tree.addFile place name content readable) working root = .ok result' ∧
      Increasing result'.files ∧
      ((∀ path ∈ result'.files, resolved ++ path ≠ place ++ [name]) → result'.files = result.files) ∧
      ∀ path ∈ result'.files, resolved ++ path = place ++ [name] →
        Meets (fun _ => false) (tree.addFile place name content readable) working root resolved path ∧
        ∃ before after, result.files = before ++ after ∧ result'.files = before ++ path :: after := by
  obtain ⟨patterns, resolved, hpatterns, hroot⟩ := exists_resolve_of_scan hscan
  have hextends := extends_addFile hplace hfresh content readable
  have hroot' := resolve_mono hextends hroot
  obtain ⟨found, hfound, hincreasing, hmem⟩ := exists_scan hnamed hpatterns hroot
  obtain rfl := Except.ok.inj (hscan.symm.trans hfound)
  obtain ⟨result', hscan', hincreasing', hmem'⟩ :=
    exists_scan (hnamed.addFile hplace hname content readable) hpatterns hroot'
  -- what was selected is what is selected and not the added file
  have hothers (path : List String) :
      path ∈ result.files ↔ path ∈ result'.files ∧ resolved ++ path ≠ place ++ [name] := by
    rw [hmem, hmem']
    constructor
    · rintro ⟨hmeets, hselected⟩
      refine ⟨⟨hmeets.mono hextends, hselected⟩, fun hplaced => ?_⟩
      obtain ⟨⟨bytes, mode, hfile⟩, -⟩ := hmeets.reaches.kinds
      rw [hplaced, hfresh] at hfile
      cases hfile
    · rintro ⟨⟨hmeets, hselected⟩, hother⟩
      exact ⟨meets_of_addFile hplace hfresh hroot hmeets hother, hselected⟩
  refine ⟨resolved, result', hroot', hscan', hincreasing', fun hnone => ?_, fun path hpath hplaced => ?_⟩
  · refine hincreasing'.eq_of_mem_iff hincreasing fun path => ?_
    rw [hothers]
    exact ⟨fun hpath => ⟨hpath, hnone path hpath⟩, fun hpath => hpath.1⟩
  · refine ⟨((hmem' path).mp hpath).1, hincreasing.exists_insert hincreasing' hpath ?_⟩
    intro other
    rw [hothers, ← hplaced, Ne, List.append_cancel_left_eq]

end AddFile

/-- A report with one more row than another, at the place of its path, and with totals that count this
row too. -/
structure InsertsRow (row : Record) (report larger : Report) : Prop where
  rows : ∃ before after, report.files = before ++ after ∧ larger.files = before ++ row :: after ∧
    (∀ other ∈ before, utf8Bytes other.path < utf8Bytes row.path) ∧
    ∀ other ∈ after, utf8Bytes row.path < utf8Bytes other.path
  total : larger.totals.total = report.totals.total + row.total
  documented : larger.totals.documented = report.totals.documented + row.documented

/-- One more row adds its count to a sum. -/
theorem sumOf_append_cons (count : Record → Nat) (before after : List Record) (row : Record) :
    sumOf count (before ++ row :: after) = sumOf count (before ++ after) + count row := by
  induction before with
  | nil => exact Nat.add_comm _ _
  | cons first rest ih =>
    simp only [sumOf, List.cons_append, List.foldr_cons] at ih ⊢
    omega

/-- A row between others that is in the order of the paths. -/
theorem insertsRow_ofRecords {before after : List Record} {row : Record}
    (hordered : (before ++ row :: after).Pairwise fun a b => a.path < b.path) :
    InsertsRow row (.ofRecords (before ++ after)) (.ofRecords (before ++ row :: after)) where
  rows := by
    obtain ⟨-, hafter, hbefore⟩ := List.pairwise_append.mp hordered
    refine ⟨before, after, rfl, rfl, fun other hother => ?_, fun other hother => ?_⟩
    · exact utf8Bytes_lt_of_lt (hbefore other hother row List.mem_cons_self)
    · exact utf8Bytes_lt_of_lt ((List.pairwise_cons.mp hafter).1 other hother)
  total := sumOf_append_cons Record.total before after row
  documented := sumOf_append_cons Record.documented before after row

/-- The records of files in the order of their paths are in that order. -/
theorem pairwise_path_of_records {tree : Node} {working : List String} {root : String}
    {paths : List (List String)} {rows : List Record} (hpaths : Increasing paths)
    (hrows : List.Forall₂ SelectedFile.Records (paths.map (SelectedFile.read tree working root)) rows) :
    rows.Pairwise fun a b => a.path < b.path := by
  have hmap := map_path_of_records hrows
  rw [List.map_map] at hmap
  rw [← List.pairwise_map, hmap, List.pairwise_map]
  exact hpaths

/-- Files that have records are the same where more is seen. -/
theorem map_read_of_extends {tree larger : Node} {working : List String} {root : String}
    {paths : List (List String)} {rows : List Record} (hextends : Extends tree.kindAt larger.kindAt)
    (hrows : List.Forall₂ SelectedFile.Records (paths.map (SelectedFile.read tree working root)) rows) :
    paths.map (SelectedFile.read larger working root) =
      paths.map (SelectedFile.read tree working root) := by
  induction paths generalizing rows with
  | nil => rfl
  | cons path rest ih =>
    cases hrows with
    | cons hfirst hrest =>
      obtain ⟨unit, hload, -⟩ := hfirst
      obtain ⟨content, hcontent⟩ := exists_content_of_load hload
      change fileContent tree working (openedPath root path) = .ok content at hcontent
      rw [List.map_cons, List.map_cons, ih hrest, SelectedFile.read, SelectedFile.read, hcontent,
        fileContent_mono hextends hcontent]

/-- A loaded unit without a tally is that of a file that starts with two marks. -/
theorem twoMarks_of_tally?_eq_none {path : String} {content : Except FileError (List UInt8)}
    {unit : SourceUnit} {validate : List Char → List DocComment.Diagnostic}
    (hload : loadUnit path content = .ok unit) (hnone : tally? validate unit = none) :
    ∃ text, content.bind decodeText = .ok text ∧ ['\ufeff', '\ufeff'] <+: text := by
  obtain ⟨text, items, htext, hunit, hread, hdeclarations⟩ := loadUnit_eq_ok hload
  refine ⟨text, htext, ?_⟩
  by_contra hmarks
  rw [← head?_dropByteOrderMark_eq_iff, ← hunit] at hmarks
  obtain ⟨record, hrecord⟩ := exists_tally_of_offsetsInText hdeclarations
    ((offsetsInText_iff hread).mpr (.inl hmarks)) validate
  cases hnone.symm.trans hrecord

/-- After a file is added to a directory of a tree, a check reports the same if the file is not
selected. If it is selected, the check fails where it cannot be loaded. Where it can, the check reports
its record in one more row, at the place of its path, unless its unit has no tally. Then the check
fails too, and the file starts with two byte order marks. -/
theorem check_addFile {tree larger : Node} {working place : List String} {root name : String}
    {access : Access} {report : Report} {content : List UInt8} {readable : Bool}
    (hnamed : WellNamed tree) (hcheck : check tree working root = .ok report)
    (hplace : tree.kindAt place = some (.directory access)) (hname : IsFileName name)
    (hfresh : tree.kindAt (place ++ [name]) = none)
    (hadd : larger = tree.addFile place name content readable) :
    ∃ resolved result, resolve { entryCheck := .names } larger working root = .ok resolved ∧
      scan .standard larger working root = .ok result ∧
      ((∀ path ∈ result.files, resolved ++ path ≠ place ++ [name]) →
        check larger working root = .ok report) ∧
      ∀ path ∈ result.files, resolved ++ path = place ++ [name] →
        (∀ error, (SelectedFile.read larger working root path).load = .error error →
          check larger working root = .error (.load error)) ∧
        ∀ unit, (SelectedFile.read larger working root path).load = .ok unit →
          loadUnit (displayPath path) (.ok content) = .ok unit ∧
          (∀ row, tally? DocComment.validate unit = some row →
            ∃ report', check larger working root = .ok report' ∧ InsertsRow row report report') ∧
          (tally? DocComment.validate unit = none →
            check larger working root = .error (.splitCharacter (displayPath path)) ∧
            ∃ text, decodeText content = .ok text ∧ ['\ufeff', '\ufeff'] <+: text) := by
  subst hadd
  obtain ⟨before, hbefore, hreport⟩ := exists_scan_of_check hcheck
  obtain ⟨rows, hrows, rfl⟩ := reportOn_eq_ok_iff.mp hreport
  obtain ⟨resolved, result, hroot, hscan, hincreasing, hsame, hadded⟩ :=
    scan_addFile hnamed hbefore hplace hname hfresh content readable
  have hextends := extends_addFile hplace hfresh content readable
  have hreads : check (tree.addFile place name content readable) working root = reportOn
      (result.files.map (SelectedFile.read (tree.addFile place name content readable) working root)) := by
    rw [check, hscan]
    rfl
  refine ⟨resolved, result, hroot, hscan, fun hnone => ?_, fun path hpath hplaced => ?_⟩
  · rw [hreads, hsame hnone, map_read_of_extends hextends hrows]
    exact hreport
  obtain ⟨hmeets, front, rest, hfiles, hfiles'⟩ := hadded path hpath hplaced
  -- the files on both sides of the added one have the records that they had
  rw [← map_read_of_extends hextends hrows, hfiles, List.map_append] at hrows
  obtain ⟨rows₁, rows₂, rfl, hrows₁, hrows₂⟩ := exists_append_of_records hrows
  refine ⟨fun error hload => ?_, fun unit hload => ?_⟩
  · rw [hreads, hfiles', List.map_append, List.map_cons, reportOn_of_load_eq_error hrows₁ hload]
  obtain ⟨bytes, hbytes⟩ := exists_content_of_load hload
  have hcontent := content_eq_of_addFile hnamed hplace hname hfresh hroot hmeets hplaced hbytes
  have hunit : loadUnit (displayPath path) (.ok content) = .ok unit := by
    rw [← hcontent, ← hbytes]
    exact hload
  refine ⟨hunit, fun row hrow => ?_, fun hnone => ?_⟩
  · have hrows' : List.Forall₂ SelectedFile.Records (result.files.map
        (SelectedFile.read (tree.addFile place name content readable) working root))
        (rows₁ ++ row :: rows₂) := by
      rw [hfiles', List.map_append, List.map_cons]
      exact List.rel_append hrows₁ (.cons ⟨unit, hload, hrow⟩ hrows₂)
    refine ⟨.ofRecords (rows₁ ++ row :: rows₂), ?_,
      insertsRow_ofRecords (pairwise_path_of_records hincreasing hrows')⟩
    rw [hreads]
    exact reportOn_eq_ok_iff.mpr ⟨_, hrows', rfl⟩
  · rw [hreads, hfiles', List.map_append, List.map_cons,
      reportOn_of_tally?_eq_none hrows₁ hrows₂ hload hnone, path_eq_of_loadUnit hunit]
    exact ⟨rfl, twoMarks_of_tally?_eq_none hunit hnone⟩

section Here

variable (entries : List (String × Node))

/-- The directory that paths start from. -/
theorem resolve_here (resolution : Resolution) :
    resolve resolution (.directory .full entries) [] "." = .ok [] := by
  have hsteps : stepsOf "." = [.stay] := by decide
  rw [resolve_eq_ok_iff, hsteps]
  exact ⟨by decide, .remain (.inr rfl) rfl (fun _ => rfl) (.arrive _ _)⟩

/-- A scan of the directory that paths start from. -/
theorem scan_here :
    scan .standard (.directory .full entries) [] "." =
      .ok (.ofVisits standardPatterns "node_modules" []
        (visits (holdsExcluded "node_modules") true [] (.directory .full entries))) := by
  have hfree : ¬ holdsExcluded Settings.standard.excluded (absolutePath []) = true := by decide
  simp only [scan, compilePatterns_standard, resolve_here, if_neg hfree, visitsFrom, Except.map,
    Node.find?_nil]
  rfl

/-- What is read of a file in the directory that paths start from. -/
theorem read_here {entries : List (String × Node)} {name : String} {content : List UInt8}
    (hname : IsFileName name) (hlookup : entries.lookup name = some (.file content true)) :
    SelectedFile.read (.directory .full entries) [] "." [name] = ⟨name, .ok content⟩ := by
  have hshown : displayPath [name] = name := rfl
  have hopened : openedPath "." [name] = "." ++ "/" ++ name := rfl
  have hsteps : stepsOf ("." ++ "/" ++ name) = [.stay, .down name] := by
    have hdown := stepsOf_displayPath (List.cons_ne_nil name []) (by simpa using hname)
    rw [hshown] at hdown
    rw [stepsOf_append_slash, hdown]
    rfl
  have hkind : (Node.directory .full entries).kindAt [name] = some (.file content true) := by
    simp [hlookup, Node.kind]
  have hread : fileContent (.directory .full entries) [] ("." ++ "/" ++ name) = .ok content := by
    refine fileContent_eq_ok_iff.mpr ⟨[name], ?_, hkind⟩
    rw [resolve_eq_ok_iff, hsteps, ite_self]
    exact ⟨by simp, .remain (.inr rfl) rfl (fun _ => rfl)
      (.descend rfl (fun _ => rfl) hkind (by simp) (.arrive _ _))⟩
  rw [SelectedFile.read, hshown, hopened, hread]

end Here

/-- A directory with one source file. -/
def singleSource (content : List UInt8) : Node :=
  .directory .full [("m.ts", .file content true)]

/-- A scan finds one source file. -/
theorem scan_singleSource (content : List UInt8) :
    scan .standard (singleSource content) [] "." = .ok ⟨[["m.ts"]], []⟩ := by
  have hvisits : visits (holdsExcluded "node_modules") true []
      (.directory .full [("m.ts", .file content true)]) = [.file ["m.ts"]] := rfl
  have hselected : isSelected standardPatterns "node_modules" [] ["m.ts"] = true := by decide +kernel
  rw [singleSource, scan_here, hvisits]
  simp [ScanResult.ofVisits, Visit.file?, Visit.unlistable?, hselected, sortPaths]

/-- A check of one source file reports on it. -/
theorem check_singleSource (content : List UInt8) :
    check (singleSource content) [] "." = reportOn [⟨"m.ts", .ok content⟩] := by
  rw [check, scan_singleSource]
  simp only [readSelected, List.map_cons, List.map_nil, singleSource]
  rw [read_here (by decide) rfl]

/-- A file without comments: `function f(){}`. -/
def plainFile : List UInt8 := [102, 117, 110, 99, 116, 105, 111, 110, 32, 102, 40, 41, 123, 125]

/-- A file with one mark is added in front of an undocumented one: its row is inserted. -/
theorem singleSource_check_addFile :
    ∃ report, check ((singleSource plainFile).addFile [] "a.ts" oneMarkFile true) [] "." = .ok report ∧
      InsertsRow ⟨"a.ts", 1, 1, []⟩ ⟨[⟨"m.ts", 1, 0, [⟨1, 1⟩]⟩], ⟨1, 0⟩⟩ report := by
  have hnamed : WellNamed (singleSource plainFile) :=
    .directory (by decide) (by decide) (by simp [WellNamed.file])
  have hcheck : check (singleSource plainFile) [] "." =
      .ok ⟨[⟨"m.ts", 1, 0, [⟨1, 1⟩]⟩], ⟨1, 0⟩⟩ := by
    rw [check_singleSource]
    exact eq_ok_of_toOption_eq_some (by decide +kernel)
  have hadd : (singleSource plainFile).addFile [] "a.ts" oneMarkFile true =
      .directory .full [("m.ts", .file plainFile true), ("a.ts", .file oneMarkFile true)] := rfl
  obtain ⟨resolved, result, hroot, hscan, -, hadded⟩ :=
    check_addFile hnamed hcheck rfl (by decide) rfl hadd.symm
  obtain rfl := Except.ok.inj ((resolve_here _ _).symm.trans hroot)
  have hfiles : ["a.ts"] ∈ result.files := by
    obtain rfl := Except.ok.inj ((scan_here _).symm.trans hscan)
    rw [ScanResult.ofVisits, mem_sortPaths_iff, List.mem_filter]
    exact ⟨by decide, by decide +kernel⟩
  have hload : (SelectedFile.read (.directory .full [("m.ts", .file plainFile true),
      ("a.ts", .file oneMarkFile true)]) [] "." ["a.ts"]).load =
      .ok ⟨"a.ts", "a('€')\n/** D. */\nfunction g(){}".toList, [⟨"g", .function, 8, ⟨3, 3⟩⟩]⟩ := by
    rw [read_here (by decide) rfl]
    exact eq_ok_of_toOption_eq_some (by decide +kernel)
  obtain ⟨-, hrow, -⟩ := (hadded ["a.ts"] hfiles rfl).2 _ hload
  rw [hadd]
  exact hrow _ (by decide +kernel)

/-- A file with two marks and a character of three bytes: `a('€')`, and after it a documented
function. -/
def splitCharacterFile : List UInt8 := 239 :: 187 :: 191 :: oneMarkFile

/-- A file with two marks is selected and can be loaded, and no report has a row for it: a check with
this file fails, where one without it succeeds. -/
theorem splitCharacterFile_check :
    check .empty [] "." = .ok ⟨[], ⟨0, 0⟩⟩ ∧
      Node.empty.addFile [] "m.ts" splitCharacterFile true = singleSource splitCharacterFile ∧
      scan .standard (singleSource splitCharacterFile) [] "." = .ok ⟨[["m.ts"]], []⟩ ∧
      (∃ unit, loadUnit "m.ts" (.ok splitCharacterFile) = .ok unit) ∧
      check (singleSource splitCharacterFile) [] "." = .error (.splitCharacter "m.ts") := by
  have hempty : scan .standard (.directory .full []) [] "." = .ok ⟨[], []⟩ := by
    rw [scan_here]
    simp [visits, visitsBelow, ScanResult.ofVisits, sortPaths, Access.full]
  have hload : SelectedFile.load ⟨"m.ts", .ok splitCharacterFile⟩ =
      .ok ⟨"m.ts", '\ufeff' :: "a('€')\n/** D. */\nfunction g(){}".toList,
        [⟨"g", .function, 8, ⟨2, 3⟩⟩]⟩ :=
    eq_ok_of_toOption_eq_some (by decide +kernel)
  refine ⟨?_, rfl, scan_singleSource _, ⟨_, hload⟩, ?_⟩
  · rw [Node.empty, check, hempty]
    rfl
  · rw [check_singleSource]
    exact reportOn_of_tally?_eq_none .nil .nil hload (by decide +kernel)

end DocCoverage
