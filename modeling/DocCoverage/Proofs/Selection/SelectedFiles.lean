import DocCoverage.Proofs.FileTree.Changes
import DocCoverage.Proofs.Selection.Paths
import DocCoverage.Proofs.Selection.Walk
import DocCoverage.Proofs.Text.ByteOrder

/-!
# Which files a scan selects

A scan selects the files that its walk meets, whose resolved paths do not hold the excluded text, and
that match a pattern. It lists them in the strict order of their paths. The directories that the walk
skips hold nothing that would be selected, so that the scan without skipping finds the same; and as
the list is sorted, it does not depend on the order of the entries of directories.
-/

namespace DocCoverage.Selection

open FileTree Text

/-- A scan from a root on, which is also given resolved, meets the file at a path below it. A root
that is a link is followed to a directory only, so that a root is a file where it is no link. -/
structure Meets (skips : String → Bool) (tree : Node) (working : List String) (root : String)
    (resolved path : List String) : Prop where
  opened : ∃ names, resolve {} tree working root = .ok names
  reaches : Reaches skips true (fun below => tree.kindAt (resolved ++ below)) path
  direct : path = [] → resolve { followsLast := false } tree working root = .ok resolved

section Root

variable {tree : Node} {working resolved : List String} {root : String}

/-- The visits at the node of a resolved root. -/
theorem file_mem_visits_resolved_iff (hnamed : WellNamed tree) {node : Node}
    (hfind : tree.find? resolved = some node) (skips : String → Bool) (path : List String) :
    Visit.file path ∈ visits skips true [] node ↔
      Reaches skips true (fun below => tree.kindAt (resolved ++ below)) path := by
  have hview : (fun below => tree.kindAt (resolved ++ below)) = node.kindAt := by
    funext below
    exact Node.kindAt_append hfind below
  rw [hview, file_mem_visits_iff (hnamed.find? hfind)]
  simp

/-- A file is met at the start of a walk or in a directory. -/
theorem Meets.kind {skips : String → Bool} {path : List String}
    (h : Meets skips tree working root resolved path) :
    (∃ access, tree.kindAt resolved = some (.directory access)) ∨
      resolve { followsLast := false } tree working root = .ok resolved ∧
        ∃ content readable, tree.kindAt resolved = some (.file content readable) := by
  obtain ⟨-, hreaches, hdirect⟩ := h
  cases path with
  | nil =>
    obtain ⟨content, readable, hfile⟩ := hreaches
    exact .inr ⟨hdirect rfl, content, readable, by simpa using hfile⟩
  | cons name rest =>
    obtain ⟨access, hdirectory, -⟩ := hreaches
    exact .inl ⟨access, by simpa using hdirectory⟩

/-- What a scan meets, it meets where more is seen. -/
theorem Meets.mono {skips : String → Bool} {larger : Node} {path : List String}
    (h : Meets skips tree working root resolved path)
    (hextends : Extends tree.kindAt larger.kindAt) :
    Meets skips larger working root resolved path := by
  obtain ⟨⟨names, hnames⟩, hreaches, hdirect⟩ := h
  exact ⟨⟨names, resolve_mono hextends hnames⟩, hreaches.mono fun below => hextends (resolved ++ below),
    fun hnil => resolve_mono hextends (hdirect hnil)⟩

/-- A root that can be opened is opened where it is resolved to. -/
theorem resolve_resolved (hroot : resolve { entryCheck := .names } tree working root = .ok resolved)
    {names : List String} (hopened : resolve {} tree working root = .ok names) : names = resolved :=
  resolve_unique hroot rfl hopened rfl

/-- From a root that cannot be opened nothing is visited. -/
theorem visitsFrom_of_not_opened (skips : String → Bool)
    (hopened : ∀ names, resolve {} tree working root ≠ .ok names) :
    visitsFrom skips tree working root resolved = [.unlistable []] := by
  rw [visitsFrom]
  cases hlook : resolve { followsLast := false } tree working root with
  | error error => rfl
  | ok names =>
    -- a root that can be looked at and not opened is a link
    obtain ⟨kind, hkind⟩ := exists_kindAt_of_resolve hlook
    obtain ⟨node, hfind, rfl⟩ := Node.exists_find?_of_kindAt hkind
    obtain ⟨error, herror⟩ : ∃ error, resolve {} tree working root = .error error := by
      cases hresolve : resolve {} tree working root with
      | error error => exact ⟨error, rfl⟩
      | ok names => exact absurd hresolve (hopened names)
    have hlink : ∃ target, node = .link target := by
      by_contra hnot
      refine hopened names (resolve_follows_of_not_link hlook fun target htarget => ?_)
      rw [hkind] at htarget
      cases node with
      | link found => exact hnot ⟨found, rfl⟩
      | file | directory => cases htarget
    obtain ⟨target, rfl⟩ := hlink
    simp only [Except.map, hfind, herror]

/-- From a root that can be opened a directory is visited, and a file where the root is no link. -/
theorem visitsFrom_of_opened (skips : String → Bool)
    (hopened : resolve {} tree working root = .ok resolved) {node : Node}
    (hfind : tree.find? resolved = some node) :
    visitsFrom skips tree working root resolved =
      if node.isDirectory = true ∨
          resolve { followsLast := false } tree working root = .ok resolved then
        visits skips true [] node
      else [] := by
  obtain ⟨names, hlook⟩ : ∃ names, resolve { followsLast := false } tree working root = .ok names :=
    exists_resolve_of_weaker hopened rfl fun _ hstops => hstops
  rw [visitsFrom, hlook, hopened]
  obtain ⟨-, rfl | ⟨-, target, hlink⟩⟩ :=
    resolve_compare hopened rfl (fun _ _ hkind => hkind) hlook
  · rw [if_pos (.inr rfl)]
    simp only [Except.map, hfind]
    cases node with
    | file | directory => rfl
    | link target => rw [visits]
  · obtain ⟨found, hfound, hkind⟩ := Node.exists_find?_of_kindAt hlink
    obtain ⟨target, rfl⟩ : ∃ target, found = .link target := by
      cases found with
      | link target => exact ⟨target, rfl⟩
      | file | directory => cases hkind
    simp only [Except.map, hfound, hfind]
    cases node with
    | directory access entries => rw [if_pos (.inl rfl)]
    | file content readable =>
      rw [if_neg]
      rintro (hdirectory | hsame)
      · cases hdirectory
      · obtain rfl := Except.ok.inj hsame
        cases hfound.symm.trans hfind
    | link target => rw [visits, ite_self]

/-- The visits from a root on meet the files that a scan meets. -/
theorem file_mem_visitsFrom_iff (hnamed : WellNamed tree)
    (hroot : resolve { entryCheck := .names } tree working root = .ok resolved)
    (skips : String → Bool) (path : List String) :
    Visit.file path ∈ visitsFrom skips tree working root resolved ↔
      Meets skips tree working root resolved path := by
  by_cases hopened : ∃ names, resolve {} tree working root = .ok names
  · obtain ⟨names, hnames⟩ := hopened
    obtain rfl := resolve_resolved hroot hnames
    obtain ⟨kind, hkind⟩ := exists_kindAt_of_resolve hroot
    obtain ⟨node, hfind, rfl⟩ := Node.exists_find?_of_kindAt hkind
    rw [visitsFrom_of_opened skips hnames hfind]
    split
    · next hvisited =>
      rw [file_mem_visits_resolved_iff hnamed hfind]
      refine ⟨fun h => ⟨⟨_, hnames⟩, h, ?_⟩, fun h => h.reaches⟩
      rintro rfl
      rcases hvisited with hdirectory | hdirect
      · obtain ⟨content, readable, hfile⟩ := h
        obtain ⟨access, haccess⟩ := node.isDirectory_iff.mp hdirectory
        simp only [List.append_nil, hkind, haccess] at hfile
        cases hfile
      · exact hdirect
    · next hnot =>
      refine iff_of_false List.not_mem_nil fun h => hnot ?_
      rcases h.kind with ⟨access, hdirectory⟩ | ⟨hdirect, -⟩
      · exact .inl (node.isDirectory_iff.mpr ⟨access, Option.some.inj (hkind.symm.trans hdirectory)⟩)
      · exact .inr hdirect
  · rw [visitsFrom_of_not_opened skips fun names hnames => hopened ⟨names, hnames⟩]
    refine iff_of_false (by simp) fun h => hopened h.opened

/-- Every visit from a root on is made once. -/
theorem nodup_visitsFrom (hnamed : WellNamed tree)
    (hroot : resolve { entryCheck := .names } tree working root = .ok resolved)
    (skips : String → Bool) : (visitsFrom skips tree working root resolved).Nodup := by
  by_cases hopened : ∃ names, resolve {} tree working root = .ok names
  · obtain ⟨names, hnames⟩ := hopened
    obtain rfl := resolve_resolved hroot hnames
    obtain ⟨kind, hkind⟩ := exists_kindAt_of_resolve hroot
    obtain ⟨node, hfind, -⟩ := Node.exists_find?_of_kindAt hkind
    rw [visitsFrom_of_opened skips hnames hfind]
    split
    · exact nodup_visits (hnamed.find? hfind) skips true []
    · exact List.nodup_nil
  · rw [visitsFrom_of_not_opened skips fun names hnames => hopened ⟨names, hnames⟩]
    exact List.nodup_singleton _

end Root

/-- A file is selected where its resolved path does not hold the excluded text and a pattern matches
its path. -/
theorem isSelected_iff (patterns : List Glob.Pattern) (excluded : String) (root path : List String) :
    isSelected patterns excluded root path = true ↔
      ¬ excluded.toList <:+: (resolvedPath root path).toList ∧
        ∃ pattern ∈ patterns, pattern.accepts (displayPath path) = true := by
  rw [isSelected, Bool.and_eq_true, List.any_eq_true, Bool.not_eq_true', ← Bool.not_eq_true,
    holdsExcluded_iff]

section Selected

variable {settings : Settings} {patterns : List Glob.Pattern} {excluded : String} {tree : Node}
  {working resolved : List String} {root : String}

/-- Nothing that a walk skips would be selected. -/
theorem meets_and_isSelected_iff (path : List String) :
    Meets (holdsExcluded excluded) tree working root resolved path ∧
        isSelected patterns excluded resolved path = true ↔
      Meets (fun _ => false) tree working root resolved path ∧
        isSelected patterns excluded resolved path = true := by
  refine and_congr_left fun hselected => ?_
  obtain ⟨hfree, -⟩ := (isSelected_iff _ _ _ _).mp hselected
  have hnames : ∀ name ∈ path.dropLast, holdsExcluded excluded name = false := by
    intro name hname
    rw [← Bool.not_eq_true, holdsExcluded_iff]
    intro hholds
    have hmem := (List.dropLast_sublist path).subset hname
    exact hfree (hholds.trans (infix_resolvedPath_of_mem hmem resolved))
  constructor
  · rintro ⟨hopened, hreaches, hdirect⟩
    exact ⟨hopened, ((reaches_iff_of_skips _ _ _ _).mp hreaches).1, hdirect⟩
  · rintro ⟨hopened, hreaches, hdirect⟩
    exact ⟨hopened, (reaches_iff_of_skips _ _ _ _).mpr ⟨hreaches, hnames⟩, hdirect⟩

/-- The files selected from the visits of a scan are those it meets that are selected. -/
theorem mem_files_ofVisits_iff (hnamed : WellNamed tree)
    (hroot : resolve { entryCheck := .names } tree working root = .ok resolved)
    (skips : String → Bool) (path : List String) :
    path ∈ (ScanResult.ofVisits patterns excluded resolved
        (visitsFrom skips tree working root resolved)).files ↔
      Meets skips tree working root resolved path ∧
        isSelected patterns excluded resolved path = true := by
  rw [ScanResult.ofVisits, mem_sortPaths_iff, List.mem_filter, ← file_mem_visitsFrom_iff hnamed hroot,
    ← mem_filePaths_iff, filePaths]

/-- The files selected from the visits of a scan are in strict order. -/
theorem increasing_files_ofVisits (hnamed : WellNamed tree)
    (hroot : resolve { entryCheck := .names } tree working root = .ok resolved)
    (skips : String → Bool) :
    Increasing (ScanResult.ofVisits patterns excluded resolved
      (visitsFrom skips tree working root resolved)).files := by
  rw [ScanResult.ofVisits]
  refine increasing_sortPaths ((nodup_filePaths (nodup_visitsFrom hnamed hroot skips)).filter _) ?_
  intro path hpath name hname
  rw [List.mem_filter] at hpath
  have hmeets := (file_mem_visitsFrom_iff hnamed hroot skips path).mp
    ((mem_filePaths_iff _ _).mp hpath.1)
  obtain ⟨⟨content, readable, hfile⟩, -⟩ := hmeets.reaches.kinds
  exact hnamed.isFileName hfile name (List.mem_append_right _ hname)

/-- A scan with valid patterns from a root that can be resolved finds the files that are met and
selected, in strict order. -/
theorem exists_scan (hnamed : WellNamed tree)
    (hpatterns : compilePatterns settings.patterns = .ok patterns)
    (hroot : resolve { entryCheck := .names } tree working root = .ok resolved) :
    ∃ result, scan settings tree working root = .ok result ∧ Increasing result.files ∧
      ∀ path, path ∈ result.files ↔ Meets (fun _ => false) tree working root resolved path ∧
        isSelected patterns settings.excluded resolved path = true := by
  simp only [scan, hpatterns, hroot]
  split
  · next hholds =>
    refine ⟨_, rfl, List.Pairwise.nil, fun path => iff_of_false List.not_mem_nil ?_⟩
    rintro ⟨-, hselected⟩
    obtain ⟨hfree, -⟩ := (isSelected_iff _ _ _ _).mp hselected
    rw [holdsExcluded_iff] at hholds
    exact hfree (hholds.trans (absolutePath_infix_resolvedPath resolved path))
  · refine ⟨_, rfl, increasing_files_ofVisits hnamed hroot _, fun path => ?_⟩
    rw [mem_files_ofVisits_iff hnamed hroot, meets_and_isSelected_iff]

end Selected

/-- A scan that succeeds has valid patterns and a root that can be resolved. -/
theorem exists_resolve_of_scan {settings : Settings} {tree : Node} {working : List String}
    {root : String} {result : ScanResult} (hscan : scan settings tree working root = .ok result) :
    ∃ patterns resolved, compilePatterns settings.patterns = .ok patterns ∧
      resolve { entryCheck := .names } tree working root = .ok resolved := by
  rw [scan] at hscan
  split at hscan
  · cases hscan
  · cases hscan
  · next patterns resolved hpatterns hresolved => exact ⟨patterns, resolved, hpatterns, hresolved⟩

/-- Every directory that a walk from a root on comes by may be listed: the root can be opened, and a
directory below it may be listed, and entered if it holds directories. -/
structure Listable (tree : Node) (working : List String) (root : String) (resolved : List String) :
    Prop where
  opened : ∃ names, resolve {} tree working root = .ok names
  lists : ∀ path access, tree.kindAt (resolved ++ path) = some (.directory access) →
    access.list = true
  enters : ∀ path name access below, tree.kindAt (resolved ++ path) = some (.directory access) →
    tree.kindAt (resolved ++ (path ++ [name])) = some (.directory below) → access.enter = true

/-- A tree without restrictions is listable from every root on. -/
theorem listable_of_unrestricted {tree : Node} {working resolved : List String} {root : String}
    (hopen : Unrestricted tree)
    (hroot : resolve { entryCheck := .names } tree working root = .ok resolved) :
    Listable tree working root resolved where
  opened := by
    obtain ⟨hpath, hleads⟩ := resolve_eq_ok_iff.mp hroot
    obtain ⟨names, hleads'⟩ := hleads.exists_of_enter rfl fun path access _ hkind _ _ => by
      rw [hopen.access_eq hkind]
      rfl
    exact ⟨names, resolve_eq_ok_iff.mpr ⟨hpath, hleads'⟩⟩
  lists path access hkind := by
    rw [hopen.access_eq hkind]
    rfl
  enters path name access below hkind _ := by
    rw [hopen.access_eq hkind]
    rfl

/-- A walk reaches a file where it may list the directories on the way to it. -/
theorem reaches_of_file {reachable : Bool} {view : View} {path : List String}
    {content : List UInt8} {readable : Bool} (hfile : view path = some (.file content readable))
    (hreachable : path ≠ [] → reachable = true)
    (hway : ∀ front name rest, path = front ++ name :: rest → ∃ access,
      view front = some (.directory access) ∧ access.list = true ∧
        ∀ below, view (front ++ [name]) = some (.directory below) → access.enter = true) :
    Reaches (fun _ => false) reachable view path := by
  induction path generalizing reachable view with
  | nil => exact ⟨content, readable, hfile⟩
  | cons name rest ih =>
    obtain ⟨access, hdirectory, hlist, henter⟩ := hway [] name rest rfl
    refine ⟨access, hdirectory, hreachable (by simp), hlist, fun _ => rfl, ih hfile ?_ ?_⟩
    · intro hrest
      obtain ⟨next, more, rfl⟩ := List.exists_cons_of_ne_nil hrest
      obtain ⟨below, hbelow, -⟩ := hway [name] next more rfl
      rw [hreachable (by simp), henter below hbelow]
      rfl
    · intro front next more hrest
      exact hway (name :: front) next more (by rw [hrest]; rfl)

/-- From a root whose directories may be listed, the files below are met. -/
theorem meets_iff_of_listable {tree : Node} {working resolved : List String} {root : String}
    (hlistable : Listable tree working root resolved) (path : List String) :
    Meets (fun _ => false) tree working root resolved path ↔
      (∃ content readable, tree.kindAt (resolved ++ path) = some (.file content readable)) ∧
        (path = [] → resolve { followsLast := false } tree working root = .ok resolved) := by
  constructor
  · rintro ⟨-, hreaches, hdirect⟩
    exact ⟨hreaches.kinds.1, hdirect⟩
  · rintro ⟨⟨content, readable, hfile⟩, hdirect⟩
    refine ⟨hlistable.opened, reaches_of_file hfile (fun _ => rfl) ?_, hdirect⟩
    rintro front name rest rfl
    rw [← List.append_assoc] at hfile
    obtain ⟨access, hdirectory⟩ := Node.exists_directory_of_kindAt_append hfile
    exact ⟨access, hdirectory, hlistable.lists front access hdirectory,
      fun below => hlistable.enters front name access below hdirectory⟩

/-- A scan selects exactly the files below its root, as they are shown, that do not hold the excluded
text and that match a pattern. They are listed in the strict order of their bytes. The scan that skips
no directory finds the same, and so does the scan of a reordered tree. -/
theorem scan_selects {settings : Settings} {patterns : List Glob.Pattern} {tree : Node}
    {working resolved : List String} {root : String} (hnamed : WellNamed tree)
    (hpatterns : compilePatterns settings.patterns = .ok patterns)
    (hroot : resolve { entryCheck := .names } tree working root = .ok resolved)
    (hlistable : Listable tree working root resolved) :
    ∃ result, scan settings tree working root = .ok result ∧
      (∀ shown, shown ∈ result.files.map displayPath ↔ ∃ path, displayPath path = shown ∧
        (∃ content readable, tree.kindAt (resolved ++ path) = some (.file content readable)) ∧
        (path = [] → resolve { followsLast := false } tree working root = .ok resolved) ∧
        ¬ settings.excluded.toList <:+: (resolvedPath resolved path).toList ∧
        ∃ pattern ∈ patterns, pattern.accepts shown = true) ∧
      ((result.files.map displayPath).map utf8Bytes).Pairwise (· < ·) ∧
      result.files = (ScanResult.ofVisits patterns settings.excluded resolved
        (visitsFrom (fun _ => false) tree working root resolved)).files ∧
      ∀ other, Reordered tree other → ∃ result', scan settings other working root = .ok result' ∧
        result'.files = result.files := by
  obtain ⟨result, hscan, hincreasing, hmem⟩ := exists_scan hnamed hpatterns hroot
  refine ⟨result, hscan, fun shown => ?_, ?_, ?_, fun other hother => ?_⟩
  · rw [List.mem_map]
    refine exists_congr fun path => ?_
    rw [hmem, meets_iff_of_listable hlistable, isSelected_iff]
    constructor
    · rintro ⟨⟨⟨hfile, hdirect⟩, hfree, hmatch⟩, rfl⟩
      exact ⟨rfl, hfile, hdirect, hfree, hmatch⟩
    · rintro ⟨rfl, hfile, hdirect, hfree, hmatch⟩
      exact ⟨⟨⟨hfile, hdirect⟩, hfree, hmatch⟩, rfl⟩
  · rw [List.pairwise_map, List.pairwise_map]
    exact hincreasing.imp utf8Bytes_lt_of_lt
  · refine hincreasing.eq_of_mem_iff (increasing_files_ofVisits hnamed hroot _) fun path => ?_
    rw [hmem, mem_files_ofVisits_iff hnamed hroot]
  · have hsmaller : Extends tree.kindAt other.kindAt := fun path kind hkind =>
      (hother.kindAt_eq hnamed path).trans hkind
    have hlarger : Extends other.kindAt tree.kindAt := fun path kind hkind =>
      (hother.kindAt_eq hnamed path).symm.trans hkind
    obtain ⟨result', hscan', hincreasing', hmem'⟩ :=
      exists_scan (hother.wellNamed hnamed) hpatterns (resolve_mono hsmaller hroot)
    refine ⟨result', hscan', hincreasing'.eq_of_mem_iff hincreasing fun path => ?_⟩
    rw [hmem, hmem']
    exact and_congr_left fun _ => ⟨fun h => h.mono hlarger, fun h => h.mono hsmaller⟩

/-- The patterns of every check. -/
def standardPatterns : List Glob.Pattern :=
  [⟨[.anyComponents, .anySequence, .literal '.', .literal 't', .literal 's']⟩,
    ⟨[.anyComponents, .anySequence, .literal '.', .literal 't', .literal 's', .literal 'x']⟩]

/-- The texts of the standard settings write these patterns. -/
theorem compilePatterns_standard :
    compilePatterns Settings.standard.patterns = .ok standardPatterns := by cbv

/-- A tree with a link to a directory of sources, which holds installed packages, a link to a part of
itself, and a file that is no source. -/
def linkedTree : Node :=
  .directory .full
    [("current", .link "src"),
      ("src", .directory .full
        [("node_modules", .directory .full [("x.ts", .file [] true)]),
          ("out", .link "lib"),
          ("lib", .directory .full [("a.ts", .file [] true), ("a.txt", .file [] true)]),
          ("b.ts", .file [] true)])]

/-- What is selected through a link to a directory: a file of a part of it, and neither the installed
packages nor what a link in it leads to. -/
theorem linkedTree_scan_selects :
    ∃ result, scan .standard linkedTree [] "current" = .ok result ∧
      "lib/a.ts" ∈ result.files.map displayPath ∧ "lib/a.txt" ∉ result.files.map displayPath ∧
      "node_modules/x.ts" ∉ result.files.map displayPath ∧
      "out/a.ts" ∉ result.files.map displayPath := by
  have hnamed : WellNamed linkedTree := by
    refine .directory (by decide) (by decide) ?_
    simp only [List.forall_mem_cons]
    refine ⟨.link _, .directory (by decide) (by decide) ?_, by simp⟩
    simp only [List.forall_mem_cons]
    refine ⟨.directory (by decide) (by decide) ?_, .link _, .directory (by decide) (by decide) ?_,
      .file _ _, by simp⟩
    all_goals simp [WellNamed.file]
  have hopen : Unrestricted linkedTree := by
    refine .directory ?_
    simp only [List.forall_mem_cons]
    refine ⟨.link _, .directory ?_, by simp⟩
    simp only [List.forall_mem_cons]
    refine ⟨.directory ?_, .link _, .directory ?_, .file _ _, by simp⟩
    all_goals simp [Unrestricted.file]
  have hroot : resolve { entryCheck := .names } linkedTree [] "current" = .ok ["src"] := by
    have hcurrent : stepsOf "current" = [.down "current"] := by decide
    have hsrc : stepsOf "src" = [.down "src"] := by decide
    rw [resolve_eq_ok_iff, hcurrent]
    refine ⟨by decide, .follow rfl (fun _ => rfl) rfl (fun _ => rfl) ?_⟩
    rw [hsrc]
    exact .descend rfl (fun _ => rfl) rfl (by simp [Node.kind]) (.arrive _ _)
  obtain ⟨result, hscan, hmem, -⟩ :=
    scan_selects hnamed compilePatterns_standard hroot (listable_of_unrestricted hopen hroot)
  refine ⟨result, hscan, ?_, ?_, ?_, ?_⟩
  · exact (hmem _).mpr ⟨["lib", "a.ts"], by decide, ⟨[], true, rfl⟩, by simp, by decide +kernel,
      _, List.mem_cons_self, by decide⟩
  · rw [hmem]
    rintro ⟨path, -, -, -, -, hmatch⟩
    revert hmatch
    decide
  · rw [hmem]
    rintro ⟨path, hshown, -, -, hfree, -⟩
    rw [resolvedPath, hshown] at hfree
    revert hfree
    decide +kernel
  · rw [hmem]
    rintro ⟨path, hshown, ⟨content, readable, hfile⟩, -⟩
    have hvalid : ∀ name ∈ path, IsFileName name := fun name hname =>
      hnamed.isFileName hfile name (List.mem_append_right _ hname)
    obtain rfl : path = ["out", "a.ts"] :=
      displayPath_injective hvalid (by decide) (hshown.trans (by decide))
    cases hfile

end DocCoverage.Selection
