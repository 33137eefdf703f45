import DocCoverage.Proofs.FileTree.EmptiedTrees
import DocCoverage.Proofs.Selection.SelectedFiles
import Mathlib.Data.Set.Card

/-!
# Directories that cannot be listed

A directory that a scan cannot list costs what it holds and nothing else. The scan goes on with what
stands beside it, so it finds the files that it would find if all such directories were empty. Each of them
is passed over once, unless it lies in another one or in a directory that is skipped, or is skipped
itself.
-/

namespace DocCoverage.Selection

open FileTree Text

/-- The directory at a path cannot be listed by a walk: it may not be listed, or a directory on the way may
not be entered. `reachable` says that the directories above the start may be entered. -/
def CannotList (reachable : Bool) (view : View) (path : List String) : Prop :=
  ∃ access, view path = some (.directory access) ∧
    (reachable = false ∨ access.list = false ∨
      ∃ front above, front <+: path ∧ front ≠ path ∧ view front = some (.directory above) ∧
        above.enter = false)

/-- What is seen is seen in directories. -/
def SeenInDirectories (view : View) : Prop :=
  ∀ front name rest kind, view (front ++ name :: rest) = some kind →
    ∃ access, view front = some (.directory access)

/-- What a tree holds from a place on is seen in directories. -/
theorem seenInDirectories_kindAt (tree : Node) (place : List String) :
    SeenInDirectories fun path => tree.kindAt (place ++ path) := by
  intro front name rest kind hkind
  dsimp only at hkind
  rw [← List.append_assoc] at hkind
  exact Node.exists_directory_of_kindAt_append hkind

/-- At the start there is nothing on the way. -/
theorem cannotList_nil_iff (reachable : Bool) (view : View) :
    CannotList reachable view [] ↔ IsUnlistable reachable (view []) := by
  refine exists_congr fun access => and_congr_right fun _ => ?_
  rw [Bool.and_eq_false_iff]
  simp [List.prefix_nil]

section Entry

variable {reachable : Bool} {view : View} {access : Access}

/-- From a directory on, what may not be entered is that directory or one on the way after it. -/
theorem cannotList_cons_iff (hfirst : view [] = some (.directory access)) (name : String)
    (rest : List String) :
    CannotList reachable view (name :: rest) ↔
      CannotList (reachable && access.enter) (fun path => view (name :: path)) rest := by
  refine exists_congr fun found => and_congr_right fun _ => ?_
  rw [Bool.and_eq_false_iff]
  constructor
  · rintro (hstart | hlist | ⟨front, above, hpart, hne, hkind, henter⟩)
    · exact .inl (.inl hstart)
    · exact .inr (.inl hlist)
    · cases front with
      | nil =>
        obtain rfl := Kind.directory.inj (Option.some.inj (hfirst.symm.trans hkind))
        exact .inl (.inr henter)
      | cons first front =>
        obtain ⟨rfl, hbelow⟩ := List.cons_prefix_cons.mp hpart
        exact .inr (.inr ⟨front, above, hbelow, fun heq => hne (heq ▸ rfl), hkind, henter⟩)
  · rintro ((hstart | henter) | hlist | ⟨front, above, hpart, hne, hkind, henter⟩)
    · exact .inl hstart
    · exact .inr (.inr ⟨[], access, List.nil_prefix, by simp, hfirst, henter⟩)
    · exact .inr (.inl hlist)
    · exact .inr (.inr ⟨name :: front, above, List.cons_prefix_cons.mpr ⟨rfl, hpart⟩,
        fun heq => hne (List.cons.inj heq).2, hkind, henter⟩)

end Entry

/-- A walk that skips nothing arrives where something stands that it looks for, unless a directory on the
way cannot be listed. `stands` says the same of a path as `ends` of its end. -/
theorem arrives_iff_not_cannotList {ends : Bool → Option Kind → Prop}
    (stands : Bool → View → List String → Prop)
    (hnil : ∀ reachable view, stands reachable view [] ↔ ends reachable (view []))
    (hcons : ∀ {reachable : Bool} {view : View} {access : Access} (name : String) (rest : List String),
      view [] = some (.directory access) → (stands reachable view (name :: rest) ↔
        stands (reachable && access.enter) (fun path => view (name :: path)) rest))
    (hsome : ∀ {reachable : Bool} {view : View} {path : List String}, stands reachable view path →
      ∃ kind, view path = some kind)
    (reachable : Bool) {view : View} (hview : SeenInDirectories view) (path : List String) :
    Arrives (fun _ => false) ends reachable view path ↔
      stands reachable view path ∧
        ∀ front, front <+: path → front ≠ path → ¬ CannotList reachable view front := by
  induction path generalizing reachable view with
  | nil =>
    rw [hnil, Arrives]
    refine (and_iff_left fun front hpart hne => ?_).symm
    exact absurd (List.prefix_nil.mp hpart) hne
  | cons name rest ih =>
    have hbelow : SeenInDirectories fun path => view (name :: path) :=
      fun front => hview (name :: front)
    constructor
    · rintro ⟨access, hdirectory, hreachable, hlist, -, hrest⟩
      obtain ⟨hstands, hfronts⟩ := (ih _ hbelow).mp hrest
      refine ⟨(hcons name rest hdirectory).mpr hstands, fun front hpart hne => ?_⟩
      cases front with
      | nil =>
        rw [cannotList_nil_iff]
        rintro ⟨found, hfound, hclosed⟩
        obtain rfl := Kind.directory.inj (Option.some.inj (hdirectory.symm.trans hfound))
        rw [hreachable, hlist] at hclosed
        cases hclosed
      | cons first front =>
        obtain ⟨rfl, hfront⟩ := List.cons_prefix_cons.mp hpart
        rw [cannotList_cons_iff hdirectory]
        exact hfronts front hfront fun heq => hne (heq ▸ rfl)
    · rintro ⟨hstands, hfronts⟩
      obtain ⟨kind, hkind⟩ := hsome hstands
      obtain ⟨access, hdirectory⟩ := hview [] name rest kind hkind
      have hlists : (reachable && access.list) = true := by
        rw [← Bool.not_eq_false]
        intro hclosed
        refine hfronts [] List.nil_prefix (by simp) ((cannotList_nil_iff _ _).mpr ?_)
        exact ⟨access, hdirectory, hclosed⟩
      obtain ⟨hreachable, hlist⟩ := Bool.and_eq_true_iff.mp hlists
      refine ⟨access, hdirectory, hreachable, hlist, fun _ => rfl, (ih _ hbelow).mpr ⟨?_, ?_⟩⟩
      · exact (hcons name rest hdirectory).mp hstands
      · intro front hpart hne
        rw [← cannotList_cons_iff hdirectory]
        exact hfronts (name :: front) (List.cons_prefix_cons.mpr ⟨rfl, hpart⟩)
          fun heq => hne (List.cons.inj heq).2

/-- A walk that skips nothing meets a file unless a directory on the way cannot be listed. -/
theorem reaches_iff_not_cannotList (reachable : Bool) {view : View} (hview : SeenInDirectories view)
    (path : List String) :
    Reaches (fun _ => false) reachable view path ↔
      (∃ content readable, view path = some (.file content readable)) ∧
        ∀ front, front <+: path → front ≠ path → ¬ CannotList reachable view front := by
  refine arrives_iff_not_cannotList (fun _ view path => IsFile reachable (view path))
    (fun _ _ => Iff.rfl) (fun _ _ _ => Iff.rfl) (fun hfile => ?_) reachable hview path
  obtain ⟨content, readable, hkind⟩ := hfile
  exact ⟨_, hkind⟩

/-- A walk that skips nothing comes to a directory that it cannot list unless one on the way cannot be
listed. -/
theorem arrives_unlistable_iff_not_cannotList (reachable : Bool) {view : View}
    (hview : SeenInDirectories view) (path : List String) :
    Arrives (fun _ => false) IsUnlistable reachable view path ↔
      CannotList reachable view path ∧
        ∀ front, front <+: path → front ≠ path → ¬ CannotList reachable view front := by
  refine arrives_iff_not_cannotList CannotList cannotList_nil_iff
    (fun name rest hfirst => cannotList_cons_iff hfirst name rest) (fun hunlistable => ?_)
    reachable hview path
  obtain ⟨access, hdirectory, -⟩ := hunlistable
  exact ⟨_, hdirectory⟩

/-! ## Directories that a scan cannot list -/

section Root

variable (tree : Node) (working : List String) (root : String) (resolved : List String)

/-- What stands at a path below a resolved root cannot be listed from the root on: it is the root, which
cannot be opened, or a directory that may not be listed or lies below one that may not be entered. -/
def Unlistable (path : List String) : Prop :=
  (path = [] ∧ ∀ names, resolve {} tree working root ≠ .ok names) ∨
    ∃ access, tree.kindAt (resolved ++ path) = some (.directory access) ∧
      (access.list = false ∨ ∃ front above, front <+: path ∧ front ≠ path ∧
        tree.kindAt (resolved ++ front) = some (.directory above) ∧ above.enter = false)

/-- A path leads through something that cannot be listed. -/
def InUnlistable (path : List String) : Prop :=
  ∃ front, front <+: path ∧ front ≠ path ∧ Unlistable tree working root resolved front

/-- A scan passes over a directory: it comes to it and cannot list it. -/
structure PassedOver (excluded : String) (path : List String) : Prop where
  unlistable : Unlistable tree working root resolved path
  reached : ¬ InUnlistable tree working root resolved path
  entered : ∀ name ∈ path, ¬ excluded.toList <:+: name.toList

/-- Another tree has nothing in the directories that a scan cannot list, and all its directories can be
listed from the same root. What else is below the root is as before, but for what may be done with
directories. -/
structure Emptied (other : Node) : Prop where
  named : WellNamed other
  resolves : resolve { entryCheck := .names } other working root = .ok resolved
  looked : ∀ names, resolve { followsLast := false } tree working root = .ok names →
    resolve { followsLast := false } other working root = .ok names
  listable : Listable other working root resolved
  inside : ∀ path, InUnlistable tree working root resolved path → other.kindAt (resolved ++ path) = none
  emptied : ∀ path, Unlistable tree working root resolved path →
    ¬ InUnlistable tree working root resolved path →
    ∃ access, other.kindAt (resolved ++ path) = some (.directory access)
  kept : ∀ path, ¬ Unlistable tree working root resolved path →
    ¬ InUnlistable tree working root resolved path →
    (other.kindAt (resolved ++ path)).map Kind.unrestricted =
      (tree.kindAt (resolved ++ path)).map Kind.unrestricted

end Root

section Scan

variable {settings : Settings} {patterns : List Glob.Pattern} {tree other : Node}
  {working resolved path : List String} {root : String}

/-- From a root that can be opened, what cannot be listed are directories. -/
theorem unlistable_iff_cannotList {names : List String}
    (hopened : resolve {} tree working root = .ok names) (path : List String) :
    Unlistable tree working root resolved path ↔
      CannotList true (fun below => tree.kindAt (resolved ++ below)) path := by
  have hfirst : ¬ (path = [] ∧ ∀ names, resolve {} tree working root ≠ .ok names) :=
    fun h => h.2 names hopened
  rw [Unlistable, or_iff_right hfirst]
  simp [CannotList]

/-- A root that cannot be opened cannot be listed. -/
theorem unlistable_nil_of_not_opened (hclosed : ∀ names, resolve {} tree working root ≠ .ok names) :
    Unlistable tree working root resolved [] := .inl ⟨rfl, hclosed⟩

/-- A path from a root that cannot be opened leads through that. -/
theorem inUnlistable_of_not_opened (hclosed : ∀ names, resolve {} tree working root ≠ .ok names)
    (hpath : path ≠ []) : InUnlistable tree working root resolved path :=
  ⟨[], List.nil_prefix, hpath.symm, unlistable_nil_of_not_opened hclosed⟩

/-- At the root itself a path leads through nothing. -/
theorem not_inUnlistable_nil : ¬ InUnlistable tree working root resolved [] := by
  rintro ⟨front, hpart, hne, -⟩
  exact hne (List.prefix_nil.mp hpart)

/-- A file is not what cannot be listed, unless it is a root that cannot be opened. -/
theorem not_unlistable_of_file {names : List String}
    (hopened : resolve {} tree working root = .ok names) {content : List UInt8} {readable : Bool}
    (hfile : tree.kindAt (resolved ++ path) = some (.file content readable)) :
    ¬ Unlistable tree working root resolved path := by
  rintro (⟨-, hclosed⟩ | ⟨access, hdirectory, -⟩)
  · exact hclosed names hopened
  · cases hfile.symm.trans hdirectory

/-- A scan that skips nothing meets the files that are not in what cannot be listed. -/
theorem meets_iff_not_unlistable (path : List String) :
    Meets (fun _ => false) tree working root resolved path ↔
      (∃ content readable, tree.kindAt (resolved ++ path) = some (.file content readable)) ∧
        ¬ InUnlistable tree working root resolved path ∧
        ¬ Unlistable tree working root resolved path ∧
        (path = [] → resolve { followsLast := false } tree working root = .ok resolved) := by
  have hview := seenInDirectories_kindAt tree resolved
  by_cases hopened : ∃ names, resolve {} tree working root = .ok names
  · obtain ⟨names, hnames⟩ := hopened
    have hreaches := reaches_iff_not_cannotList true hview path
    simp only [← unlistable_iff_cannotList hnames] at hreaches
    constructor
    · rintro ⟨-, hmeets, hdirect⟩
      obtain ⟨⟨content, readable, hfile⟩, hfronts⟩ := hreaches.mp hmeets
      refine ⟨⟨content, readable, hfile⟩, ?_, not_unlistable_of_file hnames hfile, hdirect⟩
      rintro ⟨front, hpart, hne, hfront⟩
      exact hfronts front hpart hne hfront
    · rintro ⟨hfile, hfree, -, hdirect⟩
      refine ⟨⟨names, hnames⟩, hreaches.mpr ⟨hfile, fun front hpart hne hfront => ?_⟩, hdirect⟩
      exact hfree ⟨front, hpart, hne, hfront⟩
  · have hclosed : ∀ names, resolve {} tree working root ≠ .ok names :=
      fun names hnames => hopened ⟨names, hnames⟩
    refine iff_of_false (fun h => hopened h.opened) ?_
    rintro ⟨-, hfree, hroot, -⟩
    by_cases hpath : path = []
    · exact hroot (hpath ▸ unlistable_nil_of_not_opened hclosed)
    · exact hfree (inUnlistable_of_not_opened hclosed hpath)

/-- The visits from a root on come to what cannot be listed, where no name on the way is skipped. -/
theorem unlistable_mem_visitsFrom_iff (hnamed : WellNamed tree)
    (hroot : resolve { entryCheck := .names } tree working root = .ok resolved)
    (skips : String → Bool) (path : List String) :
    Visit.unlistable path ∈ visitsFrom skips tree working root resolved ↔
      Unlistable tree working root resolved path ∧ ¬ InUnlistable tree working root resolved path ∧
        ∀ name ∈ path, skips name = false := by
  by_cases hopened : ∃ names, resolve {} tree working root = .ok names
  · obtain ⟨names, hnames⟩ := hopened
    obtain rfl := resolve_resolved hroot hnames
    obtain ⟨kind, hkind⟩ := exists_kindAt_of_resolve hroot
    obtain ⟨node, hfind, rfl⟩ := Node.exists_find?_of_kindAt hkind
    have hview : (fun below => tree.kindAt (names ++ below)) = node.kindAt :=
      funext fun below => Node.kindAt_append hfind below
    have harrives := arrives_unlistable_iff_not_cannotList true
      (seenInDirectories_kindAt tree names) path
    simp only [← unlistable_iff_cannotList hnames] at harrives
    rw [hview] at harrives
    rw [visitsFrom_of_opened skips hnames hfind]
    split
    · rw [mem_visits_iff (hnamed.find? hfind)]
      simp only [Visit.path, Visit.Ends, List.nil_append, exists_eq_left']
      rw [arrives_unlistable_iff_of_skips, harrives, and_assoc]
      simp [InUnlistable]
    · next hnot =>
      -- a root that is a link to a file holds no directory
      refine iff_of_false List.not_mem_nil ?_
      rintro ⟨hunlistable, -⟩
      obtain ⟨access, hdirectory, -⟩ := (unlistable_iff_cannotList hnames path).mp hunlistable
      refine hnot (.inl (node.isDirectory_iff.mpr ?_))
      cases path with
      | nil =>
        simp only [List.append_nil, hkind, Option.some.injEq] at hdirectory
        exact ⟨access, hdirectory⟩
      | cons name rest =>
        obtain ⟨above, habove⟩ := Node.exists_directory_of_kindAt_append hdirectory
        exact ⟨above, Option.some.inj (hkind.symm.trans habove)⟩
  · have hclosed : ∀ names, resolve {} tree working root ≠ .ok names :=
      fun names hnames => hopened ⟨names, hnames⟩
    rw [visitsFrom_of_not_opened skips hclosed, List.mem_singleton, Visit.unlistable.injEq]
    constructor
    · rintro rfl
      exact ⟨unlistable_nil_of_not_opened hclosed, not_inUnlistable_nil, by simp⟩
    · rintro ⟨-, hfree, -⟩
      by_contra hpath
      exact hfree (inUnlistable_of_not_opened hclosed hpath)

/-- A scan that skips nothing meets the same files where the directories that it cannot list are empty. -/
theorem Emptied.meets_iff (h : Emptied tree working root resolved other) (path : List String) :
    Meets (fun _ => false) other working root resolved path ↔
      Meets (fun _ => false) tree working root resolved path := by
  rw [meets_iff_of_listable h.listable, meets_iff_not_unlistable]
  constructor
  · rintro ⟨⟨content, readable, hfile⟩, hdirect⟩
    have hfree : ¬ InUnlistable tree working root resolved path := by
      intro hin
      cases (h.inside path hin).symm.trans hfile
    have hlisted : ¬ Unlistable tree working root resolved path := by
      intro hunlistable
      obtain ⟨access, hdirectory⟩ := h.emptied path hunlistable hfree
      cases hdirectory.symm.trans hfile
    have hkept := h.kept path hlisted hfree
    rw [hfile, Option.map_some, eq_comm, Option.map_eq_some_iff] at hkept
    obtain ⟨kind, hkind, hsame⟩ := hkept
    obtain rfl := Kind.unrestricted_eq_file_iff.mp hsame
    refine ⟨⟨content, readable, hkind⟩, hfree, hlisted, ?_⟩
    rintro rfl
    -- a root that is a file can be opened, and so it can be looked at
    obtain ⟨names, hnames⟩ : ∃ names, resolve {} tree working root = .ok names := by
      by_contra hopened
      exact hlisted (unlistable_nil_of_not_opened fun names hnames => hopened ⟨names, hnames⟩)
    obtain ⟨found, hlook⟩ : ∃ found, resolve { followsLast := false } tree working root = .ok found :=
      exists_resolve_of_weaker hnames rfl fun _ hstops => hstops
    obtain rfl := Except.ok.inj ((hdirect rfl).symm.trans (h.looked found hlook))
    exact hlook
  · rintro ⟨⟨content, readable, hfile⟩, hfree, hlisted, hdirect⟩
    have hkept := h.kept path hlisted hfree
    rw [hfile, Option.map_some, Option.map_eq_some_iff] at hkept
    obtain ⟨kind, hkind, hsame⟩ := hkept
    obtain rfl := Kind.unrestricted_eq_file_iff.mp hsame
    exact ⟨⟨content, readable, hkind⟩, fun hpath => h.looked _ (hdirect hpath)⟩

/-- The directories that visits report as such are those that cannot be listed. -/
theorem mem_unlistable_ofVisits_iff (excluded : String) (resolved : List String) (found : List Visit) :
    path ∈ (ScanResult.ofVisits patterns excluded resolved found).unlistable ↔
      Visit.unlistable path ∈ found := by
  simp only [ScanResult.ofVisits, List.mem_filterMap, Visit.unlistable?_eq_some_iff, exists_eq_right]

/-- Visits that are made once report every directory once. -/
theorem nodup_unlistable_ofVisits (patterns : List Glob.Pattern) (excluded : String)
    (resolved : List String) {found : List Visit} (hfound : found.Nodup) :
    (ScanResult.ofVisits patterns excluded resolved found).unlistable.Nodup := by
  refine hfound.filterMap fun first second path hfirst hsecond => ?_
  rw [Visit.unlistable?_eq_some_iff.mp hfirst, Visit.unlistable?_eq_some_iff.mp hsecond]

end Scan

/-- The steps of the path to the directory that paths start from lead there. -/
theorem leads_here {resolution : Resolution} {view : View} {links : Nat} {working names : List String}
    (h : Leads resolution view links working (stepsOf ".") names) : names = working := by
  have hsteps : stepsOf "." = [.stay] := by decide
  rw [hsteps] at h
  cases h with
  | remain hstep hhere henter hrest =>
    cases hrest
    rfl

/-- Every tree can be emptied for a scan of the directory that paths start from. -/
theorem exists_emptied {tree : Node} {working : List String} {access : Access} (hnamed : WellNamed tree)
    (hworking : tree.kindAt working = some (.directory access)) :
    ∃ other, Emptied tree working "." working other := by
  classical
  let chosen (place : List String) : Bool :=
    decide (∃ path, place = working ++ path ∧ Unlistable tree working "." working path)
  have hinside (path : List String) (hin : InUnlistable tree working "." working path) :
      (tree.emptied chosen []).kindAt (working ++ path) = none := by
    obtain ⟨front, hpart, hne, hfront⟩ := hin
    have hchosen : chosen ([] ++ (working ++ front)) = true := decide_eq_true ⟨front, rfl, hfront⟩
    exact kindAt_emptied_of_chosen tree ((List.prefix_append_right_inj working).mpr hpart)
      (fun heq => hne (List.append_cancel_left heq)) hchosen
  have hkept (path : List String) (hfree : ¬ InUnlistable tree working "." working path) :
      (tree.emptied chosen []).kindAt (working ++ path) =
        (tree.kindAt (working ++ path)).map Kind.unrestricted := by
    refine kindAt_emptied_of_not_chosen tree fun front hpart hne => decide_eq_false ?_
    rintro ⟨below, rfl, hbelow⟩
    exact hfree ⟨below, (List.prefix_append_right_inj working).mp hpart,
      fun heq => hne (heq ▸ rfl), hbelow⟩
  have hhere : (tree.emptied chosen []).kindAt working = some (.directory .full) := by
    have hstart := hkept [] not_inUnlistable_nil
    rwa [List.append_nil, hworking] at hstart
  have hresolves (resolution : Resolution) :
      resolve resolution (tree.emptied chosen []) working "." = .ok working := by
    have hsteps : stepsOf "." = [.stay] := by decide
    rw [resolve_eq_ok_iff, hsteps]
    exact ⟨by decide, .remain (.inr rfl) hhere (fun _ => rfl) (.arrive _ _)⟩
  refine ⟨tree.emptied chosen [], hnamed.emptied [], hresolves _, fun names hnames => ?_,
    listable_of_unrestricted (unrestricted_emptied hnamed []) (hresolves _), hinside, ?_, ?_⟩
  · obtain rfl := leads_here (resolve_eq_ok_iff.mp hnames).2
    exact hresolves _
  · intro path hunlistable hfree
    rcases hunlistable with ⟨rfl, -⟩ | ⟨found, hdirectory, -⟩
    · exact ⟨.full, by rw [List.append_nil, hhere]⟩
    · exact ⟨.full, by rw [hkept path hfree, hdirectory]; rfl⟩
  · intro path _ hfree
    rw [hkept path hfree, Option.map_map]
    exact congrFun (congrArg Option.map (funext Kind.unrestricted_unrestricted)) _

/-- A scan with valid patterns succeeds from a root whose resolved path does not hold the excluded text. It
finds the files that it finds where the directories that cannot be listed are empty, and it passes over
each of these directories once that does not lie in another one, and whose path below the root holds the
excluded text in none of its names. -/
theorem scan_passes_over_unlistable {settings : Settings} {patterns : List Glob.Pattern} {tree : Node}
    {working resolved : List String} {root : String} (hnamed : WellNamed tree)
    (hpatterns : compilePatterns settings.patterns = .ok patterns)
    (hroot : resolve { entryCheck := .names } tree working root = .ok resolved)
    (hfree : ¬ settings.excluded.toList <:+: (absolutePath resolved).toList) :
    ∃ result, scan settings tree working root = .ok result ∧
      (∀ other, Emptied tree working root resolved other →
        ∃ result', scan settings other working root = .ok result' ∧ result'.files = result.files) ∧
      (∀ path, path ∈ result.unlistable ↔
        PassedOver tree working root resolved settings.excluded path) ∧
      result.unlistable.length =
        Set.ncard {path | PassedOver tree working root resolved settings.excluded path} := by
  have hscan : scan settings tree working root = .ok (.ofVisits patterns settings.excluded resolved
      (visitsFrom (holdsExcluded settings.excluded) tree working root resolved)) := by
    rw [← holdsExcluded_iff] at hfree
    simp only [scan, hpatterns, hroot, if_neg hfree]
  obtain ⟨result, hresult, hincreasing, hmem⟩ := exists_scan hnamed hpatterns hroot
  obtain rfl := Except.ok.inj (hscan.symm.trans hresult)
  have hunlistable (path : List String) :
      path ∈ (ScanResult.ofVisits patterns settings.excluded resolved
        (visitsFrom (holdsExcluded settings.excluded) tree working root resolved)).unlistable ↔
        PassedOver tree working root resolved settings.excluded path := by
    rw [mem_unlistable_ofVisits_iff, unlistable_mem_visitsFrom_iff hnamed hroot]
    simp only [← Bool.not_eq_true, holdsExcluded_iff]
    constructor
    · rintro ⟨hlisted, hreached, hnames⟩
      exact ⟨hlisted, hreached, hnames⟩
    · intro hpassed
      exact ⟨hpassed.unlistable, hpassed.reached, hpassed.entered⟩
  refine ⟨_, hscan, fun other hother => ?_, hunlistable, ?_⟩
  · obtain ⟨result', hscan', hincreasing', hmem'⟩ := exists_scan hother.named hpatterns hother.resolves
    refine ⟨result', hscan', hincreasing'.eq_of_mem_iff hincreasing fun path => ?_⟩
    rw [hmem, hmem', hother.meets_iff]
  · have hnodup := nodup_unlistable_ofVisits patterns settings.excluded resolved
      (nodup_visitsFrom hnamed hroot (holdsExcluded settings.excluded))
    rw [← List.toFinset_card_of_nodup hnodup, ← Set.ncard_coe_finset]
    congr 1
    ext path
    rw [Finset.mem_coe, List.mem_toFinset]
    exact hunlistable path

/-- A tree with a directory that may not be listed and holds another one, a directory that may be listed
and not entered, and one that may neither be listed nor is looked for. -/
def lockedTree : Node :=
  .directory .full
    [("a.ts", .file [] true),
      ("secret", .directory ⟨false, true⟩
        [("x.ts", .file [] true), ("inner", .directory ⟨false, false⟩ [])]),
      ("half", .directory ⟨true, false⟩
        [("b.ts", .file [] true), ("deep", .directory .full [("c.ts", .file [] true)])]),
      ("node_modules", .directory ⟨false, false⟩ [])]

/-- Two of the four directories that cannot be listed are passed over: one lies in another, and one is
skipped. The files are those of a tree where all four are empty. -/
theorem lockedTree_scan_passes_over_unlistable :
    ∃ result other result', scan .standard lockedTree [] "." = .ok result ∧
      Emptied lockedTree [] "." [] other ∧ scan .standard other [] "." = .ok result' ∧
      result'.files = result.files ∧
      ["secret"] ∈ result.unlistable ∧ ["half", "deep"] ∈ result.unlistable ∧
      ["secret", "inner"] ∉ result.unlistable ∧ ["node_modules"] ∉ result.unlistable := by
  have hnamed : WellNamed lockedTree := by
    refine .directory (by decide) (by decide) ?_
    simp only [List.forall_mem_cons]
    refine ⟨.file _ _, .directory (by decide) (by decide) ?_, .directory (by decide) (by decide) ?_,
      .directory (by decide) (by decide) (by simp), by simp⟩
    · simp only [List.forall_mem_cons]
      exact ⟨.file _ _, .directory (by decide) (by decide) (by simp), by simp⟩
    · simp only [List.forall_mem_cons]
      refine ⟨.file _ _, .directory (by decide) (by decide) ?_, by simp⟩
      simp [WellNamed.file]
  have hsteps : stepsOf "." = [.stay] := by decide
  have hresolve (resolution : Resolution) : resolve resolution lockedTree [] "." = .ok [] := by
    rw [resolve_eq_ok_iff, hsteps]
    exact ⟨by decide, .remain (.inr rfl) rfl (fun _ => rfl) (.arrive _ _)⟩
  obtain ⟨result, hscan, hfiles, hmem, -⟩ :=
    scan_passes_over_unlistable hnamed compilePatterns_standard (hresolve _) (by decide)
  have hworking : lockedTree.kindAt [] = some (.directory .full) := rfl
  obtain ⟨other, hother⟩ := exists_emptied hnamed hworking
  obtain ⟨result', hscan', hsame⟩ := hfiles other hother
  have hopened := hresolve {}
  have hnone {front path : List String} (hpart : front <+: path) (hne : front ≠ path)
      (hlength : path.length = 1) : front = [] := by
    have hshorter := lt_of_le_of_ne hpart.length_le fun heq => hne (hpart.eq_of_length heq)
    exact List.length_eq_zero_iff.mp (by omega)
  -- the root may be listed, and so may the directory that may not be entered
  have hroot : ¬ CannotList true lockedTree.kindAt [] := by
    rw [cannotList_nil_iff]
    rintro ⟨access, hkind, hlist⟩
    cases hkind
    cases hlist
  have hhalf : ¬ CannotList true lockedTree.kindAt ["half"] := by
    rintro ⟨access, hkind, hstart | hlist | ⟨front, above, hpart, hne, habove, henter⟩⟩
    · cases hstart
    · cases hkind
      cases hlist
    · obtain rfl := hnone hpart hne rfl
      cases habove
      cases henter
  have hsecret : CannotList true lockedTree.kindAt ["secret"] := ⟨_, rfl, .inr (.inl rfl)⟩
  have hdeep : CannotList true lockedTree.kindAt ["half", "deep"] :=
    ⟨_, rfl, .inr (.inr ⟨["half"], _, by decide, by decide, rfl, rfl⟩)⟩
  refine ⟨result, other, result', hscan, hother, hscan', hsame, ?_, ?_, ?_, ?_⟩
  · refine (hmem _).mpr ⟨(unlistable_iff_cannotList hopened _).mpr hsecret, ?_, by decide⟩
    rintro ⟨front, hpart, hne, hfront⟩
    obtain rfl := hnone hpart hne rfl
    exact hroot ((unlistable_iff_cannotList hopened _).mp hfront)
  · refine (hmem _).mpr ⟨(unlistable_iff_cannotList hopened _).mpr hdeep, ?_, by decide⟩
    rintro ⟨front, hpart, hne, hfront⟩
    rw [unlistable_iff_cannotList hopened] at hfront
    cases front with
    | nil => exact hroot hfront
    | cons name front =>
      obtain ⟨rfl, hbelow⟩ := List.cons_prefix_cons.mp hpart
      obtain rfl := hnone hbelow (fun heq => hne (heq ▸ rfl)) rfl
      exact hhalf hfront
  · intro hlisted
    exact ((hmem _).mp hlisted).reached ⟨["secret"], by decide, by decide,
      (unlistable_iff_cannotList hopened _).mpr hsecret⟩
  · intro hlisted
    exact ((hmem _).mp hlisted).entered "node_modules" List.mem_cons_self (List.infix_refl _)

end DocCoverage.Selection
