import DocCoverage.Proofs.FileTree.Resolution
import DocCoverage.Selection.Scan
import Mathlib.Data.List.Nodup

/-!
# What a walk meets

A walk meets a file, or a directory that cannot be listed, when it lists every directory on the way to it
and skips none of them. Each is met once. The directories that are skipped only take away: a walk that
skips some meets what is met without skipping and lies in none of them.
-/

namespace DocCoverage.Selection

open FileTree

/-- A walk arrives at a path: every directory on the way is reached and may be listed, none of the
directories below the start is skipped, and the end is as it has to be. `reachable` says that the
directories above the start may be entered. -/
def Arrives (skips : String → Bool) (ends : Bool → Option Kind → Prop) :
    Bool → View → List String → Prop
  | reachable, view, [] => ends reachable (view [])
  | reachable, view, name :: rest =>
    ∃ access, view [] = some (.directory access) ∧ reachable = true ∧ access.list = true ∧
      ((∃ below, view [name] = some (.directory below)) → skips name = false) ∧
      Arrives skips ends (reachable && access.enter) (fun path => view (name :: path)) rest

/-- A file stands at the end of a way. -/
def IsFile (_reachable : Bool) (kind : Option Kind) : Prop :=
  ∃ content readable, kind = some (.file content readable)

/-- A directory that cannot be listed stands at the end of a way. -/
def IsUnlistable (reachable : Bool) (kind : Option Kind) : Prop :=
  ∃ access, kind = some (.directory access) ∧ (reachable && access.list) = false

/-- A walk meets the file at a path. -/
def Reaches (skips : String → Bool) : Bool → View → List String → Prop := Arrives skips IsFile

/-- The path of a visit. -/
def Visit.path : Visit → List String
  | file path => path
  | unlistable path => path

/-- What has to stand where a visit is made. -/
def Visit.Ends : Visit → Bool → Option Kind → Prop
  | file _ => IsFile
  | unlistable _ => IsUnlistable

/-- A visit is made to something. -/
theorem Visit.not_ends_none (visit : Visit) (reachable : Bool) : ¬ visit.Ends reachable none := by
  cases visit with
  | file path => exact fun ⟨_, _, hkind⟩ => by cases hkind
  | unlistable path => exact fun ⟨_, hkind, _⟩ => by cases hkind

/-- The visits at the entries of a directory are those at each of them. -/
theorem visitsBelow_eq_flatMap (skips : String → Bool) (reachable : Bool) (path : List String)
    (entries : List (String × Node)) :
    visitsBelow skips reachable path entries = entries.flatMap fun entry =>
      if isPruned skips entry.1 entry.2 then []
      else visits skips reachable (path ++ [entry.1]) entry.2 := by
  induction entries with
  | nil => rw [visitsBelow, List.flatMap_nil]
  | cons entry rest ih => rw [visitsBelow, ih, List.flatMap_cons]

/-- A node with a name is not skipped where a walk does not skip the directory it may be. -/
theorem isPruned_eq_false_iff (skips : String → Bool) (name : String) (node : Node) :
    isPruned skips name node = false ↔
      ((∃ below, node.kind = .directory below) → skips name = false) := by
  rw [isPruned, ← node.isDirectory_iff]
  cases node.isDirectory <;> simp

/-- The view below an entry of a directory. -/
theorem kindAt_cons_of_lookup {access : Access} {entries : List (String × Node)} {name : String}
    {node : Node} (hlookup : entries.lookup name = some node) :
    (fun path => (Node.directory access entries).kindAt (name :: path)) = node.kindAt := by
  funext path
  rw [Node.kindAt_directory_cons, hlookup, Option.bind_some]

/-- A walk sees directories on the way. -/
theorem Arrives.directories {skips : String → Bool} {ends : Bool → Option Kind → Prop}
    {reachable : Bool} {view : View} {path : List String} (h : Arrives skips ends reachable view path) :
    ∀ front name rest, path = front ++ name :: rest →
      ∃ access, view front = some (.directory access) := by
  induction path generalizing reachable view with
  | nil => simp
  | cons first others ih =>
    obtain ⟨access, hdirectory, -, -, -, hrest⟩ := h
    intro front name rest hpath
    cases front with
    | nil => exact ⟨access, hdirectory⟩
    | cons head front =>
      obtain ⟨rfl, hothers⟩ := List.cons.inj hpath
      exact ih hrest front name rest hothers

/-- What a walk arrives at is as it has to be. -/
theorem Arrives.exists_ends {skips : String → Bool} {ends : Bool → Option Kind → Prop}
    {reachable : Bool} {view : View} {path : List String} (h : Arrives skips ends reachable view path) :
    ∃ entered, ends entered (view path) := by
  induction path generalizing reachable view with
  | nil => exact ⟨reachable, h⟩
  | cons first others ih =>
    obtain ⟨access, -, -, -, -, hrest⟩ := h
    exact ih hrest

/-- A walk sees something at every front of the path of what it meets. -/
theorem Arrives.exists_kind_of_prefix {skips : String → Bool} {ends : Bool → Option Kind → Prop}
    (hends : ∀ reachable, ¬ ends reachable none) {reachable : Bool} {view : View}
    {path front : List String} (h : Arrives skips ends reachable view path) (hfront : front <+: path) :
    ∃ kind, view front = some kind := by
  obtain ⟨rest, rfl⟩ := hfront
  cases rest with
  | nil =>
    obtain ⟨entered, hend⟩ := h.exists_ends
    rw [List.append_nil] at hend
    exact Option.ne_none_iff_exists'.mp fun hnone => hends entered (hnone ▸ hend)
  | cons name rest =>
    obtain ⟨access, hdirectory⟩ := h.directories front name rest rfl
    exact ⟨_, hdirectory⟩

/-- A walk sees a file where it meets one, and directories on the way. -/
theorem Reaches.kinds {skips : String → Bool} {reachable : Bool} {view : View} {path : List String}
    (h : Reaches skips reachable view path) :
    (∃ content readable, view path = some (.file content readable)) ∧
      ∀ front name rest, path = front ++ name :: rest →
        ∃ access, view front = some (.directory access) := by
  obtain ⟨entered, hfile⟩ := Arrives.exists_ends h
  exact ⟨hfile, Arrives.directories h⟩

/-- A walk goes from a directory on through one of its entries. -/
theorem arrives_directory_cons_iff (skips : String → Bool) {ends : Bool → Option Kind → Prop}
    (hends : ∀ reachable, ¬ ends reachable none) (reachable : Bool) (access : Access)
    (entries : List (String × Node)) (name : String) (rest : List String) :
    Arrives skips ends reachable (Node.directory access entries).kindAt (name :: rest) ↔
      (reachable && access.list) = true ∧ ∃ node, entries.lookup name = some node ∧
        isPruned skips name node = false ∧
        Arrives skips ends (reachable && access.enter) node.kindAt rest := by
  rw [Bool.and_eq_true]
  constructor
  · rintro ⟨found, hkind, hreachable, hlist, hskips, hrest⟩
    obtain rfl : access = found := by simpa [Node.kind] using hkind
    obtain ⟨kind, hentry⟩ := hrest.exists_kind_of_prefix hends List.nil_prefix
    rw [Node.kindAt_directory_cons] at hentry
    obtain ⟨node, hlookup, -⟩ := Option.bind_eq_some_iff.mp hentry
    rw [kindAt_cons_of_lookup hlookup] at hrest
    refine ⟨⟨hreachable, hlist⟩, node, hlookup, ?_, hrest⟩
    rw [isPruned_eq_false_iff]
    rintro ⟨below, hbelow⟩
    exact hskips ⟨below, by simp [hlookup, hbelow]⟩
  · rintro ⟨⟨hreachable, hlist⟩, node, hlookup, hpruned, hrest⟩
    refine ⟨access, by simp [Node.kind], hreachable, hlist, ?_, ?_⟩
    · rintro ⟨below, hbelow⟩
      refine (isPruned_eq_false_iff skips name node).mp hpruned ⟨below, ?_⟩
      simpa [hlookup] using hbelow
    · rwa [kindAt_cons_of_lookup hlookup]

/-- From a file or a link a walk goes nowhere. -/
theorem not_arrives_cons {skips : String → Bool} {ends : Bool → Option Kind → Prop} {reachable : Bool}
    {node : Node} (hnode : ∀ access, node.kind ≠ .directory access) (name : String)
    (rest : List String) : ¬ Arrives skips ends reachable node.kindAt (name :: rest) := by
  rintro ⟨access, hkind, -⟩
  rw [Node.kindAt_nil] at hkind
  exact hnode access (Option.some.inj hkind)

/-- The visits at a node are made where a walk from it arrives. -/
theorem mem_visits_iff {node : Node} (hnamed : WellNamed node) (skips : String → Bool)
    (reachable : Bool) (path : List String) (visit : Visit) :
    visit ∈ visits skips reachable path node ↔
      ∃ rest, visit.path = path ++ rest ∧ Arrives skips visit.Ends reachable node.kindAt rest := by
  induction hnamed generalizing reachable path with
  | file content readable =>
    rw [visits, List.mem_singleton]
    constructor
    · rintro rfl
      exact ⟨[], (List.append_nil _).symm, content, readable, rfl⟩
    · rintro ⟨rest, hpath, harrives⟩
      cases rest with
      | nil =>
        rw [List.append_nil] at hpath
        cases visit with
        | file found => exact congrArg Visit.file hpath
        | unlistable found =>
          obtain ⟨access, hkind, -⟩ := harrives
          cases hkind
      | cons name rest => exact absurd harrives (not_arrives_cons (by simp [Node.kind]) name rest)
  | link target =>
    rw [visits]
    refine iff_of_false List.not_mem_nil ?_
    rintro ⟨rest, -, harrives⟩
    cases rest with
    | nil =>
      cases visit with
      | file found =>
        obtain ⟨content, readable, hkind⟩ := harrives
        cases hkind
      | unlistable found =>
        obtain ⟨access, hkind, -⟩ := harrives
        cases hkind
    | cons name rest => exact absurd harrives (not_arrives_cons (by simp [Node.kind]) name rest)
  | directory distinct names below ih =>
    rename_i access entries
    rw [visits, visitsBelow_eq_flatMap]
    constructor
    · intro hvisit
      split at hvisit
      · next hlist =>
        obtain ⟨⟨name, node⟩, hmem, hvisit⟩ := List.mem_flatMap.mp hvisit
        split at hvisit
        · exact absurd hvisit List.not_mem_nil
        · next hpruned =>
          obtain ⟨rest, hpath, hrest⟩ := (ih _ hmem _ _).mp hvisit
          refine ⟨name :: rest, by simp [hpath], ?_⟩
          rw [arrives_directory_cons_iff _ visit.not_ends_none]
          exact ⟨hlist, node, (lookup_eq_some_iff distinct).mpr hmem, by simpa using hpruned, hrest⟩
      · next hlist =>
        obtain rfl := List.mem_singleton.mp hvisit
        exact ⟨[], (List.append_nil _).symm, access, rfl, by simpa using hlist⟩
    · rintro ⟨rest, hpath, harrives⟩
      cases rest with
      | nil =>
        rw [List.append_nil] at hpath
        cases visit with
        | file found =>
          obtain ⟨content, readable, hkind⟩ := harrives
          cases hkind
        | unlistable found =>
          obtain ⟨found, hkind, hlist⟩ := harrives
          obtain rfl : access = found := by simpa [Node.kind] using hkind
          rw [hlist, if_neg Bool.false_ne_true, List.mem_singleton]
          exact congrArg Visit.unlistable hpath
      | cons name rest =>
        rw [arrives_directory_cons_iff _ visit.not_ends_none] at harrives
        obtain ⟨hlist, node, hlookup, hpruned, hrest⟩ := harrives
        rw [if_pos hlist]
        have hmem := (lookup_eq_some_iff distinct).mp hlookup
        refine List.mem_flatMap.mpr ⟨(name, node), hmem, ?_⟩
        rw [hpruned]
        exact (ih _ hmem _ _).mpr ⟨rest, by simp [hpath], hrest⟩

/-- The visits at a node meet the files that a walk reaches from it. -/
theorem file_mem_visits_iff {node : Node} (hnamed : WellNamed node) (skips : String → Bool)
    (reachable : Bool) (path found : List String) :
    Visit.file found ∈ visits skips reachable path node ↔
      ∃ rest, found = path ++ rest ∧ Reaches skips reachable node.kindAt rest :=
  mem_visits_iff hnamed skips reachable path (.file found)

/-- A visit with the path of a file is that to the file. -/
theorem Visit.file?_eq_some_iff {visit : Visit} {path : List String} :
    visit.file? = some path ↔ visit = .file path := by
  cases visit <;> simp [Visit.file?]

/-- A visit with the path of a directory that cannot be listed is that to the directory. -/
theorem Visit.unlistable?_eq_some_iff {visit : Visit} {path : List String} :
    visit.unlistable? = some path ↔ visit = .unlistable path := by
  cases visit <;> simp [Visit.unlistable?]

/-- The paths of the files that visits meet. -/
def filePaths (found : List Visit) : List (List String) := found.filterMap Visit.file?

/-- A path is among those of visits exactly when they meet the file. -/
theorem mem_filePaths_iff (found : List Visit) (path : List String) :
    path ∈ filePaths found ↔ Visit.file path ∈ found := by
  simp only [filePaths, List.mem_filterMap, Visit.file?_eq_some_iff, exists_eq_right]

/-- A visit at an entry of a directory has a path through that entry. -/
theorem exists_append_of_mem_visits {entry : String × Node} (hnamed : WellNamed entry.2)
    {skips : String → Bool} {reachable : Bool} {path : List String} {visit : Visit}
    (hmem : visit ∈ if isPruned skips entry.1 entry.2 then []
      else visits skips reachable (path ++ [entry.1]) entry.2) :
    ∃ rest, visit.path = path ++ entry.1 :: rest := by
  split at hmem
  · exact absurd hmem List.not_mem_nil
  · obtain ⟨rest, hpath, -⟩ := (mem_visits_iff hnamed _ _ _ _).mp hmem
    exact ⟨rest, by simp [hpath]⟩

/-- Every visit is made once. -/
theorem nodup_visits {node : Node} (hnamed : WellNamed node) (skips : String → Bool)
    (reachable : Bool) (path : List String) : (visits skips reachable path node).Nodup := by
  induction hnamed generalizing reachable path with
  | file content readable =>
    rw [visits]
    exact List.nodup_singleton _
  | link target =>
    rw [visits]
    exact List.nodup_nil
  | directory distinct names below ih =>
    rename_i access entries
    rw [visits, visitsBelow_eq_flatMap]
    split
    · rw [List.nodup_flatMap]
      constructor
      · intro entry hentry
        split
        · exact List.nodup_nil
        · exact ih entry hentry _ _
      · -- the visits at two entries differ in the name of the entry
        have hdistinct : entries.Pairwise fun first second => first.1 ≠ second.1 :=
          List.pairwise_map.mp distinct
        refine hdistinct.imp_of_mem fun {first second} hfirst hsecond hne visit hmem hmem' => ?_
        obtain ⟨rest, hrest⟩ := exists_append_of_mem_visits (below first hfirst) hmem
        obtain ⟨rest', hrest'⟩ := exists_append_of_mem_visits (below second hsecond) hmem'
        have hsame := List.append_cancel_left (hrest.symm.trans hrest')
        exact hne (List.cons.inj hsame).1
    · exact List.nodup_singleton _

/-- Visits that are made once meet every file once. -/
theorem nodup_filePaths {found : List Visit} (hfound : found.Nodup) : (filePaths found).Nodup := by
  refine hfound.filterMap fun first second path hfirst hsecond => ?_
  rw [Visit.file?_eq_some_iff.mp hfirst, Visit.file?_eq_some_iff.mp hsecond]

/-- A walk that skips directories arrives where one arrives without skipping, if the names on the way are
not skipped, nor the last one where it is that of a directory. -/
theorem arrives_iff_of_skips (skips : String → Bool) (ends : Bool → Option Kind → Prop)
    (reachable : Bool) (view : View) (path : List String) :
    Arrives skips ends reachable view path ↔
      Arrives (fun _ => false) ends reachable view path ∧
        (∀ name ∈ path.dropLast, skips name = false) ∧
        ((∃ below, view path = some (.directory below)) →
          ∀ name ∈ path.getLast?, skips name = false) := by
  induction path generalizing reachable view with
  | nil => simp [Arrives]
  | cons name rest ih =>
    constructor
    · rintro ⟨access, hdirectory, hreachable, hlist, hskips, hrest⟩
      obtain ⟨hall, hnames, hlast⟩ := (ih _ _).mp hrest
      refine ⟨⟨access, hdirectory, hreachable, hlist, fun _ => rfl, hall⟩, ?_⟩
      cases rest with
      | nil => simpa using hskips
      | cons next more =>
        obtain ⟨below, hbelow, -⟩ := hrest
        exact ⟨List.forall_mem_cons.mpr ⟨hskips ⟨below, hbelow⟩, hnames⟩, hlast⟩
    · rintro ⟨⟨access, hdirectory, hreachable, hlist, -, hall⟩, hnames, hlast⟩
      refine ⟨access, hdirectory, hreachable, hlist, ?_, (ih _ _).mpr ⟨hall, ?_⟩⟩
      · cases rest with
        | nil => simpa using hlast
        | cons next more => exact fun _ => hnames name List.mem_cons_self
      · cases rest with
        | nil => simp
        | cons next more => exact ⟨(List.forall_mem_cons.mp hnames).2, hlast⟩

/-- A walk that skips directories meets the files that are met without skipping and that lie in none
of them. -/
theorem reaches_iff_of_skips (skips : String → Bool) (reachable : Bool) (view : View)
    (path : List String) :
    Reaches skips reachable view path ↔
      Reaches (fun _ => false) reachable view path ∧ ∀ name ∈ path.dropLast, skips name = false := by
  rw [Reaches, Reaches, arrives_iff_of_skips]
  refine and_congr_right fun hall => and_iff_left ?_
  -- what is met is a file and no directory
  rintro ⟨below, hbelow⟩
  obtain ⟨-, content, readable, hfile⟩ := hall.exists_ends
  cases hbelow.symm.trans hfile

/-- A walk that skips directories comes to those that cannot be listed to which one comes without
skipping, where no name on the way to them is skipped, nor their own. -/
theorem arrives_unlistable_iff_of_skips (skips : String → Bool) (reachable : Bool) (view : View)
    (path : List String) :
    Arrives skips IsUnlistable reachable view path ↔
      Arrives (fun _ => false) IsUnlistable reachable view path ∧ ∀ name ∈ path, skips name = false := by
  rw [arrives_iff_of_skips]
  refine and_congr_right fun hall => ?_
  obtain ⟨-, access, hdirectory, -⟩ := hall.exists_ends
  rcases List.eq_nil_or_concat' path with rfl | ⟨front, name, rfl⟩
  · simp
  · simp [hdirectory, or_imp, forall_and]

/-- Walks through what is seen alike meet the same. -/
theorem Reaches.congr {skips : String → Bool} {reachable : Bool} {view other : View}
    {path : List String} (h : Reaches skips reachable view path)
    (hviews : ∀ front, front <+: path → other front = view front) :
    Reaches skips reachable other path := by
  induction path generalizing reachable view other with
  | nil =>
    obtain ⟨content, readable, hfile⟩ := h
    exact ⟨content, readable, (hviews [] List.nil_prefix).trans hfile⟩
  | cons name rest ih =>
    obtain ⟨access, hdirectory, hreachable, hlist, hskips, hrest⟩ := h
    have hfirst := hviews [name] (List.cons_prefix_cons.mpr ⟨rfl, List.nil_prefix⟩)
    refine ⟨access, (hviews [] List.nil_prefix).trans hdirectory, hreachable, hlist, ?_, ?_⟩
    · rw [hfirst]
      exact hskips
    · refine ih hrest fun front hfront => hviews (name :: front) ?_
      exact List.cons_prefix_cons.mpr ⟨rfl, hfront⟩

/-- What is met is met where more is seen. -/
theorem Reaches.mono {skips : String → Bool} {reachable : Bool} {view larger : View}
    {path : List String} (h : Reaches skips reachable view path) (hextends : Extends view larger) :
    Reaches skips reachable larger path := by
  refine h.congr fun front hfront => ?_
  obtain ⟨kind, hkind⟩ := Arrives.exists_kind_of_prefix (Visit.file []).not_ends_none h hfront
  rw [hkind, hextends _ _ hkind]

end DocCoverage.Selection
