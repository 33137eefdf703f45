import DocCoverage.Proofs.FileTree.Resolution
import Mathlib.Data.List.Nodup

/-!
# Trees that differ in little

Two trees may differ in the order of the entries of their directories only, or in one file. The
former have the same kinds at all paths. A file that is added at a fresh place in a directory is seen
there, and all else is seen as before.
-/

namespace DocCoverage.FileTree

/-- Two trees differ in the order of the entries of directories only. -/
inductive Reordered : Node → Node → Prop where
  | file (content : List UInt8) (readable : Bool) :
      Reordered (.file content readable) (.file content readable)
  | link (target : String) : Reordered (.link target) (.link target)
  | directory {access : Access} {entries others : List (String × Node)}
      (names : (entries.map Prod.fst).Perm (others.map Prod.fst))
      (below : ∀ name node node', (name, node) ∈ entries → (name, node') ∈ others →
        Reordered node node') :
      Reordered (.directory access entries) (.directory access others)

/-- Permuted entries have their nodes under the same names. -/
theorem exists_mem_of_names_perm {entries others : List (String × Node)} {name : String} {node : Node}
    (names : (entries.map Prod.fst).Perm (others.map Prod.fst)) (hmem : (name, node) ∈ entries) :
    ∃ other, (name, other) ∈ others := by
  obtain ⟨⟨found, other⟩, hother, rfl⟩ :=
    List.mem_map.mp (names.mem_iff.mp (List.mem_map_of_mem (f := Prod.fst) hmem))
  exact ⟨other, hother⟩

/-- A reordered tree is as well named. -/
theorem Reordered.wellNamed {tree other : Node} (h : Reordered tree other)
    (hnamed : WellNamed tree) : WellNamed other := by
  induction h with
  | file content readable => exact .file content readable
  | link target => exact .link target
  | directory names below ih =>
    cases hnamed with
    | directory distinct valid well =>
      refine .directory (names.nodup_iff.mp distinct) ?_ ?_
      · rintro ⟨name, node'⟩ hmem
        obtain ⟨node, hnode⟩ := exists_mem_of_names_perm names.symm hmem
        exact valid (name, node) hnode
      · rintro ⟨name, node'⟩ hmem
        obtain ⟨node, hnode⟩ := exists_mem_of_names_perm names.symm hmem
        exact ih name node node' hnode hmem (well _ hnode)

/-- A reordered tree has the same kinds. -/
theorem Reordered.kindAt_eq {tree other : Node} (h : Reordered tree other)
    (hnamed : WellNamed tree) (path : List String) : other.kindAt path = tree.kindAt path := by
  induction h generalizing path with
  | file content readable => rfl
  | link target => rfl
  | directory names below ih =>
    rename_i access entries others
    cases hnamed with
    | directory distinct valid well =>
      cases path with
      | nil => rfl
      | cons name rest =>
        have distinct' := names.nodup_iff.mp distinct
        rw [Node.kindAt_directory_cons, Node.kindAt_directory_cons]
        cases hlookup : entries.lookup name with
        | none =>
          have hnone : others.lookup name = none := by
            rw [lookup_eq_none_iff] at hlookup ⊢
            exact mt names.mem_iff.mpr hlookup
          rw [hnone]
        | some node =>
          have hmem := (lookup_eq_some_iff distinct).mp hlookup
          obtain ⟨node', hmem'⟩ := exists_mem_of_names_perm names hmem
          rw [(lookup_eq_some_iff distinct').mpr hmem', Option.bind_some, Option.bind_some]
          exact ih name node node' hmem hmem' (well _ hmem) rest

/-- The tree with a file in one of its directories. -/
def Node.addFile (tree : Node) (place : List String) (name : String) (content : List UInt8)
    (readable : Bool) : Node :=
  tree.alter (fun _ => some (.file content readable)) (place ++ [name])

section AddFile

variable {access : Access} {entries : List (String × Node)} {name first : String} {node : Node}
  {place : List String} {content : List UInt8} {readable : Bool}

/-- A file in a directory itself. -/
theorem addFile_nil :
    (Node.directory access entries).addFile [] name content readable =
      .directory access (setEntry name (some (.file content readable)) entries) := by
  rw [Node.addFile, List.nil_append, Node.alter]

/-- A file further below goes into an entry of a directory. -/
theorem addFile_cons (hlookup : entries.lookup first = some node) :
    (Node.directory access entries).addFile (first :: place) name content readable =
      .directory access (setEntry first (some (node.addFile place name content readable)) entries) := by
  obtain ⟨next, rest, hpath⟩ : ∃ next rest, place ++ [name] = next :: rest :=
    List.exists_cons_of_ne_nil (by simp)
  rw [Node.addFile, Node.addFile, List.cons_append, hpath, Node.alter]
  · simp only [hlookup]
  · simp

/-- The entries with one of them set are well named. -/
theorem WellNamed.setEntry (hnamed : WellNamed (.directory access entries)) (hname : IsFileName name)
    (hnode : WellNamed node) : WellNamed (.directory access (setEntry name (some node) entries)) := by
  cases hnamed with
  | directory distinct names below =>
    simp only [FileTree.setEntry]
    refine .directory ?_ ?_ ?_
    · rw [List.map_append, List.map_singleton, List.nodup_append]
      refine ⟨distinct.sublist (List.filter_sublist.map Prod.fst), List.nodup_singleton name, ?_⟩
      intro other hother last hlast
      obtain ⟨entry, hentry, rfl⟩ := List.mem_map.mp hother
      rw [List.mem_singleton.mp hlast]
      simpa using (List.mem_filter.mp hentry).2
    · intro entry hentry
      rcases List.mem_append.mp hentry with hold | hnew
      · exact names entry (List.mem_filter.mp hold).1
      · rw [List.mem_singleton.mp hnew]
        exact hname
    · intro entry hentry
      rcases List.mem_append.mp hentry with hold | hnew
      · exact below entry (List.mem_filter.mp hold).1
      · rw [List.mem_singleton.mp hnew]
        exact hnode

end AddFile

/-- A way into a directory goes through one of its entries. -/
theorem exists_lookup_of_kindAt_cons {tree : Node} {first : String} {rest : List String} {kind : Kind}
    (hkind : tree.kindAt (first :: rest) = some kind) :
    ∃ access entries node, tree = .directory access entries ∧ entries.lookup first = some node ∧
      node.kindAt rest = some kind := by
  cases tree with
  | directory access entries =>
    rw [Node.kindAt_directory_cons] at hkind
    obtain ⟨node, hlookup, hrest⟩ := Option.bind_eq_some_iff.mp hkind
    exact ⟨access, entries, node, rfl, hlookup, hrest⟩
  | file content readable => cases hkind
  | link target => cases hkind

/-- An added file is seen at its place, and all else as before. -/
theorem kindAt_addFile {tree : Node} {place : List String} {name : String} {access : Access}
    (hplace : tree.kindAt place = some (.directory access))
    (hfresh : tree.kindAt (place ++ [name]) = none) (content : List UInt8) (readable : Bool)
    (path : List String) :
    (tree.addFile place name content readable).kindAt path =
      if path = place ++ [name] then some (.file content readable) else tree.kindAt path := by
  induction place generalizing tree path with
  | nil =>
    cases tree with
    | directory found entries =>
      rw [addFile_nil]
      cases path with
      | nil => simp [Node.kind]
      | cons first rest =>
        rw [Node.kindAt_directory_cons, Node.kindAt_directory_cons, lookup_setEntry]
        have hnone : entries.lookup name = none := by
          cases hlookup : entries.lookup name with
          | none => rfl
          | some node => simp [hlookup] at hfresh
        by_cases hfirst : first = name
        · subst hfirst
          cases rest <;> simp [hnone, Node.kind]
        · simp [hfirst]
    | file content readable => cases hplace
    | link target => cases hplace
  | cons next place ih =>
    obtain ⟨found, entries, node, rfl, hlookup, hnode⟩ := exists_lookup_of_kindAt_cons hplace
    have hfresh' : node.kindAt (place ++ [name]) = none := by simpa [hlookup] using hfresh
    rw [addFile_cons hlookup]
    cases path with
    | nil => simp [Node.kind]
    | cons first rest =>
      rw [Node.kindAt_directory_cons, Node.kindAt_directory_cons, lookup_setEntry]
      by_cases hfirst : first = next
      · subst hfirst
        simp [hlookup, ih hnode hfresh' rest]
      · simp [hfirst]

/-- What is seen in a tree is seen after a file is added. -/
theorem extends_addFile {tree : Node} {place : List String} {name : String} {access : Access}
    (hplace : tree.kindAt place = some (.directory access))
    (hfresh : tree.kindAt (place ++ [name]) = none) (content : List UInt8) (readable : Bool) :
    Extends tree.kindAt (tree.addFile place name content readable).kindAt := by
  intro path kind hkind
  rw [kindAt_addFile hplace hfresh, if_neg, hkind]
  rintro rfl
  cases hfresh.symm.trans hkind

/-- A tree with an added file is as well named. -/
theorem WellNamed.addFile {tree : Node} {place : List String} {name : String} {access : Access}
    (hnamed : WellNamed tree) (hplace : tree.kindAt place = some (.directory access))
    (hname : IsFileName name) (content : List UInt8) (readable : Bool) :
    WellNamed (tree.addFile place name content readable) := by
  induction place generalizing tree with
  | nil =>
    cases tree with
    | directory found entries =>
      rw [addFile_nil]
      exact hnamed.setEntry hname (.file content readable)
    | file content readable => cases hplace
    | link target => cases hplace
  | cons next place ih =>
    obtain ⟨found, entries, node, rfl, hlookup, hnode⟩ := exists_lookup_of_kindAt_cons hplace
    rw [addFile_cons hlookup]
    have hfind : (Node.directory found entries).find? [next] = some node := by simp [hlookup]
    refine hnamed.setEntry ?_ (ih (hnamed.find? hfind) hnode)
    exact hnamed.isFileName hplace next List.mem_cons_self

end DocCoverage.FileTree
