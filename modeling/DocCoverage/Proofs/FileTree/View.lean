import DocCoverage.FileTree.Edit
import Mathlib.Data.List.Basic

/-!
# What stands at the paths of a tree

A tree is seen through the kinds of the nodes at its paths: which paths lead to a file, a directory
or a link, without the entries of the directories. Where the entries of every directory have
different names, the kinds hold all there is to know about a tree but the order of the entries.
-/

namespace DocCoverage.FileTree

/-- A name that an entry of a directory may have. -/
structure IsFileName (name : String) : Prop where
  nonempty : name ≠ ""
  noSlash : '/' ∉ name.toList
  notStay : name ≠ "."
  notUp : name ≠ ".."

/-- The names that an entry may have, as one condition. -/
theorem isFileName_iff (name : String) :
    IsFileName name ↔ name ≠ "" ∧ '/' ∉ name.toList ∧ name ≠ "." ∧ name ≠ ".." :=
  ⟨fun ⟨h, h', h'', h'''⟩ => ⟨h, h', h'', h'''⟩, fun ⟨h, h', h'', h'''⟩ => ⟨h, h', h'', h'''⟩⟩

instance (name : String) : Decidable (IsFileName name) :=
  decidable_of_iff _ (isFileName_iff name).symm

/-- The entries of every directory have different names that entries may have. -/
inductive WellNamed : Node → Prop where
  | file (content : List UInt8) (readable : Bool) : WellNamed (.file content readable)
  | link (target : String) : WellNamed (.link target)
  | directory {access : Access} {entries : List (String × Node)}
      (distinct : (entries.map Prod.fst).Nodup)
      (names : ∀ entry ∈ entries, IsFileName entry.1)
      (below : ∀ entry ∈ entries, WellNamed entry.2) : WellNamed (.directory access entries)

/-- Every directory may be listed and entered. -/
inductive Unrestricted : Node → Prop where
  | file (content : List UInt8) (readable : Bool) : Unrestricted (.file content readable)
  | link (target : String) : Unrestricted (.link target)
  | directory {entries : List (String × Node)} (below : ∀ entry ∈ entries, Unrestricted entry.2) :
      Unrestricted (.directory .full entries)

/-- A node without what it holds below. -/
inductive Kind where
  | file (content : List UInt8) (readable : Bool)
  | directory (access : Access)
  | link (target : String)
  deriving DecidableEq, Repr

/-- The kind of a node. -/
def Node.kind : Node → Kind
  | .file content readable => .file content readable
  | .directory access _ => .directory access
  | .link target => .link target

/-- The kind of the node that a path leads to. -/
def Node.kindAt (tree : Node) (path : List String) : Option Kind := (tree.find? path).map Node.kind

/-- A directory is known by its kind. -/
theorem Node.isDirectory_iff (node : Node) :
    node.isDirectory = true ↔ ∃ access, node.kind = .directory access := by
  cases node <;> simp [Node.isDirectory, Node.kind]

section Lookup

variable {entries : List (String × Node)} {name : String} {node : Node}

/-- A node that is found under a name is an entry with it. -/
theorem mem_of_lookup (hlookup : entries.lookup name = some node) : (name, node) ∈ entries := by
  obtain ⟨before, after, rfl, -⟩ := List.lookup_eq_some_iff.mp hlookup
  simp

/-- The entries with different names are found by their names. -/
theorem lookup_eq_some_iff (distinct : (entries.map Prod.fst).Nodup) :
    entries.lookup name = some node ↔ (name, node) ∈ entries := by
  induction entries with
  | nil => simp
  | cons entry rest ih =>
    obtain ⟨first, found⟩ := entry
    obtain ⟨hfresh, hrest⟩ := List.nodup_cons.mp distinct
    rw [List.lookup_cons, List.mem_cons, Prod.mk.injEq]
    by_cases hname : name = first
    · subst hname
      have hnot : (name, node) ∉ rest := fun hmem =>
        hfresh (List.mem_map.mpr ⟨(name, node), hmem, rfl⟩)
      simp [hnot, eq_comm]
    · rw [beq_false_of_ne hname, ih hrest]
      simp [hname]

/-- An entry is found under no name but its own. -/
theorem lookup_eq_none_iff : entries.lookup name = none ↔ name ∉ entries.map Prod.fst := by
  rw [List.lookup_eq_none_iff]
  constructor
  · intro hall hmem
    obtain ⟨entry, hentry, rfl⟩ := List.mem_map.mp hmem
    simpa using hall entry hentry
  · intro hnot entry hentry
    rw [bne_iff_ne]
    rintro rfl
    exact hnot (List.mem_map_of_mem hentry)

/-- The entries of a directory after one of them is set. -/
theorem lookup_setEntry (entries : List (String × Node)) (name other : String) (node : Node) :
    (setEntry name (some node) entries).lookup other =
      if other = name then some node else entries.lookup other := by
  simp only [setEntry]
  induction entries with
  | nil => by_cases h : other = name <;> simp [h]
  | cons entry rest ih =>
    obtain ⟨first, found⟩ := entry
    by_cases hfirst : first = name
    · subst hfirst
      rw [List.filter_cons_of_neg (by simp), ih, List.lookup_cons]
      split
      · rfl
      · next hne => rw [beq_false_of_ne hne]
    · rw [List.filter_cons_of_pos (by simpa using hfirst), List.cons_append, List.lookup_cons, ih,
        List.lookup_cons]
      by_cases hother : other = first
      · simp [hother, hfirst]
      · rw [beq_false_of_ne hother]

end Lookup

namespace Node

variable {tree node : Node} {path rest : List String} {name : String}

/-- The empty path leads to the tree itself. -/
@[simp]
theorem find?_nil (tree : Node) : tree.find? [] = some tree := by
  rw [find?]

/-- The kind of the tree stands at the empty path. -/
@[simp]
theorem kindAt_nil (tree : Node) : tree.kindAt [] = some tree.kind := by
  rw [kindAt, find?_nil, Option.map_some]

/-- A path from a directory on leads through the entry with its first name. -/
@[simp]
theorem find?_directory_cons (access : Access) (entries : List (String × Node)) (name : String)
    (rest : List String) :
    (directory access entries).find? (name :: rest) =
      (entries.lookup name).bind fun node => node.find? rest := by
  rw [find?, entry?]
  cases entries.lookup name <;> rfl

/-- The kinds below a directory are those of its entries. -/
@[simp]
theorem kindAt_directory_cons (access : Access) (entries : List (String × Node)) (name : String)
    (rest : List String) :
    (directory access entries).kindAt (name :: rest) =
      (entries.lookup name).bind fun node => node.kindAt rest := by
  rw [kindAt, find?_directory_cons, Option.map_bind]
  rfl

/-- Nothing stands below a file. -/
@[simp]
theorem kindAt_file_cons (content : List UInt8) (readable : Bool) (name : String)
    (rest : List String) : (file content readable).kindAt (name :: rest) = none := rfl

/-- A path leads on from where its front leads. -/
theorem find?_append (tree : Node) (path rest : List String) :
    tree.find? (path ++ rest) = (tree.find? path).bind fun node => node.find? rest := by
  induction path generalizing tree with
  | nil => simp
  | cons name others ih =>
    cases tree with
    | directory access entries =>
      simp only [List.cons_append, find?_directory_cons, Option.bind_assoc]
      exact Option.bind_congr fun node _ => ih node
    | file content readable => rfl
    | link target => rfl

/-- The kinds from a node on are those that the tree has there. -/
theorem kindAt_append (hfind : tree.find? path = some node) (rest : List String) :
    tree.kindAt (path ++ rest) = node.kindAt rest := by
  rw [kindAt, find?_append, hfind, Option.bind_some, kindAt]

/-- A path with a kind leads to a node of that kind. -/
theorem exists_find?_of_kindAt {kind : Kind} (hkind : tree.kindAt path = some kind) :
    ∃ node, tree.find? path = some node ∧ node.kind = kind := Option.map_eq_some_iff.mp hkind

/-- What stands on the way to something is a directory. -/
theorem exists_directory_of_kindAt_append {kind : Kind}
    (hkind : tree.kindAt (path ++ name :: rest) = some kind) :
    ∃ access, tree.kindAt path = some (.directory access) := by
  obtain ⟨node, hfind, -⟩ := exists_find?_of_kindAt hkind
  rw [find?_append] at hfind
  obtain ⟨above, habove, hbelow⟩ := Option.bind_eq_some_iff.mp hfind
  cases above with
  | directory access entries => exact ⟨access, by rw [kindAt, habove]; rfl⟩
  | file content readable => cases hbelow
  | link target => cases hbelow

end Node

/-- The names on the way to something are names that entries may have. -/
theorem WellNamed.isFileName {tree : Node} {path : List String} {kind : Kind}
    (hnamed : WellNamed tree) (hkind : tree.kindAt path = some kind) :
    ∀ name ∈ path, IsFileName name := by
  induction path generalizing tree with
  | nil => exact fun _ hname => absurd hname List.not_mem_nil
  | cons first rest ih =>
    cases hnamed with
    | directory distinct names below =>
      rw [Node.kindAt_directory_cons] at hkind
      obtain ⟨node, hlookup, hrest⟩ := Option.bind_eq_some_iff.mp hkind
      have hmem := (lookup_eq_some_iff distinct).mp hlookup
      exact List.forall_mem_cons.mpr ⟨names _ hmem, ih (below _ hmem) hrest⟩
    | file content readable => cases hkind
    | link target => cases hkind

/-- What a well named tree holds is well named. -/
theorem WellNamed.find? {tree node : Node} {path : List String} (hnamed : WellNamed tree)
    (hfind : tree.find? path = some node) : WellNamed node := by
  induction path generalizing tree with
  | nil =>
    rw [Node.find?_nil] at hfind
    exact Option.some.inj hfind ▸ hnamed
  | cons name rest ih =>
    cases hnamed with
    | directory distinct names below =>
      rw [Node.find?_directory_cons] at hfind
      obtain ⟨found, hfound, hfind⟩ := Option.bind_eq_some_iff.mp hfind
      exact ih (below _ ((lookup_eq_some_iff distinct).mp hfound)) hfind
    | file content readable => cases hfind
    | link target => cases hfind

/-- The directories of a tree without restrictions have full access. -/
theorem Unrestricted.access_eq {tree : Node} {path : List String} {access : Access}
    (hopen : Unrestricted tree) (hkind : tree.kindAt path = some (.directory access)) :
    access = .full := by
  induction path generalizing tree with
  | nil =>
    cases hopen with
    | directory below => simpa [Node.kind, eq_comm] using hkind
    | file content readable => cases hkind
    | link target => cases hkind
  | cons name rest ih =>
    cases hopen with
    | directory below =>
      rw [Node.kindAt_directory_cons] at hkind
      obtain ⟨node, hlookup, hrest⟩ := Option.bind_eq_some_iff.mp hkind
      exact ih (below _ (mem_of_lookup hlookup)) hrest
    | file content readable => cases hkind
    | link target => cases hkind

end DocCoverage.FileTree
