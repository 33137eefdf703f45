import DocCoverage.Proofs.FileTree.View

/-!
# Trees with emptied directories

A tree is changed so that nothing is left in the directories at chosen places, and all directories may be
listed and entered. What stands below one of these places is gone, and all else is seen as before.
-/

namespace DocCoverage.FileTree

/-- A kind where every directory may be listed and entered. -/
def Kind.unrestricted : Kind → Kind
  | directory _ => directory .full
  | kind => kind

/-- Without restrictions there are none to lift. -/
theorem Kind.unrestricted_unrestricted (kind : Kind) :
    kind.unrestricted.unrestricted = kind.unrestricted := by
  cases kind <;> rfl

/-- A file has no restrictions to lift. -/
theorem Kind.unrestricted_eq_file_iff {kind : Kind} {content : List UInt8} {readable : Bool} :
    kind.unrestricted = .file content readable ↔ kind = .file content readable := by
  cases kind <;> simp [unrestricted]

mutual

/-- A node at a place with nothing in the directories at chosen places and no restrictions. -/
def Node.emptied (chosen : List String → Bool) (place : List String) : Node → Node
  | .file content readable => .file content readable
  | .link target => .link target
  | .directory _ entries =>
    .directory .full (if chosen place then [] else emptiedEntries chosen place entries)

/-- The entries of a directory at a place, emptied in the same way. -/
def emptiedEntries (chosen : List String → Bool) (place : List String) :
    List (String × Node) → List (String × Node)
  | [] => []
  | (name, node) :: rest =>
    (name, node.emptied chosen (place ++ [name])) :: emptiedEntries chosen place rest

end

section Emptied

variable (chosen : List String → Bool)

/-- Each entry is emptied at its own place. -/
theorem emptiedEntries_eq_map (place : List String) (entries : List (String × Node)) :
    emptiedEntries chosen place entries =
      entries.map fun entry => (entry.1, entry.2.emptied chosen (place ++ [entry.1])) := by
  induction entries with
  | nil => rw [emptiedEntries, List.map_nil]
  | cons entry rest ih => rw [emptiedEntries, ih, List.map_cons]

/-- The entry with a name is emptied at its place. -/
theorem lookup_emptiedEntries (place : List String) (entries : List (String × Node)) (name : String) :
    (emptiedEntries chosen place entries).lookup name =
      (entries.lookup name).map (Node.emptied chosen (place ++ [name])) := by
  induction entries with
  | nil => rw [emptiedEntries, List.lookup_nil, Option.map_none]
  | cons entry rest ih =>
    obtain ⟨first, node⟩ := entry
    rw [emptiedEntries, List.lookup_cons, List.lookup_cons, ih]
    by_cases hname : name = first
    · subst hname
      simp
    · simp [beq_false_of_ne hname]

/-- The kind of an emptied node. -/
theorem kind_emptied (place : List String) (node : Node) :
    (node.emptied chosen place).kind = node.kind.unrestricted := by
  cases node <;> rw [Node.emptied] <;> rfl

variable {chosen}

/-- Below a chosen place nothing is left. -/
theorem kindAt_emptied_of_chosen {place path front : List String} (node : Node)
    (hpart : front <+: path) (hne : front ≠ path) (hfront : chosen (place ++ front) = true) :
    (node.emptied chosen place).kindAt path = none := by
  induction path generalizing node place front with
  | nil => exact absurd (List.prefix_nil.mp hpart) hne
  | cons name rest ih =>
    cases node with
    | file content readable => rw [Node.emptied]; rfl
    | link target => rw [Node.emptied]; rfl
    | directory access entries =>
      rw [Node.emptied, Node.kindAt_directory_cons]
      cases front with
      | nil =>
        rw [List.append_nil] at hfront
        rw [if_pos hfront, List.lookup_nil, Option.bind_none]
      | cons first front =>
        obtain ⟨rfl, hbelow⟩ := List.cons_prefix_cons.mp hpart
        split
        · rw [List.lookup_nil, Option.bind_none]
        · rw [lookup_emptiedEntries]
          cases entries.lookup first with
          | none => rfl
          | some node =>
            rw [Option.map_some, Option.bind_some]
            refine ih node hbelow (fun heq => hne (heq ▸ rfl)) ?_
            rw [List.append_assoc]
            exact hfront

/-- What is below no chosen place is seen as before, without restrictions. -/
theorem kindAt_emptied_of_not_chosen {place path : List String} (node : Node)
    (hfronts : ∀ front, front <+: path → front ≠ path → chosen (place ++ front) = false) :
    (node.emptied chosen place).kindAt path = (node.kindAt path).map Kind.unrestricted := by
  induction path generalizing node place with
  | nil => rw [Node.kindAt_nil, Node.kindAt_nil, kind_emptied, Option.map_some]
  | cons name rest ih =>
    cases node with
    | file content readable => rw [Node.emptied]; rfl
    | link target => rw [Node.emptied]; rfl
    | directory access entries =>
      have hplace := hfronts [] List.nil_prefix (by simp)
      rw [List.append_nil] at hplace
      rw [Node.emptied, hplace, if_neg Bool.false_ne_true, Node.kindAt_directory_cons,
        Node.kindAt_directory_cons, lookup_emptiedEntries]
      cases entries.lookup name with
      | none => rfl
      | some node =>
        rw [Option.map_some, Option.bind_some, Option.bind_some]
        refine ih node fun front hpart hne => ?_
        rw [List.append_assoc]
        exact hfronts (name :: front) (List.cons_prefix_cons.mpr ⟨rfl, hpart⟩)
          fun heq => hne (List.cons.inj heq).2

/-- An emptied tree is as well named. -/
theorem WellNamed.emptied {node : Node} (hnamed : WellNamed node) (place : List String) :
    WellNamed (node.emptied chosen place) := by
  induction hnamed generalizing place with
  | file content readable => rw [Node.emptied]; exact .file content readable
  | link target => rw [Node.emptied]; exact .link target
  | directory distinct names below ih =>
    rw [Node.emptied]
    split
    · exact .directory List.nodup_nil (by simp) (by simp)
    · rw [emptiedEntries_eq_map]
      refine .directory ?_ ?_ ?_
      · rw [List.map_map]
        exact distinct
      · rw [List.forall_mem_map]
        exact names
      · rw [List.forall_mem_map]
        exact fun entry hentry => ih entry hentry _

/-- An emptied tree has no restrictions. -/
theorem unrestricted_emptied {node : Node} (hnamed : WellNamed node) (place : List String) :
    Unrestricted (node.emptied chosen place) := by
  -- the names of the tree do not matter, and its induction is the one over entries
  induction hnamed generalizing place with
  | file content readable => rw [Node.emptied]; exact .file content readable
  | link target => rw [Node.emptied]; exact .link target
  | directory distinct names below ih =>
    rw [Node.emptied]
    split
    · exact .directory (by simp)
    · rw [emptiedEntries_eq_map]
      refine .directory ?_
      rw [List.forall_mem_map]
      exact fun entry hentry => ih entry hentry _

end Emptied

end DocCoverage.FileTree
