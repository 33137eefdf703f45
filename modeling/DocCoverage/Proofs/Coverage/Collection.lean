import DocCoverage.Coverage.Declarations

/-!
# Where declarations come from

The collector goes through the items of a module in order. The declarations of an item seek their
comments from the end of the item before it on, whether or not that one declares anything, and from
the start of the text for the first item. All declarations of a module are declarations of its
items.
-/

namespace DocCoverage.Coverage

open Text TypeScript

/-- The offset at which some items of a module end; an offset before them, where there are none. -/
def endAfter (offset : Nat) (items : List Item) : Nat :=
  (items.getLast?.map fun item => item.span.stop).getD offset

/-- The offset before some items matters only where there are none. -/
theorem endAfter_cons (offset : Nat) (item : Item) (rest : List Item) :
    endAfter offset (item :: rest) = endAfter item.span.stop rest := by
  rw [endAfter, endAfter, List.getLast?_cons]
  cases rest.getLast? <;> rfl

/-- The declarations of an item seek their comments from the offset that they are given on. -/
theorem commentOffset_of_mem_declarationsOfItem {index : LineIndex} {offset : Nat} {item : Item}
    {declaration : Declaration} (hmem : declaration ∈ declarationsOfItem index offset item) :
    declaration.commentOffset = offset := by
  have hfunction {name : String}
      (hmem : declaration ∈ [functionDeclared index offset name item.span]) :
      declaration.commentOffset = offset := by
    rw [List.mem_singleton.mp hmem]
    rfl
  have hvariables {declarators : List Declarator}
      (hmem : declaration ∈
        (declarators.filter bindsFunction).map (variableDeclared index offset)) :
      declaration.commentOffset = offset := by
    obtain ⟨declarator, -, rfl⟩ := List.mem_map.mp hmem
    rfl
  rw [declarationsOfItem] at hmem
  split at hmem
  · exact hfunction hmem
  · exact hfunction hmem
  · exact hfunction hmem
  · exact hvariables hmem
  · exact hvariables hmem
  · exact absurd hmem List.not_mem_nil

/-- Whether an item declares anything does not depend on where its comments are sought. -/
theorem declarationsOfItem_eq_nil_iff (index : LineIndex) (offset offset' : Nat) (item : Item) :
    declarationsOfItem index offset item = [] ↔ declarationsOfItem index offset' item = [] := by
  rw [declarationsOfItem, declarationsOfItem]
  cases item.kind <;> simp

/-- The declarations of consecutive items are those of each item after the one before it. -/
theorem mem_declarationsFrom_iff (index : LineIndex) (offset : Nat) (items : List Item)
    (declaration : Declaration) :
    declaration ∈ declarationsFrom index offset items ↔
      ∃ before item after, items = before ++ item :: after ∧
        declaration ∈ declarationsOfItem index (endAfter offset before) item := by
  induction items generalizing offset with
  | nil => simp [declarationsFrom]
  | cons item rest ih =>
    rw [declarationsFrom, List.mem_append, ih]
    constructor
    · intro h
      rcases h with h | ⟨before, next, after, rfl, h⟩
      · exact ⟨[], item, rest, rfl, h⟩
      · refine ⟨item :: before, next, after, rfl, ?_⟩
        rwa [endAfter_cons]
    · intro h
      obtain ⟨before, next, after, hitems, h⟩ := h
      cases before with
      | nil =>
        obtain ⟨rfl, rfl⟩ := List.cons.inj hitems
        exact Or.inl h
      | cons first before =>
        obtain ⟨rfl, rfl⟩ := List.cons.inj hitems
        rw [endAfter_cons] at h
        exact Or.inr ⟨before, next, after, rfl, h⟩

/-- The declarations of a module are those of its items, each after the one before it. -/
theorem mem_declarationsOf_iff (index : LineIndex) (items : List Item) (declaration : Declaration) :
    declaration ∈ declarationsOf index items ↔
      ∃ before item after, items = before ++ item :: after ∧
        declaration ∈ declarationsOfItem index (endAfter 0 before) item := by
  rw [← mem_declarationsFrom_iff, declarationsOf, List.mem_mergeSort]

end DocCoverage.Coverage
