import DocCoverage.Coverage.Declarations
import Mathlib.Data.List.Basic

/-!
# Which declarations are collected

The collector goes through the items of a module, carries along the offset at which the last one ended,
and sorts what it finds by kind at the end. What it returns can be said without a carried offset and
without a sort: one declaration for each item that is a function, then one for each declarator that binds
a function, both in the order of the file. Every declaration seeks its comments from the end of the item
directly before its own, whatever that item is.
-/

namespace DocCoverage.Coverage

open Text TypeScript

/-- The items of a module, each with the offset at which the item directly before it ends; before the
first one, which follows `offset`, none does. -/
def placedFrom (offset : Nat) (items : List Item) : List (Nat × Item) :=
  (offset :: items.map fun item => item.span.stop).zip items

/-- The name of the function that an item declares, if it declares one: here, for other modules, or as
the default of the module. -/
def functionName? : ItemKind → Option String
  | .function name => some name
  | .exportedFunction name => some name
  | .defaultFunction (some name) => some name
  | .defaultFunction none => some "default"
  | _ => none

/-- The declarators of an item that is a variable statement, exported or not. -/
def declaratorsOf : ItemKind → List Declarator
  | .variables declarators => declarators
  | .exportedVariables declarators => declarators
  | _ => []

/-- A declarator whose initializer is itself an arrow function or a function expression. -/
def HoldsFunction (declarator : Declarator) : Prop :=
  declarator.initializer = some .arrow ∨ declarator.initializer = some .function

instance (declarator : Declarator) : Decidable (HoldsFunction declarator) :=
  inferInstanceAs (Decidable (_ ∨ _))

/-- The function that an item declares, on the lines of the item. -/
def placedFunction? (index : LineIndex) (placed : Nat × Item) : Option Declaration :=
  (functionName? placed.2.kind).map fun name =>
    { name
      kind := .function
      commentOffset := placed.1
      lines := ⟨index.lineOf placed.2.span.start, index.lineOf placed.2.span.stop⟩ }

/-- The variables of an item that hold functions, each on the lines of its declarator. -/
def placedVariables (index : LineIndex) (placed : Nat × Item) : List Declaration :=
  ((declaratorsOf placed.2.kind).filter (HoldsFunction ·)).map fun declarator =>
    { name := declarator.name.getD "<pattern>"
      kind := .variable
      commentOffset := placed.1
      lines := ⟨index.lineOf declarator.span.start, index.lineOf declarator.span.stop⟩ }

/-! ## The order of the kinds -/

/-- Only a variable does not stand before a function. -/
theorem sortsBefore_iff {first second : Declaration} :
    sortsBefore first second = true ↔ (first.kind = .variable → second.kind = .variable) := by
  rw [sortsBefore, Bool.or_eq_true, decide_eq_true_eq, decide_eq_true_eq]
  cases first.kind <;> simp

/-- The order of the kinds is transitive. -/
theorem sortsBefore_trans (first second third : Declaration)
    (hfirst : sortsBefore first second = true) (hsecond : sortsBefore second third = true) :
    sortsBefore first third = true :=
  sortsBefore_iff.mpr (sortsBefore_iff.mp hsecond ∘ sortsBefore_iff.mp hfirst)

/-- Of two declarations one may stand before the other. -/
theorem sortsBefore_total (first second : Declaration) :
    (sortsBefore first second || sortsBefore second first) = true := by
  rw [sortsBefore, sortsBefore]
  cases first.kind <;> cases second.kind <;> rfl

/-- Of declarations of one kind all are of that kind. -/
theorem filter_kind_eq_self {kind : DeclarationKind} {declarations : List Declaration}
    (hkind : ∀ declaration ∈ declarations, declaration.kind = kind) :
    declarations.filter (fun declaration => declaration.kind = kind) = declarations :=
  List.filter_eq_self.mpr fun declaration hmem => decide_eq_true (hkind declaration hmem)

/-- Of declarations of one kind none is of another. -/
theorem filter_kind_eq_nil {kind other : DeclarationKind} {declarations : List Declaration}
    (hkind : ∀ declaration ∈ declarations, declaration.kind = kind) (hne : kind ≠ other) :
    declarations.filter (fun declaration => declaration.kind = other) = [] :=
  List.filter_eq_nil_iff.mpr fun declaration hmem => by simpa [hkind declaration hmem] using hne

/-- Sorting keeps the declarations of one kind in their order. -/
theorem filter_mergeSort (kind : DeclarationKind) (declarations : List Declaration) :
    (declarations.mergeSort sortsBefore).filter (fun declaration => declaration.kind = kind) =
      declarations.filter fun declaration => declaration.kind = kind := by
  have hperm := (List.mergeSort_perm declarations sortsBefore).filter fun declaration =>
    decide (declaration.kind = kind)
  have hsorted : (declarations.filter fun declaration => declaration.kind = kind).Pairwise
      fun first second => sortsBefore first second = true := by
    refine List.pairwise_of_forall_mem_list fun first hfirst second hsecond => ?_
    have hkind {declaration : Declaration}
        (hmem : declaration ∈ declarations.filter fun declaration => declaration.kind = kind) :
        declaration.kind = kind := of_decide_eq_true (List.mem_filter.mp hmem).2
    exact sortsBefore_iff.mpr fun _ => by rwa [hkind hsecond, ← hkind hfirst]
  have hsub := (List.sublist_mergeSort sortsBefore_trans sortsBefore_total hsorted
    List.filter_sublist).filter fun declaration => decide (declaration.kind = kind)
  rw [List.filter_filter] at hsub
  simp only [Bool.and_self] at hsub
  exact (hsub.eq_of_length hperm.length_eq.symm).symm

/-- Declarations in order are functions and then variables. -/
theorem filter_append_filter_of_pairwise {declarations : List Declaration}
    (hsorted : declarations.Pairwise fun first second => sortsBefore first second = true) :
    (declarations.filter fun declaration => declaration.kind = .function) ++
      (declarations.filter fun declaration => declaration.kind = .variable) = declarations := by
  induction hsorted with
  | nil => rfl
  | @cons first rest hfirst _ ih =>
    cases hkind : first.kind with
    | function => simp [hkind, ih]
    | «variable» =>
      have hrest : ∀ declaration ∈ rest, declaration.kind = .variable :=
        fun declaration hmem => sortsBefore_iff.mp (hfirst declaration hmem) hkind
      have hfunctions := filter_kind_eq_nil hrest (nofun : DeclarationKind.variable ≠ .function)
      simp [hkind, hfunctions, filter_kind_eq_self hrest]

/-- The declarations of one kind in a module, as they are collected. -/
theorem filter_declarationsOf (index : LineIndex) (items : List Item) (kind : DeclarationKind) :
    (declarationsOf index items).filter (fun declaration => declaration.kind = kind) =
      (declarationsFrom index 0 items).filter fun declaration => declaration.kind = kind := by
  rw [declarationsOf, filter_mergeSort]

/-- The declarations of a module are its functions and then its variables. -/
theorem filter_append_filter_declarationsOf (index : LineIndex) (items : List Item) :
    ((declarationsOf index items).filter fun declaration => declaration.kind = .function) ++
      ((declarationsOf index items).filter fun declaration => declaration.kind = .variable) =
        declarationsOf index items :=
  filter_append_filter_of_pairwise (List.pairwise_mergeSort sortsBefore_trans sortsBefore_total _)

/-! ## The declarations of the items -/

/-- The declarators of a function are told by a test. -/
theorem bindsFunction_eq (declarator : Declarator) :
    bindsFunction declarator = decide (HoldsFunction declarator) := by
  rw [bindsFunction, Bool.eq_iff_iff, decide_eq_true_eq, HoldsFunction]
  simp

/-- An item declares its function and its variables. -/
theorem declarationsOfItem_eq (index : LineIndex) (offset : Nat) (item : Item) :
    declarationsOfItem index offset item =
      (placedFunction? index (offset, item)).toList ++ placedVariables index (offset, item) := by
  have hbinds : bindsFunction = fun declarator => decide (HoldsFunction declarator) :=
    funext bindsFunction_eq
  rw [declarationsOfItem, placedFunction?, placedVariables, hbinds]
  cases hkind : item.kind with
  | defaultFunction name => cases name <;> rfl
  | _ => rfl

/-- Of the declarations of consecutive items, those of one kind. -/
theorem filter_declarationsFrom (index : LineIndex) (kind : DeclarationKind) (offset : Nat)
    (items : List Item) :
    (declarationsFrom index offset items).filter (fun declaration => declaration.kind = kind) =
      (placedFrom offset items).flatMap fun placed =>
        (declarationsOfItem index placed.1 placed.2).filter fun declaration =>
          declaration.kind = kind := by
  -- the carried offset is the first component of the next pair
  induction items generalizing offset with
  | nil => rfl
  | cons item rest ih =>
    rw [declarationsFrom, List.filter_append, ih]
    rfl

/-- What an item declares as a function. -/
theorem kind_of_placedFunction? {index : LineIndex} {placed : Nat × Item} {declaration : Declaration}
    (hfunction : placedFunction? index placed = some declaration) : declaration.kind = .function := by
  obtain ⟨name, -, rfl⟩ := Option.map_eq_some_iff.mp hfunction
  rfl

/-- What an item declares as variables. -/
theorem kind_of_mem_placedVariables {index : LineIndex} {placed : Nat × Item}
    {declaration : Declaration} (hmem : declaration ∈ placedVariables index placed) :
    declaration.kind = .variable := by
  obtain ⟨declarator, -, rfl⟩ := List.mem_map.mp hmem
  rfl

/-- The declarations of an item of the one kind are its function, and those of the other its variables. -/
theorem filter_declarationsOfItem (index : LineIndex) (placed : Nat × Item) :
    (declarationsOfItem index placed.1 placed.2).filter (fun declaration =>
        declaration.kind = .function) = (placedFunction? index placed).toList ∧
      (declarationsOfItem index placed.1 placed.2).filter (fun declaration =>
        declaration.kind = .variable) = placedVariables index placed := by
  have hfunction : ∀ declaration ∈ (placedFunction? index placed).toList,
      declaration.kind = .function :=
    fun declaration hmem => kind_of_placedFunction? (Option.mem_toList.mp hmem)
  have hvariable : ∀ declaration ∈ placedVariables index placed, declaration.kind = .variable :=
    fun declaration => kind_of_mem_placedVariables
  rw [declarationsOfItem_eq, List.filter_append, List.filter_append]
  constructor
  · rw [filter_kind_eq_self hfunction, filter_kind_eq_nil hvariable (by decide), List.append_nil]
  · rw [filter_kind_eq_nil hfunction (by decide), filter_kind_eq_self hvariable, List.nil_append]

/-- The declarations of a module are the functions of its items and then the variables of its items that
hold functions, each in the order of the file. -/
theorem declarationsOf_eq_functions_append_variables (index : LineIndex) (items : List Item) :
    declarationsOf index items =
      (placedFrom 0 items).filterMap (placedFunction? index) ++
        (placedFrom 0 items).flatMap (placedVariables index) := by
  rw [← filter_append_filter_declarationsOf, filter_declarationsOf, filter_declarationsOf,
    filter_declarationsFrom, filter_declarationsFrom, List.filterMap_eq_flatMap_toList]
  simp only [filter_declarationsOfItem]

example : declarationsOf
    (.ofText "let [a] = b, c = () => 0\nimport d\nexport default function () \x7b\x7d".toList)
    [⟨.variables [⟨none, some .other, ⟨4, 11⟩⟩, ⟨some "c", some .arrow, ⟨13, 24⟩⟩], ⟨0, 24⟩⟩,
      ⟨.other, ⟨25, 33⟩⟩, ⟨.defaultFunction none, ⟨34, 63⟩⟩] =
    [⟨"default", .function, 33, ⟨3, 3⟩⟩, ⟨"c", .variable, 0, ⟨1, 1⟩⟩] := by
  rw [← filter_append_filter_declarationsOf, filter_declarationsOf, filter_declarationsOf]
  decide +kernel

end DocCoverage.Coverage
