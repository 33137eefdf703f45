import DocCoverage.Proofs.Coverage.Accounting
import DocCoverage.Proofs.Coverage.CollectedDeclarations
import DocCoverage.Proofs.Text.LineTerminators

/-!
# The order of reported lines

The items of a module stand one after the other in its text, and the declarators of a variable statement
do so inside of it. A later offset never lies on an earlier line, so the declarations that are found from
item to item lie on ascending lines: each ends at most on the line on which the next one starts.

Sorting by kind makes two runs of them, and the undocumented lines of a file are taken from the one and
then from the other.
-/

namespace DocCoverage.Coverage

open Text TypeScript

/-- Spans in order: none ends before it starts, and none starts before an earlier one ends. -/
structure SpansInOrder (spans : List Span) : Prop where
  start_le_stop : ∀ span ∈ spans, span.start ≤ span.stop
  apart : spans.Pairwise fun first second => first.stop ≤ second.start

instance (spans : List Span) : Decidable (SpansInOrder spans) :=
  decidable_of_iff ((∀ span ∈ spans, span.start ≤ span.stop) ∧
      spans.Pairwise fun first second => first.stop ≤ second.start)
    ⟨fun h => ⟨h.1, h.2⟩, fun h => ⟨h.start_le_stop, h.apart⟩⟩

/-- Items in order, with the declarators of each in order inside of it. -/
structure ItemsInOrder (items : List Item) : Prop where
  spans : SpansInOrder (items.map Item.span)
  declarators : ∀ item ∈ items, SpansInOrder ((declaratorsOf item.kind).map Declarator.span)
  inside : ∀ item ∈ items, ∀ declarator ∈ declaratorsOf item.kind,
    item.span.start ≤ declarator.span.start ∧ declarator.span.stop ≤ item.span.stop

/-- The spans on whose lines an item declares something: its own for a function, and those of the
declarators that hold functions for variables. -/
def declaredSpans (item : Item) : List Span :=
  match item.kind with
  | .function _ | .exportedFunction _ | .defaultFunction _ => [item.span]
  | .variables declarators | .exportedVariables declarators =>
    (declarators.filter bindsFunction).map Declarator.span
  | .other => []

/-- A range of lines from one to a number of lines. -/
structure LineRange.IsWithin (count : Nat) (range : LineRange) : Prop where
  one_le_first : 1 ≤ range.first
  first_le_last : range.first ≤ range.last
  last_le : range.last ≤ count

/-- A range of lines before another one: it may end on the line on which that one starts, and they share
no other. -/
def LineRange.Precedes (first second : LineRange) : Prop := first.last ≤ second.first

/-- Ascending ranges among so many lines. -/
structure IsRun (count : Nat) (ranges : List LineRange) : Prop where
  within : ∀ range ∈ ranges, range.IsWithin count
  ascending : ranges.Pairwise LineRange.Precedes

/-- A run stays one when ranges are left out of it. -/
theorem IsRun.sublist {count : Nat} {ranges others : List LineRange} (hrun : IsRun count others)
    (hsub : ranges.Sublist others) : IsRun count ranges :=
  ⟨fun range hmem => hrun.within range (hsub.subset hmem), hrun.ascending.sublist hsub⟩

section Lines

variable {text : List Char}

/-- The lines of a span are lines of the text. -/
theorem isWithin_linesOf {span : Span} (hspan : span.start ≤ span.stop) :
    (linesOf (.ofText text) span).IsWithin (lineCount text) where
  one_le_first := LineIndex.one_le_lineOf text span.start
  first_le_last := LineIndex.lineOf_mono text hspan
  last_le := LineIndex.lineOf_le_lineCount text span.stop

/-- The lines of a span precede those of a later one. -/
theorem precedes_linesOf {first second : Span} (hspans : first.stop ≤ second.start) :
    (linesOf (.ofText text) first).Precedes (linesOf (.ofText text) second) :=
  LineIndex.lineOf_mono text hspans

/-- Spans in order take the lines of a run. -/
theorem SpansInOrder.isRun {spans : List Span} (hspans : SpansInOrder spans) :
    IsRun (lineCount text) (spans.map (linesOf (.ofText text))) where
  within := List.forall_mem_map.mpr fun span hmem => isWithin_linesOf (hspans.start_le_stop span hmem)
  ascending := List.pairwise_map.mpr (hspans.apart.imp precedes_linesOf)

end Lines

/-! ## Spans -/

/-- Spans in order stay so when some are left out. -/
theorem SpansInOrder.sublist {spans others : List Span} (hothers : SpansInOrder others)
    (hsub : spans.Sublist others) : SpansInOrder spans :=
  ⟨fun span hmem => hothers.start_le_stop span (hsub.subset hmem), hothers.apart.sublist hsub⟩

/-- What an item declares is itself, or some of its declarators, or nothing. -/
theorem declaredSpans_cases (item : Item) :
    declaredSpans item = [item.span] ∨
      (declaredSpans item).Sublist ((declaratorsOf item.kind).map Declarator.span) := by
  rw [declaredSpans]
  cases item.kind with
  | function name => exact .inl rfl
  | exportedFunction name => exact .inl rfl
  | defaultFunction name => exact .inl rfl
  | «variables» declarators => exact .inr (List.filter_sublist.map Declarator.span)
  | exportedVariables declarators => exact .inr (List.filter_sublist.map Declarator.span)
  | other => exact .inr (List.nil_sublist _)

namespace ItemsInOrder

variable {items : List Item} {item : Item}

/-- What an item declares stands in order. -/
theorem spansInOrder_declaredSpans (hordered : ItemsInOrder items) (hitem : item ∈ items) :
    SpansInOrder (declaredSpans item) := by
  rcases declaredSpans_cases item with hself | hdeclarators
  · rw [hself]
    exact hordered.spans.sublist (List.singleton_sublist.mpr (List.mem_map_of_mem hitem))
  · exact (hordered.declarators item hitem).sublist hdeclarators

/-- What an item declares stands within the item. -/
theorem within_of_mem_declaredSpans (hordered : ItemsInOrder items) (hitem : item ∈ items)
    {span : Span} (hspan : span ∈ declaredSpans item) :
    item.span.start ≤ span.start ∧ span.stop ≤ item.span.stop := by
  rcases declaredSpans_cases item with hself | hdeclarators
  · rw [hself, List.mem_singleton] at hspan
    rw [hspan]
    exact ⟨Nat.le_refl _, Nat.le_refl _⟩
  · obtain ⟨declarator, hdeclarator, rfl⟩ := List.mem_map.mp (hdeclarators.subset hspan)
    exact hordered.inside item hitem declarator hdeclarator

/-- What the items of a module declare stands in order. -/
theorem spansInOrder_flatMap (hordered : ItemsInOrder items) :
    SpansInOrder (items.flatMap declaredSpans) where
  start_le_stop := by
    intro span hspan
    obtain ⟨item, hitem, hspan⟩ := List.mem_flatMap.mp hspan
    exact (hordered.spansInOrder_declaredSpans hitem).start_le_stop span hspan
  apart := by
    rw [List.pairwise_flatMap]
    refine ⟨fun item hitem => (hordered.spansInOrder_declaredSpans hitem).apart, ?_⟩
    -- between the two spans the first item ends and the second one starts
    refine (List.pairwise_map.mp hordered.spans.apart).imp_of_mem ?_
    intro first second hfirst hsecond hitems span hspan other hother
    calc span.stop ≤ first.span.stop := (hordered.within_of_mem_declaredSpans hfirst hspan).2
      _ ≤ second.span.start := hitems
      _ ≤ other.start := (hordered.within_of_mem_declaredSpans hsecond hother).1

end ItemsInOrder

/-! ## Declarations -/

/-- The declarations of an item lie on the lines of what it declares. -/
theorem map_lines_declarationsOfItem (index : LineIndex) (offset : Nat) (item : Item) :
    (declarationsOfItem index offset item).map Declaration.lines =
      (declaredSpans item).map (linesOf index) := by
  rw [declarationsOfItem, declaredSpans]
  cases item.kind <;> simp [functionDeclared, variableDeclared, Function.comp_def]

/-- The declarations of consecutive items lie on the lines of what these declare. -/
theorem map_lines_declarationsFrom (index : LineIndex) (offset : Nat) (items : List Item) :
    (declarationsFrom index offset items).map Declaration.lines =
      (items.flatMap declaredSpans).map (linesOf index) := by
  induction items generalizing offset with
  | nil => rfl
  | cons item rest ih =>
    rw [declarationsFrom, List.map_append, map_lines_declarationsOfItem, ih, List.flatMap_cons,
      List.map_append]

/-- The declarations of one kind in a module lie on the lines of a run. -/
theorem isRun_filter (text : List Char) {items : List Item} (hordered : ItemsInOrder items)
    (kind : DeclarationKind) :
    IsRun (lineCount text) (((declarationsOf (.ofText text) items).filter fun declaration =>
      declaration.kind = kind).map Declaration.lines) := by
  have hrun : IsRun (lineCount text)
      ((declarationsFrom (.ofText text) 0 items).map Declaration.lines) := by
    rw [map_lines_declarationsFrom]
    exact hordered.spansInOrder_flatMap.isRun
  rw [filter_declarationsOf]
  exact hrun.sublist (List.filter_sublist.map Declaration.lines)

/-- The undocumented lines of a file are lines of its declarations, in their order. -/
theorem undocumented_sublist {validate : List Char → List DocComment.Diagnostic} {unit : SourceUnit}
    {record : Record} (htally : tally? validate unit = some record) :
    record.undocumented.Sublist (unit.declarations.map Declaration.lines) := by
  rw [(accounts_of_tally? htally).undocumented]
  exact List.filter_sublist.map Declaration.lines

/-- The declarations of a module whose items are in order lie on lines of its text. Those of one kind
ascend: each ends at most on the line on which the next one starts. So the undocumented lines of the file
are two ascending runs, of functions and of variables. -/
theorem declarationsOf_lines_in_order {text : List Char} {items : List Item}
    (hordered : ItemsInOrder items) :
    (∀ declaration ∈ declarationsOf (.ofText text) items,
      declaration.lines.IsWithin (lineCount text)) ∧
    (∀ kind, ((declarationsOf (.ofText text) items).filter fun declaration =>
        declaration.kind = kind).Pairwise fun first second => first.lines.Precedes second.lines) ∧
    ∀ validate path record, tally? validate ⟨path, text, declarationsOf (.ofText text) items⟩ =
        some record →
      ∃ functionLines variableLines, record.undocumented = functionLines ++ variableLines ∧
        IsRun (lineCount text) functionLines ∧ IsRun (lineCount text) variableLines ∧
        functionLines.Sublist (((declarationsOf (.ofText text) items).filter fun declaration =>
          declaration.kind = .function).map Declaration.lines) ∧
        variableLines.Sublist (((declarationsOf (.ofText text) items).filter fun declaration =>
          declaration.kind = .variable).map Declaration.lines) := by
  have hrun := isRun_filter text hordered
  refine ⟨?_, fun kind => List.pairwise_map.mp (hrun kind).ascending, ?_⟩
  · intro declaration hmem
    have hkind : declaration ∈ (declarationsOf (.ofText text) items).filter fun other =>
        other.kind = declaration.kind := List.mem_filter.mpr ⟨hmem, decide_eq_true rfl⟩
    exact (hrun declaration.kind).within _ (List.mem_map_of_mem hkind)
  · intro validate path record htally
    have hsub : record.undocumented.Sublist ((declarationsOf (.ofText text) items).map
        Declaration.lines) := undocumented_sublist htally
    rw [← filter_append_filter_declarationsOf, List.map_append, List.sublist_append_iff] at hsub
    obtain ⟨functionLines, variableLines, hundocumented, hfunctions, hvariables⟩ := hsub
    exact ⟨functionLines, variableLines, hundocumented, (hrun .function).sublist hfunctions,
      (hrun .variable).sublist hvariables, hfunctions, hvariables⟩

/-- A module in which declarations share lines: a statement with two variables over a carriage return and
a line feed, and two functions after a lone carriage return. -/
def sharedLines : List Char :=
  "let a = () => 0, b = () => \x7b\r\n\x7d\rfunction f() \x7b\x7d function g() \x7b\n\x7d".toList

/-- The items of the module in which declarations share lines. -/
def sharedLinesItems : List Item :=
  [⟨.variables [⟨some "a", some .arrow, ⟨4, 15⟩⟩, ⟨some "b", some .arrow, ⟨17, 31⟩⟩], ⟨0, 31⟩⟩,
    ⟨.function "f", ⟨32, 47⟩⟩, ⟨.function "g", ⟨48, 64⟩⟩]

/-- The declarations that share lines are reported in two ascending runs. -/
theorem sharedLines_in_order :
    (readModule (.ofPath "m.ts") sharedLines).toOption = some sharedLinesItems ∧
    ∃ record, tally? DocComment.validate
        ⟨"m.ts", sharedLines, declarationsOf (.ofText sharedLines) sharedLinesItems⟩ = some record ∧
      record.undocumented = [⟨3, 3⟩, ⟨3, 4⟩, ⟨1, 1⟩, ⟨1, 2⟩] ∧
      ∃ functionLines variableLines, record.undocumented = functionLines ++ variableLines ∧
        IsRun (lineCount sharedLines) functionLines ∧ IsRun (lineCount sharedLines) variableLines := by
  have hordered : ItemsInOrder sharedLinesItems := ⟨by decide, by decide, by decide⟩
  have htally : tally? DocComment.validate
      ⟨"m.ts", sharedLines, declarationsOf (.ofText sharedLines) sharedLinesItems⟩ =
        some ⟨"m.ts", 4, 0, [⟨3, 3⟩, ⟨3, 4⟩, ⟨1, 1⟩, ⟨1, 2⟩]⟩ := by
    rw [← filter_append_filter_declarationsOf, filter_declarationsOf, filter_declarationsOf]
    decide +kernel
  obtain ⟨functionLines, variableLines, hundocumented, hfunctions, hvariables, -⟩ :=
    (declarationsOf_lines_in_order hordered).2.2 _ _ _ htally
  exact ⟨by decide +kernel, _, htally, rfl, functionLines, variableLines, hundocumented, hfunctions,
    hvariables⟩

end DocCoverage.Coverage
