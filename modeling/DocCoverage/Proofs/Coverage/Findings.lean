import DocCoverage.Coverage.Tally
import DocCoverage.Proofs.Text.Boundary

/-!
# When a tally has an answer

The leading comments of an offset are found exactly when the offset is a character boundary or lies
at or past the end of the text, and a unit is tallied exactly when they are found for all of its
declarations. What is found for the declarations of one unit one by one is found for all of another.
-/

namespace DocCoverage.Text

/-- Leading comments are found from a boundary on, and past the end of the text. -/
theorem leadingComments?_isSome_iff (text : List Char) (offset : Nat) :
    (leadingComments? text offset).isSome = true ↔
      IsBoundary text offset ∨ byteLength text ≤ offset := by
  rw [leadingComments?]
  split
  · next hzero =>
    subst hzero
    exact iff_of_true rfl (Or.inl (isBoundary_zero text))
  · split
    · next hle => exact iff_of_true rfl (Or.inr hle)
    · next hlt => rw [Option.isSome_map, ← isBoundary_iff_isSome, or_iff_left hlt]

end DocCoverage.Text

namespace DocCoverage.Coverage

open Text

/-- A unit is tallied exactly when leading comments are found for all of its declarations. -/
theorem tally?_isSome_iff (validate : List Char → List DocComment.Diagnostic) (unit : SourceUnit) :
    (tally? validate unit).isSome = true ↔
      ∀ declaration ∈ unit.declarations,
        (leadingComments? unit.text declaration.commentOffset).isSome = true := by
  rw [tally?, Option.isSome_map, findings?]
  induction unit.declarations with
  | nil => simp
  | cons declaration rest ih =>
    have hfinding : (finding? validate unit.text declaration).isSome =
        (leadingComments? unit.text declaration.commentOffset).isSome := by
      rw [finding?, Option.isSome_map, commentOf?, Option.isSome_map]
    rw [List.forall_mem_cons, ← ih, ← hfinding, List.mapM_cons]
    cases finding? validate unit.text declaration with
    | none => simp
    | some found => cases rest.mapM (finding? validate unit.text) <;> simp

/-- What is found for the declarations of a unit is found for those of another when it is found for
them one by one. -/
theorem findings?_map {validate validate' : List Char → List DocComment.Diagnostic}
    {unit unit' : SourceUnit} {f : Declaration → Declaration} {g : Finding → Finding}
    (hdeclarations : unit'.declarations = unit.declarations.map f)
    (hfinding : ∀ declaration ∈ unit.declarations,
      finding? validate' unit'.text (f declaration) =
        (finding? validate unit.text declaration).map g) :
    findings? validate' unit' = (findings? validate unit).map (List.map g) := by
  rw [findings?, findings?, hdeclarations, List.mapM_map]
  revert hfinding
  induction unit.declarations with
  | nil => intro _; rfl
  | cons declaration rest ih =>
    intro hfinding
    have hfirst := hfinding declaration List.mem_cons_self
    have hrest := ih fun other hother => hfinding other (List.mem_cons_of_mem _ hother)
    rw [List.mapM_cons, List.mapM_cons, hrest, Function.comp_apply, hfirst]
    cases finding? validate unit.text declaration with
    | none => rfl
    | some found => cases rest.mapM (finding? validate unit.text) <;> rfl

/-- A record keeps of the findings their status and the lines of their declarations. -/
theorem ofFindings_map {g : Finding → Finding} (hstatus : ∀ finding, (g finding).status = finding.status)
    (hlines : ∀ finding, (g finding).declaration.lines = finding.declaration.lines)
    (path : String) (findings : List Finding) :
    Record.ofFindings path (findings.map g) = Record.ofFindings path findings := by
  simp only [Record.ofFindings, List.length_map, List.countP_map, List.filter_map, List.map_map,
    Function.comp_def, hstatus, hlines]

end DocCoverage.Coverage
