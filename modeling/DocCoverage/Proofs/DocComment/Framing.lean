import DocCoverage.Proofs.DocComment.Recognition

/-!
# Problems of the frame of a comment

Three problems belong to a comment as a whole: that of a missing opening delimiter, of a missing
closing one and of a fence left open. The scanner reports none of them, whatever it reads, so the
validator reports a missing delimiter exactly when the comment has no inner text for want of it.
-/

namespace DocCoverage.DocComment

open Text

/-- A problem of the comment as a whole. -/
def Problem.isFraming : Problem → Bool
  | missingOpeningDelimiter | missingClosingDelimiter | codeFenceMissingDelimiter => true
  | _ => false

/-- No diagnostic is of a problem of the comment as a whole. -/
def Unframed (diagnostics : List Diagnostic) : Prop :=
  ∀ diagnostic ∈ diagnostics, diagnostic.problem.isFraming = false

/-- A diagnostic has the identifier of a problem. -/
def Reports (diagnostics : List Diagnostic) (problem : Problem) : Prop :=
  ∃ diagnostic ∈ diagnostics, diagnostic.problem.id = problem.id

/-- A problem of the comment as a whole shares its identifier with no other. -/
theorem Problem.id_eq_iff_of_isFraming {framing : Problem} (hframing : framing.isFraming = true)
    (problem : Problem) : problem.id = framing.id ↔ problem = framing := by
  refine ⟨fun hid => ?_, congrArg Problem.id⟩
  unfold isFraming at hframing
  split at hframing
  · cases problem <;> simp [Problem.id] at hid ⊢
  · cases problem <;> simp [Problem.id] at hid ⊢
  · cases problem <;> simp [Problem.id] at hid ⊢
  · cases hframing

/-! ## The scanner -/

/-- Where nothing is reported, nothing is reported of the comment as a whole. -/
theorem unframed_nil : Unframed [] := fun _ hmem => absurd hmem List.not_mem_nil

/-- What is reported at one place is unframed when its problems are. -/
theorem unframed_map {problems : List Problem} (line : Nat)
    (hproblems : ∀ problem ∈ problems, problem.isFraming = false) :
    Unframed (problems.map (⟨·, line⟩)) := by
  intro diagnostic hmem
  obtain ⟨problem, hproblem, rfl⟩ := List.mem_map.mp hmem
  exact hproblems problem hproblem

/-- A problem that is not one of the comment as a whole is unframed. -/
theorem unframed_singleton {problem : Problem} (hproblem : problem.isFraming = false) (line : Nat) :
    Unframed [⟨problem, line⟩] :=
  unframed_map line (List.forall_mem_singleton.mpr hproblem)

/-- A backslash is no problem of the comment as a whole. -/
theorem unframed_backslash (start : Cell) (rest : List Cell) :
    Unframed (backslash start rest).diagnostics := by
  rw [backslash]
  split
  · exact unframed_nil
  · exact unframed_singleton rfl _

/-- A code span is no problem of the comment as a whole. -/
theorem unframed_codeSpan (start : Cell) (rest : List Cell) :
    Unframed (codeSpan start rest).diagnostics := by
  simp only [codeSpan]
  split
  · split
    · exact unframed_singleton rfl _
    · exact unframed_nil
  · exact unframed_singleton rfl _

/-- An inline tag has no problem of the comment as a whole. -/
theorem unframed_inlineTag (start : Cell) (rest : List Cell) :
    Unframed (inlineTag start rest).diagnostics := by
  simp only [inlineTag]
  split
  · split
    · split
      · exact unframed_singleton rfl _
      · refine unframed_map start.line fun problem hmem => ?_
        rcases List.mem_append.mp hmem with hmem | hmem
        · split at hmem
          · exact absurd hmem List.not_mem_nil
          · obtain rfl := List.mem_singleton.mp hmem
            rfl
        · obtain rfl | ⟨tag, rfl⟩ := eq_of_mem_inlineTagProblems hmem
          · rfl
          · rfl
    · exact unframed_singleton rfl _
  · exact unframed_singleton rfl _

/-- What follows a parameter tag has no problem of the comment as a whole. -/
theorem unframed_paramBlock (tag : String) (start : Cell) (rest : List Cell) :
    Unframed (paramBlock tag start rest).diagnostics := by
  simp only [paramBlock]
  split
  · exact unframed_singleton rfl _
  · exact unframed_singleton rfl _
  · split
    · exact unframed_singleton rfl _
    · split
      · split
        · exact unframed_nil
        · exact unframed_singleton rfl _
      · exact unframed_singleton rfl _

/-- What a tag requires after it is no problem of the comment as a whole. -/
theorem unframed_tagBlock (tag : String) (start : Cell) (rest : List Cell) :
    Unframed (tagBlock tag start rest).diagnostics := by
  rw [tagBlock]
  split
  · exact unframed_paramBlock tag start rest
  · split
    · exact unframed_singleton rfl _
    · exact unframed_nil

/-- A block tag has no problem of the comment as a whole. -/
theorem unframed_blockTag (previous : Option Char) (start : Cell) (rest : List Cell) :
    Unframed (blockTag previous start rest).diagnostics := by
  simp only [blockTag]
  split
  · exact unframed_singleton rfl _
  · split
    · exact unframed_singleton rfl _
    · split
      · exact unframed_singleton rfl _
      · split
        · exact unframed_singleton rfl _
        · split
          · exact unframed_singleton rfl _
          · exact unframed_tagBlock _ start _

/-- An element tag has no problem of the comment as a whole. -/
theorem unframed_htmlTag (start : Cell) (rest : List Cell) :
    Unframed (htmlTag start rest).diagnostics := by
  simp only [htmlTag]
  generalize (if firstChar rest = some '/' then 1 else 0) = slash
  split
  · dsimp only
    split
    · exact unframed_nil
    · exact unframed_singleton rfl _
  · exact unframed_singleton rfl _

/-- A construct has no problem of the comment as a whole. -/
theorem unframed_construct (previous : Option Char) (start : Cell) (rest : List Cell) :
    Unframed (construct previous start rest).diagnostics := by
  rw [construct]
  split
  · exact unframed_backslash start rest
  · exact unframed_codeSpan start rest
  · exact unframed_inlineTag start rest
  · exact unframed_singleton rfl _
  · exact unframed_blockTag previous start rest
  · exact unframed_htmlTag start rest
  · exact unframed_singleton rfl _
  · exact unframed_nil

/-- The scanner reports no problem of the comment as a whole. -/
theorem unframed_scan (previous : Option Char) (cells : List Cell) :
    Unframed (scan previous cells) := by
  fun_induction scan previous cells with
  | case1 => exact unframed_nil
  | case2 previous start rest found last ih =>
    intro diagnostic hmem
    rcases List.mem_append.mp hmem with hmem | hmem
    · exact unframed_construct previous start rest diagnostic hmem
    · exact ih diagnostic hmem

/-! ## The validator -/

/-- A comment without an inner text has one diagnostic, of the delimiter that is missing, on one of its
lines. -/
theorem exists_validate_of_inner_eq_error {comment : List Char} {problem : Problem}
    (herror : inner comment = .error problem) :
    ∃ line, validate comment = [⟨problem, line⟩] ∧ 1 ≤ line ∧ line ≤ comment.count '\n' + 1 := by
  have hfirst : 1 ≤ comment.count '\n' + 1 := Nat.le_add_left 1 _
  have hlast : (pieces '\n' comment).length = comment.count '\n' + 1 := length_pieces '\n' comment
  rw [validate, herror]
  cases problem with
  | missingClosingDelimiter => exact ⟨_, rfl, hlast ▸ hfirst, hlast.le⟩
  | _ => exact ⟨1, rfl, le_refl 1, hfirst⟩

/-- The validator reports that a delimiter is missing exactly when there is no inner text for want
of it. -/
theorem reports_delimiter_iff {delimiter : Problem} (hframing : delimiter.isFraming = true)
    (hfence : delimiter ≠ .codeFenceMissingDelimiter) (comment : List Char) :
    Reports (validate comment) delimiter ↔ inner comment = .error delimiter := by
  cases hinner : inner comment with
  | error problem =>
    obtain ⟨line, hvalidate, -⟩ := exists_validate_of_inner_eq_error hinner
    rw [hvalidate, Reports, Except.error.injEq, ← Problem.id_eq_iff_of_isFraming hframing]
    simp
  | ok text =>
    refine iff_of_false (fun hreports => ?_) (by simp)
    obtain ⟨diagnostic, hmem, hid⟩ := hreports
    rw [Problem.id_eq_iff_of_isFraming hframing] at hid
    simp only [validate, hinner] at hmem
    rcases List.mem_append.mp hmem with hmem | hmem
    · obtain ⟨line, -, rfl⟩ := List.mem_map.mp hmem
      exact hfence hid.symm
    · have hunframed := unframed_scan _ _ diagnostic hmem
      rw [hid, hframing] at hunframed
      cases hunframed

end DocCoverage.DocComment
