import DocCoverage.Proofs.DocComment.ReportedLines

/-!
# The order of diagnostics

The cells of a comment are numbered by its lines, and the scanner never goes back. The diagnostics of a
construct stand on one line, which is not after that of the next construct, so the scanner reports in
the order of the lines. Before all that it reports stands the diagnostic of the fence that is left open,
if there is one. Every diagnostic names a line of the comment.
-/

namespace DocCoverage.DocComment

open Text

/-- Diagnostics in the order of their lines. -/
def InLineOrder (diagnostics : List Diagnostic) : Prop :=
  diagnostics.Pairwise fun first second => first.line ≤ second.line

/-! ## What one construct reports -/

/-- A backslash has one problem at most. -/
theorem backslash_diagnostics_length_le (start : Cell) (rest : List Cell) :
    (backslash start rest).diagnostics.length ≤ 1 := by
  rw [backslash]
  split
  · exact Nat.zero_le 1
  · exact Nat.le_refl 1

/-- A code span has one problem at most. -/
theorem codeSpan_diagnostics_length_le (start : Cell) (rest : List Cell) :
    (codeSpan start rest).diagnostics.length ≤ 1 := by
  simp only [codeSpan]
  split
  · split
    · exact Nat.le_refl 1
    · exact Nat.zero_le 1
  · exact Nat.le_refl 1

/-- What follows a parameter tag has one problem at most. -/
theorem paramBlock_diagnostics_length_le (tag : String) (start : Cell) (rest : List Cell) :
    (paramBlock tag start rest).diagnostics.length ≤ 1 := by
  simp only [paramBlock]
  split
  · exact Nat.le_refl 1
  · exact Nat.le_refl 1
  · split
    · exact Nat.le_refl 1
    · split
      · split
        · exact Nat.zero_le 1
        · exact Nat.le_refl 1
      · exact Nat.le_refl 1

/-- What a tag requires after it has one problem at most. -/
theorem tagBlock_diagnostics_length_le (tag : String) (start : Cell) (rest : List Cell) :
    (tagBlock tag start rest).diagnostics.length ≤ 1 := by
  rw [tagBlock]
  split
  · exact paramBlock_diagnostics_length_le tag start rest
  · split
    · exact Nat.le_refl 1
    · exact Nat.zero_le 1

/-- A block tag has one problem at most. -/
theorem blockTag_diagnostics_length_le (previous : Option Char) (start : Cell) (rest : List Cell) :
    (blockTag previous start rest).diagnostics.length ≤ 1 := by
  simp only [blockTag]
  split
  · exact Nat.le_refl 1
  · split
    · exact Nat.le_refl 1
    · split
      · exact Nat.le_refl 1
      · split
        · exact Nat.le_refl 1
        · split
          · exact Nat.le_refl 1
          · exact tagBlock_diagnostics_length_le _ start _

/-- An element tag has one problem at most. -/
theorem htmlTag_diagnostics_length_le (start : Cell) (rest : List Cell) :
    (htmlTag start rest).diagnostics.length ≤ 1 := by
  simp only [htmlTag]
  generalize (if firstChar rest = some '/' then 1 else 0) = slash
  split
  · dsimp only
    split
    · exact Nat.zero_le 1
    · exact Nat.le_refl 1
  · exact Nat.le_refl 1

/-- A construct that is no inline tag has at most one problem. -/
theorem construct_diagnostics_length_le (previous : Option Char) {start : Cell} (rest : List Cell)
    (hstart : start.char ≠ '{') : (construct previous start rest).diagnostics.length ≤ 1 := by
  rw [construct]
  split
  · exact backslash_diagnostics_length_le start rest
  · exact codeSpan_diagnostics_length_le start rest
  · next hbrace => exact absurd hbrace hstart
  · exact Nat.le_refl 1
  · exact blockTag_diagnostics_length_le previous start rest
  · exact htmlTag_diagnostics_length_le start rest
  · exact Nat.le_refl 1
  · exact Nat.zero_le 1

/-- An inline tag may have two problems, both of which are reported where it starts. -/
theorem line_of_mem_inlineTag {start : Cell} {rest : List Cell} {diagnostic : Diagnostic}
    (hmem : diagnostic ∈ (inlineTag start rest).diagnostics) : diagnostic.line = start.line := by
  have hsingle {problem : Problem} (hmem : diagnostic ∈ [(⟨problem, start.line⟩ : Diagnostic)]) :
      diagnostic.line = start.line := by
    rw [List.mem_singleton.mp hmem]
  simp only [inlineTag] at hmem
  split at hmem
  · split at hmem
    · split at hmem
      · exact hsingle hmem
      · obtain ⟨problem, -, rfl⟩ := List.mem_map.mp hmem
        rfl
    · exact hsingle hmem
  · exact hsingle hmem

/-- The diagnostics of a construct are in order. -/
theorem inLineOrder_construct (previous : Option Char) (start : Cell) (rest : List Cell) :
    InLineOrder (construct previous start rest).diagnostics := by
  by_cases hbrace : start.char = '{'
  · have hinline : construct previous start rest = inlineTag start rest := by
      simp only [construct, hbrace]
    rw [hinline, InLineOrder]
    refine List.pairwise_of_forall_mem_list fun first hfirst second hsecond => ?_
    rw [line_of_mem_inlineTag hfirst, line_of_mem_inlineTag hsecond]
  · have hlength := construct_diagnostics_length_le previous rest hbrace
    generalize (construct previous start rest).diagnostics = diagnostics at hlength
    rcases diagnostics with _ | ⟨first, _ | ⟨second, others⟩⟩
    · exact .nil
    · exact List.pairwise_singleton _ first
    · simp at hlength

/-! ## The scanner -/

/-- A construct reports nothing on a line after that of the cell that follows it. -/
theorem line_le_of_mem_construct (previous : Option Char) {start : Cell} {rest : List Cell}
    (hrest : Numbered start.line rest) {diagnostic : Diagnostic}
    (hmem : diagnostic ∈ (construct previous start rest).diagnostics) {next : Cell}
    (hnext : next ∈ (rest.drop (construct previous start rest).length).head?) :
    diagnostic.line ≤ next.line := by
  obtain ⟨later, hdrop⟩ := List.head?_eq_some_iff.mp hnext
  have hline := reportsAt_construct previous hrest diagnostic hmem
  rw [← List.take_append_drop (construct previous start rest).length rest, numbered_append_iff,
    hdrop] at hrest
  obtain ⟨-, hnumber, -⟩ := hrest
  have hfirst : firstChar (next :: later) = some '\n' ↔ next.char = '\n' := Option.some_inj
  rw [hdrop, reportLine] at hline
  simp only [hfirst] at hline
  rw [hline, hnumber]
  split
  · next hfeed =>
    rw [if_pos hfeed.2]
    omega
  · split <;> omega

/-- The last line of numbered cells: the line that they follow and one for each line feed. -/
def lastLine (line : Nat) (cells : List Cell) : Nat := line + (cells.map Cell.char).count '\n'

/-- A part of numbered cells ends where they end. -/
theorem lastLine_drop (line length : Nat) (cells : List Cell) :
    lastLine (lastLine line (cells.take length)) (cells.drop length) = lastLine line cells := by
  rw [lastLine, lastLine, lastLine, Nat.add_assoc, ← List.count_append, ← List.map_append,
    List.take_append_drop]

/-- Numbered cells after their first one. -/
theorem lastLine_cons {line : Nat} {start : Cell} {rest : List Cell}
    (hcells : Numbered line (start :: rest)) :
    lastLine start.line rest = lastLine line (start :: rest) := by
  rw [lastLine, lastLine, hcells.1, List.map_cons, List.count_cons]
  simp only [beq_iff_eq]
  split <;> omega

/-- A construct reports nothing before the line of its first cell, and nothing after the last line. -/
theorem line_of_mem_construct (previous : Option Char) {start : Cell} {rest : List Cell}
    (hrest : Numbered start.line rest) {diagnostic : Diagnostic}
    (hmem : diagnostic ∈ (construct previous start rest).diagnostics) :
    start.line ≤ diagnostic.line ∧ diagnostic.line ≤ lastLine start.line rest := by
  rw [reportsAt_construct previous hrest diagnostic hmem, reportLine, lastLine]
  split
  · next hfeed =>
    -- the line feed after the construct counts for the next line
    obtain ⟨cell, hcell, hchar⟩ := Option.map_eq_some_iff.mp hfeed.2
    have hfound : '\n' ∈ rest.map Cell.char :=
      List.mem_map.mpr ⟨cell, List.mem_of_mem_drop (List.mem_of_mem_head? hcell), hchar⟩
    have hcount := List.count_pos_iff.mpr hfound
    omega
  · omega

/-- The scanner reports nothing before the line of the first cell, and nothing after the last line. -/
theorem line_of_mem_scan (previous : Option Char) {line : Nat} {cells : List Cell}
    (hcells : Numbered line cells) {diagnostic : Diagnostic}
    (hmem : diagnostic ∈ scan previous cells) :
    (∀ first ∈ cells.head?, first.line ≤ diagnostic.line) ∧
      line ≤ diagnostic.line ∧ diagnostic.line ≤ lastLine line cells := by
  fun_induction scan previous cells generalizing line
  case case1 => cases hmem
  case case2 previous start rest found last ih =>
    have hstart : line ≤ start.line := by
      rw [hcells.1]
      split <;> omega
    simp only [List.head?_cons, Option.mem_some, forall_eq', ← lastLine_cons hcells]
    have hrest := hcells.2
    rcases List.mem_append.mp hmem with hmem | hmem
    · obtain ⟨hfirst, hlast⟩ := line_of_mem_construct previous hrest hmem
      exact ⟨hfirst, hstart.trans hfirst, hlast⟩
    · rw [← List.take_append_drop found.length rest, numbered_append_iff] at hrest
      obtain ⟨-, hfirst, hlast⟩ := ih hrest.2 hmem
      have hle : start.line ≤ diagnostic.line := (Nat.le_add_right _ _).trans hfirst
      exact ⟨hle, hstart.trans hle, hlast.trans_eq (lastLine_drop _ _ _)⟩

/-- The scanner reports in the order of the lines. -/
theorem inLineOrder_scan (previous : Option Char) {line : Nat} {cells : List Cell}
    (hcells : Numbered line cells) : InLineOrder (scan previous cells) := by
  fun_induction scan previous cells generalizing line
  case case1 => exact .nil
  case case2 previous start rest found last ih =>
    have hparts := hcells.2
    rw [← List.take_append_drop found.length rest, numbered_append_iff] at hparts
    refine List.pairwise_append.mpr
      ⟨inLineOrder_construct previous start rest, ih hparts.2, fun first hfirst second hsecond => ?_⟩
    -- the cell after the construct stands between the two
    cases hnext : (rest.drop found.length).head? with
    | none =>
      rw [List.head?_eq_none_iff.mp hnext, scan] at hsecond
      cases hsecond
    | some next =>
      exact (line_le_of_mem_construct previous hcells.2 hfirst hnext).trans
        ((line_of_mem_scan last hparts.2 hsecond).1 next hnext)

/-! ## The validator -/

/-- A comment has a content line for each of its lines. -/
theorem length_contentLines (text : List Char) :
    (contentLines text).length = text.count '\n' + 1 := by
  rw [contentLines_eq_mapIdx, List.length_mapIdx, length_pieces]

/-- The cells of a comment end on its last line. -/
theorem lastLine_flatten (text : List Char) :
    lastLine 1 (flatten (outsideFences (contentLines text))) = text.count '\n' + 1 := by
  have hlength : (outsideFences (contentLines text)).length = text.count '\n' + 1 := by
    rw [outsideFences, List.length_mapIdx, length_contentLines]
  have hne : outsideFences (contentLines text) ≠ [] := List.ne_nil_of_length_eq_add_one hlength
  rw [lastLine, flatten_map_char, Nat.add_comm, ← length_pieces,
    pieces_intercalate hne fun _ => lineFeed_notMem_of_mem_outsideFences, hlength]

/-- A fence that is left open stands on one of the lines. -/
theorem le_of_mem_maskFences_snd {lines : List (List Char)} {line : Nat}
    (hopen : line ∈ (maskFences none 1 lines).2) : 1 ≤ line ∧ line ≤ lines.length := by
  have hodd : oddFences lines = true := by
    rw [← Bool.not_eq_false]
    intro hclosed
    rw [(maskFences_none_snd_eq_none_iff 1 lines).mpr hclosed] at hopen
    cases hopen
  obtain ⟨first, hfence⟩ := (exists_unclosedFence_iff lines).mpr hodd
  rw [hfence.maskFences_snd 1, Option.mem_some] at hopen
  have hlt := hfence.1.1.lt_length
  omega

/-- What is missing where a comment has no inner text is not the end of a fence. -/
theorem inner_ne_codeFenceMissingDelimiter (comment : List Char) :
    inner comment ≠ .error .codeFenceMissingDelimiter := by
  unfold inner
  split
  · split <;> simp
  · simp

/-- Every diagnostic stands on a line of the comment. -/
theorem line_of_mem_validate {comment : List Char} {diagnostic : Diagnostic}
    (hmem : diagnostic ∈ validate comment) :
    1 ≤ diagnostic.line ∧ diagnostic.line ≤ comment.count '\n' + 1 := by
  cases hinner : inner comment with
  | error problem =>
    obtain ⟨line, hvalidate, hline⟩ := exists_validate_of_inner_eq_error hinner
    rw [hvalidate, List.mem_singleton] at hmem
    exact hmem ▸ hline
  | ok text =>
    obtain rfl : comment = delimited text := (inner_eq_ok_iff comment text).mp hinner
    have hcount : (delimited text).count '\n' = text.count '\n' := by
      simp [delimited, List.count_append]
    rw [hcount]
    rw [validate_delimited, maskFences_none_fst] at hmem
    rcases List.mem_append.mp hmem with hmem | hmem
    · obtain ⟨line, hopen, rfl⟩ := List.mem_map.mp hmem
      exact length_contentLines text ▸ le_of_mem_maskFences_snd (Option.mem_toList.mp hopen)
    · exact lastLine_flatten text ▸ (line_of_mem_scan none (numbered_outsideFences text) hmem).2

/-- The diagnostic of a fence that is left open comes first, if there is one, and all others follow in
the order of their lines. -/
theorem exists_fences_append_inLineOrder (comment : List Char) :
    ∃ fences others, validate comment = fences ++ others ∧ fences.length ≤ 1 ∧
      (∀ fence ∈ fences, fence.problem = .codeFenceMissingDelimiter) ∧
      (∀ other ∈ others, other.problem ≠ .codeFenceMissingDelimiter) ∧ InLineOrder others := by
  cases hinner : inner comment with
  | error problem =>
    obtain ⟨line, hvalidate, -⟩ := exists_validate_of_inner_eq_error hinner
    refine ⟨[], _, hvalidate, Nat.zero_le 1, nofun, List.forall_mem_singleton.mpr ?_,
      List.pairwise_singleton _ _⟩
    rintro rfl
    exact inner_ne_codeFenceMissingDelimiter comment hinner
  | ok text =>
    obtain rfl : comment = delimited text := (inner_eq_ok_iff comment text).mp hinner
    rw [validate_delimited, maskFences_none_fst]
    refine ⟨_, _, rfl, ?_, ?_, ?_, inLineOrder_scan none (numbered_outsideFences text)⟩
    · rw [List.length_map]
      exact Option.length_toList_le
    · intro fence hmem
      obtain ⟨line, -, rfl⟩ := List.mem_map.mp hmem
      rfl
    · intro other hmem hfence
      have hunframed := unframed_scan none _ other hmem
      rw [hfence] at hunframed
      cases hunframed

/-- The diagnostics of a comment stand on its lines. The diagnostic of a fence that is left open comes
first, if there is one, and all others follow in the order of their lines. -/
theorem validate_inLineOrder (comment : List Char) :
    (∀ diagnostic ∈ validate comment,
        1 ≤ diagnostic.line ∧ diagnostic.line ≤ comment.count '\n' + 1) ∧
      ∃ fences others, validate comment = fences ++ others ∧ fences.length ≤ 1 ∧
        (∀ fence ∈ fences, fence.problem.id = Problem.codeFenceMissingDelimiter.id) ∧
        (∀ other ∈ others, other.problem.id ≠ Problem.codeFenceMissingDelimiter.id) ∧
        InLineOrder others := by
  have hframing : Problem.codeFenceMissingDelimiter.isFraming = true := rfl
  obtain ⟨fences, others, hvalidate, hlength, hfences, hothers, horder⟩ :=
    exists_fences_append_inLineOrder comment
  refine ⟨fun _ => line_of_mem_validate, fences, others, hvalidate, hlength, ?_, ?_, horder⟩
  · intro fence hmem
    rw [hfences fence hmem]
  · intro other hmem hid
    exact hothers other hmem ((Problem.id_eq_iff_of_isFraming hframing other.problem).mp hid)

/-- An open fence comes first although a brace stands on a line before it. -/
example : validate (delimited "\n * \x7d\n * ```\n ".toList) =
    [⟨.codeFenceMissingDelimiter, 3⟩, ⟨.escapeRightBrace, 2⟩] := by decide +kernel

end DocCoverage.DocComment
