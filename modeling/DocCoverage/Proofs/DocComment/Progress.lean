import DocCoverage.Proofs.DocComment.Cursor
import DocCoverage.Proofs.DocComment.DiagnosticOrder
import DocCoverage.Proofs.DocComment.Extent

/-!
# The scanner makes progress

The scanner with a cursor does what the scanner does: one iteration moves the cursor behind the construct
on which it stands, and reports the same. It never reads outside of the cells. A construct has at least one
cell and lies within the cells, and it has no more problems than cells. So the scanner is through after at
most as many iterations as there are cells, and reports no more problems than that.
-/

namespace DocCoverage.DocComment

open Text

/-- The advance over a construct that starts at a position. -/
def Construct.advanceFrom (found : Construct) (pos : Nat) : Advance :=
  ⟨pos + 1 + found.length, found.diagnostics⟩

/-- The advance to a position is that over a construct which ends there. -/
theorem Construct.mk_advanceFrom (diagnostics : List Diagnostic) {next pos length : Nat}
    (hnext : next = pos + 1 + length) :
    (⟨next, diagnostics⟩ : Advance) = (⟨diagnostics, length⟩ : Construct).advanceFrom pos := by
  rw [hnext]
  rfl

/-- A character without a meaning of its own is passed. -/
theorem advance_of_notMem {cells : List Cell} {pos : Nat} {c : Char} (hc : c ∉ specialChars) :
    advance cells pos c = some ⟨pos + 1, []⟩ := by
  simp only [specialChars, List.mem_cons, List.not_mem_nil, or_false, not_or] at hc
  obtain ⟨hbackslash, hbacktick, hleft, hright, hat, hless, hgreater⟩ := hc
  rw [advance]
  · rfl
  all_goals assumption

/-- The cursor stands on a cell, with others after it. -/
structure StandsOn (cells : List Cell) (pos : Nat) (start : Cell) (rest : List Cell) : Prop where
  cell : cells[pos]? = some start
  after : cells.drop (pos + 1) = rest
  numbered : Numbered start.line rest

/-- Numbered cells without a line feed are all on one line. -/
theorem Numbered.line_eq {line : Nat} {cells : List Cell} (hcells : Numbered line cells)
    (hfree : ∀ cell ∈ cells, cell.char ≠ '\n') : ∀ cell ∈ cells, cell.line = line := by
  induction cells with
  | nil => nofun
  | cons first rest ih =>
    obtain ⟨hfirst, hrest⟩ := hcells
    obtain ⟨hfeed, hothers⟩ := List.forall_mem_cons.mp hfree
    rw [if_neg hfeed] at hfirst
    exact List.forall_mem_cons.mpr ⟨hfirst, ih (hfirst ▸ hrest) hothers⟩

namespace StandsOn

variable {cells rest : List Cell} {pos length : Nat} {start : Cell}

/-- The cells from the cursor on. -/
theorem drop_eq (h : StandsOn cells pos start rest) : cells.drop pos = start :: rest := by
  rw [drop_of_getElem? h.cell, h.after]

/-- The cells from some way behind the cursor on. -/
theorem drop_add (h : StandsOn cells pos start rest) (length : Nat) :
    cells.drop (pos + 1 + length) = rest.drop length := by
  rw [← h.after, List.drop_drop]

/-- What stands some way behind the cursor. -/
theorem look_add (h : StandsOn cells pos start rest) (length : Nat) :
    look cells (pos + 1 + length) = firstChar (rest.drop length) := by
  rw [look_eq, h.drop_add]

/-- What stands right behind the cursor. -/
theorem look_succ (h : StandsOn cells pos start rest) : look cells (pos + 1) = firstChar rest :=
  h.look_add 0

/-- At the cursor a problem is reported on the line of its cell. -/
theorem reportAt_self (h : StandsOn cells pos start rest) (problem : Problem) :
    reportAt cells pos problem = ⟨problem, start.line⟩ := by
  rw [reportAt, h.cell]
  rfl

/-- The cells end behind those after the cursor. -/
theorem length_eq (h : StandsOn cells pos start rest) : cells.length = pos + 1 + rest.length := by
  have hlt := (List.getElem?_eq_some_iff.mp h.cell).1
  rw [← h.after, List.length_drop]
  omega

/-- After a stretch on the line of the first cell, a problem is reported as the scanner reports it. -/
theorem reportAt_add (h : StandsOn cells pos start rest) (honLine : OnLine length rest)
    (problem : Problem) :
    reportAt cells (pos + 1 + length) problem = ⟨problem, lineAt start (rest.drop length)⟩ := by
  have hnext : cells[pos + 1 + length]? = (rest.drop length).head? := by
    rw [← h.drop_add, List.head?_drop]
  rw [reportAt, hnext]
  cases hafter : rest.drop length with
  | cons cell others => rfl
  | nil =>
    -- the cursor is behind the last cell, which is on the line of the first one
    have hwhole : rest.take length = rest := by
      rw [← List.append_nil (rest.take length), ← hafter, List.take_append_drop]
    rw [OnLine, hwhole] at honLine
    have hlast : cells.getLast? = (start :: rest).getLast? := by
      rw [← List.take_append_drop pos cells, h.drop_eq,
        List.getLast?_append_of_ne_nil _ (List.cons_ne_nil _ _)]
    obtain ⟨last, heq⟩ : ∃ last, (start :: rest).getLast? = some last :=
      ⟨_, List.getLast?_eq_some_getLast (List.cons_ne_nil start rest)⟩
    have hline : last.line = start.line := by
      rcases List.mem_cons.mp (List.mem_of_getLast? heq) with rfl | hmem
      · rfl
      · exact h.numbered.line_eq honLine last hmem
    rw [hlast, heq]
    exact congrArg (Diagnostic.mk problem) hline

/-- A search from a position on is one in the cells after the one under the cursor. -/
theorem seek_add (h : StandsOn cells pos start rest) (stops : Char → Bool) (close : Char)
    (hclose : stops close = false) (length : Nat) :
    seek cells stops close (pos + 1 + length) = some
      (let body := leading (fun c => c != close && !stops c) (rest.drop length)
      if firstChar (rest.drop (length + body.length)) = some close
      then some (pos + 1 + (length + body.length)) else none) := by
  rw [seek_eq cells stops close hclose]
  simp only [Nat.add_assoc (pos + 1), h.drop_add]

/-! ## Constructs -/

/-- The cursor passes a backslash as the scanner does. -/
theorem backslashAt_eq (h : StandsOn cells pos start rest) :
    backslashAt cells pos = (backslash start rest).advanceFrom pos := by
  rw [backslashAt, backslash, h.look_succ, h.reportAt_self]
  split <;> rfl

/-- The cursor passes a code span as the scanner does. -/
theorem codeSpanAt_eq (h : StandsOn cells pos start rest) :
    codeSpanAt cells pos = some ((codeSpan start rest).advanceFrom pos) := by
  have hseek := h.seek_add (· == '\n') '\x60' rfl 0
  have hbody : leading (fun c => c != '\x60' && !(c == '\n')) rest =
      leading (fun c => c != '\x60' && c != '\n') rest := rfl
  simp only [List.drop_zero, Nat.add_zero, Nat.zero_add, hbody] at hseek
  simp only [codeSpanAt, codeSpan, hseek, h.reportAt_self]
  generalize leading (fun c => c != '\x60' && c != '\n') rest = body
  by_cases hclose : firstChar (rest.drop body.length) = some '\x60'
  · rw [if_pos hclose, if_pos hclose, Option.bind_eq_bind, Option.bind_some]
    dsimp only
    cases body with
    | nil =>
      have hsame : pos + 1 + ([] : List Char).length = pos + 1 := rfl
      rw [if_pos hsame]
      rfl
    | cons c others =>
      have hne : pos + 1 + (c :: others).length ≠ pos + 1 := by simp
      rw [if_neg hne]
      exact congrArg some (Construct.mk_advanceFrom [] rfl)
  · rw [if_neg hclose, if_neg hclose]
    rfl

/-- The cursor passes an inline tag as the scanner does. -/
theorem inlineTagAt_eq (h : StandsOn cells pos start rest) :
    inlineTagAt cells pos = some ((inlineTag start rest).advanceFrom pos) := by
  rw [inlineTagAt, inlineTag, h.look_succ]
  by_cases hat : firstChar rest = some '@'
  · have hname : nameAt cells (pos + 2) = leading Char.isAlphanum (rest.drop 1) := by
      rw [nameAt, ← h.drop_add]
    simp only [hname, hat, ne_eq, not_true_eq_false, if_false, if_true]
    generalize leading Char.isAlphanum (rest.drop 1) = name
    by_cases hword : isTagName name = true
    · rw [if_neg (by simp [hword]), if_pos hword]
      have hafter : pos + 2 + name.length = pos + 1 + (1 + name.length) := by omega
      have hseek := h.seek_add (fun _ => false) '}' rfl (1 + name.length)
      simp only [Bool.not_false, Bool.and_true] at hseek
      have hclosed := length_leading_ne_iff '}' (rest.drop (1 + name.length))
      rw [List.drop_drop] at hclosed
      have hreport : reportAt cells pos = (⟨·, start.line⟩) := funext h.reportAt_self
      simp only [hafter, hseek, h.look_add, hreport, hclosed]
      generalize leading (· != '}') (rest.drop (1 + name.length)) = body
      by_cases hclose : firstChar (rest.drop (1 + name.length + body.length)) = some '}'
      · rw [if_pos hclose, if_neg (not_not_intro hclose)]
        exact congrArg some (Construct.mk_advanceFrom _ rfl)
      · rw [if_neg hclose, if_pos hclose, h.length_eq]
        rfl
    · rw [if_pos (by simp [hword]), if_neg hword, h.reportAt_self]
      rfl
  · simp only [ne_eq, hat, not_false_eq_true, if_true, if_false, h.reportAt_self]
    rfl

/-- The cursor passes an element tag as the scanner does. -/
theorem htmlTagAt_eq (h : StandsOn cells pos start rest) :
    htmlTagAt cells pos = (htmlTag start rest).advanceFrom pos := by
  have hnamed : (if look cells (pos + 1) = some '/' then pos + 2 else pos + 1) =
      pos + 1 + if firstChar rest = some '/' then 1 else 0 := by
    rw [h.look_succ]
    split <;> rfl
  simp only [htmlTagAt, htmlTag, hnamed]
  generalize (if firstChar rest = some '/' then 1 else 0) = slash
  simp only [h.look_add, skipWhile_eq, attributesAt_eq, h.drop_add, Nat.add_assoc (pos + 1),
    h.reportAt_self, List.drop_drop]
  by_cases hletter : (firstChar (rest.drop slash)).any Char.isAlpha = true
  · rw [if_pos hletter, if_pos hletter, Construct.advanceFrom]
  · rw [if_neg hletter, if_neg hletter]
    rfl

/-- The cursor passes what follows a parameter tag as the scanner does. -/
theorem paramBlockAt_eq (h : StandsOn cells pos start rest) (tag : String)
    (honLine : OnLine length rest) :
    paramBlockAt cells tag (pos + 1 + length) =
      (paramBlock tag start (rest.drop length)).advanceFrom (pos + length) := by
  -- the cursor stays on the line of the tag until it reports
  have hspaces := honLine.add (onLine_leading isSpace rfl _)
  have hgap := (hspaces.add (onLine_leading (fun c => !isBlank c) rfl _)).add
    (onLine_leading isSpace rfl _)
  simp only [paramBlockAt, paramBlock, skipWhile_eq, h.drop_add, Nat.add_assoc (pos + 1),
    List.drop_drop, h.look_add]
  generalize (leading isSpace (rest.drop length)).length = spaces at *
  generalize leading (fun c => !isBlank c) (rest.drop (length + spaces)) = name at *
  generalize (leading isSpace (rest.drop (length + spaces + name.length))).length = gap at *
  rw [← Nat.add_assoc _ name.length gap]
  by_cases hbrace : firstChar (rest.drop (length + spaces)) = some '{'
  · simp only [hbrace, h.reportAt_add hspaces, skipPast_eq cells (by decide : '}' ≠ '\n'), h.drop_add]
    exact Construct.mk_advanceFrom _ (by omega)
  by_cases hbracket : firstChar (rest.drop (length + spaces)) = some '['
  · simp only [hbracket, h.reportAt_add hspaces, skipPast_eq cells (by decide : ']' ≠ '\n'),
      h.drop_add]
    exact Construct.mk_advanceFrom _ (by omega)
  split
  · next hfirst => exact absurd hfirst hbrace
  · next hfirst => exact absurd hfirst hbracket
  · simp only [h.reportAt_add hspaces, h.reportAt_add hgap]
    split
    · exact Construct.mk_advanceFrom _ (by omega)
    · split
      · split
        · exact Construct.mk_advanceFrom _ (by omega)
        · exact Construct.mk_advanceFrom _ (by omega)
      · exact Construct.mk_advanceFrom _ (by omega)

/-- No tag may start behind a word. -/
theorem isFree_leading (h : StandsOn cells pos start rest) {test : Char → Bool}
    (htest : ∀ c, test c = true → isBlank c = false) (hne : leading test rest ≠ []) :
    isFree cells (pos + 1 + (leading test rest).length) = some false := by
  have hpos := List.length_pos_iff.mpr hne
  have hlast : (rest.map Cell.char)[(leading test rest).length - 1]? =
      some ((leading test rest).getLast hne) := by
    obtain ⟨later, hchars⟩ : leading test rest <+: rest.map Cell.char := List.takeWhile_prefix test
    rw [← hchars, List.getElem?_append_left (by omega), ← List.getLast?_eq_getElem?,
      List.getLast?_eq_some_getLast hne]
  have hpass : test ((leading test rest).getLast hne) = true :=
    List.mem_takeWhile_imp (List.getLast_mem hne)
  have hread : read cells (pos + 1 + (leading test rest).length - 1) =
      some ((leading test rest).getLast hne) := by
    rw [read, Nat.add_sub_assoc hpos, h.look_add, firstChar, List.head?_drop, ← List.getElem?_map,
      hlast]
  rw [isFree, if_neg (by omega), hread]
  exact congrArg some (htest _ hpass)

/-- The cursor passes what a tag requires after it as the scanner does. -/
theorem tagBlockAt_eq (h : StandsOn cells pos start rest) (tag : String)
    (honLine : OnLine length rest) (hfree : isFree cells (pos + 1 + length) = some false) :
    tagBlockAt cells tag (pos + 1 + length) =
      some ((tagBlock tag start (rest.drop length)).advanceFrom (pos + length)) := by
  rw [tagBlockAt, tagBlock]
  split
  · exact congrArg some (h.paramBlockAt_eq tag honLine)
  · have hnext : pos + 1 + length = pos + length + 1 + 0 := by omega
    rw [hasMessageAt_eq hfree, h.drop_add, h.reportAt_add honLine]
    by_cases hdeprecated : tag = "deprecated"
    · rw [if_pos hdeprecated]
      cases hasMessage false (rest.drop length)
      · rw [if_pos ⟨hdeprecated, rfl⟩]
        exact congrArg some (Construct.mk_advanceFrom _ hnext)
      · rw [if_neg fun hnone => Bool.false_ne_true hnone.2]
        exact congrArg some (Construct.mk_advanceFrom _ hnext)
    · rw [if_neg hdeprecated, if_neg fun hnone => hdeprecated hnone.1]
      exact congrArg some (Construct.mk_advanceFrom _ hnext)

/-- The cursor passes a block tag as the scanner does. -/
theorem blockTagAt_eq (h : StandsOn cells pos start rest) (hat : start.char = '@') :
    blockTagAt cells pos = some
      ((blockTag ((cells.take pos).getLast?.map Cell.char) start rest).advanceFrom pos) := by
  have hle : pos ≤ cells.length := (List.getElem?_eq_some_iff.mp h.cell).1.le
  generalize hprevious : (cells.take pos).getLast?.map Cell.char = previous
  have hfree := isFree_eq hle
  rw [hprevious] at hfree
  have hname : nameAt cells (pos + 1) = leading Char.isAlphanum rest := by
    rw [nameAt, h.after]
  have hword : skipWhile cells (fun c => !isBlank c) pos =
      pos + 1 + (leading (fun c => !isBlank c) rest).length := by
    rw [skipWhile_eq, h.drop_eq, leading_cons, hat, if_pos (by decide), List.length_cons]
    omega
  simp only [blockTagAt, blockTag, hfree, hname, h.look_add, hword, h.reportAt_self,
    Option.bind_eq_bind, Option.bind_some, Bool.not_not]
  split
  · rfl
  · split
    · rfl
    · next hletter =>
      split
      · rfl
      · cases Tag.find? (leading Char.isAlphanum rest) with
        | none => rfl
        | some tag =>
          dsimp only
          split
          · rfl
          · have hne : leading Char.isAlphanum rest ≠ [] := fun hnil => hletter (by rw [hnil]; rfl)
            have hword (c : Char) (hc : c.isAlphanum = true) : isBlank c = false := by
              rw [← Bool.not_eq_true]
              intro hblank
              rw [isAlphanum_eq_false_of_isBlank hblank] at hc
              cases hc
            rw [h.tagBlockAt_eq tag.name (onLine_leading Char.isAlphanum rfl rest)
              (h.isFree_leading hword hne)]
            exact congrArg some (Construct.mk_advanceFrom _ (by omega))

/-- One iteration of the scanner moves the cursor over the construct on which it stands. -/
theorem advance_eq (h : StandsOn cells pos start rest) :
    advance cells pos start.char = some
      ((construct ((cells.take pos).getLast?.map Cell.char) start rest).advanceFrom pos) := by
  by_cases hspecial : start.char ∈ specialChars
  · simp only [specialChars, List.mem_cons, List.not_mem_nil, or_false] at hspecial
    rcases hspecial with hc | hc | hc | hc | hc | hc | hc <;> simp only [advance, construct, hc]
    · exact congrArg some h.backslashAt_eq
    · exact h.codeSpanAt_eq
    · exact h.inlineTagAt_eq
    · rw [h.reportAt_self]
      rfl
    · exact h.blockTagAt_eq hc
    · exact congrArg some h.htmlTagAt_eq
    · rw [h.reportAt_self]
      rfl
  · rw [advance_of_notMem hspecial, construct_of_notMem _ _ hspecial]
    rfl

/-- The cells up to behind a stretch that starts under the cursor. -/
theorem take_eq (h : StandsOn cells pos start rest) (length : Nat) :
    cells.take (pos + 1 + length) = cells.take pos ++ start :: rest.take length := by
  rw [Nat.add_assoc, List.take_add, h.drop_eq, Nat.add_comm 1, List.take_succ_cons]

end StandsOn

/-- Within numbered cells the cursor stands on one of them. -/
theorem Numbered.standsOn {line pos : Nat} {cells : List Cell} (hcells : Numbered line cells)
    (hlt : pos < cells.length) : StandsOn cells pos cells[pos] (cells.drop (pos + 1)) where
  cell := List.getElem?_eq_getElem hlt
  after := rfl
  numbered := by
    rw [← List.take_append_drop pos cells, numbered_append_iff, List.drop_eq_getElem_cons hlt]
      at hcells
    exact hcells.2.2

/-! ## Numbers of problems -/

/-- The name of an inline tag has one problem at most. -/
theorem length_inlineTagProblems_le (name : List Char) : (inlineTagProblems name).length ≤ 1 := by
  rw [inlineTagProblems]
  split
  · exact Nat.le_refl 1
  · split
    · exact Nat.zero_le 1
    · exact Nat.le_refl 1

/-- An inline tag has two problems only where it is closed. -/
theorem inlineTag_diagnostics_length_le (start : Cell) (rest : List Cell) :
    (inlineTag start rest).diagnostics.length ≤ (inlineTag start rest).length + 1 := by
  simp only [inlineTag]
  split
  · split
    · split
      · exact Nat.le_add_left 1 _
      · next name _ _ =>
        have hproblems := length_inlineTagProblems_le (leading Char.isAlphanum (rest.drop 1))
        rw [List.length_map, List.length_append]
        split
        · simp only [List.length_nil]
          omega
        · simp only [List.length_singleton]
          omega
    · exact Nat.le_add_left 1 _
  · exact Nat.le_refl 1

/-- A construct has no more problems than cells. -/
theorem construct_diagnostics_length_le_length (previous : Option Char) (start : Cell)
    (rest : List Cell) :
    (construct previous start rest).diagnostics.length ≤ (construct previous start rest).length + 1 := by
  by_cases hbrace : start.char = '{'
  · have hinline : construct previous start rest = inlineTag start rest := by
      simp only [construct, hbrace]
    rw [hinline]
    exact inlineTag_diagnostics_length_le start rest
  · have hone := construct_diagnostics_length_le previous rest hbrace
    omega

/-- There are no more problems than cells. -/
theorem length_scan_le (previous : Option Char) (cells : List Cell) :
    (scan previous cells).length ≤ cells.length := by
  fun_induction scan previous cells with
  | case1 => exact Nat.le_refl 0
  | case2 previous start rest found last ih =>
    have hproblems : found.diagnostics.length ≤ found.length + 1 :=
      construct_diagnostics_length_le_length previous start rest
    have hlength : found.length ≤ rest.length := construct_length_le previous start rest
    rw [List.length_drop] at ih
    rw [List.length_append, List.length_cons]
    omega

/-! ## The run -/

section Run

variable {line : Nat} {cells : List Cell} (hcells : Numbered line cells)

include hcells

/-- An iteration moves the cursor on within the cells, and reports at most one problem for each cell that
is passed. -/
theorem exists_advance {pos : Nat} (hlt : pos < cells.length) :
    ∃ c step, look cells pos = some c ∧ advance cells pos c = some step ∧ pos < step.next ∧
      step.next ≤ cells.length ∧ step.diagnostics.length ≤ step.next - pos := by
  have h := hcells.standsOn hlt
  refine ⟨cells[pos].char, _, by rw [look, h.cell]; rfl, h.advance_eq, ?_⟩
  generalize (cells.take pos).getLast?.map Cell.char = previous
  have hlength := construct_length_le previous cells[pos] (cells.drop (pos + 1))
  have hproblems := construct_diagnostics_length_le_length previous cells[pos] (cells.drop (pos + 1))
  rw [Construct.advanceFrom, h.length_eq]
  dsimp only
  omega

omit hcells in
/-- Behind the cells the run is over. -/
theorem runFrom_of_length_le (iterations : Nat) {pos : Nat} (hend : cells.length ≤ pos) :
    runFrom cells iterations pos = some [] := by
  have hnone : look cells pos = none := by
    rw [look, List.getElem?_eq_none hend]
    rfl
  cases iterations with
  | zero =>
    rw [runFrom, hnone]
    rfl
  | succ iterations => rw [runFrom, hnone]

/-- With an iteration for each cell that is left, the run reports what the scanner reports. -/
theorem runFrom_eq {iterations pos : Nat} (henough : cells.length ≤ pos + iterations) :
    runFrom cells iterations pos =
      some (scan ((cells.take pos).getLast?.map Cell.char) (cells.drop pos)) := by
  -- on the iterations; the cursor moves on with each of them, so there are enough for what is left
  induction iterations generalizing pos with
  | zero =>
    rw [Nat.add_zero] at henough
    rw [runFrom_of_length_le 0 henough, List.drop_eq_nil_of_le henough, scan]
  | succ iterations ih =>
    by_cases hlt : pos < cells.length
    · have h := hcells.standsOn hlt
      have hlook : look cells pos = some cells[pos].char := by
        rw [look, h.cell]
        rfl
      rw [runFrom, hlook, h.drop_eq, scan]
      dsimp only
      rw [h.advance_eq]
      generalize (cells.take pos).getLast?.map Cell.char = previous
      have hlater := @ih (pos + 1 + (construct previous cells[pos] (cells.drop (pos + 1))).length)
        (by omega)
      rw [h.take_eq, h.drop_add, List.getLast?_append_of_ne_nil _ (List.cons_ne_nil _ _)] at hlater
      rw [Option.bind_eq_bind, Option.bind_some, Construct.advanceFrom, hlater]
      rfl
    · have hend : cells.length ≤ pos := Nat.le_of_not_lt hlt
      rw [runFrom_of_length_le _ hend, List.drop_eq_nil_of_le hend, scan]

end Run

/-- Wherever the cursor stands in the cells of a comment, an iteration of the scanner reads within them,
moves the cursor on without leaving them and reports at most one problem for each cell that is passed. So
the run is over after at most as many iterations as there are cells, and its reports, which follow that of
an open fence, are no more than the cells. -/
theorem scanner_advances (text : List Char) :
    let cells := flatten (maskFences none 1 (contentLines text)).1
    (∀ pos < cells.length, ∃ c step, look cells pos = some c ∧ advance cells pos c = some step ∧
      pos < step.next ∧ step.next ≤ cells.length ∧ step.diagnostics.length ≤ step.next - pos) ∧
    ∃ reported, runFrom cells cells.length 0 = some reported ∧ reported.length ≤ cells.length ∧
      validate (delimited text) =
        (maskFences none 1 (contentLines text)).2.toList.map (⟨.codeFenceMissingDelimiter, ·⟩) ++
          reported := by
  intro cells
  have hcells : Numbered 1 cells := by
    rw [show cells = _ from congrArg flatten (maskFences_none_fst _ _)]
    exact numbered_outsideFences text
  refine ⟨fun pos hlt => exists_advance hcells hlt, scan none cells, ?_, length_scan_le none cells,
    validate_delimited text⟩
  exact runFrom_eq hcells (Nat.le_add_left _ 0)

/-- An inline tag with two problems, and a backslash at the very end. -/
def malformedText : List Char := "\x7b@a!\x7d\\".toList

/-- The first iteration passes the tag and reports twice, and the run is over after six iterations at
most. -/
theorem malformedText_scanner_advances :
    let cells := flatten (maskFences none 1 (contentLines malformedText)).1
    cells.length = 6 ∧
      (∃ step, advance cells 0 '{' = some step ∧ step.diagnostics.length = 2 ∧ 0 < step.next ∧
        step.next ≤ 6 ∧ step.diagnostics.length ≤ step.next - 0) ∧
      ∃ reported, runFrom cells 6 0 = some reported ∧ reported.length ≤ 6 ∧
        validate (delimited malformedText) = reported := by
  intro cells
  have hcells : cells.length = 6 := by decide +kernel
  have hfirst : look cells 0 = some '{' := by decide +kernel
  have htwo : (advance cells 0 '{').map (·.diagnostics.length) = some 2 := by decide +kernel
  have hclosed : (maskFences none 1 (contentLines malformedText)).2 = none := by decide +kernel
  obtain ⟨hsteps, reported, hrun, hlength, hvalidate⟩ := scanner_advances malformedText
  obtain ⟨c, step, hlook, hadvance, hlt, hle, hfew⟩ := hsteps 0 (by rw [hcells]; decide)
  obtain rfl : c = '{' := Option.some.inj (hlook.symm.trans hfirst)
  rw [hadvance] at htwo
  rw [hcells] at hrun hlength hle
  rw [hclosed] at hvalidate
  exact ⟨hcells, ⟨step, hadvance, Option.some.inj htwo, hlt, hle, hfew⟩, reported, hrun, hlength,
    hvalidate⟩

end DocCoverage.DocComment
