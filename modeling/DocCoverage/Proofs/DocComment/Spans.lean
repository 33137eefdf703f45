import DocCoverage.Proofs.DocComment.Grammar
import DocCoverage.Proofs.Text.Classes
import DocCoverage.Proofs.Text.Cuts

/-!
# Escapes, code spans and inline tags

The routines for a backslash, a backtick and a left brace pass over a construct without a problem
exactly when the characters passed are an escape, a code span or an inline tag. A routine works on
cells; what it does depends on their text only, which is known by its cuts.
-/

namespace DocCoverage.DocComment

open Text

/-! ## Cells and characters -/

/-- The first character of cells with a known text. -/
theorem firstChar_of_map {cells : List Cell} {text : List Char}
    (htext : cells.map Cell.char = text) : firstChar cells = text.head? := by
  rw [firstChar, ← List.head?_map, htext]

/-- The text of cells after some characters. -/
theorem map_char_drop {cells : List Cell} {run stop : List Char}
    (htext : cells.map Cell.char = run ++ stop) {n : Nat} (hn : n = run.length) :
    (cells.drop n).map Cell.char = stop := by
  rw [List.map_drop, htext, hn, List.drop_left]

/-- The leading characters of cells with a known text. -/
theorem leading_of_cut {test : Char → Bool} {cells : List Cell} {run stop : List Char}
    (hcut : Cut test run stop) (htext : cells.map Cell.char = run ++ stop) :
    leading test cells = run := by
  rw [leading, htext, hcut.takeWhile_eq]

/-- Every list of cells has a leading run. -/
theorem exists_leading (test : Char → Bool) (cells : List Cell) :
    ∃ run stop, Cut test run stop ∧ cells.map Cell.char = run ++ stop ∧
      leading test cells = run ∧ (cells.drop run.length).map Cell.char = stop := by
  obtain ⟨run, stop, hcut, htext⟩ := exists_cut test (cells.map Cell.char)
  exact ⟨run, stop, hcut, htext, leading_of_cut hcut htext, map_char_drop htext rfl⟩

/-- A unit of known length is made of the characters that are passed, and the others follow. -/
theorem unit_eq_passed {chars unit after : List Char} (hchars : chars = unit ++ after)
    (passed later : List Char) (hpassed : chars = passed ++ later) {diagnostics : List Diagnostic}
    {n : Nat} (hlength : Construct.mk diagnostics n = ⟨[], unit.length⟩) (hn : n = passed.length) :
    unit = passed ∧ after = later := by
  have hunit : unit.length = passed.length := by rw [← hn]; exact (Construct.mk.inj hlength).2.symm
  exact List.append_inj (hchars.symm.trans hpassed) hunit

/-! ## Escapes and code spans -/

/-- A backslash is passed without a problem exactly in an escape. -/
theorem backslash_eq_iff (start : Cell) {cells : List Cell} {unit after : List Char}
    (hchars : cells.map Cell.char = unit ++ after) :
    backslash start cells = ⟨[], unit.length⟩ ↔ IsEscape ('\\' :: unit) := by
  rw [backslash]
  constructor
  · intro h
    split at h
    · next hany =>
      rw [firstChar_of_map rfl, Option.any_eq_true] at hany
      obtain ⟨c, hc, hpunctuation⟩ := hany
      obtain ⟨rest, hrest⟩ := List.head?_eq_some_iff.mp hc
      obtain ⟨rfl, -⟩ := unit_eq_passed hchars [c] rest hrest h rfl
      exact ⟨c, rfl, hpunctuation⟩
    · simp at h
  · intro h
    obtain ⟨c, hunit, hpunctuation⟩ := h
    obtain rfl : unit = [c] := (List.cons.inj hunit).2
    rw [firstChar_of_map hchars]
    simp [hpunctuation]

/-- A backtick is passed without a problem exactly in a code span. -/
theorem codeSpan_eq_iff (start : Cell) {cells : List Cell} {unit after : List Char}
    (hchars : cells.map Cell.char = unit ++ after) :
    codeSpan start cells = ⟨[], unit.length⟩ ↔ IsCodeSpan ('\x60' :: unit) := by
  simp only [codeSpan]
  constructor
  · obtain ⟨body, stop, hcut, htext, hlead, hdrop⟩ :=
      exists_leading (fun c => c != '\x60' && c != '\n') cells
    intro h
    rw [hlead, firstChar_of_map hdrop] at h
    split at h
    · next hstop =>
      obtain ⟨rest, rfl⟩ := List.head?_eq_some_iff.mp hstop
      split at h
      · simp at h
      · next hbody =>
        obtain ⟨rfl, -⟩ := unit_eq_passed hchars (body ++ ['\x60']) rest
          (by rw [htext]; simp) h (by simp)
        refine ⟨body, rfl, by simpa using hbody, ?_⟩
        intro c hc
        simpa using hcut.passes c hc
    · simp at h
  · intro h
    obtain ⟨body, hunit, hbody, hline⟩ := h
    obtain rfl : unit = body ++ ['\x60'] := (List.cons.inj hunit).2
    have hcut : Cut (fun c => c != '\x60' && c != '\n') body ('\x60' :: after) :=
      ⟨fun c hc => by simpa using hline c hc, by simp⟩
    rw [List.append_assoc] at hchars
    rw [leading_of_cut hcut hchars, firstChar_of_map (map_char_drop hchars rfl)]
    simp [hbody]

/-! ## Inline tags -/

/-- A run of letters and digits is the name of a tag exactly when it is a word. -/
theorem isTagName_iff {name : List Char} (hname : ∀ c ∈ name, c.isAlphanum = true) :
    isTagName name = true ↔ IsWord name := by
  constructor
  · intro h
    cases name with
    | nil => simp [isTagName] at h
    | cons c rest => exact ⟨c, rest, rfl, h, fun d hd => hname d (List.mem_cons_of_mem _ hd)⟩
  · intro h
    obtain ⟨c, rest, rfl, hc, -⟩ := h
    exact hc

/-- The characters of a word are letters and digits. -/
theorem IsWord.isAlphanum {name : List Char} (hname : IsWord name) :
    ∀ c ∈ name, c.isAlphanum = true := by
  obtain ⟨c, rest, rfl, hc, hrest⟩ := hname
  intro d hd
  rcases List.mem_cons.mp hd with rfl | hd
  · rw [Char.isAlphanum, hc, Bool.true_or]
  · exact hrest d hd

/-- The name of an inline tag has no problem exactly when it resolves to an inline tag. -/
theorem inlineTagProblems_eq_nil_iff (name : List Char) :
    inlineTagProblems name = [] ↔ ∃ tag, Tag.find? name = some tag ∧ tag.syntaxKind = .inline := by
  rw [inlineTagProblems]
  cases hfind : Tag.find? name with
  | none => simp
  | some tag => simp

/-- The name of an inline tag has one of two problems. -/
theorem eq_of_mem_inlineTagProblems {name : List Char} {problem : Problem}
    (hmem : problem ∈ inlineTagProblems name) :
    problem = .undefinedTag (String.ofList name) ∨
      ∃ tag, problem = .tagShouldNotHaveBraces tag := by
  rw [inlineTagProblems] at hmem
  split at hmem
  · exact .inl (List.mem_singleton.mp hmem)
  · next tag _ =>
    split at hmem
    · exact absurd hmem List.not_mem_nil
    · exact .inr ⟨tag.name, List.mem_singleton.mp hmem⟩

/-- What an inline tag amounts to, by the cuts of its text after the name and before the closing
brace. -/
theorem inlineTag_of_cut (start : Cell) {cells : List Cell} {name body close : List Char}
    (hname : Cut Char.isAlphanum name (body ++ close)) (hbody : Cut (· != '}') body close)
    (htext : cells.map Cell.char = '@' :: (name ++ (body ++ close))) :
    inlineTag start cells =
      if isTagName name then
        if close = [] then
          ⟨[⟨.inlineTagMissingRightBrace (String.ofList name), start.line⟩], cells.length⟩
        else
          ⟨((if (body ++ close).head?.any fun c => c == '}' || isBlank c then []
            else [Problem.inlineTagInvalidCharacter (String.ofList name)]) ++
              inlineTagProblems name).map (⟨·, start.line⟩), 1 + name.length + body.length + 1⟩
      else ⟨[⟨.expectedInlineTagName, start.line⟩], 1⟩ := by
  have hnamed : (cells.drop 1).map Cell.char = name ++ (body ++ close) := by
    rw [List.map_drop, htext]
    rfl
  have hafter : (cells.drop (1 + name.length)).map Cell.char = body ++ close := by
    rw [← List.drop_drop]
    exact map_char_drop hnamed rfl
  have hlength : body.length = (cells.drop (1 + name.length)).length ↔ close = [] := by
    rw [← List.length_map (f := Cell.char), hafter, List.length_append, Nat.left_eq_add,
      List.length_eq_zero_iff]
  simp only [inlineTag, firstChar_of_map htext, leading_of_cut hname hnamed,
    leading_of_cut hbody hafter, firstChar_of_map hafter, hlength, List.head?_cons, if_true]

/-- A left brace that is passed without a problem opens an inline tag. -/
theorem isInlineTag_of_inlineTag_eq {start : Cell} {cells : List Cell} {unit after : List Char}
    (hchars : cells.map Cell.char = unit ++ after)
    (h : inlineTag start cells = ⟨[], unit.length⟩) : IsInlineTag ('{' :: unit) := by
  by_cases hat : firstChar cells = some '@'
  · obtain ⟨chars, htext⟩ := List.head?_eq_some_iff.mp (firstChar_of_map rfl ▸ hat)
    obtain ⟨name, stop, hname, rfl⟩ := exists_cut Char.isAlphanum chars
    obtain ⟨body, close, hbody, rfl⟩ := exists_cut (· != '}') stop
    rw [inlineTag_of_cut start hname hbody htext] at h
    split at h
    · next hword =>
      split at h
      · simp at h
      · next hclosed =>
        obtain ⟨c, rest, rfl⟩ := List.exists_cons_of_ne_nil hclosed
        obtain rfl : c = '}' := by simpa using hbody.stops c rfl
        obtain ⟨rfl, -⟩ := unit_eq_passed hchars ('@' :: (name ++ body ++ ['}'])) rest
          (by rw [htext]; simp) h (by simp; omega)
        have hproblems := (Construct.mk.inj h).1
        rw [List.map_eq_nil_iff, List.append_eq_nil_iff,
          inlineTagProblems_eq_nil_iff] at hproblems
        obtain ⟨hmalformed, tag, hfind, hinline⟩ := hproblems
        have hbrace : '}' ∉ body := fun hmem => by simpa using hbody.passes '}' hmem
        refine ⟨name, body, tag, rfl, (isTagName_iff hname.passes).mp hword, hfind, hinline,
          hbrace, ?_⟩
        intro c hc
        obtain ⟨more, rfl⟩ := List.head?_eq_some_iff.mp hc
        have hne : c ≠ '}' := by
          intro h
          subst h
          exact hbrace List.mem_cons_self
        simpa [hne] using hmalformed
    · simp at h
  · simp [inlineTag, hat] at h

/-- An inline tag is passed without a problem. -/
theorem inlineTag_eq_of_isInlineTag (start : Cell) {cells : List Cell} {unit after : List Char}
    (hchars : cells.map Cell.char = unit ++ after) (h : IsInlineTag ('{' :: unit)) :
    inlineTag start cells = ⟨[], unit.length⟩ := by
  obtain ⟨name, body, tag, hunit, hname, hfind, hinline, hbrace, hblank⟩ := h
  obtain rfl : unit = '@' :: (name ++ body ++ ['}']) := (List.cons.inj hunit).2
  have hbodyCut : Cut (· != '}') body ('}' :: after) := by
    refine ⟨fun c hc => ?_, by simp⟩
    have hne : c ≠ '}' := fun h => hbrace (h ▸ hc)
    simpa using hne
  have hfirst : ∀ c ∈ (body ++ '}' :: after).head?, c = '}' ∨ isBlank c = true := by
    cases body with
    | nil => simp
    | cons c rest =>
      intro d hd
      exact Or.inr (hblank d hd)
  have hnameCut : Cut Char.isAlphanum name (body ++ '}' :: after) := by
    refine ⟨hname.isAlphanum, fun c hc => ?_⟩
    rcases hfirst c hc with rfl | hc
    · decide
    · exact isAlphanum_eq_false_of_isBlank hc
  have hproblems := (inlineTagProblems_eq_nil_iff name).mpr ⟨tag, hfind, hinline⟩
  have hvalid : (body ++ '}' :: after).head?.any (fun c => c == '}' || isBlank c) = true := by
    cases hhead : (body ++ '}' :: after).head? with
    | none => simp at hhead
    | some c => simpa using hfirst c hhead
  rw [inlineTag_of_cut start hnameCut hbodyCut (by rw [hchars]; simp),
    if_pos ((isTagName_iff hname.isAlphanum).mpr hname), if_neg (List.cons_ne_nil _ _),
    if_pos hvalid, hproblems]
  simp
  omega

/-- A left brace is passed without a problem exactly in an inline tag. -/
theorem inlineTag_eq_iff (start : Cell) {cells : List Cell} {unit after : List Char}
    (hchars : cells.map Cell.char = unit ++ after) :
    inlineTag start cells = ⟨[], unit.length⟩ ↔ IsInlineTag ('{' :: unit) :=
  ⟨isInlineTag_of_inlineTag_eq hchars, inlineTag_eq_of_isInlineTag start hchars⟩

end DocCoverage.DocComment
