import DocCoverage.Proofs.DocComment.FencedLines
import DocCoverage.Proofs.DocComment.Framing

/-!
# Fenced code is not validated

The validator makes nothing of the lines of fenced code: it reports of a comment what it reports of
the comment with these lines empty, and the same of two comments that differ in fenced code only. A
fence that is left open is reported before all else.
-/

namespace DocCoverage.DocComment

open Text

/-- A comment with an inner text between its delimiters. -/
def delimited (text : List Char) : List Char := ['/', '*', '*'] ++ text ++ ['*', '/']

/-- A text with the lines of fenced code empty. -/
def blankFenced (text : List Char) : List Char :=
  ['\n'].intercalate ((pieces '\n' text).mapIdx fun place line =>
    if IsFenced (contentLines text) place then [] else line)

/-- At a place two texts have the same line, or both have a fence, or both a line of fenced code. -/
def SameOrFenced (text other : List Char) (place : Nat) : Prop :=
  (pieces '\n' text)[place]? = (pieces '\n' other)[place]? ∨
    FenceAt (contentLines text) place ∧ FenceAt (contentLines other) place ∨
    IsCode (contentLines text) place ∧ IsCode (contentLines other) place

instance (text other : List Char) (place : Nat) : Decidable (SameOrFenced text other place) :=
  inferInstanceAs (Decidable (_ ∨ _))

/-- Two texts differ in fenced code only. -/
def SameOutsideFences (text other : List Char) : Prop := ∀ place, SameOrFenced text other place

/-! ## Content lines -/

/-- A line of a comment without its blanks and its star; the first line has no star. -/
def contentLine : Nat → List Char → List Char
  | 0, line => trim line
  | _ + 1, line => undecorate (trim line)

/-- The content lines of a text are made of its lines one by one. -/
theorem contentLines_eq_mapIdx (text : List Char) :
    contentLines text = (pieces '\n' text).mapIdx contentLine := by
  rw [contentLines]
  cases pieces '\n' text with
  | nil => rfl
  | cons first others =>
    rw [List.mapIdx_cons, List.cons_eq_cons]
    refine ⟨rfl, List.ext_getElem? fun place => ?_⟩
    rw [List.getElem?_map, List.getElem?_mapIdx]
    rfl

/-- The content line at a place. -/
theorem getElem?_contentLines (text : List Char) (place : Nat) :
    (contentLines text)[place]? = (pieces '\n' text)[place]?.map (contentLine place) := by
  rw [contentLines_eq_mapIdx, List.getElem?_mapIdx]

/-- A line that starts with no star has none taken away. -/
theorem undecorate_of_head?_ne {line : List Char} (hline : line.head? ≠ some '*') :
    undecorate line = line := by
  unfold undecorate
  split
  · exact absurd rfl hline
  · exact absurd rfl hline
  · rfl

/-- Where no space follows the star of a line, only the star is taken away. -/
theorem undecorate_star_of_head?_ne {rest : List Char} (hrest : rest.head? ≠ some ' ') :
    undecorate ('*' :: rest) = rest := by
  unfold undecorate
  split
  · next heq =>
    obtain rfl := (List.cons.inj heq).2
    exact absurd rfl hrest
  · next heq => exact (List.cons.inj heq).2.symm
  · next hnone => exact absurd rfl (hnone rest)

/-- The lines of a text with fenced code empty. -/
theorem pieces_blankFenced (text : List Char) :
    pieces '\n' (blankFenced text) = (pieces '\n' text).mapIdx fun place line =>
      if IsFenced (contentLines text) place then [] else line := by
  apply pieces_intercalate
  · rw [Ne, List.mapIdx_eq_nil_iff]
    exact pieces_ne_nil '\n' text
  · intro line hmem
    obtain ⟨place, hplace, rfl⟩ := List.mem_mapIdx.mp hmem
    split
    · exact List.not_mem_nil
    · exact notMem_of_mem_pieces (List.getElem_mem hplace)

/-- Nothing is left of an empty line. -/
theorem contentLine_nil (place : Nat) : contentLine place [] = [] := by
  cases place <;> rfl

/-- The content of a text with fenced code empty is that outside of fenced code. -/
theorem contentLines_blankFenced (text : List Char) :
    contentLines (blankFenced text) = outsideFences (contentLines text) := by
  apply List.ext_getElem?
  intro place
  have hline := getElem?_contentLines text place
  have hfenced := isFenced_iff (contentLines text) place
  rw [getElem?_contentLines, pieces_blankFenced, outsideFences, List.getElem?_mapIdx,
    List.getElem?_mapIdx, hline, Option.map_map, Option.map_map]
  cases hraw : (pieces '\n' text)[place]? with
  | none => rfl
  | some line =>
    have hfence : FenceAt (contentLines text) place ↔ isFence (contentLine place line) = true := by
      simp [FenceAt, hline, hraw]
    rw [hfence, ← Bool.or_eq_true] at hfenced
    simp only [Option.map_some, Function.comp_apply, hfenced, apply_ite (contentLine place),
      contentLine_nil]

/-- No fence is left outside of fenced code. -/
theorem isFence_eq_false_of_mem_outsideFences {lines : List (List Char)} {line : List Char}
    (hmem : line ∈ outsideFences lines) : isFence line = false := by
  obtain ⟨place, hplace, rfl⟩ := List.mem_mapIdx.mp hmem
  split
  · decide
  · next hother => simpa using (not_or.mp (mt Bool.or_eq_true_iff.mpr hother)).1

/-! ## The validator -/

/-- What the validator reports of a comment between its delimiters. -/
theorem validate_delimited (text : List Char) :
    validate (delimited text) =
      (maskFences none 1 (contentLines text)).2.toList.map (⟨.codeFenceMissingDelimiter, ·⟩) ++
        scan none (flatten (maskFences none 1 (contentLines text)).1) := by
  have hinner : inner (delimited text) = .ok text := (inner_eq_ok_iff _ text).mpr rfl
  simp only [validate, hinner]

/-- With fenced code empty the validator reports what the scanner does outside of fenced code. -/
theorem validate_delimited_blankFenced (text : List Char) :
    validate (delimited (blankFenced text)) =
      scan none (flatten (maskFences none 1 (contentLines text)).1) := by
  have hnone : ∀ line ∈ outsideFences (contentLines text), isFence line = false :=
    fun _ => isFence_eq_false_of_mem_outsideFences
  have hmask := maskFences_none_of_forall_not_isFence hnone 1
  rw [validate_delimited, contentLines_blankFenced, hmask, maskFences_none_fst]
  rfl

/-- A fence that is not closed is reported at its line, before all else. -/
theorem UnclosedFence.validate_eq {text : List Char} {first : Nat}
    (hfence : UnclosedFence (contentLines text) first) :
    validate (delimited text) =
      ⟨.codeFenceMissingDelimiter, first + 1⟩ :: validate (delimited (blankFenced text)) := by
  rw [validate_delimited, validate_delimited_blankFenced, hfence.maskFences_snd, Nat.add_comm]
  rfl

/-- Where every fence is closed nothing is reported of fences. -/
theorem validate_eq_of_not_unclosedFence {text : List Char}
    (hclosed : ¬ ∃ first, UnclosedFence (contentLines text) first) :
    validate (delimited text) = validate (delimited (blankFenced text)) := by
  rw [exists_unclosedFence_iff, Bool.not_eq_true] at hclosed
  rw [validate_delimited, validate_delimited_blankFenced,
    (maskFences_none_snd_eq_none_iff 1 _).mpr hclosed]
  rfl

/-- The line at a place is not both a fence and a line of code. -/
theorem IsCode.not_fenceAt {lines : List (List Char)} {place : Nat} (hcode : IsCode lines place) :
    ¬ FenceAt lines place := by
  obtain ⟨-, line, hline, hother⟩ := hcode
  rintro ⟨line', hline', hfence⟩
  obtain rfl := Option.mem_unique hline hline'
  rw [hother] at hfence
  cases hfence

namespace SameOutsideFences

variable {text other : List Char}

/-- Texts that differ in fenced code only have fences at the same places. -/
theorem fenceAt_iff (hsame : SameOutsideFences text other) (place : Nat) :
    FenceAt (contentLines text) place ↔ FenceAt (contentLines other) place := by
  rcases hsame place with hline | ⟨hfence, hfence'⟩ | ⟨hcode, hcode'⟩
  · rw [FenceAt, FenceAt, getElem?_contentLines, getElem?_contentLines, hline]
  · exact iff_of_true hfence hfence'
  · exact iff_of_false hcode.not_fenceAt hcode'.not_fenceAt

/-- The same fences open code in both. -/
theorem opensCode_iff (hsame : SameOutsideFences text other) (place : Nat) :
    OpensCode (contentLines text) place ↔ OpensCode (contentLines other) place := by
  have hodd : oddFences ((contentLines text).take place) =
      oddFences ((contentLines other).take place) := by
    induction place with
    | zero => rfl
    | succ place ih =>
      by_cases hfence : FenceAt (contentLines text) place
      · rw [oddFences_take_succ_of_fenceAt hfence,
          oddFences_take_succ_of_fenceAt ((hsame.fenceAt_iff place).mp hfence), ih]
      · rw [oddFences_take_succ_of_not_fenceAt hfence,
          oddFences_take_succ_of_not_fenceAt (mt (hsame.fenceAt_iff place).mpr hfence), ih]
  rw [OpensCode, OpensCode, hsame.fenceAt_iff, hodd]

/-- The same places belong to fenced code in both. -/
theorem isFenced_iff (hsame : SameOutsideFences text other) (place : Nat) :
    IsFenced (contentLines text) place ↔ IsFenced (contentLines other) place := by
  simp only [IsFenced, hsame.opensCode_iff, hsame.fenceAt_iff]

/-- The same fence is left open in both. -/
theorem unclosedFence_iff (hsame : SameOutsideFences text other) (first : Nat) :
    UnclosedFence (contentLines text) first ↔ UnclosedFence (contentLines other) first := by
  simp only [UnclosedFence, hsame.opensCode_iff, hsame.fenceAt_iff]

/-- They are the same text with fenced code empty. -/
theorem blankFenced_eq (hsame : SameOutsideFences text other) :
    blankFenced text = blankFenced other := by
  rw [blankFenced, blankFenced]
  congr 1
  apply List.ext_getElem?
  intro place
  rw [List.getElem?_mapIdx, List.getElem?_mapIdx]
  -- a line of fenced code is there in both texts
  have hthere {text : List Char} (hline : ∃ line, line ∈ (contentLines text)[place]?) :
      ∃ line, (pieces '\n' text)[place]? = some line := by
    obtain ⟨line, hline⟩ := hline
    rw [getElem?_contentLines] at hline
    obtain ⟨raw, hraw, -⟩ := Option.map_eq_some_iff.mp hline
    exact ⟨raw, hraw⟩
  have hblank (hfenced : IsFenced (contentLines text) place)
      (hline : ∃ line, line ∈ (contentLines text)[place]?)
      (hline' : ∃ line, line ∈ (contentLines other)[place]?) :
      (pieces '\n' text)[place]?.map (fun line =>
          if IsFenced (contentLines text) place then [] else line) =
        (pieces '\n' other)[place]?.map fun line =>
          if IsFenced (contentLines other) place then [] else line := by
    obtain ⟨raw, hraw⟩ := hthere hline
    obtain ⟨raw', hraw'⟩ := hthere hline'
    simp only [hraw, hraw', Option.map_some, if_pos hfenced,
      if_pos ((hsame.isFenced_iff place).mp hfenced)]
  rcases hsame place with hline | ⟨hfence, hfence'⟩ | ⟨hcode, hcode'⟩
  · rw [hline]
    simp only [hsame.isFenced_iff]
  · have hfenced := (DocComment.isFenced_iff _ place).mpr (.inl hfence)
    exact hblank hfenced (hfence.imp fun _ h => h.1) (hfence'.imp fun _ h => h.1)
  · exact hblank hcode.1 (hcode.2.imp fun _ h => h.1) (hcode'.2.imp fun _ h => h.1)

end SameOutsideFences

/-- The validator reports of a comment what it reports of the comment with fenced code empty, after
one diagnostic at the line of the fence that is not closed where there is one; of the other it reports
no fence. So it reports the same of two comments that differ in fenced code only. -/
theorem validate_blankFenced (text : List Char) :
    (∀ first, UnclosedFence (contentLines text) first →
      validate (delimited text) =
        ⟨.codeFenceMissingDelimiter, first + 1⟩ :: validate (delimited (blankFenced text))) ∧
    ((¬ ∃ first, UnclosedFence (contentLines text) first) →
      validate (delimited text) = validate (delimited (blankFenced text))) ∧
    ¬ Reports (validate (delimited (blankFenced text))) .codeFenceMissingDelimiter ∧
    ∀ other, SameOutsideFences text other →
      validate (delimited text) = validate (delimited other) := by
  refine ⟨fun first hfence => hfence.validate_eq, validate_eq_of_not_unclosedFence, ?_, ?_⟩
  · rintro ⟨diagnostic, hmem, hid⟩
    rw [validate_delimited_blankFenced] at hmem
    rw [Problem.id_eq_iff_of_isFraming rfl] at hid
    have hunframed := unframed_scan _ _ diagnostic hmem
    rw [hid] at hunframed
    cases hunframed
  · intro other hsame
    by_cases hopen : ∃ first, UnclosedFence (contentLines text) first
    · obtain ⟨first, hfence⟩ := hopen
      rw [hfence.validate_eq, ((hsame.unclosedFence_iff first).mp hfence).validate_eq,
        hsame.blankFenced_eq]
    · have hopen' : ¬ ∃ first, UnclosedFence (contentLines other) first := by
        simpa only [hsame.unclosedFence_iff] using hopen
      rw [validate_eq_of_not_unclosedFence hopen, validate_eq_of_not_unclosedFence hopen',
        hsame.blankFenced_eq]

/-- Content with code between fences, a brace after it and a fence that is not closed. -/
def openFenceText : List Char := " A.\n ```\n \x7d\n ```\n * \x7d\n ```ts\n \x7b".toList

/-- The same content with other code, and another word at the fence that is not closed. -/
def otherCodeText : List Char := " A.\n ```\n @@ `\n ```\n * \x7d\n ```js\n".toList

/-- Of both comments the open fence is reported first and then the brace between the fences. -/
theorem openFenceText_validate_blankFenced :
    UnclosedFence (contentLines openFenceText) 5 ∧
      SameOutsideFences openFenceText otherCodeText ∧
      validate (delimited openFenceText) =
        [⟨.codeFenceMissingDelimiter, 6⟩, ⟨.escapeRightBrace, 5⟩] ∧
      validate (delimited otherCodeText) =
        [⟨.codeFenceMissingDelimiter, 6⟩, ⟨.escapeRightBrace, 5⟩] := by
  have hfence : UnclosedFence (contentLines openFenceText) 5 := by
    refine ⟨⟨by decide, by decide⟩, fun later hlater hfence => ?_⟩
    have hlt : later < 7 := hfence.lt_length
    obtain rfl : later = 6 := by omega
    revert hfence
    decide
  have hsame : SameOutsideFences openFenceText otherCodeText := by
    have hlines : ∀ place < 7, SameOrFenced openFenceText otherCodeText place := by decide +kernel
    intro place
    by_cases hlt : place < 7
    · exact hlines place hlt
    · have hlength : (pieces '\n' openFenceText).length = 7 := by decide
      have hlength' : (pieces '\n' otherCodeText).length = 7 := by decide
      refine .inl ?_
      rw [List.getElem?_eq_none (by omega), List.getElem?_eq_none (by omega)]
  have hblank : validate (delimited (blankFenced openFenceText)) = [⟨.escapeRightBrace, 5⟩] := by
    decide +kernel
  obtain ⟨hopen, -, -, hother⟩ := validate_blankFenced openFenceText
  have hvalidate := hopen 5 hfence
  rw [hblank] at hvalidate
  exact ⟨hfence, hsame, hvalidate, (hother otherCodeText hsame).symm.trans hvalidate⟩

end DocCoverage.DocComment
