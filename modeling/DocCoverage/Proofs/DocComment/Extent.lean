import DocCoverage.DocComment.Scanner

/-!
# The extent of constructs

A construct passes over cells that are there: its length after the first cell is at most the number
of the cells that follow, whatever problems it has.
-/

namespace DocCoverage.DocComment

open Text

/-- The leading characters of cells are no more than the cells. -/
theorem length_leading_le (test : Char → Bool) (cells : List Cell) :
    (leading test cells).length ≤ cells.length := by
  have h := (List.takeWhile_prefix test (l := cells.map Cell.char)).length_le
  rwa [List.length_map] at h

/-- A cell with a first character after some cells is one of them. -/
theorem lt_length_of_firstChar_drop {cells : List Cell} {n : Nat} {c : Char}
    (h : firstChar (cells.drop n) = some c) : n < cells.length := by
  apply Nat.lt_of_not_le
  intro hle
  rw [List.drop_eq_nil_of_le hle] at h
  simp [firstChar] at h

/-- The leading characters after some cells, together with those cells, are no more than all. -/
theorem add_length_leading_drop_le (test : Char → Bool) {cells : List Cell} {n : Nat}
    (hn : n ≤ cells.length) : n + (leading test (cells.drop n)).length ≤ cells.length := by
  have h := length_leading_le test (cells.drop n)
  rw [List.length_drop] at h
  omega

/-- A backslash passes at most the character after it. -/
theorem backslash_length_le (start : Cell) (rest : List Cell) :
    (backslash start rest).length ≤ rest.length := by
  rw [backslash]
  split
  · next h =>
    cases rest with
    | nil => simp [firstChar] at h
    | cons cell rest => simp
  · exact Nat.zero_le _

/-- A code span ends at a backtick of the text. -/
theorem codeSpan_length_le (start : Cell) (rest : List Cell) :
    (codeSpan start rest).length ≤ rest.length := by
  simp only [codeSpan]
  split
  · next h =>
    have hlt := lt_length_of_firstChar_drop h
    split
    · change 1 ≤ rest.length
      omega
    · exact hlt
  · exact Nat.zero_le _

/-- An inline tag ends at a right brace of the text, or with the text. -/
theorem inlineTag_length_le (start : Cell) (rest : List Cell) :
    (inlineTag start rest).length ≤ rest.length := by
  simp only [inlineTag]
  split
  · next hat =>
    have hone : 1 ≤ rest.length := lt_length_of_firstChar_drop (n := 0) hat
    have hname := add_length_leading_drop_le Char.isAlphanum hone
    have hbody := add_length_leading_drop_le (· != '}') hname
    split
    · split
      · exact Nat.le_refl _
      · next hclosed =>
        rw [List.length_drop] at hclosed
        change _ + 1 ≤ rest.length
        omega
    · exact hone
  · exact Nat.zero_le _

/-- Passing a character on a line stays within the cells. -/
theorem lengthPast_le (close : Char) (cells : List Cell) :
    lengthPast close cells ≤ cells.length := by
  simp only [lengthPast]
  split
  · next h => exact lt_length_of_firstChar_drop h
  · exact length_leading_le _ cells

/-- What follows a parameter tag is part of the text. -/
theorem paramBlock_length_le (tag : String) (start : Cell) (rest : List Cell) :
    (paramBlock tag start rest).length ≤ rest.length := by
  have hspaces := length_leading_le isSpace rest
  simp only [paramBlock]
  split
  · have hpast := lengthPast_le '}' (rest.drop (leading isSpace rest).length)
    rw [List.length_drop] at hpast
    change _ + _ ≤ rest.length
    omega
  · have hpast := lengthPast_le ']' (rest.drop (leading isSpace rest).length)
    rw [List.length_drop] at hpast
    change _ + _ ≤ rest.length
    omega
  · have hname := add_length_leading_drop_le (fun c => !isBlank c) hspaces
    have hgap := add_length_leading_drop_le isSpace hname
    rw [← List.drop_drop] at hgap
    split
    · exact hspaces
    · split
      · split
        · next hhyphen =>
          rw [List.drop_drop] at hhyphen
          have hlt := lt_length_of_firstChar_drop hhyphen
          change _ + _ + _ + 1 ≤ rest.length
          omega
        · exact hgap
      · exact hname

/-- What a tag requires after it is part of the text. -/
theorem tagBlock_length_le (tag : String) (start : Cell) (rest : List Cell) :
    (tagBlock tag start rest).length ≤ rest.length := by
  rw [tagBlock]
  split
  · exact paramBlock_length_le tag start rest
  · split <;> exact Nat.zero_le _

/-- A block tag is part of the text. -/
theorem blockTag_length_le (previous : Option Char) (start : Cell) (rest : List Cell) :
    (blockTag previous start rest).length ≤ rest.length := by
  have hname := length_leading_le Char.isAlphanum rest
  simp only [blockTag]
  split
  · exact Nat.zero_le _
  · split
    · exact Nat.zero_le _
    · split
      · exact length_leading_le _ rest
      · split
        · exact hname
        · next tag _ =>
          split
          · exact hname
          · have hblock := tagBlock_length_le tag.name start
              (rest.drop (leading Char.isAlphanum rest).length)
            rw [List.length_drop] at hblock
            change _ + _ ≤ rest.length
            omega

/-- Attributes are part of the text. -/
theorem attributes_fst_le (quote : Option Char) (cells : List Cell) :
    (attributes quote cells).1 ≤ cells.length := by
  induction cells generalizing quote with
  | nil => exact Nat.le_refl 0
  | cons cell rest ih =>
    simp only [attributes]
    split
    · exact Nat.le_add_left 1 rest.length
    · split
      · exact Nat.succ_le_succ (ih _)
      · split
        · exact Nat.zero_le _
        · exact Nat.succ_le_succ (ih _)

/-- An element tag is part of the text. -/
theorem htmlTag_length_le (start : Cell) (rest : List Cell) :
    (htmlTag start rest).length ≤ rest.length := by
  simp only [htmlTag]
  obtain ⟨slash, hslash, hle⟩ : ∃ slash, (if firstChar rest = some '/' then 1 else 0) = slash ∧
      slash ≤ rest.length := by
    refine ⟨_, rfl, ?_⟩
    split
    · next h => exact lt_length_of_firstChar_drop (n := 0) h
    · exact Nat.zero_le _
  rw [hslash]
  split
  · have hname := add_length_leading_drop_le (fun c => c.isAlphanum || c == '-') hle
    have hattributes := attributes_fst_le none ((rest.drop slash).drop
      (leading (fun c => c.isAlphanum || c == '-') (rest.drop slash)).length)
    rw [List.length_drop, List.length_drop] at hattributes
    change _ + _ + _ ≤ rest.length
    omega
  · exact Nat.zero_le _

/-- Every construct is part of the text. -/
theorem construct_length_le (previous : Option Char) (start : Cell) (rest : List Cell) :
    (construct previous start rest).length ≤ rest.length := by
  rw [construct]
  split
  · exact backslash_length_le start rest
  · exact codeSpan_length_le start rest
  · exact inlineTag_length_le start rest
  · exact Nat.zero_le _
  · exact blockTag_length_le previous start rest
  · exact htmlTag_length_le start rest
  · exact Nat.zero_le _
  · exact Nat.zero_le _

end DocCoverage.DocComment
