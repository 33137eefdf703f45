import DocCoverage.Text.Columns
import Mathlib.Data.List.Basic

/-!
# Adding up columns

The columns of a text are found from its end. What is settled there does not matter to the characters before
it, and a space leaves nothing open. So the columns of two texts with a space between them are those of both
and one more. The characters with which tables are drawn take one column each and leave nothing open
either.
-/

namespace DocCoverage.Text

namespace Stretch

/-- A stretch with more columns settled. -/
def addColumns (stretch : Stretch) (n : Nat) : Stretch :=
  { stretch with settled := stretch.settled + n }

section AddColumns

variable (stretch : Stretch) (n : Nat)

/-- More settled columns leave open what is open. -/
@[simp]
theorem opening_addColumns : (stretch.addColumns n).opening = stretch.opening := rfl

/-- More settled columns are counted. -/
@[simp]
theorem total_addColumns : (stretch.addColumns n).total = stretch.total + n := by
  simp only [total, addColumns]
  omega

/-- Columns that are put in front are added to the settled ones. -/
@[simp]
theorem lead_addColumns (columns : Nat) (opening : Opening) :
    (stretch.addColumns n).lead columns opening = (stretch.lead columns opening).addColumns n := by
  rw [lead, lead, total_addColumns, addColumns, Nat.add_right_comm]

/-- A character in front is added to the settled columns. -/
theorem leadWith_addColumns (c : Char) :
    (stretch.addColumns n).leadWith c = (stretch.leadWith c).addColumns n :=
  lead_addColumns stretch n _ _

/-- More settled columns do not matter to an open selector. -/
theorem unselect_addColumns : (stretch.addColumns n).unselect = stretch.unselect.addColumns n := by
  simp only [unselect, opening_addColumns, lead_addColumns]
  split <;> rfl

/-- More settled columns do not matter to a narrow character before them. -/
theorem pushNarrow_addColumns (c : Char) :
    (stretch.addColumns n).pushNarrow c = (stretch.pushNarrow c).addColumns n := by
  simp only [pushNarrow, opening_addColumns, lead_addColumns]
  split <;> rfl

/-- More settled columns do not matter to a selector before them. -/
theorem pushSelector_addColumns (selector : Selector) :
    (stretch.addColumns n).pushSelector selector = (stretch.pushSelector selector).addColumns n := by
  simp only [pushSelector, opening_addColumns, lead_addColumns]
  split <;> rfl

/-- More settled columns do not matter to a letter before them. -/
theorem pushLetter_addColumns (c : Char) :
    (stretch.addColumns n).pushLetter c = (stretch.pushLetter c).addColumns n := by
  rw [pushLetter, pushLetter, opening_addColumns, leadWith_addColumns]
  cases stretch.opening.sequence.extend? c with
  | none => exact (apply_ite (addColumns · n) _ _ _).symm
  | some added => simp only [addColumns, Nat.add_right_comm]

/-- What is settled does not matter to a character before it. -/
theorem push_addColumns (c : Char) :
    push c (stretch.addColumns n) = (push c stretch).addColumns n := by
  simp only [push, opening_addColumns, lead_addColumns, unselect_addColumns, pushNarrow_addColumns]
  cases selectedColumns? c stretch.opening with
  | some columns => rfl
  | none =>
    by_cases hnarrow : c ≤ '\u00a0'
    · simp only [if_pos hnarrow]
    · simp only [if_neg hnarrow]
      cases Selector.ofChar? c with
      | some selector => exact pushSelector_addColumns stretch.unselect n selector
      | none => exact pushLetter_addColumns stretch.unselect n c

/-- What is settled does not matter to the text before it. -/
theorem foldr_push_addColumns (text : List Char) :
    text.foldr push (stretch.addColumns n) = (text.foldr push stretch).addColumns n := by
  induction text with
  | nil => rfl
  | cons c rest ih => rw [List.foldr_cons, List.foldr_cons, ih, push_addColumns]

end AddColumns

/-- Dropping a selector changes no columns. -/
theorem total_unselect (stretch : Stretch) : stretch.unselect.total = stretch.total := by
  simp only [unselect]
  split
  · rfl
  · rfl

/-- No selector changes a space. -/
theorem selectedColumns?_space (opening : Opening) : selectedColumns? ' ' opening = none := by
  rw [selectedColumns?]
  cases opening.selector with
  | none => rfl
  | some selector => cases selector <;> rfl

/-- A space takes one column, and leaves nothing open. -/
theorem push_space (stretch : Stretch) :
    push ' ' stretch = ({} : Stretch).addColumns (1 + stretch.total) := by
  rw [push, selectedColumns?_space]
  simp [pushNarrow, lead, total_unselect, addColumns, Nat.add_comm]

/-- The characters with which tables are drawn. -/
def drawn : List Char := ['─', '│', '┌', '┬', '┐', '├', '┼', '┤', '└', '┴', '┘']

/-- A character of a drawing is no control character and no selector, starts no sequence and takes one
column. -/
theorem drawn_plain {c : Char} (hc : c ∈ drawn) :
    ¬ c ≤ '\u00a0' ∧ Selector.ofChar? c = none ∧ Sequence.ofChar c = .plain ∧ charColumns c = 1 := by
  rw [drawn] at hc
  simp only [List.mem_cons, List.not_mem_nil, or_false] at hc
  rcases hc with rfl | rfl | rfl | rfl | rfl | rfl | rfl | rfl | rfl | rfl | rfl <;> decide +kernel

/-- A character of a drawing takes one column where nothing is open, and leaves nothing open. -/
theorem push_drawn {c : Char} (hc : c ∈ drawn) (n : Nat) :
    push c (({} : Stretch).addColumns n) = ({} : Stretch).addColumns (n + 1) := by
  obtain ⟨hnarrow, hselector, hsequence, hcolumns⟩ := drawn_plain hc
  -- no sequence and no selector is open, so only the character itself counts
  have hletter : pushLetter c {} = ({} : Stretch).addColumns 1 := by
    rw [pushLetter, leadWith, hsequence, hcolumns]
    rfl
  have hpush : push c {} = ({} : Stretch).addColumns 1 := by
    rw [push]
    simp only [selectedColumns?, if_neg hnarrow, hselector]
    exact hletter
  rw [push_addColumns, hpush]
  simp only [addColumns, Nat.add_comm, Nat.add_left_comm]

end Stretch

/-- The columns of two texts with a space between them are those of both and that of the space. -/
theorem columns_append_space (before after : List Char) :
    columns (before ++ ' ' :: after) = columns before + (1 + columns after) := by
  rw [columns, List.foldr_append, List.foldr_cons, Stretch.push_space, Stretch.foldr_push_addColumns,
    Stretch.total_addColumns, columns, columns]

/-- A space before a text takes one column. -/
theorem columns_space_cons (text : List Char) : columns (' ' :: text) = 1 + columns text := by
  rw [columns, List.foldr_cons, Stretch.push_space, Stretch.total_addColumns]
  exact Nat.zero_add (1 + columns text)

/-- The columns of a text with spaces after it. -/
theorem columns_append_spaces (text : List Char) (count : Nat) :
    columns (text ++ List.replicate count ' ') = columns text + count := by
  induction count with
  | zero => rw [List.replicate_zero, List.append_nil, Nat.add_zero]
  | succ count ih =>
    rw [List.replicate_succ', ← List.append_assoc, columns_append_space, ih]
    rfl

/-- The columns of a text with spaces before it. -/
theorem columns_spaces_append (count : Nat) (text : List Char) :
    columns (List.replicate count ' ' ++ text) = count + columns text := by
  induction count with
  | zero => rw [List.replicate_zero, List.nil_append, Nat.zero_add]
  | succ count ih =>
    rw [List.replicate_succ, List.cons_append, columns_space_cons, ih]
    omega

/-- A drawing takes as many columns as it has characters. -/
theorem columns_drawn {text : List Char} (htext : text ⊆ Stretch.drawn) :
    columns text = text.length := by
  have hpushed : text.foldr Stretch.push {} = ({} : Stretch).addColumns text.length := by
    induction text with
    | nil => rfl
    | cons c rest ih =>
      obtain ⟨hc, hrest⟩ := List.cons_subset.mp htext
      rw [List.foldr_cons, ih hrest, Stretch.push_drawn hc, List.length_cons]
  rw [columns, hpushed, Stretch.total_addColumns]
  exact Nat.zero_add text.length

/-- A bar takes one column. -/
theorem columns_bar : columns ['│'] = 1 := columns_drawn (by decide)

/-- A bar between two texts, with a space on each side, takes three columns. -/
theorem columns_append_bar (before after : List Char) :
    columns (before ++ ([' ', '│', ' '] ++ after)) = columns before + (3 + columns after) := by
  have hbefore : columns (before ++ ([' ', '│', ' '] ++ after)) =
      columns before + (1 + columns (['│'] ++ ' ' :: after)) :=
    columns_append_space before ('│' :: ' ' :: after)
  rw [hbefore, columns_append_space, columns_bar]
  omega

end DocCoverage.Text
