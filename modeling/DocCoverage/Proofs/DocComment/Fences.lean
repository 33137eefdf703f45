import DocCoverage.DocComment.Content

/-!
# Fenced code

Fences open and close in turn. A line is part of fenced code when it is a fence or when an odd
number of fences stand before it, and every fence is closed when their number is even. Masking
empties exactly the lines of fenced code, and reports an open fence exactly when one is left.
-/

namespace DocCoverage.DocComment

open Text

/-- Whether an odd number of some lines are fences, so that the last of them is open. -/
def oddFences (lines : List (List Char)) : Bool := lines.countP isFence % 2 == 1

/-- Some lines with those of fenced code emptied. -/
def outsideFences (lines : List (List Char)) : List (List Char) :=
  lines.mapIdx fun index line =>
    if isFence line || oddFences (lines.take index) then [] else line

/-- Every fence that opens code among some lines is closed: the fences come in pairs. -/
def FencesClosed (lines : List (List Char)) : Prop := oddFences lines = false

/-- A fence in front of some lines changes which of them are fenced. -/
theorem oddFences_cons (line : List Char) (rest : List (List Char)) :
    oddFences (line :: rest) = (isFence line ^^ oddFences rest) := by
  simp only [oddFences, List.countP_cons]
  have hbit := Nat.mod_two_eq_zero_or_one (rest.countP isFence)
  cases isFence line <;> rcases hbit with hbit | hbit <;> simp [Nat.add_mod, hbit]

/-- Masking empties the fences and the lines after an odd number of fences, that which is open
before the lines counted with them. -/
theorem maskFences_fst (fence : Option Nat) (number : Nat) (lines : List (List Char)) :
    (maskFences fence number lines).1 = lines.mapIdx fun index line =>
      if isFence line || (fence.isSome ^^ oddFences (lines.take index)) then [] else line := by
  induction lines generalizing fence number with
  | nil => rfl
  | cons line rest ih =>
    rw [List.mapIdx_cons]
    simp only [List.take_zero, List.take_succ_cons, oddFences_cons]
    cases hfence : isFence line with
    | true =>
      simp only [maskFences, hfence, if_true, ih]
      cases fence <;> simp
    | false =>
      simp only [maskFences, hfence, Bool.false_eq_true, if_false, ih]
      cases fence <;> simp [oddFences]

/-- Masking leaves a fence open exactly when the number of fences is odd, that which is open before
the lines counted with them. -/
theorem maskFences_snd_isSome (fence : Option Nat) (number : Nat) (lines : List (List Char)) :
    (maskFences fence number lines).2.isSome = (fence.isSome ^^ oddFences lines) := by
  induction lines generalizing fence number with
  | nil => simp [maskFences, oddFences]
  | cons line rest ih =>
    rw [oddFences_cons]
    cases hfence : isFence line with
    | true =>
      simp only [maskFences, hfence, if_true, ih]
      cases fence <;> simp
    | false => simp only [maskFences, hfence, Bool.false_eq_true, if_false, ih, Bool.false_xor]

/-- The masked lines of a comment are its lines outside of fenced code. -/
theorem maskFences_none_fst (number : Nat) (lines : List (List Char)) :
    (maskFences none number lines).1 = outsideFences lines := by
  rw [maskFences_fst]
  simp only [Option.isSome_none, Bool.false_xor]
  rfl

/-- No fence of a comment is left open exactly when its fences come in pairs. -/
theorem maskFences_none_snd_eq_none_iff (number : Nat) (lines : List (List Char)) :
    (maskFences none number lines).2 = none ↔ FencesClosed lines := by
  have hopen := maskFences_snd_isSome none number lines
  rw [Option.isSome_none, Bool.false_xor] at hopen
  rw [FencesClosed, ← hopen]
  cases (maskFences none number lines).2 <;> simp

/-- The characters of the cells of a line. -/
theorem lineCells_map_char (number : Nat) (line : List Char) :
    (lineCells number line).map Cell.char = line := by
  simp [lineCells, Function.comp_def]

/-- Flattening joins the lines by line feeds. -/
theorem flatten_map_char (lines : List (List Char)) :
    (flatten lines).map Cell.char = ['\n'].intercalate lines := by
  have hlater (number : Nat) (first : List Char) (rest : List (List Char)) :
      first ++ (laterCells number rest).map Cell.char = ['\n'].intercalate (first :: rest) := by
    induction rest generalizing number first with
    | nil => simp [laterCells]
    | cons line rest ih =>
      simp only [laterCells, List.cons_append, List.map_cons, List.map_append,
        lineCells_map_char]
      rw [ih (number + 1) line, List.intercalate_cons_cons]
      simp
  cases lines with
  | nil => rfl
  | cons first rest => rw [flatten, List.map_append, lineCells_map_char, hlater]

end DocCoverage.DocComment
