import DocCoverage.Proofs.DocComment.Fences
import Mathlib.Data.Nat.Init

/-!
# The lines of fenced code

A fence opens code when an even number of fences stand before it. The code goes up to the next fence,
or to the last line where there is none. A line belongs to fenced code exactly when it is a fence or
an odd number of fences stand before it, and the fence that masking leaves open is the one that is not
closed.
-/

namespace DocCoverage.DocComment

open Text

/-- The line at a place is a fence. -/
def FenceAt (lines : List (List Char)) (place : Nat) : Prop :=
  ∃ line ∈ lines[place]?, isFence line = true

/-- A fence opens code at a place. -/
def OpensCode (lines : List (List Char)) (place : Nat) : Prop :=
  FenceAt lines place ∧ oddFences (lines.take place) = false

/-- A place belongs to fenced code: a fence opens code there or before, and no fence in between
closes it. -/
def IsFenced (lines : List (List Char)) (place : Nat) : Prop :=
  ∃ first ≤ place, OpensCode lines first ∧
    ∀ between, first < between → between < place → ¬ FenceAt lines between

/-- A fence opens code at a place, and no later fence closes it. -/
def UnclosedFence (lines : List (List Char)) (first : Nat) : Prop :=
  OpensCode lines first ∧ ∀ later, first < later → ¬ FenceAt lines later

/-- The line at a place belongs to fenced code and is no fence itself. -/
def IsCode (lines : List (List Char)) (place : Nat) : Prop :=
  IsFenced lines place ∧ ∃ line ∈ lines[place]?, isFence line = false

/-! ## Fences in turn -/

/-- Some lines before others change which of these are fenced. -/
theorem oddFences_append (lines others : List (List Char)) :
    oddFences (lines ++ others) = (oddFences lines ^^ oddFences others) := by
  induction lines with
  | nil => simp [oddFences]
  | cons line rest ih => rw [List.cons_append, oddFences_cons, oddFences_cons, ih, Bool.xor_assoc]

/-- A fence at a place changes whether the lines after it are fenced. -/
theorem oddFences_take_succ_of_fenceAt {lines : List (List Char)} {place : Nat}
    (hfence : FenceAt lines place) :
    oddFences (lines.take (place + 1)) = !oddFences (lines.take place) := by
  obtain ⟨line, hline, hfence⟩ := hfence
  have hsingle : oddFences [line] = true := by simp [oddFences, hfence]
  rw [List.take_add_one, Option.mem_def.mp hline, oddFences_append]
  simp [hsingle]

/-- Any other line does not. -/
theorem oddFences_take_succ_of_not_fenceAt {lines : List (List Char)} {place : Nat}
    (hfence : ¬ FenceAt lines place) :
    oddFences (lines.take (place + 1)) = oddFences (lines.take place) := by
  rw [List.take_add_one]
  cases hline : lines[place]? with
  | none => rw [Option.toList_none, List.append_nil]
  | some line =>
    have hline : isFence line = false := by
      rw [← Bool.not_eq_true]
      exact fun h => hfence ⟨line, hline, h⟩
    have hsingle : oddFences [line] = false := by simp [oddFences, hline]
    rw [oddFences_append]
    simp [hsingle]

/-- Code that a fence opens is open up to the next fence. -/
theorem oddFences_take_of_opensCode {lines : List (List Char)} {first place : Nat}
    (hopens : OpensCode lines first) (hlt : first < place)
    (hnone : ∀ between, first < between → between < place → ¬ FenceAt lines between) :
    oddFences (lines.take place) = true := by
  induction place, hlt using Nat.le_induction with
  | base => rw [oddFences_take_succ_of_fenceAt hopens.1, hopens.2, Bool.not_false]
  | succ place hle ih =>
    rw [oddFences_take_succ_of_not_fenceAt (hnone place hle (Nat.lt_succ_self place))]
    exact ih fun between hfirst hplace => hnone between hfirst (Nat.lt_succ_of_lt hplace)

/-- Where code is open a fence has opened it. -/
theorem exists_opensCode_of_oddFences {lines : List (List Char)} {place : Nat}
    (hodd : oddFences (lines.take place) = true) :
    ∃ first < place, OpensCode lines first ∧
      ∀ between, first < between → between < place → ¬ FenceAt lines between := by
  induction place with
  | zero => simp [oddFences] at hodd
  | succ place ih =>
    by_cases hfence : FenceAt lines place
    · rw [oddFences_take_succ_of_fenceAt hfence, Bool.not_eq_true'] at hodd
      exact ⟨place, Nat.lt_succ_self place, ⟨hfence, hodd⟩, by omega⟩
    · rw [oddFences_take_succ_of_not_fenceAt hfence] at hodd
      obtain ⟨first, hlt, hopens, hnone⟩ := ih hodd
      refine ⟨first, by omega, hopens, fun between hfirst hplace => ?_⟩
      rcases Nat.lt_succ_iff_lt_or_eq.mp hplace with hplace | rfl
      · exact hnone between hfirst hplace
      · exact hfence

/-- A place belongs to fenced code exactly when a fence is there or an odd number stand before. -/
theorem isFenced_iff (lines : List (List Char)) (place : Nat) :
    IsFenced lines place ↔ FenceAt lines place ∨ oddFences (lines.take place) = true := by
  constructor
  · intro h
    obtain ⟨first, hle, hopens, hnone⟩ := h
    rcases Nat.eq_or_lt_of_le hle with rfl | hlt
    · exact .inl hopens.1
    · exact .inr (oddFences_take_of_opensCode hopens hlt hnone)
  · intro h
    cases hodd : oddFences (lines.take place) with
    | true =>
      obtain ⟨first, hlt, hopens, hnone⟩ := exists_opensCode_of_oddFences hodd
      exact ⟨first, Nat.le_of_lt hlt, hopens, hnone⟩
    | false =>
      have hfence := h.resolve_right (by rw [hodd]; exact Bool.false_ne_true)
      exact ⟨place, Nat.le_refl place, ⟨hfence, hodd⟩, by omega⟩

instance (lines : List (List Char)) (place : Nat) : Decidable (FenceAt lines place) :=
  decidable_of_iff (lines[place]?.any isFence = true) (Option.any_eq_true _ _)

instance (lines : List (List Char)) (place : Nat) : Decidable (IsFenced lines place) :=
  decidable_of_iff _ (isFenced_iff lines place).symm

instance (lines : List (List Char)) (place : Nat) : Decidable (IsCode lines place) :=
  inferInstanceAs (Decidable (_ ∧ _))

/-- A fence is one of the lines. -/
theorem FenceAt.lt_length {lines : List (List Char)} {place : Nat} (hfence : FenceAt lines place) :
    place < lines.length := by
  obtain ⟨line, hline, -⟩ := hfence
  exact (List.getElem?_eq_some_iff.mp hline).1

/-- A fence is left open exactly when their number is odd. -/
theorem exists_unclosedFence_iff (lines : List (List Char)) :
    (∃ first, UnclosedFence lines first) ↔ oddFences lines = true := by
  constructor
  · intro h
    obtain ⟨first, hopens, hnone⟩ := h
    rw [← List.take_length (l := lines)]
    exact oddFences_take_of_opensCode hopens hopens.1.lt_length
      fun later hfirst _ => hnone later hfirst
  · intro h
    rw [← List.take_length (l := lines)] at h
    obtain ⟨first, -, hopens, hnone⟩ := exists_opensCode_of_oddFences h
    exact ⟨first, hopens, fun later hfirst hfence => hnone later hfirst hfence.lt_length hfence⟩

/-! ## Masked lines -/

/-- Lines without a fence are masked to themselves, and no fence is opened among them. -/
theorem maskFences_none_of_forall_not_isFence {lines : List (List Char)}
    (hnone : ∀ line ∈ lines, isFence line = false) (number : Nat) :
    maskFences none number lines = (lines, none) := by
  induction lines generalizing number with
  | nil => rfl
  | cons line rest ih =>
    obtain ⟨hline, hrest⟩ := List.forall_mem_cons.mp hnone
    simp [maskFences, hline, ih hrest]

/-- A fence that is open stays so where no other follows. -/
theorem maskFences_some_of_forall_not_isFence {lines : List (List Char)}
    (hnone : ∀ line ∈ lines, isFence line = false) (fence number : Nat) :
    (maskFences (some fence) number lines).2 = some fence := by
  induction lines generalizing number with
  | nil => rfl
  | cons line rest ih =>
    obtain ⟨hline, hrest⟩ := List.forall_mem_cons.mp hnone
    simp [maskFences, hline, ih hrest]

/-- Lines are masked one after the other: the fence left open by some lines is open before the lines
after them. -/
theorem maskFences_append (fence : Option Nat) (number : Nat) (lines others : List (List Char)) :
    maskFences fence number (lines ++ others) =
      let before := maskFences fence number lines
      let after := maskFences before.2 (number + lines.length) others
      (before.1 ++ after.1, after.2) := by
  induction lines generalizing fence number with
  | nil => rfl
  | cons line rest ih =>
    have hnumber : number + 1 + rest.length = number + (rest.length + 1) := by omega
    simp only [List.cons_append, maskFences, List.length_cons]
    split <;> simp only [ih, hnumber, List.cons_append]

/-- The fence that masking leaves open is the one that is not closed. -/
theorem UnclosedFence.maskFences_snd {lines : List (List Char)} {first : Nat}
    (hfence : UnclosedFence lines first) (number : Nat) :
    (maskFences none number lines).2 = some (number + first) := by
  obtain ⟨⟨⟨line, hline, hisFence⟩, hclosed⟩, hlater⟩ := hfence
  obtain ⟨hlt, rfl⟩ := List.getElem?_eq_some_iff.mp hline
  have hafter : ∀ line ∈ lines.drop (first + 1), isFence line = false := by
    intro line hmem
    obtain ⟨place, hplace⟩ := List.getElem?_of_mem hmem
    rw [List.getElem?_drop] at hplace
    rw [← Bool.not_eq_true]
    exact fun h => hlater (first + 1 + place) (by omega) ⟨line, hplace, h⟩
  have hsplit : lines = lines.take first ++ lines[first] :: lines.drop (first + 1) := by
    rw [← List.drop_eq_getElem_cons hlt, List.take_append_drop]
  have hbefore := (maskFences_none_snd_eq_none_iff number (lines.take first)).mpr hclosed
  have hlength : (lines.take first).length = first := List.length_take_of_le (Nat.le_of_lt hlt)
  rw [hsplit, maskFences_append]
  dsimp only
  rw [hbefore, hlength]
  simp [maskFences, hisFence, maskFences_some_of_forall_not_isFence hafter]

end DocCoverage.DocComment
