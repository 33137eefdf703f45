import DocCoverage.Text.Blank
import Mathlib.Data.List.TakeWhile

/-!
# Cutting texts

A text is cut in two ways. After its leading run, where every character passes a test and the rest
does not go on with one that does, which `takeWhile` finds. And into pieces at the occurrences of a
separator, which joining the pieces undoes.
-/

namespace DocCoverage.Text

/-- A text cut after its leading run of characters that pass a test. -/
structure Cut (test : Char → Bool) (run stop : List Char) : Prop where
  passes : ∀ c ∈ run, test c = true
  stops : ∀ c ∈ stop.head?, test c = false

/-- Every text has a leading run. -/
theorem exists_cut (test : Char → Bool) (text : List Char) :
    ∃ run stop, Cut test run stop ∧ text = run ++ stop := by
  refine ⟨text.takeWhile test, text.dropWhile test, ⟨?_, ?_⟩, ?_⟩
  · intro c hc
    exact List.mem_takeWhile_imp hc
  · intro c hc
    have hhead := List.head?_dropWhile_not test text
    rw [Option.mem_def.mp hc] at hhead
    exact hhead
  · exact List.takeWhile_append_dropWhile.symm

/-- The characters that pass in front of a text are those of its leading run. -/
theorem Cut.takeWhile_eq {test : Char → Bool} {run stop : List Char} (hcut : Cut test run stop) :
    (run ++ stop).takeWhile test = run := by
  rw [List.takeWhile_append_of_pos hcut.passes]
  cases stop with
  | nil => simp
  | cons c rest =>
    have hc : test c = false := hcut.stops c rfl
    simp [hc]

/-- The text after its leading run. -/
theorem Cut.dropWhile_eq {test : Char → Bool} {run stop : List Char} (hcut : Cut test run stop) :
    (run ++ stop).dropWhile test = stop := by
  rw [List.dropWhile_append_of_pos hcut.passes]
  cases stop with
  | nil => rfl
  | cons c rest =>
    have hc : test c = false := hcut.stops c rfl
    simp [hc]

/-- Of two ways to cut a text in two, the later one splits what follows the earlier one. -/
theorem exists_between_of_append_eq {unit after front rest : List Char}
    (heq : unit ++ after = front ++ rest) (hle : front.length ≤ unit.length) :
    ∃ between, unit = front ++ between ∧ rest = between ++ after := by
  obtain ⟨between, rfl⟩ : front <+: unit :=
    List.prefix_of_prefix_length_le ⟨rest, heq.symm⟩ (List.prefix_append unit after) hle
  rw [List.append_assoc] at heq
  exact ⟨between, rfl, (List.append_cancel_left heq).symm⟩

/-! ## Pieces -/

/-- A character of joined words is the separator or stands in one of them. -/
theorem mem_intercalate {separator c : Char} {words : List (List Char)}
    (hc : c ∈ [separator].intercalate words) : c = separator ∨ ∃ word ∈ words, c ∈ word := by
  induction words with
  | nil => simp at hc
  | cons word rest ih =>
    by_cases hrest : rest = []
    · subst hrest
      rw [List.intercalate_singleton] at hc
      exact Or.inr ⟨word, List.mem_cons_self, hc⟩
    · rw [List.intercalate_cons_of_ne_nil hrest, List.mem_append, List.mem_append,
        List.mem_singleton] at hc
      rcases hc with (hc | hc) | hc
      · exact Or.inr ⟨word, List.mem_cons_self, hc⟩
      · exact Or.inl hc
      · rcases ih hc with hc | ⟨other, hother, hc⟩
        · exact Or.inl hc
        · exact Or.inr ⟨other, List.mem_cons_of_mem _ hother, hc⟩

/-- A separator in front of a text ends an empty piece. -/
@[simp]
theorem pieces_cons_self (separator : Char) (text : List Char) :
    pieces separator (separator :: text) = [] :: pieces separator text := by
  rw [pieces]
  split
  · exact absurd ‹_› (pieces_ne_nil separator text)
  · next first others heq => rw [if_pos rfl, heq]

/-- Any other character in front of a text goes to its first piece. -/
theorem pieces_cons_of_ne {separator c : Char} (hne : c ≠ separator) (text : List Char) :
    ∃ first others, pieces separator text = first :: others ∧
      pieces separator (c :: text) = (c :: first) :: others := by
  obtain ⟨first, others, heq⟩ := List.exists_cons_of_ne_nil (pieces_ne_nil separator text)
  refine ⟨first, others, heq, ?_⟩
  rw [pieces, heq]
  simp only [if_neg hne]

/-- Joining the pieces of a text by the separator gives the text back. -/
theorem intercalate_pieces (separator : Char) (text : List Char) :
    [separator].intercalate (pieces separator text) = text := by
  induction text with
  | nil => rfl
  | cons c rest ih =>
    by_cases hc : c = separator
    · subst hc
      rw [pieces_cons_self, List.intercalate_cons_of_ne_nil (pieces_ne_nil c rest), ih]
      rfl
    · obtain ⟨first, others, heq, hcons⟩ := pieces_cons_of_ne hc rest
      rw [hcons, ← ih, heq, List.intercalate_cons_cons_left]

/-- The pieces of a text with a separator in it are those before and those after it. -/
theorem pieces_append_separator (separator : Char) (front rest : List Char) :
    pieces separator (front ++ separator :: rest) =
      pieces separator front ++ pieces separator rest := by
  induction front with
  | nil => exact pieces_cons_self separator rest
  | cons c others ih =>
    by_cases hc : c = separator
    · subst hc
      rw [List.cons_append, pieces_cons_self, pieces_cons_self, ih, List.cons_append]
    · obtain ⟨first, more, hpieces, hcons⟩ := pieces_cons_of_ne hc others
      obtain ⟨first', more', hpieces', hcons'⟩ :=
        pieces_cons_of_ne hc (others ++ separator :: rest)
      rw [ih, hpieces, List.cons_append] at hpieces'
      obtain ⟨rfl, rfl⟩ := List.cons.inj hpieces'
      rw [List.cons_append, hcons', hcons, List.cons_append]

/-- The first piece of a text that goes on with the separator after a stretch without one. -/
theorem pieces_append_cons {separator : Char} {first : List Char} (hfree : separator ∉ first)
    (text : List Char) :
    pieces separator (first ++ separator :: text) = first :: pieces separator text := by
  induction first with
  | nil => exact pieces_cons_self separator text
  | cons c rest ih =>
    obtain ⟨hc, hrest⟩ := not_or.mp (mt List.mem_cons.mpr hfree)
    obtain ⟨head, others, heq, hcons⟩ :=
      pieces_cons_of_ne (Ne.symm hc) (rest ++ separator :: text)
    rw [ih hrest] at heq
    obtain ⟨rfl, rfl⟩ := List.cons.inj heq
    exact hcons

/-- A text without the separator is its only piece. -/
theorem pieces_of_not_mem {separator : Char} {text : List Char} (hfree : separator ∉ text) :
    pieces separator text = [text] := by
  induction text with
  | nil => rfl
  | cons c rest ih =>
    obtain ⟨hc, hrest⟩ := not_or.mp (mt List.mem_cons.mpr hfree)
    obtain ⟨head, others, heq, hcons⟩ := pieces_cons_of_ne (Ne.symm hc) rest
    rw [ih hrest] at heq
    obtain ⟨rfl, rfl⟩ := List.cons.inj heq
    exact hcons

/-- No piece of a text holds the separator. -/
theorem notMem_of_mem_pieces {separator : Char} {text piece : List Char}
    (hmem : piece ∈ pieces separator text) : separator ∉ piece := by
  induction text generalizing piece with
  | nil =>
    obtain rfl : piece = [] := by simpa [pieces] using hmem
    exact List.not_mem_nil
  | cons c rest ih =>
    by_cases hc : c = separator
    · subst hc
      rw [pieces_cons_self] at hmem
      rcases List.mem_cons.mp hmem with rfl | hmem
      · exact List.not_mem_nil
      · exact ih hmem
    · obtain ⟨first, others, heq, hcons⟩ := pieces_cons_of_ne hc rest
      rw [hcons] at hmem
      rw [heq] at ih
      rcases List.mem_cons.mp hmem with rfl | hmem
      · exact List.not_mem_cons_of_ne_of_not_mem (Ne.symm hc) (ih List.mem_cons_self)
      · exact ih (List.mem_cons_of_mem first hmem)

/-- Words without the separator are the pieces of their join. -/
theorem pieces_intercalate {separator : Char} {words : List (List Char)} (hne : words ≠ [])
    (hfree : ∀ word ∈ words, separator ∉ word) :
    pieces separator ([separator].intercalate words) = words := by
  induction words with
  | nil => exact absurd rfl hne
  | cons word rest ih =>
    have hword : separator ∉ word := hfree word List.mem_cons_self
    by_cases hrest : rest = []
    · subst hrest
      rw [List.intercalate_singleton, pieces_of_not_mem hword]
    · rw [List.intercalate_cons_of_ne_nil hrest, List.append_assoc]
      change pieces separator (word ++ separator :: [separator].intercalate rest) = _
      rw [pieces_append_cons hword,
        ih hrest fun other hother => hfree other (List.mem_cons_of_mem _ hother)]

/-! ## The pieces around a character -/

/-- The part of a text before its first separator. -/
def firstPiece (separator : Char) (text : List Char) : List Char := text.takeWhile (· != separator)

/-- The part of a text after its last separator. -/
def lastPiece (separator : Char) (text : List Char) : List Char :=
  (firstPiece separator text.reverse).reverse

/-- There is one piece more than there are separators. -/
theorem length_pieces (separator : Char) (text : List Char) :
    (pieces separator text).length = text.count separator + 1 := by
  induction text with
  | nil => rfl
  | cons c rest ih =>
    by_cases hc : c = separator
    · subst hc
      rw [pieces_cons_self, List.count_cons_self, List.length_cons, ih]
    · obtain ⟨first, others, heq, hcons⟩ := pieces_cons_of_ne hc rest
      rw [heq] at ih
      rw [hcons, List.count_cons_of_ne hc, ← ih]
      rfl

/-- The first piece of a text goes up to its first separator. -/
theorem head?_pieces (separator : Char) (text : List Char) :
    (pieces separator text).head? = some (firstPiece separator text) := by
  induction text with
  | nil => rfl
  | cons c rest ih =>
    rw [firstPiece]
    by_cases hc : c = separator
    · subst hc
      rw [pieces_cons_self, List.takeWhile_cons_of_neg (by simp)]
      rfl
    · obtain ⟨first, others, heq, hcons⟩ := pieces_cons_of_ne hc rest
      rw [heq] at ih
      obtain rfl := Option.some.inj ih
      rw [hcons, List.takeWhile_cons_of_pos (by simpa using hc)]
      rfl

/-- The part of a text after its last separator holds none, and one stands before it unless it is the
text. -/
theorem exists_lastPiece (separator : Char) (text : List Char) :
    ∃ last, lastPiece separator text = last ∧ separator ∉ last ∧
      (text = last ∨ ∃ front, text = front ++ separator :: last) := by
  obtain ⟨run, stop, hcut, htext⟩ := exists_cut (· != separator) text.reverse
  have hlast : lastPiece separator text = run.reverse := by
    rw [lastPiece, firstPiece, htext, hcut.takeWhile_eq]
  obtain rfl : text = stop.reverse ++ run.reverse := by
    rw [← List.reverse_append, ← htext, List.reverse_reverse]
  refine ⟨run.reverse, hlast, fun hmem => ?_, ?_⟩
  · simpa using hcut.passes separator (List.mem_reverse.mp hmem)
  · cases stop with
    | nil => exact .inl rfl
    | cons c rest =>
      obtain rfl : c = separator := by simpa using hcut.stops c rfl
      exact .inr ⟨rest.reverse, by rw [List.reverse_cons, List.append_assoc]; rfl⟩

/-- Before the first separator a character stands in the first piece. -/
theorem head?_pieces_append_cons {separator c : Char} (hc : c ≠ separator) {before : List Char}
    (hfree : separator ∉ before) (after : List Char) :
    (pieces separator (before ++ c :: after)).head? =
      some (before ++ c :: firstPiece separator after) := by
  have hpasses : ∀ d ∈ before, (d != separator) = true := by
    intro d hd
    simpa using fun h : d = separator => hfree (h ▸ hd)
  rw [head?_pieces, firstPiece, List.takeWhile_append_of_pos hpasses,
    List.takeWhile_cons_of_pos (by simpa using hc)]
  rfl

/-- A character stands in the piece whose number is that of the separators before it, between the rest
of the piece on both sides. -/
theorem getElem?_pieces_append_cons {separator c : Char} (hc : c ≠ separator)
    (before after : List Char) :
    (pieces separator (before ++ c :: after))[before.count separator]? =
      some (lastPiece separator before ++ c :: firstPiece separator after) := by
  obtain ⟨last, hlast, hfree, hbefore⟩ := exists_lastPiece separator before
  have hhead := head?_pieces_append_cons hc hfree after
  rw [hlast]
  rcases hbefore with rfl | ⟨front, rfl⟩
  · rw [List.count_eq_zero_of_not_mem hfree, ← List.head?_eq_getElem?, hhead]
  · have hcount : (front ++ separator :: last).count separator =
        (pieces separator front).length := by
      rw [List.count_append, List.count_cons_self, List.count_eq_zero_of_not_mem hfree,
        length_pieces]
    rw [List.append_assoc, List.cons_append, pieces_append_separator, hcount,
      List.getElem?_append_right (Nat.le_refl _), Nat.sub_self, ← List.head?_eq_getElem?, hhead]

/-- A text without separators in front of another one belongs to its first piece. -/
theorem exists_pieces_append_left {separator : Char} {front : List Char} (hfree : separator ∉ front)
    (text : List Char) :
    ∃ first others, pieces separator text = first :: others ∧
      pieces separator (front ++ text) = (front ++ first) :: others := by
  induction front with
  | nil =>
    obtain ⟨first, others, heq⟩ := List.exists_cons_of_ne_nil (pieces_ne_nil separator text)
    exact ⟨first, others, heq, heq⟩
  | cons c rest ih =>
    obtain ⟨hc, hrest⟩ := not_or.mp (mt List.mem_cons.mpr hfree)
    obtain ⟨first, others, heq, hfront⟩ := ih hrest
    obtain ⟨first', others', heq', hcons⟩ := pieces_cons_of_ne (Ne.symm hc) (rest ++ text)
    obtain ⟨rfl, rfl⟩ := List.cons.inj (hfront.symm.trans heq')
    exact ⟨first, others, heq, hcons⟩

/-- A text without separators after another one belongs to its last piece. -/
theorem exists_pieces_append_right {separator : Char} {back : List Char} (hfree : separator ∉ back)
    (text : List Char) :
    ∃ others last, pieces separator text = others ++ [last] ∧
      pieces separator (text ++ back) = others ++ [last ++ back] := by
  obtain ⟨last, -, hlast, htext⟩ := exists_lastPiece separator text
  have hback : separator ∉ last ++ back := by
    rw [List.mem_append, not_or]
    exact ⟨hlast, hfree⟩
  rcases htext with rfl | ⟨front, rfl⟩
  · exact ⟨[], text, pieces_of_not_mem hlast, pieces_of_not_mem hback⟩
  · refine ⟨pieces separator front, last, ?_, ?_⟩
    · rw [pieces_append_separator, pieces_of_not_mem hlast]
    · rw [List.append_assoc, List.cons_append, pieces_append_separator, pieces_of_not_mem hback]

/-- Between two texts without separators a text has its pieces, with these texts at the ends of the
first and of the last. -/
theorem exists_getElem?_pieces_append {separator : Char} {front back : List Char}
    (hfront : separator ∉ front) (hback : separator ∉ back) {text piece : List Char} {place : Nat}
    (hpiece : (pieces separator text)[place]? = some piece) :
    ∃ whole, (pieces separator (front ++ text ++ back))[place]? = some whole ∧
      piece <:+: whole := by
  obtain ⟨first, others, heq, hleft⟩ := exists_pieces_append_left hfront text
  obtain ⟨begun, hbegun, hsuffix⟩ : ∃ begun,
      (pieces separator (front ++ text))[place]? = some begun ∧ piece <:+ begun := by
    rw [heq] at hpiece
    rw [hleft]
    cases place with
    | zero =>
      obtain rfl := Option.some.inj hpiece
      exact ⟨front ++ first, rfl, List.suffix_append front first⟩
    | succ place => exact ⟨piece, hpiece, List.suffix_refl piece⟩
  obtain ⟨others, last, heq, hright⟩ := exists_pieces_append_right hback (front ++ text)
  rw [heq] at hbegun
  rw [hright]
  rcases Nat.lt_or_ge place others.length with hlt | hge
  · rw [List.getElem?_append_left hlt] at hbegun ⊢
    exact ⟨begun, hbegun, hsuffix.isInfix⟩
  · rw [List.getElem?_append_right hge] at hbegun ⊢
    rw [List.getElem?_singleton] at hbegun ⊢
    split at hbegun
    · next hplace =>
      obtain rfl := Option.some.inj hbegun
      rw [if_pos hplace]
      exact ⟨last ++ back, rfl, hsuffix.isInfix.trans (List.prefix_append last back).isInfix⟩
    · cases hbegun

end DocCoverage.Text
