import DocCoverage.Proofs.Text.Classes
import DocCoverage.Proofs.Text.Cuts
import DocCoverage.Text.Lines
import Mathlib.Data.List.Basic

/-!
# Reading written text back

Written text is read back in three steps: lines at their line feeds, words at the commas between them,
and a text among blanks by trimming. Each step gives back what was written where that holds nothing of
what it is read by: no line feed in a line, no comma in a word, no blank at the ends of a text. Numbers
are written in digits only.
-/

namespace DocCoverage.Text

/-! ## Lines -/

/-- The text of lines is each of them and a line feed after it. -/
theorem toList_unlines (written : List String) :
    (unlines written).toList = written.flatMap fun line => line.toList ++ ['\n'] := by
  rw [unlines, String.toList_join, List.flatMap_map]
  simp only [String.toList_append]
  rfl

/-- A line goes up to the next line feed. -/
theorem linesAfter_append {line : List Char} (hfree : '\n' ∉ line) (begun rest : List Char)
    (hreturn : (line.reverse ++ begun).head? ≠ some '\r') :
    linesAfter begun (line ++ '\n' :: rest) =
      String.ofList (begun.reverse ++ line) :: linesAfter [] rest := by
  induction line generalizing begun with
  | nil =>
    rw [List.reverse_nil, List.nil_append] at hreturn
    rw [List.nil_append, linesAfter, if_neg hreturn, List.append_nil]
  | cons c line ih =>
    rw [List.mem_cons, not_or] at hfree
    rw [List.reverse_cons, List.append_assoc] at hreturn
    rw [List.cons_append, linesAfter, ih hfree.2 (c :: begun) hreturn, List.reverse_cons,
      List.append_assoc]
    · rfl
    · exact fun h => hfree.1 h.symm

/-- Lines are read back as they were written, unless they hold a line feed or end with a carriage
return. -/
theorem lines_unlines {written : List String}
    (hlines : ∀ line ∈ written, '\n' ∉ line.toList ∧ line.toList.getLast? ≠ some '\r') :
    lines (unlines written) = written := by
  rw [lines, toList_unlines]
  induction written with
  | nil => rfl
  | cons line rest ih =>
    obtain ⟨⟨hfree, hreturn⟩, hrest⟩ := List.forall_mem_cons.mp hlines
    rw [← List.head?_reverse, ← List.append_nil line.toList.reverse] at hreturn
    rw [List.flatMap_cons, List.append_assoc, List.singleton_append,
      linesAfter_append hfree [] _ hreturn, ih hrest, List.reverse_nil, List.nil_append,
      String.ofList_toList]

/-! ## Trimming -/

/-- A text that neither starts nor ends with a blank. -/
structure Bare (text : List Char) : Prop where
  start : text.head?.any isBlank = false
  stop : text.getLast?.any isBlank = false

instance (text : List Char) : Decidable (Bare text) :=
  decidable_of_iff (text.head?.any isBlank = false ∧ text.getLast?.any isBlank = false)
    ⟨fun h => ⟨h.1, h.2⟩, fun h => ⟨h.start, h.stop⟩⟩

/-- A text without blanks. -/
theorem bare_of_forall {text : List Char} (htext : ∀ c ∈ text, isBlank c = false) : Bare text := by
  constructor
  · rw [Option.any_eq_false_iff_get]
    intro hhead
    exact htext _ (List.mem_of_head? (Option.some_get hhead).symm)
  · rw [Option.any_eq_false_iff_get]
    intro hlast
    exact htext _ (List.mem_of_getLast? (Option.some_get hlast).symm)

/-- A text after a character that is no blank. -/
theorem bare_cons {c : Char} (hc : isBlank c = false) {text : List Char} (htext : Bare text) :
    Bare (c :: text) := by
  refine ⟨hc, ?_⟩
  have hstop := htext.stop
  rw [List.getLast?_cons]
  cases hlast : text.getLast? with
  | none => exact hc
  | some d => rwa [hlast] at hstop

/-- Two texts that are not empty, with anything between them. -/
theorem bare_append_append {first last : List Char} (hfirst : first ≠ [] ∧ Bare first)
    (hlast : last ≠ [] ∧ Bare last) (between : List Char) : Bare (first ++ between ++ last) := by
  constructor
  · obtain ⟨c, rest, rfl⟩ := List.exists_cons_of_ne_nil hfirst.1
    exact hfirst.2.start
  · rw [List.getLast?_append_of_ne_nil _ hlast.1]
    exact hlast.2.stop

/-- The join of words that are not empty. -/
theorem bare_intercalate {separator : List Char} {words : List (List Char)} (hne : words ≠ [])
    (hwords : ∀ word ∈ words, word ≠ [] ∧ Bare word) :
    separator.intercalate words ≠ [] ∧ Bare (separator.intercalate words) := by
  induction words with
  | nil => exact absurd rfl hne
  | cons word rest ih =>
    obtain ⟨hword, hrest⟩ := List.forall_mem_cons.mp hwords
    by_cases hlast : rest = []
    · subst hlast
      rwa [List.intercalate_singleton]
    · rw [List.intercalate_cons_of_ne_nil hlast]
      refine ⟨?_, bare_append_append hword (ih hlast hrest) separator⟩
      simp [hword.1]

/-- Nothing is dropped from a text that starts with no blank. -/
theorem dropWhile_isBlank_eq_self {text : List Char} (hstart : text.head?.any isBlank = false) :
    text.dropWhile isBlank = text := by
  cases text with
  | nil => rfl
  | cons c rest =>
    apply List.dropWhile_cons_of_neg
    rw [Bool.not_eq_true]
    exact hstart

/-- Of a text that neither starts nor ends with a blank, trimming takes the blanks around it. -/
theorem trim_append_append {before text after : List Char} (htext : Bare text)
    (hbefore : ∀ c ∈ before, isBlank c = true) (hafter : ∀ c ∈ after, isBlank c = true) :
    trim (before ++ (text ++ after)) = text := by
  have hend : trimEnd (text ++ after) = text := by
    have hreverse : ∀ c ∈ after.reverse, isBlank c = true := by
      intro c hc
      exact hafter c (List.mem_reverse.mp hc)
    have hlast : text.reverse.head?.any isBlank = false := by
      rw [List.head?_reverse]
      exact htext.stop
    rw [trimEnd, List.reverse_append, List.dropWhile_append_of_pos hreverse,
      dropWhile_isBlank_eq_self hlast, List.reverse_reverse]
  rw [trim, trimStart, List.dropWhile_append_of_pos hbefore]
  by_cases hempty : text = []
  · subst hempty
    rw [List.nil_append, List.dropWhile_eq_nil_iff.mpr hafter]
    rfl
  · have hstart : (text ++ after).head?.any isBlank = false := by
      obtain ⟨c, rest, rfl⟩ := List.exists_cons_of_ne_nil hempty
      exact htext.start
    rw [dropWhile_isBlank_eq_self hstart, hend]

/-- A text is what trimming leaves of it, which neither starts nor ends with a blank, between
blanks. -/
theorem exists_trim (text : List Char) :
    ∃ before after, text = before ++ (trim text ++ after) ∧ Bare (trim text) ∧
      (∀ c ∈ before, isBlank c = true) ∧ ∀ c ∈ after, isBlank c = true := by
  obtain ⟨before, rest, hbefore, htext⟩ := exists_cut isBlank text
  obtain ⟨after, core, hafter, hrest⟩ := exists_cut isBlank rest.reverse
  obtain rfl : rest = core.reverse ++ after.reverse := by
    rw [← List.reverse_append, ← hrest, List.reverse_reverse]
  have hblank : ∀ c ∈ after.reverse, isBlank c = true :=
    fun c hc => hafter.passes c (List.mem_reverse.mp hc)
  have hbare : Bare core.reverse := by
    constructor
    · cases hcore : core.reverse with
      | nil => rfl
      | cons c others => exact hbefore.stops c (by rw [hcore]; rfl)
    · rw [List.getLast?_reverse]
      cases core with
      | nil => rfl
      | cons c others => exact hafter.stops c rfl
  have htrim : trim text = core.reverse := by
    rw [htext, trim_append_append hbare hbefore.passes hblank]
  exact ⟨before, after.reverse, by rw [htrim, htext], htrim ▸ hbare, hbefore.passes, hblank⟩

/-- Blanks around a text are trimmed with those at its ends. -/
theorem trim_between_blanks {before after : List Char} (hbefore : ∀ c ∈ before, isBlank c = true)
    (hafter : ∀ c ∈ after, isBlank c = true) (text : List Char) :
    trim (before ++ (text ++ after)) = trim text := by
  obtain ⟨front, back, htext, hbare, hfront, hback⟩ := exists_trim text
  have hsplit : before ++ (text ++ after) = (before ++ front) ++ (trim text ++ (back ++ after)) := by
    nth_rewrite 1 [htext]
    simp
  rw [hsplit]
  exact trim_append_append hbare (List.forall_mem_append.mpr ⟨hbefore, hfront⟩)
    (List.forall_mem_append.mpr ⟨hback, hafter⟩)

/-- Of a text that starts with no blank, trimming takes the blanks at its end. -/
theorem exists_trim_append {text : List Char} (hstart : text.head?.any isBlank = false) :
    ∃ after, text = trim text ++ after ∧ Bare (trim text) ∧ ∀ c ∈ after, isBlank c = true := by
  obtain ⟨before, after, htext, hbare, hbefore, hafter⟩ := exists_trim text
  cases before with
  | nil => exact ⟨after, htext, hbare, hafter⟩
  | cons c before =>
    rw [htext] at hstart
    have hc : isBlank c = false := hstart
    rw [hbefore c List.mem_cons_self] at hc
    cases hc

/-! ## Words -/

/-- Words that are joined by commas and spaces are joined by commas, with a space before all but the
first. -/
theorem intercalate_comma_space (word : List Char) (words : List (List Char)) :
    [',', ' '].intercalate (word :: words) = [','].intercalate (word :: words.map (' ' :: ·)) := by
  induction words generalizing word with
  | nil => rw [List.map_nil, List.intercalate_singleton, List.intercalate_singleton]
  | cons next words ih =>
    rw [List.map_cons, List.intercalate_cons_of_ne_nil (List.cons_ne_nil next words),
      List.intercalate_cons_of_ne_nil (List.cons_ne_nil _ _), ih]
    rw [List.intercalate_cons_cons_left]
    simp

/-- The characters of joined words are commas, spaces and those of the words. -/
theorem mem_comma_space {words : List (List Char)} {c : Char}
    (hc : c ∈ [',', ' '].intercalate words) : c = ',' ∨ c = ' ' ∨ ∃ word ∈ words, c ∈ word := by
  cases words with
  | nil => exact absurd hc List.not_mem_nil
  | cons word words =>
    rw [intercalate_comma_space] at hc
    rcases mem_intercalate hc with hcomma | ⟨other, hother, hmem⟩
    · exact .inl hcomma
    · rw [List.mem_cons, List.mem_map] at hother
      rcases hother with rfl | ⟨later, hlater, rfl⟩
      · exact .inr (.inr ⟨other, List.mem_cons_self, hmem⟩)
      · rcases List.mem_cons.mp hmem with hspace | hmem
        · exact .inr (.inl hspace)
        · exact .inr (.inr ⟨later, List.mem_cons_of_mem word hlater, hmem⟩)

/-- The pieces at the commas between words. -/
theorem pieces_comma_space {word : List Char} {words : List (List Char)}
    (hfree : ∀ other ∈ word :: words, ',' ∉ other) :
    pieces ',' ([',', ' '].intercalate (word :: words)) = word :: words.map (' ' :: ·) := by
  rw [intercalate_comma_space]
  apply pieces_intercalate (List.cons_ne_nil _ _)
  intro other hother
  rw [List.mem_cons, List.mem_map] at hother
  rcases hother with rfl | ⟨later, hlater, rfl⟩
  · exact hfree other List.mem_cons_self
  · rw [List.mem_cons, not_or]
    exact ⟨by decide, hfree later (List.mem_cons_of_mem word hlater)⟩

/-- Words that are not empty and hold no comma are known by their join. -/
theorem intercalate_comma_space_injective {words words' : List (List Char)}
    (hwords : ∀ word ∈ words, word ≠ [] ∧ ',' ∉ word)
    (hwords' : ∀ word ∈ words', word ≠ [] ∧ ',' ∉ word)
    (heq : [',', ' '].intercalate words = [',', ' '].intercalate words') : words = words' := by
  have hpieces := congrArg (pieces ',') heq
  cases words with
  | nil =>
    cases words' with
    | nil => rfl
    | cons word' words' =>
      rw [pieces_comma_space fun other hother => (hwords' other hother).2] at hpieces
      exact absurd (List.cons.inj hpieces).1.symm (hwords' word' List.mem_cons_self).1
  | cons word words =>
    rw [pieces_comma_space fun other hother => (hwords other hother).2] at hpieces
    cases words' with
    | nil => exact absurd (List.cons.inj hpieces).1 (hwords word List.mem_cons_self).1
    | cons word' words' =>
      rw [pieces_comma_space fun other hother => (hwords' other hother).2] at hpieces
      obtain ⟨rfl, hrest⟩ := List.cons.inj hpieces
      rw [List.map_injective_iff.mpr (List.cons_injective) hrest]

/-! ## Numbers -/

/-- Numbers are written in digits. -/
theorem isDigit_of_mem_toString {n : Nat} {c : Char} (hc : c ∈ (toString n).toList) :
    c.isDigit = true := by
  rw [Nat.toString_eq_repr, Nat.toList_repr] at hc
  exact Nat.isDigit_of_mem_toDigits (by decide) (by decide) hc

/-- A character that is no digit stands in no number. -/
theorem not_mem_toString {c : Char} (hc : c.isDigit = false) (n : Nat) : c ∉ (toString n).toList := by
  intro hmem
  rw [isDigit_of_mem_toString hmem] at hc
  cases hc

/-- A digit is no blank. -/
theorem isBlank_eq_false_of_isDigit {c : Char} (hc : c.isDigit = true) : isBlank c = false := by
  rw [← Bool.not_eq_true]
  intro hblank
  have hletter := isAlphanum_eq_false_of_isBlank hblank
  rw [Char.isAlphanum, hc, Bool.or_true] at hletter
  cases hletter

/-- A number is known by how it is written. -/
theorem toString_nat_injective {m n : Nat} (heq : toString m = toString n) : m = n := by
  have hdigits := congrArg (fun text => Nat.ofDigitChars 10 text.toList 0) heq
  simpa only [Nat.toString_eq_repr, Nat.toList_repr, Nat.ofDigitChars_ten_toDigits] using hdigits

end DocCoverage.Text
