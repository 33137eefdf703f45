import DocCoverage.Proofs.DocComment.LineFront
import DocCoverage.Proofs.DocComment.LineSetting

/-!
# Blank lines

A line of blanks with at most one star has no content. Inserted after a line of a comment it is no
fence, and the scanner finds one more line feed, in front of another one or at the end of the text. A
construct ends before that line feed, so it stays the same, and so do the messages that are found after
it. Only an inline tag goes on over the line, and then it is longer by one. The validator reports the
same problems in the same order, then, though not always on the same lines.
-/

namespace DocCoverage.DocComment

open Text

/-- A line of blanks with at most one star. -/
structure IsBlankLine (line : List Char) : Prop where
  blank : ∀ c ∈ line, isBlank c = true ∨ c = '*'
  star : line.count '*' ≤ 1
  onLine : '\n' ∉ line

/-- A text with a line inserted after the one at a place, or after all lines where there is none. -/
def insertLine (place : Nat) (line text : List Char) : List Char :=
  ['\n'].intercalate
    ((pieces '\n' text).take (place + 1) ++ line :: (pieces '\n' text).drop (place + 1))

/-- The identifier and the message of a diagnostic. -/
def Diagnostic.wording (diagnostic : Diagnostic) : String × String :=
  (diagnostic.problem.id, diagnostic.problem.text)

/-- A text and the same with at most one line feed added, in front of another one or at the end. -/
inductive FeedAdded : List Char → List Char → Prop
  | same (text : List Char) : FeedAdded text text
  | feed {text : List Char} : (∀ c ∈ text.head?, c = '\n') → FeedAdded text ('\n' :: text)
  | cons (c : Char) {text other : List Char} : FeedAdded text other → FeedAdded (c :: text) (c :: other)

/-! ## Texts with a line feed added -/

/-- A line feed is added after some characters. -/
theorem FeedAdded.append_left (front : List Char) {text other : List Char}
    (hadded : FeedAdded text other) : FeedAdded (front ++ text) (front ++ other) := by
  induction front with
  | nil => exact hadded
  | cons c front ih => exact .cons c ih

/-- A line feed is added after the first character, or the first character is a line feed and the added
one stands in front of it. -/
theorem FeedAdded.exists_later {c : Char} {text other : List Char}
    (hadded : FeedAdded (c :: text) other) :
    ∃ later, other = c :: later ∧ (FeedAdded text later ∨ c = '\n' ∧ later = c :: text) := by
  cases hadded with
  | same => exact ⟨text, rfl, .inl (.same text)⟩
  | feed hend =>
    obtain rfl : c = '\n' := hend c rfl
    exact ⟨_, rfl, .inr ⟨rfl, rfl⟩⟩
  | cons c hadded => exact ⟨_, rfl, .inl hadded⟩

/-- In front of a character that is no line feed none is added. -/
theorem FeedAdded.exists_cons {c : Char} {text other : List Char} (hadded : FeedAdded (c :: text) other)
    (hc : c ≠ '\n') : ∃ later, other = c :: later ∧ FeedAdded text later := by
  obtain ⟨later, hother, hlater⟩ := hadded.exists_later
  exact ⟨later, hother, hlater.resolve_right fun h => hc h.1⟩

/-- The first lines are the same. -/
theorem FeedAdded.takeWhile_eq {text other : List Char} (hadded : FeedAdded text other) :
    text.takeWhile (· != '\n') = other.takeWhile (· != '\n') := by
  induction hadded with
  | same text => rfl
  | @feed text hend =>
    cases text with
    | nil => rfl
    | cons c rest =>
      obtain rfl : c = '\n' := hend c rfl
      rfl
  | cons c _ ih => rw [List.takeWhile_cons, List.takeWhile_cons, ih]

/-- What follows characters of the first line. -/
theorem FeedAdded.drop {text other : List Char} (hadded : FeedAdded text other) {n : Nat}
    (hn : n ≤ (text.takeWhile (· != '\n')).length) : FeedAdded (text.drop n) (other.drop n) := by
  induction n generalizing text other with
  | zero => exact hadded
  | succ n ih =>
    cases text with
    | nil => simp at hn
    | cons c rest =>
      have hc : c ≠ '\n' := by
        rintro rfl
        simp at hn
      obtain ⟨later, rfl, hlater⟩ := hadded.exists_cons hc
      rw [List.takeWhile_cons_of_pos (by simpa using hc), List.length_cons] at hn
      exact ih hlater (Nat.le_of_succ_le_succ hn)

/-- The first character is the same where there is one. -/
theorem FeedAdded.head?_eq {text other : List Char} (hadded : FeedAdded text other) (hne : text ≠ []) :
    text.head? = other.head? := by
  cases hadded with
  | same => rfl
  | feed hend =>
    obtain ⟨c, rest, rfl⟩ := List.exists_cons_of_ne_nil hne
    obtain rfl : c = '\n' := hend c rfl
    rfl
  | cons c _ => rfl

/-- The first character passes a test or not, where a line feed fails it. -/
theorem FeedAdded.exists_head_iff {text other : List Char} (hadded : FeedAdded text other)
    {test : Char → Bool} (htest : test '\n' = false) :
    (∃ c ∈ text.head?, test c = true) ↔ ∃ c ∈ other.head?, test c = true := by
  cases hadded with
  | same => exact Iff.rfl
  | feed hend =>
    have hfeed : ¬ ∃ c ∈ ('\n' :: text).head?, test c = true := by simp [htest]
    refine iff_of_false (fun h => ?_) hfeed
    obtain ⟨c, hc, hpass⟩ := h
    rw [hend c hc, htest] at hpass
    cases hpass
  | cons c _ => exact Iff.rfl

/-- The text starts with a blank or not: a line feed is one. -/
theorem FeedAdded.startsBlank_iff {text other : List Char} (hadded : FeedAdded text other) :
    StartsBlank text ↔ StartsBlank other := by
  have hiff (text : List Char) : StartsBlank text ↔ ¬ ∃ c ∈ text.head?, (!isBlank c) = true := by
    simp [StartsBlank]
  rw [hiff, hiff, hadded.exists_head_iff (by decide)]

/-- Line feeds do not matter for whether a text has text. -/
theorem FeedAdded.hasText_iff {text other : List Char} (hadded : FeedAdded text other) :
    HasText text ↔ HasText other := by
  have hfeed : isBlank '\n' = true := by decide
  induction hadded with
  | same text => exact Iff.rfl
  | feed => exact (hasText_cons_of_isBlank hfeed _).symm
  | @cons c text other hadded ih =>
    cases hc : isBlank c with
    | true =>
      rw [hasText_cons_of_isBlank hc, hasText_cons_of_isBlank hc]
      exact ih
    | false =>
      rw [hasText_cons_of_not_isBlank hc, hasText_cons_of_not_isBlank hc,
        hadded.exists_head_iff (by decide)]

/-- A line feed is added after the leading characters that pass a test which it fails. -/
theorem FeedAdded.exists_run {test : Char → Bool} {run stop other : List Char}
    (hadded : FeedAdded (run ++ stop) other) (hcut : Cut test run stop) (htest : test '\n' = false) :
    ∃ stop', other = run ++ stop' ∧ Cut test run stop' ∧ FeedAdded stop stop' := by
  induction run generalizing other with
  | nil =>
    refine ⟨other, rfl, ⟨hcut.passes, fun c hc => ?_⟩, hadded⟩
    rw [← Bool.not_eq_true]
    intro hpass
    obtain ⟨d, hd, hpass⟩ := (hadded.exists_head_iff htest).mpr ⟨c, hc, hpass⟩
    rw [hcut.stops d hd] at hpass
    cases hpass
  | cons c run ih =>
    obtain ⟨hc, hrun⟩ := List.forall_mem_cons.mp hcut.passes
    have hfeed : c ≠ '\n' := by
      rintro rfl
      rw [htest] at hc
      cases hc
    obtain ⟨later, rfl, hlater⟩ := hadded.exists_cons hfeed
    obtain ⟨stop', rfl, hcut', hstop⟩ := ih hlater ⟨hrun, hcut.stops⟩
    exact ⟨stop', rfl, ⟨hcut.passes, hcut'.stops⟩, hstop⟩

/-- A line feed is added before the next right brace or after it. -/
theorem FeedAdded.exists_body {body close other : List Char} (hadded : FeedAdded (body ++ close) other)
    (hcut : Cut (· != '}') body close) :
    ∃ body' close', other = body' ++ close' ∧ Cut (· != '}') body' close' ∧
      FeedAdded close close' ∧ (close = [] → close' = []) := by
  have hfeed : ('\n' != '}') = true := by decide
  induction body generalizing other with
  | nil =>
    cases close with
    | nil =>
      -- at the end of the text the line feed belongs to the body
      refine ⟨other, [], (List.append_nil other).symm, ⟨?_, by simp⟩, .same [], fun _ => rfl⟩
      cases hadded with
      | same => simp
      | feed => simp
    | cons c rest =>
      have hhead := hadded.head?_eq (List.cons_ne_nil c rest)
      exact ⟨[], other, rfl, ⟨hcut.passes, hhead ▸ hcut.stops⟩, hadded, nofun⟩
  | cons c body ih =>
    obtain ⟨hc, hbody⟩ := List.forall_mem_cons.mp hcut.passes
    cases hadded with
    | same => exact ⟨c :: body, close, rfl, hcut, .same close, id⟩
    | feed =>
      refine ⟨'\n' :: c :: body, close, rfl, ⟨?_, hcut.stops⟩, .same close, id⟩
      exact List.forall_mem_cons.mpr ⟨hfeed, hcut.passes⟩
    | cons c hadded =>
      obtain ⟨body', close', rfl, hcut', hclose, hempty⟩ := ih hadded ⟨hbody, hcut.stops⟩
      refine ⟨c :: body', close', rfl, ⟨?_, hcut'.stops⟩, hclose, hempty⟩
      exact List.forall_mem_cons.mpr ⟨hc, hcut'.passes⟩

/-! ## Constructs in step -/

/-- Two constructs in step. They have the same problems, the cells after them differ in a line feed
that is added at most, and they end with the same character unless none follows. -/
structure InStep (start : Cell) (rest : List Cell) (found : Construct) (other : Cell)
    (others : List Cell) (found' : Construct) : Prop where
  problems : found.problems = found'.problems
  later : FeedAdded ((rest.drop found.length).map Cell.char) ((others.drop found'.length).map Cell.char)
  last : rest.drop found.length ≠ [] →
    ((start :: rest.take found.length).getLast?).map Cell.char =
      ((other :: others.take found'.length).getLast?).map Cell.char

/-- Constructs that end with the same character are in step where a line feed is added after it. -/
theorem inStep_of_map {start other : Cell} {rest others : List Cell} {found found' : Construct}
    {run run' after after' : List Char} {c : Char} (hproblems : found.problems = found'.problems)
    (htext : rest.map Cell.char = run ++ c :: after)
    (htext' : others.map Cell.char = run' ++ c :: after') (hafter : FeedAdded after after')
    (hlength : found.length = run.length + 1) (hlength' : found'.length = run'.length + 1) :
    InStep start rest found other others found' := by
  have hlater {cells : List Cell} {run after : List Char}
      (htext : cells.map Cell.char = run ++ c :: after) :
      (cells.drop (run.length + 1)).map Cell.char = after := by
    rw [← List.drop_drop, List.map_drop, map_char_drop htext rfl, List.drop_one, List.tail_cons]
  have hlast {start : Cell} {cells : List Cell} {run after : List Char}
      (htext : cells.map Cell.char = run ++ c :: after) :
      ((start :: cells.take (run.length + 1)).getLast?).map Cell.char = some c := by
    rw [← List.getLast?_map, List.map_cons, List.map_take, htext, List.append_cons, ← List.length_concat,
      List.concat_eq_append, List.take_left, ← List.cons_append, List.getLast?_concat]
  refine ⟨hproblems, ?_, fun _ => ?_⟩
  · rw [hlength, hlength', hlater htext, hlater htext']
    exact hafter
  · rw [hlength, hlength', hlast htext, hlast htext']

section Cells

variable {start other : Cell} {rest others : List Cell}
  (hadded : FeedAdded (rest.map Cell.char) (others.map Cell.char))

include hadded

/-- A line feed is added behind the first line. -/
theorem FeedAdded.sameFront : SameFront rest others := hadded.takeWhile_eq

/-- The messages of deprecations are found wherever a line feed is added. -/
theorem FeedAdded.sameMessages : SameMessages rest others := by
  intro n hn
  have hdrop := hadded.drop hn
  rw [← List.map_drop, ← List.map_drop] at hdrop
  rw [Bool.eq_iff_iff, hasMessage_false_iff, hasMessage_false_iff, hdrop.startsBlank_iff,
    hdrop.hasText_iff]

/-- An inline tag goes on to the same brace. -/
theorem FeedAdded.inlineTag_inStep (hchar : start.char = other.char) :
    InStep start rest (inlineTag start rest) other others (inlineTag other others) := by
  have hfirst := hadded.sameFront.firstChar_eq_some_iff '@' (by decide)
  by_cases hat : firstChar rest = some '@'
  · obtain ⟨chars, htext⟩ := List.head?_eq_some_iff.mp (firstChar_of_map rfl ▸ hat)
    rw [htext] at hadded
    obtain ⟨later, htext', hlater⟩ := hadded.exists_cons (by decide)
    -- the name ends before any line feed, while the body may hold the added one
    obtain ⟨name, stop, hname, rfl⟩ := exists_cut Char.isAlphanum chars
    obtain ⟨stop', rfl, hname', hstop⟩ := hlater.exists_run hname rfl
    obtain ⟨body, close, hbody, rfl⟩ := exists_cut (· != '}') stop
    obtain ⟨body', close', rfl, hbody', hclose, hempty⟩ := hstop.exists_body hbody
    rw [inlineTag_of_cut start hname hbody htext, inlineTag_of_cut other hname' hbody' htext']
    split
    · by_cases hopen : close = []
      · rw [if_pos hopen, if_pos (hempty hopen)]
        refine ⟨rfl, ?_, fun hne => absurd List.drop_length hne⟩
        rw [List.drop_length, List.drop_length]
        exact .same []
      · obtain ⟨c, after, rfl⟩ := List.exists_cons_of_ne_nil hopen
        obtain rfl : c = '}' := by simpa using hbody.stops c rfl
        obtain ⟨after', rfl, hafter⟩ := hclose.exists_cons (by decide)
        have hhead := hstop.head?_eq (by simp)
        rw [← List.cons_append, ← List.append_assoc] at htext htext'
        rw [if_neg hopen, if_neg (List.cons_ne_nil _ _), hhead]
        refine inStep_of_map ?_ htext htext' hafter ?_ ?_
        · simp only [Construct.problems, List.map_map]
          rfl
        · simp only [List.length_append, List.length_cons]
          omega
        · simp only [List.length_append, List.length_cons]
          omega
    · exact inStep_of_map rfl (htext.trans (List.nil_append _).symm)
        (htext'.trans (List.nil_append _).symm) hlater rfl rfl
  · have hat' := mt hfirst.mpr hat
    simp only [inlineTag, if_neg hat, if_neg hat']
    exact ⟨rfl, hadded, fun _ => by simp [hchar]⟩

/-- A construct is passed in step. -/
theorem FeedAdded.construct_inStep (previous : Option Char) (hchar : start.char = other.char) :
    InStep start rest (construct previous start rest) other others
      (construct previous other others) := by
  by_cases hbrace : start.char = '{'
  · simp only [construct, ← hchar, hbrace]
    exact hadded.inlineTag_inStep hchar
  · obtain ⟨hlength, hproblems⟩ :=
      hadded.sameFront.construct_agrees start other previous hchar hbrace
    have hle := construct_length_le_leading previous rest hbrace
    have hdrop := hadded.drop hle
    rw [← List.map_drop, ← List.map_drop] at hdrop
    refine ⟨hproblems hadded.sameMessages, hlength ▸ hdrop, fun _ => ?_⟩
    rw [← hlength, ← List.getLast?_map, ← List.getLast?_map, List.map_cons, List.map_cons,
      map_char_take hle, map_char_take (hadded.sameFront ▸ hle), hchar, hadded.sameFront]

end Cells

/-! ## The scanner -/

/-- A line feed starts no construct. -/
theorem construct_of_lineFeed (previous : Option Char) {feed : Cell} (hfeed : feed.char = '\n')
    (rest : List Cell) : construct previous feed rest = ⟨[], 0⟩ := by
  apply construct_of_notMem
  rw [hfeed]
  decide

/-- The scanner passes over a line feed. -/
theorem scan_cons_of_lineFeed (previous : Option Char) {feed : Cell} (hfeed : feed.char = '\n')
    (rest : List Cell) : scan previous (feed :: rest) = scan (some '\n') rest := by
  rw [scan, construct_of_lineFeed previous hfeed]
  simp [hfeed]

/-- The scanner reports nothing in an empty text, also with a line feed. -/
theorem FeedAdded.scan_eq_nil {others : List Cell} (hadded : FeedAdded [] (others.map Cell.char))
    (previous : Option Char) : scan previous others = [] := by
  generalize htext : others.map Cell.char = text at hadded
  cases hadded with
  | same => rw [List.map_eq_nil_iff.mp htext, scan]
  | feed =>
    obtain ⟨feed, rest, rfl, hfeed, hrest⟩ := List.map_eq_cons_iff.mp htext
    rw [scan_cons_of_lineFeed previous hfeed, List.map_eq_nil_iff.mp hrest, scan]

/-- The scanner reports the same problems where a line feed is added. -/
theorem FeedAdded.scan_problems (previous : Option Char) {cells others : List Cell}
    (hadded : FeedAdded (cells.map Cell.char) (others.map Cell.char)) :
    (scan previous cells).map Diagnostic.problem = (scan previous others).map Diagnostic.problem := by
  fun_induction scan previous cells generalizing others
  case case1 previous => rw [hadded.scan_eq_nil]
  case case2 previous start rest found last ih =>
    obtain ⟨text, htext, hlater⟩ := hadded.exists_later
    obtain ⟨other, later, rfl, hchar, rfl⟩ := List.map_eq_cons_iff.mp htext
    rcases hlater with hlater | ⟨hfeed, hlater⟩
    · have hstep := hlater.construct_inStep previous hchar.symm
      have hproblems : found.diagnostics.map Diagnostic.problem =
          (construct previous other later).diagnostics.map Diagnostic.problem := hstep.problems
      rw [scan, List.map_append, List.map_append, ← hproblems]
      congr 1
      by_cases hend : rest.drop found.length = []
      · have hlater' := hstep.later
        rw [hend] at hlater' ⊢
        rw [hlater'.scan_eq_nil, scan]
      · rw [← hstep.last hend]
        exact ih hstep.later
    · -- both scans pass over the line feeds and go on with the same text
      obtain ⟨feed, later, rfl, hfeed', hrest⟩ := List.map_eq_cons_iff.mp hlater
      have hfound : found = ⟨[], 0⟩ := construct_of_lineFeed previous hfeed rest
      have hlast : last = some '\n' := by simp [last, hfound, hfeed]
      have hsame : FeedAdded ((rest.drop found.length).map Cell.char) (later.map Cell.char) := by
        rw [hfound, hrest]
        exact .same _
      rw [scan_cons_of_lineFeed previous (hchar.trans hfeed),
        scan_cons_of_lineFeed _ (hfeed'.trans hfeed), List.map_append, ih hsame, hlast, hfound]
      rfl

/-! ## The lines -/

/-- A blank line has no content. -/
theorem IsBlankLine.undecorate_trim {line : List Char} (hline : IsBlankLine line) :
    undecorate (trim line) = [] := by
  have hblank {part : List Char} (hpart : '*' ∉ part) (hsub : part ⊆ line) :
      ∀ c ∈ part, isBlank c = true :=
    fun c hc => (hline.blank c (hsub hc)).resolve_right (ne_of_mem_of_not_mem hc hpart)
  by_cases hstar : '*' ∈ line
  · obtain ⟨before, after, rfl⟩ := List.append_of_mem hstar
    have hnone : '*' ∉ before ∧ '*' ∉ after := by
      have hcount := hline.star
      rw [List.count_append, List.count_cons_self] at hcount
      constructor <;> refine List.count_eq_zero.mp ?_ <;> omega
    have htrim : trim (before ++ (['*'] ++ after)) = trim ['*'] :=
      trim_between_blanks (hblank hnone.1 (List.subset_append_left _ _))
        (hblank hnone.2 fun c hc => List.mem_append_right _ (List.mem_cons_of_mem _ hc)) _
    exact congrArg undecorate htrim
  · have htrim : trim (line ++ ([] ++ [])) = trim [] :=
      trim_between_blanks (hblank hstar (List.Subset.refl line)) (by simp) []
    rw [List.append_nil, List.append_nil] at htrim
    exact congrArg undecorate htrim

/-- The content lines with a blank line inserted. -/
theorem contentLines_insertLine (place : Nat) {line : List Char} (hline : IsBlankLine line)
    (text : List Char) :
    contentLines (insertLine place line text) =
      (contentLines text).take (place + 1) ++ [] :: (contentLines text).drop (place + 1) := by
  have hpieces : pieces '\n' (insertLine place line text) =
      (pieces '\n' text).take (place + 1) ++ line :: (pieces '\n' text).drop (place + 1) := by
    apply pieces_intercalate (by simp)
    intro piece hmem
    rcases List.mem_append.mp hmem with hmem | hmem
    · exact notMem_of_mem_pieces (List.mem_of_mem_take hmem)
    · rcases List.mem_cons.mp hmem with rfl | hmem
      · exact hline.onLine
      · exact notMem_of_mem_pieces (List.mem_of_mem_drop hmem)
  obtain ⟨first, others, htext⟩ := List.exists_cons_of_ne_nil (pieces_ne_nil '\n' text)
  rw [contentLines, contentLines, hpieces, htext]
  simp [hline.undecorate_trim]

section Masked

variable {lines : List (List Char)} (hne : lines ≠ []) (others : List (List Char))

include hne

/-- An empty line after others adds a line feed to the text. -/
theorem feedAdded_intercalate :
    FeedAdded (['\n'].intercalate (lines ++ others)) (['\n'].intercalate (lines ++ [] :: others)) := by
  induction lines with
  | nil => exact absurd rfl hne
  | cons line rest ih =>
    by_cases hrest : rest = []
    · subst hrest
      -- the line feed stands in front of that of the next line, or at the end
      have hadded (text : List Char) (hend : ∀ c ∈ text.head?, c = '\n') :
          FeedAdded (line ++ text) (line ++ '\n' :: text) :=
        (FeedAdded.feed hend).append_left line
      cases others with
      | nil => simpa using hadded [] (by simp)
      | cons other later =>
        simpa [List.intercalate_cons_cons] using
          hadded ('\n' :: ['\n'].intercalate (other :: later)) (by simp)
    · rw [List.cons_append, List.cons_append, List.intercalate_cons_of_ne_nil (by simp [hrest]),
        List.intercalate_cons_of_ne_nil (by simp)]
      exact (ih hrest).append_left _

/-- An empty line is masked to itself, and the lines around it as without it. -/
theorem exists_maskFences_append :
    ∃ before after, before ≠ [] ∧ (maskFences none 1 (lines ++ others)).1 = before ++ after ∧
      (maskFences none 1 (lines ++ [] :: others)).1 = before ++ [] :: after := by
  have hempty (fence : Option Nat) (number : Nat) :
      (maskFences fence number ([] :: others)).1 = [] :: (maskFences fence number others).1 := by
    rw [maskFences, if_neg (by decide)]
    dsimp only
    rw [ite_self, maskFences_fst, maskFences_fst]
  refine ⟨(maskFences none 1 lines).1,
    (maskFences (maskFences none 1 lines).2 (1 + lines.length) others).1, ?_, ?_, ?_⟩
  · rw [maskFences_fst, Ne, List.mapIdx_eq_nil_iff]
    exact hne
  · rw [maskFences_append]
  · rw [maskFences_append]
    dsimp only
    rw [hempty]

/-- The scanner reports the same problems with an empty line. -/
theorem scan_maskFences_append :
    (scan none (flatten (maskFences none 1 (lines ++ [] :: others)).1)).map Diagnostic.problem =
      (scan none (flatten (maskFences none 1 (lines ++ others)).1)).map Diagnostic.problem := by
  obtain ⟨before, after, hbefore, hmask, hmask'⟩ := exists_maskFences_append hne others
  rw [hmask, hmask']
  refine (FeedAdded.scan_problems none ?_).symm
  rw [flatten_map_char, flatten_map_char]
  exact feedAdded_intercalate hbefore after

end Masked

/-- A fence is left open with an empty line exactly where one is without it. -/
theorem maskFences_append_isSome (lines others : List (List Char)) :
    (maskFences none 1 (lines ++ [] :: others)).2.isSome =
      (maskFences none 1 (lines ++ others)).2.isSome := by
  have hempty : isFence [] = false := by decide
  rw [maskFences_snd_isSome, maskFences_snd_isSome, oddFences_append, oddFences_append,
    oddFences_cons, hempty, Bool.false_xor]

/-- What is reported of a fence that is left open, but for its line. -/
theorem map_problem_openFence (fence : Option Nat) :
    (fence.toList.map (Diagnostic.mk .codeFenceMissingDelimiter)).map Diagnostic.problem =
      if fence.isSome then [.codeFenceMissingDelimiter] else [] := by
  cases fence <;> rfl

/-- The validator reports the same problems with a blank line inserted. -/
theorem validate_insertLine_problems (place : Nat) {line : List Char} (hline : IsBlankLine line)
    (text : List Char) :
    (validate (delimited (insertLine place line text))).map Diagnostic.problem =
      (validate (delimited text)).map Diagnostic.problem := by
  have hne : (contentLines text).take (place + 1) ≠ [] := by
    simp [contentLines_eq_mapIdx, pieces_ne_nil]
  have hsplit := List.take_append_drop (place + 1) (contentLines text)
  rw [validate_delimited, validate_delimited, contentLines_insertLine place hline]
  generalize (contentLines text).take (place + 1) = lines at hne hsplit
  generalize (contentLines text).drop (place + 1) = others at hsplit
  rw [← hsplit, List.map_append, List.map_append, scan_maskFences_append hne,
    map_problem_openFence, map_problem_openFence, maskFences_append_isSome]

/-- The validator reports the same identifiers and messages in the same order with a blank line
inserted after any line of a comment. -/
theorem validate_insertLine (place : Nat) {line : List Char} (hline : IsBlankLine line)
    (text : List Char) :
    (validate (delimited (insertLine place line text))).map Diagnostic.wording =
      (validate (delimited text)).map Diagnostic.wording := by
  have hwording (diagnostics : List Diagnostic) : diagnostics.map Diagnostic.wording =
      (diagnostics.map Diagnostic.problem).map fun problem => (problem.id, problem.text) := by
    rw [List.map_map]
    rfl
  rw [hwording, hwording, validate_insertLine_problems place hline]

/-- A link over two lines that stands in a deprecation, a parameter without a name at the end of its
line and code in a fence that is left open. -/
def linkAndCodeText : List Char :=
  " @deprecated \x7b@link\n * Sum\x7d <b\n * @param\n * \x60\x60\x60\n * \x7d".toList

/-- With a blank line in the link the same is reported as without it. -/
theorem linkAndCodeText_validate_insertLine :
    IsBlankLine [' ', '*', '\t', '\r'] ∧
      validate (delimited linkAndCodeText) =
        [⟨.codeFenceMissingDelimiter, 4⟩, ⟨.htmlTagMissingGreaterThan, 2⟩,
          ⟨.paramMissingName "param", 4⟩] ∧
      (validate (delimited (insertLine 0 [' ', '*', '\t', '\r'] linkAndCodeText))).map
          Diagnostic.wording =
        (validate (delimited linkAndCodeText)).map Diagnostic.wording := by
  have hline : IsBlankLine [' ', '*', '\t', '\r'] := by
    refine ⟨fun c hc => ?_, by decide, by decide⟩
    simp only [List.mem_cons, List.not_mem_nil, or_false] at hc
    rcases hc with rfl | rfl | rfl | rfl <;> decide
  exact ⟨hline, by decide +kernel, validate_insertLine 0 hline linkAndCodeText⟩

end DocCoverage.DocComment
