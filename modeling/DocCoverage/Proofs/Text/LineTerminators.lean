import DocCoverage.Proofs.Text.Boundary
import DocCoverage.Text.LineIndex
import DocCoverage.Text.Trivia
import Mathlib.Data.Set.Card
import Mathlib.Data.List.Sort

/-!
# Lines and line terminators

A text has one line more than it has line terminators, and an offset lies on the line after the
terminators that end at or before it. A carriage return and a line feed after it are one terminator;
either of them without the other is one by itself.

The index of a text holds the ends of its terminators. They are increasing, so there is exactly one
place in the index at which the starts up to an offset give way to those past it.
-/

namespace DocCoverage.Text

/-- A line terminator of a text, with the bytes that it takes: a carriage return and a line feed
together, or one of the two without the other. -/
inductive IsTerminator (text : List Char) : ByteRange → Prop where
  | returnFeed {before after : List Char} (htext : text = before ++ '\r' :: '\n' :: after) :
    IsTerminator text ⟨byteLength before, byteLength before + 2⟩
  | loneReturn {before after : List Char} (htext : text = before ++ '\r' :: after)
      (hafter : after.head? ≠ some '\n') :
    IsTerminator text ⟨byteLength before, byteLength before + 1⟩
  | loneFeed {before after : List Char} (htext : text = before ++ '\n' :: after)
      (hbefore : before.getLast? ≠ some '\r') :
    IsTerminator text ⟨byteLength before, byteLength before + 1⟩

/-- The line terminators of a text that end at or before an offset. -/
def terminatorsUpTo (text : List Char) (offset : Nat) : Set ByteRange :=
  {range | IsTerminator text range ∧ range.stop ≤ offset}

/-- The number of lines of a text. -/
noncomputable def lineCount (text : List Char) : Nat := 1 + {range | IsTerminator text range}.ncard

/-- A character with which a line ends, given the text after it: a line feed, or a carriage return that
no line feed follows. -/
def IsLineEnd (c : Char) (after : List Char) : Prop :=
  c = '\n' ∨ c = '\r' ∧ after.head? ≠ some '\n'

instance (c : Char) (after : List Char) : Decidable (IsLineEnd c after) :=
  inferInstanceAs (Decidable (_ ∨ _))

/-- A place in a list of numbers with the numbers up to an offset before it and greater ones after
it. -/
structure IsPartitionPoint (numbers : List Nat) (offset place : Nat) : Prop where
  le_length : place ≤ numbers.length
  le_of_mem_take : ∀ number ∈ numbers.take place, number ≤ offset
  lt_of_mem_drop : ∀ number ∈ numbers.drop place, offset < number

/-! ## Increasing numbers -/

/-- The numbers up to an offset stand in front of increasing numbers. -/
theorem takeWhile_le_eq_filter {numbers : List Nat} (hincreasing : numbers.Pairwise (· < ·))
    (offset : Nat) : numbers.takeWhile (· ≤ offset) = numbers.filter (· ≤ offset) := by
  induction hincreasing with
  | nil => rfl
  | @cons first rest hfirst _ ih =>
    by_cases hle : first ≤ offset
    · simp [hle, ih]
    · have hnone : rest.filter (· ≤ offset) = [] := by
        refine List.filter_eq_nil_iff.mpr fun number hmem => ?_
        have hlt := hfirst number hmem
        rw [decide_eq_true_eq]
        omega
      simp [hle, hnone]

/-- The numbers up to an offset end at a partition point of increasing numbers. -/
theorem isPartitionPoint_length_takeWhile {numbers : List Nat}
    (hincreasing : numbers.Pairwise (· < ·)) (offset : Nat) :
    IsPartitionPoint numbers offset (numbers.takeWhile (· ≤ offset)).length := by
  induction hincreasing with
  | nil => exact ⟨Nat.le_refl 0, nofun, nofun⟩
  | @cons first rest hfirst _ ih =>
    by_cases hle : first ≤ offset
    · rw [List.takeWhile_cons_of_pos (by simpa using hle), List.length_cons]
      refine ⟨Nat.succ_le_succ ih.le_length, ?_, ih.lt_of_mem_drop⟩
      rw [List.take_succ_cons]
      exact List.forall_mem_cons.mpr ⟨hle, ih.le_of_mem_take⟩
    · rw [List.takeWhile_cons_of_neg (by simpa using hle)]
      refine ⟨Nat.zero_le _, nofun, List.forall_mem_cons.mpr ⟨Nat.not_le.mp hle, ?_⟩⟩
      exact fun number hmem => (Nat.not_le.mp hle).trans (hfirst number hmem)

/-- Increasing numbers have one partition point for each offset. -/
theorem isPartitionPoint_iff {numbers : List Nat} (hincreasing : numbers.Pairwise (· < ·))
    (offset place : Nat) :
    IsPartitionPoint numbers offset place ↔
      place = (numbers.takeWhile (· ≤ offset)).length := by
  refine ⟨fun hplace => ?_, fun heq => heq ▸ isPartitionPoint_length_takeWhile hincreasing offset⟩
  have hnone : (numbers.drop place).takeWhile (· ≤ offset) = [] := by
    cases hrest : numbers.drop place with
    | nil => rfl
    | cons number rest =>
      have hlt := hplace.lt_of_mem_drop number (hrest ▸ List.mem_cons_self)
      exact List.takeWhile_cons_of_neg (by simpa using hlt)
  rw [← List.take_append_drop place numbers, List.takeWhile_append_of_pos
    (by simpa using hplace.le_of_mem_take), hnone, List.append_nil, List.length_take,
    Nat.min_eq_left hplace.le_length]

/-- The numbers up to the next offset are those up to an offset and that next one. -/
theorem countP_le_succ (numbers : List Nat) (offset : Nat) :
    numbers.countP (· ≤ offset + 1) = numbers.countP (· ≤ offset) + numbers.count (offset + 1) := by
  induction numbers with
  | nil => rfl
  | cons first rest ih =>
    simp only [List.countP_cons, List.count_cons, ih, decide_eq_true_eq, beq_iff_eq]
    split_ifs <;> omega

/-! ## The starts of lines -/

/-- The character with which a line ends takes one byte. -/
theorem IsLineEnd.utf8Size_eq {c : Char} {after : List Char} (hend : IsLineEnd c after) :
    c.utf8Size = 1 := by
  rcases hend with rfl | ⟨rfl, -⟩ <;> rfl

namespace LineIndex

/-- The starts of lines are found character by character. -/
theorem laterStarts_cons (offset : Nat) (c : Char) (rest : List Char) :
    laterStarts offset (c :: rest) =
      if IsLineEnd c rest then (offset + 1) :: laterStarts (offset + 1) rest
      else laterStarts (offset + c.utf8Size) rest := by
  by_cases hpair : c = '\r' ∧ rest.head? = some '\n'
  · -- the pair is passed at once, and the line feed in it is a line end
    obtain ⟨rfl, hfeed⟩ := hpair
    obtain ⟨after, rfl⟩ := List.head?_eq_some_iff.mp hfeed
    have hsize : '\r'.utf8Size = 1 := rfl
    rw [if_neg (by simp [IsLineEnd]), hsize, laterStarts, laterStarts, if_pos (.inr rfl)]
    rintro _ ⟨⟩
  · have hend : IsLineEnd c rest ↔ c = '\r' ∨ c = '\n' := by
      rw [IsLineEnd, or_comm]
      exact or_congr_left ⟨And.left, fun hc => ⟨hc, fun hfeed => hpair ⟨hc, hfeed⟩⟩⟩
    rw [laterStarts]
    · simp only [hend]
    · rintro after rfl rfl
      exact hpair ⟨rfl, rfl⟩

/-- The starts of lines after the first lie past the offset of the text. -/
theorem lt_of_mem_laterStarts {offset start : Nat} {text : List Char}
    (hmem : start ∈ laterStarts offset text) : offset < start := by
  induction text generalizing offset with
  | nil => exact absurd hmem List.not_mem_nil
  | cons c rest ih =>
    have hpos := c.utf8Size_pos
    rw [laterStarts_cons] at hmem
    split at hmem
    · rcases List.mem_cons.mp hmem with rfl | hlater
      · omega
      · have hlt := ih hlater
        omega
    · have hlt := ih hmem
      omega

/-- The starts of lines after the first are increasing. -/
theorem pairwise_laterStarts (offset : Nat) (text : List Char) :
    (laterStarts offset text).Pairwise (· < ·) := by
  induction text generalizing offset with
  | nil => exact List.Pairwise.nil
  | cons c rest ih =>
    rw [laterStarts_cons]
    split
    · exact List.pairwise_cons.mpr ⟨fun _ => lt_of_mem_laterStarts, ih (offset + 1)⟩
    · exact ih (offset + c.utf8Size)

/-- The starts of the lines of a text are increasing. -/
theorem pairwise_starts (text : List Char) : (ofText text).starts.Pairwise (· < ·) :=
  List.pairwise_cons.mpr ⟨fun _ => lt_of_mem_laterStarts, pairwise_laterStarts 0 text⟩

/-- A line starts directly after each character with which one ends. -/
theorem mem_laterStarts_iff (offset : Nat) (text : List Char) (start : Nat) :
    start ∈ laterStarts offset text ↔
      ∃ before c after, text = before ++ c :: after ∧ IsLineEnd c after ∧
        start = offset + byteLength before + 1 := by
  induction text generalizing offset with
  | nil => simp [laterStarts]
  | cons c rest ih =>
    rw [laterStarts_cons]
    constructor
    · intro hmem
      split at hmem
      case isTrue hend =>
        rcases List.mem_cons.mp hmem with rfl | hlater
        · exact ⟨[], c, rest, rfl, hend, rfl⟩
        · obtain ⟨before, d, after, rfl, hd, rfl⟩ := (ih _).mp hlater
          refine ⟨c :: before, d, after, rfl, hd, ?_⟩
          rw [byteLength_cons, hend.utf8Size_eq, Nat.add_assoc offset 1]
      case isFalse =>
        obtain ⟨before, d, after, rfl, hd, rfl⟩ := (ih _).mp hmem
        refine ⟨c :: before, d, after, rfl, hd, ?_⟩
        rw [byteLength_cons, Nat.add_assoc offset]
    · rintro ⟨before, d, after, htext, hd, rfl⟩
      cases before with
      | nil =>
        obtain ⟨rfl, rfl⟩ := List.cons.inj htext
        rw [if_pos hd]
        exact List.mem_cons_self
      | cons first before =>
        obtain ⟨rfl, rfl⟩ := List.cons.inj htext
        have hmem := (ih (offset + c.utf8Size)).mpr ⟨before, d, after, rfl, hd,
          by rw [byteLength_cons, ← Nat.add_assoc offset]⟩
        split
        case isTrue hend =>
          rw [hend.utf8Size_eq] at hmem
          exact List.mem_cons_of_mem _ hmem
        case isFalse => exact hmem

end LineIndex

/-! ## Terminators -/

/-- A terminator ends directly after each character with which a line ends. -/
theorem exists_isTerminator_iff (text : List Char) (stop : Nat) :
    (∃ range, IsTerminator text range ∧ range.stop = stop) ↔
      stop ∈ LineIndex.laterStarts 0 text := by
  rw [LineIndex.mem_laterStarts_iff]
  simp only [Nat.zero_add]
  constructor
  · rintro ⟨range, hrange, rfl⟩
    cases hrange with
    | @returnFeed before after htext =>
      refine ⟨before ++ ['\r'], '\n', after, by simp [htext], .inl rfl, ?_⟩
      rw [byteLength_append]
      rfl
    | @loneReturn before after htext hafter => exact ⟨before, '\r', after, htext, .inr ⟨rfl, hafter⟩, rfl⟩
    | @loneFeed before after htext hbefore => exact ⟨before, '\n', after, htext, .inl rfl, rfl⟩
  · rintro ⟨before, c, after, htext, rfl | ⟨rfl, hafter⟩, rfl⟩
    · by_cases hreturn : before.getLast? = some '\r'
      · obtain ⟨front, rfl⟩ := List.getLast?_eq_some_iff.mp hreturn
        refine ⟨_, .returnFeed (by simpa using htext), ?_⟩
        rw [byteLength_append]
        rfl
      · exact ⟨_, .loneFeed htext hreturn, rfl⟩
    · exact ⟨_, .loneReturn htext hafter, rfl⟩

/-- The text before the end of a word in it. -/
theorem prefixAt_of_eq_append {text before word after : List Char}
    (htext : text = before ++ (word ++ after)) {size : Nat} (hsize : byteLength word = size) :
    prefixAt text (byteLength before + size) = before ++ word := by
  rw [htext, ← hsize, ← byteLength_append, ← List.append_assoc, prefixAt_append]

/-- A terminator is known by its end: it takes two bytes where a carriage return and a line feed stand
before it, and one byte otherwise. -/
theorem IsTerminator.start_add {text : List Char} {range : ByteRange}
    (hrange : IsTerminator text range) :
    range.start + (if ['\r', '\n'] <:+ prefixAt text range.stop then 2 else 1) = range.stop := by
  cases hrange with
  | @returnFeed before after htext =>
    have htaken : prefixAt text (byteLength before + 2) = before ++ ['\r', '\n'] :=
      prefixAt_of_eq_append htext rfl
    rw [htaken, if_pos (List.suffix_append before _)]
  | @loneReturn before after htext hafter =>
    have htaken : prefixAt text (byteLength before + 1) = before ++ ['\r'] :=
      prefixAt_of_eq_append htext rfl
    rw [htaken, if_neg]
    rintro ⟨front, hfront⟩
    simpa using congrArg List.getLast? hfront
  | @loneFeed before after htext hbefore =>
    have htaken : prefixAt text (byteLength before + 1) = before ++ ['\n'] :=
      prefixAt_of_eq_append htext rfl
    rw [htaken, if_neg]
    rintro ⟨front, hfront⟩
    have hsplit : before ++ ['\n'] = (front ++ ['\r']) ++ ['\n'] := by
      rw [← hfront, List.append_assoc, List.singleton_append]
    obtain ⟨rfl, -⟩ := List.append_inj' hsplit rfl
    exact hbefore (List.getLast?_concat)

/-- Terminators with one end are the same. -/
theorem IsTerminator.eq_of_stop_eq {text : List Char} {range range' : ByteRange}
    (hrange : IsTerminator text range) (hrange' : IsTerminator text range')
    (hstop : range.stop = range'.stop) : range = range' := by
  have hstart := hrange.start_add
  have hstart' := hrange'.start_add
  rw [← hstop] at hstart'
  cases range
  cases range'
  simp only [ByteRange.mk.injEq] at *
  omega

/-- There are as many terminators up to an offset as starts of later lines. -/
theorem ncard_terminatorsUpTo (text : List Char) (offset : Nat) :
    (terminatorsUpTo text offset).ncard =
      ((LineIndex.laterStarts 0 text).filter (· ≤ offset)).length := by
  have himage : ByteRange.stop '' terminatorsUpTo text offset =
      ↑((LineIndex.laterStarts 0 text).filter (· ≤ offset)).toFinset := by
    ext stop
    rw [List.coe_toFinset, Set.mem_ofPred_eq, List.mem_filter, ← exists_isTerminator_iff,
      decide_eq_true_eq]
    constructor
    · rintro ⟨range, ⟨hrange, hle⟩, rfl⟩
      exact ⟨⟨range, hrange, rfl⟩, hle⟩
    · rintro ⟨⟨range, hrange, rfl⟩, hle⟩
      exact ⟨range, ⟨hrange, hle⟩, rfl⟩
  have hnodup : ((LineIndex.laterStarts 0 text).filter (· ≤ offset)).Nodup :=
    ((LineIndex.pairwise_laterStarts 0 text).imp Nat.ne_of_lt).filter _
  have hinjective : Set.InjOn ByteRange.stop (terminatorsUpTo text offset) :=
    fun _ hfirst _ hsecond => hfirst.1.eq_of_stop_eq hsecond.1
  rw [← hinjective.ncard_image, himage, Set.ncard_coe_finset, List.toFinset_card_of_nodup hnodup]

/-- A terminator lies within its text. -/
theorem IsTerminator.stop_le {text : List Char} {range : ByteRange}
    (hrange : IsTerminator text range) : range.stop ≤ byteLength text := by
  obtain ⟨before, c, after, rfl, hend, hstop⟩ := (LineIndex.mem_laterStarts_iff 0 text _).mp
    ((exists_isTerminator_iff text range.stop).mp ⟨range, hrange, rfl⟩)
  rw [hstop, byteLength_append, byteLength_cons, hend.utf8Size_eq]
  omega

/-- The number of lines is counted with all terminators, which end by the end of the text. -/
theorem lineCount_eq {text : List Char} {offset : Nat} (hpast : byteLength text ≤ offset) :
    lineCount text = 1 + (terminatorsUpTo text offset).ncard := by
  have hall : terminatorsUpTo text offset = {range | IsTerminator text range} :=
    Set.ext fun range => and_iff_left_of_imp fun hrange => hrange.stop_le.trans hpast
  rw [lineCount, hall]

/-! ## Lines -/

namespace LineIndex

/-- An offset lies on the line after the starts of later lines up to it. -/
theorem lineOf_eq_length (text : List Char) (offset : Nat) :
    (ofText text).lineOf offset = 1 + ((laterStarts 0 text).filter (· ≤ offset)).length := by
  rw [lineOf, ofText, List.takeWhile_cons_of_pos (by simp), List.length_cons, Nat.add_comm,
    takeWhile_le_eq_filter (pairwise_laterStarts 0 text)]

/-- An offset lies on the line after the terminators that end at or before it. -/
theorem lineOf_eq_ncard (text : List Char) (offset : Nat) :
    (ofText text).lineOf offset = 1 + (terminatorsUpTo text offset).ncard := by
  rw [lineOf_eq_length, ncard_terminatorsUpTo]

/-- A later offset lies on the same line or on a later one. -/
theorem lineOf_mono (text : List Char) : Monotone (ofText text).lineOf := by
  intro first second hle
  have hkept : ∀ start, decide (start ≤ first) = true → decide (start ≤ second) = true := by
    intro start hstart
    exact decide_eq_true ((of_decide_eq_true hstart).trans hle)
  rw [lineOf_eq_length, lineOf_eq_length]
  exact Nat.add_le_add_left (List.monotone_filter_right (laterStarts 0 text) hkept).length_le 1

/-- Lines count from one. -/
theorem one_le_lineOf (text : List Char) (offset : Nat) : 1 ≤ (ofText text).lineOf offset := by
  rw [lineOf_eq_length]
  exact Nat.le_add_right 1 _

/-- An offset past the end of a text lies on its last line. -/
theorem lineOf_of_byteLength_le {text : List Char} {offset : Nat} (hpast : byteLength text ≤ offset) :
    (ofText text).lineOf offset = lineCount text := by
  rw [lineOf_eq_ncard, lineCount_eq hpast]

/-- No offset lies on a line after the last. -/
theorem lineOf_le_lineCount (text : List Char) (offset : Nat) :
    (ofText text).lineOf offset ≤ lineCount text := by
  rw [← lineOf_of_byteLength_le (Nat.le_max_left (byteLength text) offset)]
  exact lineOf_mono text (Nat.le_max_right _ _)

/-- From one offset to the next the line changes exactly where a line starts. -/
theorem lineOf_succ (text : List Char) (offset : Nat) :
    (ofText text).lineOf (offset + 1) =
      (ofText text).lineOf offset + if offset + 1 ∈ laterStarts 0 text then 1 else 0 := by
  have hnodup : (laterStarts 0 text).Nodup := (pairwise_laterStarts 0 text).imp Nat.ne_of_lt
  rw [lineOf_eq_length, lineOf_eq_length, ← List.countP_eq_length_filter,
    ← List.countP_eq_length_filter, countP_le_succ, hnodup.count, Nat.add_assoc]

/-- A carriage return and the line feed after it lie on one line, and the next line starts after
them. -/
theorem lineOf_returnFeed {text before after : List Char}
    (htext : text = before ++ '\r' :: '\n' :: after) :
    (ofText text).lineOf (byteLength before + 1) = (ofText text).lineOf (byteLength before) ∧
      (ofText text).lineOf (byteLength before + 2) = (ofText text).lineOf (byteLength before) + 1 := by
  have hmiddle : byteLength before + 1 ∉ laterStarts 0 text := by
    rw [mem_laterStarts_iff]
    rintro ⟨front, c, rest, htext', hend, hsize⟩
    -- the character before the offset is the carriage return
    obtain rfl : front = before := by
      have hfront := prefixAt_append front (c :: rest)
      have hbefore := prefixAt_append before ('\r' :: '\n' :: after)
      rw [← htext', show byteLength front = byteLength before by omega] at hfront
      rw [← hfront, htext, hbefore]
    rw [htext, List.append_cancel_left_eq] at htext'
    obtain ⟨rfl, rfl⟩ := List.cons.inj htext'
    simp [IsLineEnd] at hend
  have hlast : byteLength before + 1 + 1 ∈ laterStarts 0 text := by
    refine (exists_isTerminator_iff text _).mp ⟨_, .returnFeed htext, rfl⟩
  have hsame := lineOf_succ text (byteLength before)
  rw [if_neg hmiddle, Nat.add_zero] at hsame
  refine ⟨hsame, ?_⟩
  rw [lineOf_succ, if_pos hlast, hsame]

/-- The starts of the lines of a text are increasing, so that the search for an offset among them has
one result, which is the line of the offset. It is one more than the number of terminators that end at or
before the offset. So a carriage return and the line feed after it lie on one line, an offset past the end
lies on the last line, and later offsets never lie on earlier lines. -/
theorem lineOf_counts_terminators (text : List Char) :
    (ofText text).starts.Pairwise (· < ·) ∧
    (∀ offset place, IsPartitionPoint (ofText text).starts offset place ↔
      place = (ofText text).lineOf offset) ∧
    (∀ offset, (ofText text).lineOf offset = 1 + (terminatorsUpTo text offset).ncard) ∧
    (∀ before after, text = before ++ '\r' :: '\n' :: after →
      (ofText text).lineOf (byteLength before + 1) = (ofText text).lineOf (byteLength before) ∧
        (ofText text).lineOf (byteLength before + 2) =
          (ofText text).lineOf (byteLength before) + 1) ∧
    (∀ offset, byteLength text ≤ offset → (ofText text).lineOf offset = lineCount text) ∧
    Monotone (ofText text).lineOf := by
  have hincreasing := pairwise_starts text
  refine ⟨hincreasing, isPartitionPoint_iff hincreasing, lineOf_eq_ncard text, ?_, ?_, lineOf_mono text⟩
  · intro before after htext
    exact lineOf_returnFeed htext
  · intro offset hpast
    exact lineOf_of_byteLength_le hpast

/-- In a text with two carriage returns and two line feeds in a row, the second and the third of them are
one terminator. -/
theorem mixedEnds_lineOf :
    let text := "é\r\r\n\nb".toList
    (ofText text).lineOf 4 = 2 ∧ (ofText text).lineOf 5 = 3 ∧
      (terminatorsUpTo text 5).ncard = 2 ∧ (ofText text).lineOf 100 = lineCount text := by
  intro text
  obtain ⟨-, -, hcount, hpair, hpast, -⟩ := lineOf_counts_terminators text
  obtain ⟨hmiddle, hnext⟩ := hpair ['é', '\r'] ['\n', 'b'] (by decide)
  have hfive : (ofText text).lineOf 5 = 3 := hnext
  refine ⟨hmiddle, hfive, ?_, hpast 100 (by decide)⟩
  have hncard := hcount 5
  omega

end LineIndex

end DocCoverage.Text
