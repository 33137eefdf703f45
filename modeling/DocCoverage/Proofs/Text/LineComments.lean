import DocCoverage.Proofs.Text.TriviaTokens

/-!
# Where line comments end

Four characters break a line between comments, and two of them end a line comment: the carriage
return and the line feed. A line comment therefore ends where its line does exactly when its line is
not ended by a line separator or a paragraph separator. Otherwise it goes on over the lines that
follow, up to the next carriage return or line feed, and takes what stands on them with it.
-/

namespace DocCoverage.Text

/-- The line break that ends the line on which a text starts; there is none on the last line. -/
def lineBreakAhead (text : List Char) : Option Char := text.find? (· ∈ lineBreaks)

/-- A range of a text holds none of the characters that break a line. -/
def StaysOnLine (text : List Char) (range : ByteRange) : Prop :=
  ∀ c ∈ slice text range.start range.stop, c ∉ lineBreaks

instance (text : List Char) (range : ByteRange) : Decidable (StaysOnLine text range) :=
  List.decidableBAll (· ∉ lineBreaks) (slice text range.start range.stop)

/-- A range of a text goes up to the next carriage return or line feed, or to the end of the text,
and stays on its line exactly when no separator ends that line. -/
structure EndsAtReturnOrFeed (text : List Char) (range : ByteRange) : Prop where
  free : ∀ c ∈ slice text range.start range.stop, c ≠ '\r' ∧ c ≠ '\n'
  ended : ∃ after, suffixAt? text range.stop = some after ∧ ∀ c ∈ after.head?, c = '\r' ∨ c = '\n'
  staysOnLine_iff : StaysOnLine text range ↔
    ∃ line, suffixAt? text range.start = some line ∧
      ∀ c ∈ lineBreakAhead line, c ≠ '\u2028' ∧ c ≠ '\u2029'

/-- A line of a line comment ends at a carriage return or a line feed. -/
theorem endsLine_iff (c : Char) : endsLine c = true ↔ c = '\r' ∨ c = '\n' := by
  rw [endsLine, Bool.or_eq_true, beq_iff_eq, beq_iff_eq]

/-- The end of a line of a line comment breaks the line. -/
theorem mem_lineBreaks_of_endsLine {c : Char} (hc : endsLine c = true) : c ∈ lineBreaks := by
  rw [← breaksLine_iff, breaksLine, hc]
  rfl

/-- A character that breaks a line is one of the two separators, or it ends a line comment. -/
theorem endsLine_iff_of_mem_lineBreaks {c : Char} (hc : c ∈ lineBreaks) :
    endsLine c = true ↔ c ≠ '\u2028' ∧ c ≠ '\u2029' := by
  simp only [lineBreaks, List.mem_cons, List.not_mem_nil, or_false] at hc
  rcases hc with rfl | rfl | rfl | rfl <;> decide

/-- What is cut at the end of its line holds no line break exactly when the first one from its start
on is such an end. -/
theorem forall_notMem_lineBreaks_iff {front rest : List Char}
    (hcut : Cut (fun c => !endsLine c) front rest) :
    (∀ c ∈ front, c ∉ lineBreaks) ↔
      ∀ c ∈ lineBreakAhead (front ++ rest), c ≠ '\u2028' ∧ c ≠ '\u2029' := by
  rw [lineBreakAhead, List.find?_append]
  cases hfront : front.find? (· ∈ lineBreaks) with
  | none =>
    have hfree : ∀ c ∈ front, c ∉ lineBreaks := by simpa using hfront
    refine iff_of_true hfree fun c hc => ?_
    -- the rest starts with the end of the line, which is then the first line break
    cases rest with
    | nil => simp at hc
    | cons d rest =>
      have hd : endsLine d = true := by simpa using hcut.stops d rfl
      have hbreak := mem_lineBreaks_of_endsLine hd
      obtain rfl : d = c := by simpa [hbreak] using hc
      exact (endsLine_iff_of_mem_lineBreaks hbreak).mp hd
  | some d =>
    have hd : d ∈ lineBreaks := by simpa using List.find?_some hfront
    have hmem : d ∈ front := List.mem_of_find?_eq_some hfront
    refine iff_of_false (fun hfree => hfree d hmem hd) fun hahead => ?_
    have hpasses := hcut.passes d hmem
    rw [(endsLine_iff_of_mem_lineBreaks hd).mpr (hahead d rfl)] at hpasses
    cases hpasses

/-- A line comment in front of a text is cut at the end of its line. -/
theorem FrontComment.cut_of_slashes {comment rest : List Char} (hcomment : FrontComment comment rest)
    (hslashes : ['/', '/'] <+: comment) : Cut (fun c => !endsLine c) comment rest := by
  cases hcomment with
  | @line body rest hcut =>
    refine ⟨fun c hc => ?_, hcut.stops⟩
    simp only [List.mem_cons] at hc
    rcases hc with rfl | rfl | hc
    · rfl
    · rfl
    · exact hcut.passes c hc
  | closed => simp at hslashes
  | unclosed => simp at hslashes

/-- Every line comment that leads a statement goes up to the next carriage return or line feed. It
stays on its line exactly when no line separator and no paragraph separator ends that line. -/
theorem lineComments_endAtReturnOrFeed {text : List Char} {offset : Nat}
    (hoffset : IsBoundary text offset) :
    ∃ ranges, leadingComments? text offset = some ranges ∧
      ∀ range ∈ ranges, ['/', '/'] <+: slice text range.start range.stop →
        EndsAtReturnOrFeed text range := by
  obtain ⟨leads, front, rest, -, -, hranges⟩ := exists_leadingComments hoffset
  refine ⟨_, hranges, fun range hmem hslashes => ?_⟩
  obtain ⟨before, comment, after, rfl, hcomment, rfl⟩ :=
    exists_comment_of_mem_leadingComments hoffset hranges hmem
  have hslice := slice_append before comment after
  have hline : suffixAt? (before ++ (comment ++ after)) (byteLength before) = some (comment ++ after) :=
    suffixAt?_append before (comment ++ after)
  have hafter : suffixAt? (before ++ (comment ++ after)) (byteLength before + byteLength comment) =
      some after := by
    rw [← List.append_assoc, ← byteLength_append, suffixAt?_append]
  rw [hslice] at hslashes
  have hcut := hcomment.cut_of_slashes hslashes
  refine ⟨fun c hc => ?_, ⟨after, hafter, fun c hc => ?_⟩, ?_⟩
  · rw [hslice] at hc
    have hpasses := hcut.passes c hc
    rw [← not_or, ← endsLine_iff]
    simpa using hpasses
  · have hstops := hcut.stops c hc
    rw [← endsLine_iff]
    simpa using hstops
  · rw [StaysOnLine, hslice, forall_notMem_lineBreaks_iff hcut, hline]
    simp only [Option.some.injEq, exists_eq_left']

/-- Two line comments; the line of the first is ended by a line feed and that of the second by a
paragraph separator. -/
def twoLineComments : List Char := "// a\n// b\u2029c\rf()".toList

/-- The first of two line comments stays on its line, and the second goes on to the carriage
return. -/
theorem twoLineComments_endAtReturnOrFeed :
    leadingComments? twoLineComments 0 = some [⟨0, 4⟩, ⟨5, 13⟩] ∧
      EndsAtReturnOrFeed twoLineComments ⟨0, 4⟩ ∧ StaysOnLine twoLineComments ⟨0, 4⟩ ∧
      EndsAtReturnOrFeed twoLineComments ⟨5, 13⟩ ∧ ¬ StaysOnLine twoLineComments ⟨5, 13⟩ := by
  have hfound : leadingComments? twoLineComments 0 = some [⟨0, 4⟩, ⟨5, 13⟩] := by decide +kernel
  obtain ⟨ranges, hranges, hends⟩ := lineComments_endAtReturnOrFeed (isBoundary_zero twoLineComments)
  obtain rfl := Option.some.inj (hfound.symm.trans hranges)
  have hfirst := hends ⟨0, 4⟩ (by decide) (by decide)
  have hsecond := hends ⟨5, 13⟩ (by decide) (by decide)
  have hstays : StaysOnLine twoLineComments ⟨0, 4⟩ ∧ ¬ StaysOnLine twoLineComments ⟨5, 13⟩ := by
    decide +kernel
  exact ⟨hfound, hfirst, hstays.1, hsecond, hstays.2⟩

/-- A line comment before a documentation comment, with a line separator between them. -/
def separatedDocComment : List Char := "// a\u2028/** Doc. */\nfunction g() {}".toList

/-- A line comment that does not end where its line does: it takes in the line separator and the
documentation comment on the next line, so that this is not found. -/
theorem separatedDocComment_not_staysOnLine :
    leadingComments? separatedDocComment 0 = some [⟨0, 18⟩] ∧
      ['/', '/'] <+: slice separatedDocComment 0 18 ∧ '\u2028' ∈ slice separatedDocComment 0 18 ∧
      "/** Doc. */".toList <:+ slice separatedDocComment 0 18 := by
  decide +kernel

end DocCoverage.Text
