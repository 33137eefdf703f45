import DocCoverage.Proofs.Coverage.Findings
import DocCoverage.Proofs.Text.ByteCursor
import DocCoverage.Proofs.Text.Gaps

/-!
# The ranges of leading comments

The search for leading comments in the bytes of a text has no answer only from inside of a character.
From anywhere else the ranges that are found can be cut out of the bytes: they start and end between
characters, they lie between the offset and the end of the text, and they follow one another without an
overlap. What a range cuts out is one comment, from its opening up to where it is first ended.
-/

namespace DocCoverage.Text

/-- A line comment: two slashes, and no end of a line. -/
def IsLineComment (comment : List Char) : Prop :=
  ['/', '/'] <+: comment ∧ '\r' ∉ comment ∧ '\n' ∉ comment

/-- A block comment that is closed: after its opening it ends with what closes it, and this stands
nowhere before. -/
def IsClosedComment (comment : List Char) : Prop :=
  ['/', '*'] <+: comment ∧ ['*', '/'] <:+ comment.drop 2 ∧
    ∀ front back, comment.drop 2 = front ++ '*' :: '/' :: back → back = []

/-- A block comment that is not closed. -/
def IsOpenComment (comment : List Char) : Prop :=
  ['/', '*'] <+: comment ∧ ¬ ['*', '/'] <:+: comment.drop 2

/-- A range that cuts one comment out of a text, at or after an offset. Only a comment that is not
closed has to go up to the end of the text. -/
structure CutsComment (text : List Char) (offset : Nat) (range : ByteRange) : Prop where
  within : range.Within offset (byteLength text)
  start_isBoundary : IsBoundary text range.start
  stop_isBoundary : IsBoundary text range.stop
  isComment : IsLineComment (slice text range.start range.stop) ∨
    IsClosedComment (slice text range.start range.stop) ∨
    IsOpenComment (slice text range.start range.stop) ∧ range.stop = byteLength text

/-- A comment is closed at the only place where it can be. -/
theorem eq_nil_of_closed {body front back : List Char} (hbody : ¬ Closes body)
    (heq : body ++ ['*', '/'] = front ++ '*' :: '/' :: back) : back = [] := by
  by_contra hback
  have hpos := List.length_pos_iff.mpr hback
  have hlength := congrArg List.length heq
  simp only [List.length_append, List.length_cons, List.length_nil] at hlength
  have hbefore : front ++ ['*', '/'] <+: body ++ ['*', '/'] := by
    rw [heq]
    exact ⟨back, by simp⟩
  -- what closes the comment stands in its body, or its slash is the last star
  by_cases hinside : front.length + 2 ≤ body.length
  · have hprefix : front ++ ['*', '/'] <+: body := by
      apply List.prefix_of_prefix_length_le hbefore (List.prefix_append body _)
      simpa using hinside
    obtain ⟨after, rfl⟩ := hprefix
    exact hbody ⟨front, after, rfl⟩
  · have hprefix : front ++ ['*', '/'] <+: body ++ ['*'] := by
      apply List.prefix_of_prefix_length_le hbefore ⟨['/'], by simp⟩
      simp only [List.length_append, List.length_cons, List.length_nil]
      omega
    have hsame : front ++ ['*'] ++ ['/'] = body ++ ['*'] := by
      rw [List.append_assoc]
      apply hprefix.eq_of_length
      simp only [List.length_append, List.length_cons, List.length_nil]
      omega
    have hlast := (List.append_inj' hsame rfl).2
    simp at hlast

/-- A comment in front of a text is of one of the three forms, and one that is not closed is all of the
text. -/
theorem FrontComment.isComment {comment rest : List Char} (hcomment : FrontComment comment rest) :
    IsLineComment comment ∨ IsClosedComment comment ∨ IsOpenComment comment ∧ rest = [] := by
  cases hcomment with
  | @line body rest hcut =>
    have hfree {c : Char} (hc : endsLine c = true) (hslash : c ≠ '/') : c ∉ '/' :: '/' :: body := by
      simp only [List.mem_cons, hslash, false_or]
      intro hmem
      have hpasses := hcut.passes c hmem
      rw [hc] at hpasses
      cases hpasses
    exact .inl ⟨⟨body, rfl⟩, hfree rfl (by decide), hfree rfl (by decide)⟩
  | @closed body rest hbody =>
    refine .inr (.inl ⟨⟨_, rfl⟩, ⟨body, rfl⟩, fun front back heq => ?_⟩)
    exact eq_nil_of_closed hbody heq
  | unclosed hbody => exact .inr (.inr ⟨⟨⟨_, rfl⟩, hbody⟩, rfl⟩)

/-- The ranges that the finder keeps follow one another. -/
theorem pairwise_commentsFrom (leads : Bool) (offset : Nat) (text : List Char) :
    (commentsFrom leads offset text).Pairwise fun first second => first.stop ≤ second.start := by
  induction text using frontTrivia_induction generalizing leads offset with
  | hcomment comment rest hcomment ih =>
    rw [commentsFrom_comment hcomment]
    cases leads with
    | false => exact ih false (offset + byteLength comment)
    | true =>
      refine List.pairwise_cons.mpr ⟨fun range hmem => ?_, ih true (offset + byteLength comment)⟩
      obtain ⟨before, _, _, -, -, hstart, -⟩ := exists_comment_of_mem_commentsFrom hmem
      rw [hstart]
      exact Nat.le_add_right _ _
  | hseparator c rest hc ih =>
    rw [commentsFrom_separator hc]
    exact ih (leads || breaksLine c) (offset + c.utf8Size)
  | hstop text hstop =>
    rw [commentsFrom_stop hstop]
    exact List.Pairwise.nil

/-- A range that the finder keeps after some characters cuts a comment out of the text. -/
theorem cutsComment_of_mem_commentsFrom {leads : Bool} {front after : List Char} {range : ByteRange}
    (hmem : range ∈ commentsFrom leads (byteLength front) after) :
    CutsComment (front ++ after) (byteLength front) range := by
  obtain ⟨before, comment, rest, rfl, hcomment, hstart, hstop⟩ := exists_comment_of_mem_commentsFrom hmem
  have hsize : byteLength comment ≠ 0 := mt eq_nil_of_byteLength_eq_zero hcomment.ne_nil
  have htext : front ++ (before ++ (comment ++ rest)) = (front ++ before) ++ (comment ++ rest) := by
    rw [List.append_assoc]
  rw [← byteLength_append] at hstart
  have hslice : slice (front ++ (before ++ (comment ++ rest))) range.start range.stop = comment := by
    rw [hstop, hstart, htext, slice_append]
  have hend : range.stop = byteLength (front ++ before ++ comment) := by
    rw [hstop, hstart, byteLength_append (front ++ before)]
  refine ⟨⟨?_, ?_, ?_⟩, ?_, ?_, ?_⟩
  · rw [hstart, byteLength_append]
    exact Nat.le_add_right _ _
  · omega
  · rw [hend, htext, ← List.append_assoc, byteLength_append _ rest]
    exact Nat.le_add_right _ _
  · exact ⟨front ++ before, comment ++ rest, htext, hstart.symm⟩
  · exact ⟨front ++ before ++ comment, rest, by simp, hend.symm⟩
  · rw [hslice]
    rcases hcomment.isComment with hline | hclosed | ⟨hopen, hrest⟩
    · exact .inl hline
    · exact .inr (.inl hclosed)
    · subst hrest
      exact .inr (.inr ⟨hopen, by rw [hend, htext, List.append_nil]⟩)

/-- A range after an offset also stands after every offset before it. -/
theorem CutsComment.mono {text : List Char} {offset offset' : Nat} {range : ByteRange}
    (hcuts : CutsComment text offset' range) (hle : offset ≤ offset') :
    CutsComment text offset range :=
  ⟨hcuts.within.mono hle (Nat.le_refl _), hcuts.start_isBoundary, hcuts.stop_isBoundary,
    hcuts.isComment⟩

/-- The ranges of leading comments follow one another, and each of them cuts one comment out of the
text. -/
theorem cutsComments_of_leadingComments? {text : List Char} {offset : Nat} {ranges : List ByteRange}
    (hranges : leadingComments? text offset = some ranges) :
    (ranges.Pairwise fun first second => first.stop ≤ second.start) ∧
      ∀ range ∈ ranges, CutsComment text offset range := by
  by_cases hboundary : IsBoundary text offset
  · obtain ⟨leads, front, after, rfl, hle, hfound⟩ := exists_leadingComments hboundary
    obtain rfl := Option.some.inj (hfound.symm.trans hranges)
    refine ⟨pairwise_commentsFrom leads (byteLength front) after, fun range hmem => ?_⟩
    exact (cutsComment_of_mem_commentsFrom hmem).mono hle
  · -- only past the end of the text an offset that is no boundary has an answer
    have hzero : offset ≠ 0 := by
      rintro rfl
      exact hboundary (isBoundary_zero text)
    have hpast : byteLength text ≤ offset := by
      have hsome := (leadingComments?_isSome_iff text offset).mp (by rw [hranges, Option.isSome_some])
      exact hsome.resolve_left hboundary
    rw [leadingComments?, if_neg hzero, if_pos hpast, Option.some.injEq] at hranges
    subst hranges
    exact ⟨List.Pairwise.nil, fun range hmem => absurd hmem List.not_mem_nil⟩

/-- The bytes that a range cuts out are those of its comment. -/
theorem CutsComment.sliceOf?_eq {text : List Char} {offset : Nat} {range : ByteRange}
    (hcuts : CutsComment text offset range) :
    sliceOf? (encoded text) range = some (encoded (slice text range.start range.stop)) :=
  sliceOf?_encoded (Nat.le_of_lt hcuts.within.start_lt_stop) hcuts.start_isBoundary hcuts.stop_isBoundary

/-- Where the search has an answer, the bytes of the nearest comment can be cut out. -/
theorem nearestBytes?_eq {text : List Char} {offset : Nat} {ranges : List ByteRange}
    (hranges : commentRanges? text offset = some ranges)
    (hcuts : ∀ range ∈ ranges, CutsComment text offset range) :
    nearestBytes? text offset = some ((nearestComment text ranges).map encoded) := by
  rw [nearestBytes?, hranges, nearestComment]
  cases hlast : ranges.getLast? with
  | none => simp [hlast]
  | some range =>
    have hslice := (hcuts range (List.mem_of_getLast? hlast)).sliceOf?_eq
    simp [hlast, hslice]

/-- The search in the bytes of a text has no answer exactly from inside of a character. Elsewhere it
finds what the finder finds in the characters: ranges that follow one another, of which each cuts one
comment out of the bytes, also the nearest one. -/
theorem commentRanges?_cutsComments (text : List Char) (offset : Nat) :
    (commentRanges? text offset = none ↔ offset < byteLength text ∧ ¬ IsBoundary text offset) ∧
      commentRanges? text offset = leadingComments? text offset ∧
      ∀ ranges, commentRanges? text offset = some ranges →
        (ranges.Pairwise fun first second => first.stop ≤ second.start) ∧
          (∀ range ∈ ranges, CutsComment text offset range ∧
            sliceOf? (encoded text) range = some (encoded (slice text range.start range.stop))) ∧
          nearestBytes? text offset = some ((nearestComment text ranges).map encoded) := by
  refine ⟨?_, commentRanges?_eq text offset, fun ranges hranges => ?_⟩
  · rw [commentRanges?_eq, ← Option.not_isSome_iff_eq_none, leadingComments?_isSome_iff, not_or,
      Nat.not_le, and_comm]
  · have hfound := hranges
    rw [commentRanges?_eq] at hfound
    obtain ⟨hpairwise, hcuts⟩ := cutsComments_of_leadingComments? hfound
    exact ⟨hpairwise, fun range hmem => ⟨hcuts range hmem, (hcuts range hmem).sliceOf?_eq⟩,
      nearestBytes?_eq hranges hcuts⟩

/-- Two line comments and a block comment, with characters of two and three bytes in them; the block
comment is not closed by the slash after its opening. -/
def threeComments : List Char := "é;// à\n//\u2028€\r/*/ * /".toList

/-- The ranges of the comments after the first statement cut comments out of the text, and from inside
of its first character no comments are found. -/
theorem threeComments_cutsComments :
    commentRanges? threeComments 1 = none ∧
      commentRanges? threeComments 3 = some [⟨9, 17⟩, ⟨18, 25⟩] ∧
      CutsComment threeComments 3 ⟨9, 17⟩ ∧ CutsComment threeComments 3 ⟨18, 25⟩ ∧
      nearestBytes? threeComments 3 = some (some (encoded "/*/ * /".toList)) := by
  have hfound : commentRanges? threeComments 3 = some [⟨9, 17⟩, ⟨18, 25⟩] := by decide +kernel
  obtain ⟨-, hcuts, hnearest⟩ := (commentRanges?_cutsComments threeComments 3).2.2 _ hfound
  exact ⟨(commentRanges?_cutsComments threeComments 1).1.mpr (by decide +kernel), hfound,
    (hcuts _ (by decide)).1, (hcuts _ (by decide)).1, hnearest⟩

end DocCoverage.Text
