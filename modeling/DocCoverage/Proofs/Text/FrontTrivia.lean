import DocCoverage.Proofs.Text.Boundary
import DocCoverage.Proofs.Text.Classes
import DocCoverage.Proofs.Text.Cuts
import DocCoverage.Text.Trivia

/-!
# What stands in front of a statement

A text starts with a comment, with a character that separates comments, or with neither. The finder
of leading comments goes over the first two and stops at the third, so what holds of a text holds
by induction on these three. The ranges that it finds are the places of comments in the text.
-/

namespace DocCoverage.Text

/-- A character that may stand between comments: a blank or a byte order mark. -/
def separates (c : Char) : Bool := isBlank c || c == '\ufeff'

/-- A text holds the two characters that close a block comment. -/
def Closes (text : List Char) : Prop := ['*', '/'] <:+: text

/-- A comment in front of a text: a line comment goes up to the end of the line, a block comment up
to the first place that closes it, and to the end of the text where there is none. -/
inductive FrontComment : List Char → List Char → Prop where
  | line {body rest : List Char} (cut : Cut (fun c => !endsLine c) body rest) :
      FrontComment ('/' :: '/' :: body) rest
  | closed {body : List Char} (rest : List Char) (opened : ¬ Closes body) :
      FrontComment ('/' :: '*' :: (body ++ ['*', '/'])) rest
  | unclosed {body : List Char} (opened : ¬ Closes body) : FrontComment ('/' :: '*' :: body) []

/-- An interpreter line in front of a text, up to the next carriage return or line feed. The other two
line breaks do not end it. Nothing stands in front where there is none. -/
inductive InterpreterLine : List Char → List Char → Prop where
  | present {body rest : List Char} (cut : Cut (fun c => !endsLine c) body rest) :
      InterpreterLine ('#' :: '!' :: body) rest
  | absent {rest : List Char} (other : ¬ ['#', '!'] <+: rest) : InterpreterLine [] rest

/-- A text starts with a comment or with a character that separates comments. -/
def StartsTrivia (text : List Char) : Prop :=
  ['/', '/'] <+: text ∨ ['/', '*'] <+: text ∨ text.head?.any separates = true

instance (text : List Char) : Decidable (StartsTrivia text) :=
  inferInstanceAs (Decidable (_ ∨ _ ∨ text.head?.any separates = true))

/-- Where a text goes on to start with a comment or with a character that separates them, and did not
before, it was a slash. -/
theorem eq_slash_of_startsTrivia_append {text after : List Char} (hne : text ≠ [])
    (htext : ¬ StartsTrivia text) (hlonger : StartsTrivia (text ++ after)) : text = ['/'] := by
  cases text with
  | nil => exact absurd rfl hne
  | cons c rest =>
    cases rest with
    | nil =>
      rcases hlonger with hline | hblock | hseparates
      · rw [← (List.cons_prefix_cons.mp hline).1]
      · rw [← (List.cons_prefix_cons.mp hblock).1]
      · exact absurd (.inr (.inr hseparates)) htext
    | cons d rest =>
      refine absurd ?_ htext
      rw [StartsTrivia, List.cons_append, List.cons_append] at hlonger
      rw [StartsTrivia]
      simpa [List.cons_prefix_cons] using hlonger

/-- The finder goes over the characters that separate comments. -/
theorem endsLine_or_isGap (c : Char) : (endsLine c || isGap c) = separates c := by
  have hchar (d : Char) : c = d ↔ c.toNat = d.toNat := Char.toNat_inj.symm
  rw [Bool.eq_iff_iff, separates, Bool.or_eq_true, Bool.or_eq_true, isBlank_iff]
  simp only [endsLine, isGap, Bool.or_eq_true, Bool.and_eq_true, beq_iff_eq, decide_eq_true_eq,
    isBlank_iff, hchar]
  simp only [Char.reduceToNat]
  omega

/-! ## Block comments -/

/-- A text that closes a comment has a first place where it does. -/
theorem Closes.exists_first {text : List Char} (hcloses : Closes text) :
    ∃ body rest, text = body ++ '*' :: '/' :: rest ∧ ¬ Closes body := by
  induction text with
  | nil => simp [Closes] at hcloses
  | cons c rest ih =>
    by_cases hfront : ['*', '/'] <+: c :: rest
    · obtain ⟨after, hafter⟩ := hfront
      exact ⟨[], after, hafter.symm, by simp [Closes]⟩
    · obtain ⟨body, after, rfl, hbody⟩ := ih ((List.infix_cons_iff.mp hcloses).resolve_left hfront)
      refine ⟨c :: body, after, rfl, fun hlater => ?_⟩
      rcases List.infix_cons_iff.mp hlater with hlater | hlater
      · exact hfront (hlater.trans (List.prefix_append (c :: body) ('*' :: '/' :: after)))
      · exact hbody hlater

/-- A block comment is cut where it is first closed. -/
theorem splitBlock_append_of_not_closes {body : List Char} (hbody : ¬ Closes body)
    (rest : List Char) : splitBlock (body ++ '*' :: '/' :: rest) = (body ++ ['*', '/'], rest) := by
  induction body with
  | nil => rfl
  | cons c body ih =>
    have htail : ¬ Closes body := fun h => hbody (List.infix_cons_iff.mpr (Or.inr h))
    rw [List.cons_append, splitBlock, ih htail]
    · rfl
    · intro after hc hafter
      subst hc
      cases body with
      | nil => simp at hafter
      | cons d body =>
        obtain ⟨rfl, -⟩ := List.cons.inj hafter
        exact hbody ⟨[], body, rfl⟩

/-- A block comment that is not closed goes up to the end of the text. -/
theorem splitBlock_of_not_closes {text : List Char} (htext : ¬ Closes text) :
    splitBlock text = (text, []) := by
  induction text with
  | nil => rfl
  | cons c rest ih =>
    have htail : ¬ Closes rest := fun h => htext (List.infix_cons_iff.mpr (Or.inr h))
    rw [splitBlock, ih htail]
    intro after hc hafter
    subst hc hafter
    exact htext ⟨[], after, rfl⟩

/-! ## The finder of leading comments -/

/-- A comment starts with a slash. -/
theorem FrontComment.exists_cons {comment rest : List Char} (hcomment : FrontComment comment rest) :
    ∃ after, comment = '/' :: after := by
  cases hcomment <;> exact ⟨_, rfl⟩

/-- A comment is not empty. -/
theorem FrontComment.ne_nil {comment rest : List Char} (hcomment : FrontComment comment rest) :
    comment ≠ [] := by
  cases hcomment <;> simp

/-- The finder goes over a comment, and keeps its range where it leads. -/
theorem commentsFrom_comment {comment rest : List Char} (hcomment : FrontComment comment rest)
    (leads : Bool) (offset : Nat) :
    commentsFrom leads offset (comment ++ rest) =
      (if leads then [⟨offset, offset + byteLength comment⟩] else []) ++
        commentsFrom leads (offset + byteLength comment) rest := by
  have hslash : '/'.utf8Size = 1 := rfl
  have hstar : '*'.utf8Size = 1 := rfl
  cases hcomment with
  | @line body rest hcut =>
    rw [List.cons_append, List.cons_append, commentsFrom, hcut.takeWhile_eq, hcut.dropWhile_eq,
      byteLength_cons, byteLength_cons, hslash, ← Nat.add_assoc 1 1, ← Nat.add_assoc]
    cases leads <;> rfl
  | @closed body rest hbody =>
    have hshape : ('/' :: '*' :: (body ++ ['*', '/'])) ++ rest =
        '/' :: '*' :: (body ++ '*' :: '/' :: rest) := by simp
    rw [hshape, commentsFrom, splitBlock_append_of_not_closes hbody, byteLength_cons,
      byteLength_cons, hslash, hstar, ← Nat.add_assoc 1 1, ← Nat.add_assoc]
    cases leads <;> rfl
  | @unclosed body hbody =>
    rw [List.append_nil, commentsFrom, splitBlock_of_not_closes hbody, byteLength_cons,
      byteLength_cons, hslash, hstar, ← Nat.add_assoc 1 1, ← Nat.add_assoc]
    cases leads <;> rfl

/-- The finder goes over a character that separates comments, and the comments after a line break
lead. -/
theorem commentsFrom_separator {c : Char} (hc : separates c = true) (leads : Bool) (offset : Nat)
    (rest : List Char) :
    commentsFrom leads offset (c :: rest) =
      commentsFrom (leads || breaksLine c) (offset + c.utf8Size) rest := by
  have hslash : c ≠ '/' := by
    intro h
    subst h
    exact absurd hc (by decide)
  rw [commentsFrom, endsLine_or_isGap, if_pos hc]
  · intro after h
    exact absurd h hslash
  · intro after h
    exact absurd h hslash

/-- The finder stops at a text that starts with neither. -/
theorem commentsFrom_stop {text : List Char} (hstop : ¬ StartsTrivia text) (leads : Bool)
    (offset : Nat) : commentsFrom leads offset text = [] := by
  rw [StartsTrivia, not_or, not_or] at hstop
  obtain ⟨hline, hblock, hseparator⟩ := hstop
  cases text with
  | nil => rw [commentsFrom]
  | cons c rest =>
    have hc : separates c ≠ true := hseparator
    rw [commentsFrom, endsLine_or_isGap, if_neg hc]
    · intro after hslash hafter
      subst hslash hafter
      exact hline ⟨after, rfl⟩
    · intro after hslash hafter
      subst hslash hafter
      exact hblock ⟨after, rfl⟩

/-- A text that starts with two slashes starts with a comment, and so does one that starts with a
slash and a star. -/
theorem exists_frontComment {text : List Char}
    (hfront : ['/', '/'] <+: text ∨ ['/', '*'] <+: text) :
    ∃ comment rest, text = comment ++ rest ∧ FrontComment comment rest := by
  rcases hfront with ⟨after, rfl⟩ | ⟨after, rfl⟩
  · obtain ⟨body, rest, hcut, rfl⟩ := exists_cut (fun c => !endsLine c) after
    exact ⟨'/' :: '/' :: body, rest, rfl, .line hcut⟩
  · by_cases hcloses : Closes after
    · obtain ⟨body, rest, rfl, hbody⟩ := hcloses.exists_first
      exact ⟨'/' :: '*' :: (body ++ ['*', '/']), rest, by simp, .closed rest hbody⟩
    · exact ⟨'/' :: '*' :: after, [], (List.append_nil _).symm, .unclosed hcloses⟩

/-- What holds where the finder stops, and in front of a comment or a separating character when it
holds after it, holds of every text. -/
theorem frontTrivia_induction {motive : List Char → Prop}
    (hcomment : ∀ comment rest, FrontComment comment rest → motive rest → motive (comment ++ rest))
    (hseparator : ∀ c rest, separates c = true → motive rest → motive (c :: rest))
    (hstop : ∀ text, ¬ StartsTrivia text → motive text) (text : List Char) : motive text := by
  -- on the length: a comment and a separating character leave a shorter text
  induction hsize : text.length using Nat.strongRecOn generalizing text with
  | ind size ih =>
    by_cases htrivia : StartsTrivia text
    · rw [StartsTrivia, ← or_assoc, Option.any_eq_true] at htrivia
      rcases htrivia with hfront | ⟨c, hhead, hc⟩
      · obtain ⟨comment, rest, rfl, hfound⟩ := exists_frontComment hfront
        have hpos := List.length_pos_iff.mpr hfound.ne_nil
        rw [List.length_append] at hsize
        exact hcomment comment rest hfound (ih rest.length (by omega) rest rfl)
      · obtain ⟨rest, rfl⟩ := List.head?_eq_some_iff.mp hhead
        rw [List.length_cons] at hsize
        exact hseparator c rest hc (ih rest.length (by omega) rest rfl)
    · exact hstop text htrivia

/-- A range that the finder keeps is that of the comment in front or one after it. -/
theorem mem_commentsFrom_comment {comment rest : List Char} (hcomment : FrontComment comment rest)
    {leads : Bool} {offset : Nat} {range : ByteRange}
    (hmem : range ∈ commentsFrom leads offset (comment ++ rest)) :
    range = ⟨offset, offset + byteLength comment⟩ ∨
      range ∈ commentsFrom leads (offset + byteLength comment) rest := by
  rw [commentsFrom_comment hcomment, List.mem_append] at hmem
  rcases hmem with hmem | hmem
  · cases leads with
    | false => exact absurd hmem List.not_mem_nil
    | true => exact Or.inl (List.mem_singleton.mp hmem)
  · exact Or.inr hmem

/-- A range that the finder keeps is that of a comment of the text. -/
theorem exists_comment_of_mem_commentsFrom {range : ByteRange} {leads : Bool} {offset : Nat}
    {text : List Char} (hmem : range ∈ commentsFrom leads offset text) :
    ∃ before comment after, text = before ++ (comment ++ after) ∧ FrontComment comment after ∧
      range.start = offset + byteLength before ∧
      range.stop = range.start + byteLength comment := by
  induction text using frontTrivia_induction generalizing leads offset with
  | hcomment comment rest hcomment ih =>
    rcases mem_commentsFrom_comment hcomment hmem with rfl | hmem
    · exact ⟨[], comment, rest, rfl, hcomment, rfl, rfl⟩
    · obtain ⟨before, found, after, rfl, hfound, hstart, hstop⟩ := ih hmem
      refine ⟨comment ++ before, found, after, by simp, hfound, ?_, hstop⟩
      rw [hstart, byteLength_append, Nat.add_assoc]
  | hseparator c rest hc ih =>
    rw [commentsFrom_separator hc] at hmem
    obtain ⟨before, found, after, rfl, hfound, hstart, hstop⟩ := ih hmem
    refine ⟨c :: before, found, after, rfl, hfound, ?_, hstop⟩
    rw [hstart, byteLength_cons, Nat.add_assoc]
  | hstop text htext =>
    rw [commentsFrom_stop htext] at hmem
    exact absurd hmem List.not_mem_nil

/-! ## The start of a text -/

/-- Every text starts with an interpreter line or with nothing. -/
theorem exists_interpreterLine (text : List Char) :
    ∃ front rest, text = front ++ rest ∧ InterpreterLine front rest := by
  by_cases hline : ['#', '!'] <+: text
  · obtain ⟨after, rfl⟩ := hline
    obtain ⟨body, rest, hcut, rfl⟩ := exists_cut (fun c => !endsLine c) after
    exact ⟨'#' :: '!' :: body, rest, rfl, .present hcut⟩
  · exact ⟨[], text, rfl, .absent hline⟩

/-- The interpreter line is skipped. -/
theorem InterpreterLine.skip_eq {front rest : List Char} (hline : InterpreterLine front rest) :
    skipInterpreterLine (front ++ rest) = (byteLength front, rest) := by
  cases hline with
  | @present body rest hcut =>
    have hhash : '#'.utf8Size = 1 := rfl
    have hbang : '!'.utf8Size = 1 := rfl
    rw [List.cons_append, List.cons_append, skipInterpreterLine, hcut.takeWhile_eq,
      hcut.dropWhile_eq, byteLength_cons, byteLength_cons, hhash, hbang, ← Nat.add_assoc]
  | absent hother =>
    rw [List.nil_append, skipInterpreterLine, byteLength_nil]
    intro after hafter
    exact hother ⟨after, hafter.symm⟩

/-- The comments at the start of a text are those after its interpreter line, and all of them
lead. -/
theorem leadingComments?_zero {front rest : List Char} (hline : InterpreterLine front rest) :
    leadingComments? (front ++ rest) 0 = some (commentsFrom true (byteLength front) rest) := by
  rw [leadingComments?, if_pos rfl, hline.skip_eq]

/-- The comments after some characters are those of the text after them. -/
theorem leadingComments?_append {before : List Char} (hbefore : before ≠ []) (after : List Char) :
    leadingComments? (before ++ after) (byteLength before) =
      some (commentsFrom false (byteLength before) after) := by
  have hzero : byteLength before ≠ 0 := mt eq_nil_of_byteLength_eq_zero hbefore
  rw [leadingComments?, if_neg hzero]
  by_cases hafter : after = []
  · subst hafter
    have hstop : ¬ StartsTrivia [] := by simp [StartsTrivia]
    rw [List.append_nil, if_pos (Nat.le_refl _), commentsFrom_stop hstop]
  · have hpos : byteLength after ≠ 0 := mt eq_nil_of_byteLength_eq_zero hafter
    rw [byteLength_append, if_neg (by omega), suffixAt?_append, Option.map_some]

/-- From a character boundary on, leading comments are found after some characters in front. -/
theorem exists_leadingComments {text : List Char} {offset : Nat}
    (hoffset : IsBoundary text offset) :
    ∃ leads before after, text = before ++ after ∧ offset ≤ byteLength before ∧
      leadingComments? text offset = some (commentsFrom leads (byteLength before) after) := by
  obtain ⟨before, after, rfl, rfl⟩ := hoffset
  by_cases hbefore : before = []
  · subst hbefore
    obtain ⟨front, rest, rfl, hline⟩ := exists_interpreterLine after
    exact ⟨true, front, rest, rfl, Nat.zero_le _, leadingComments?_zero hline⟩
  · exact ⟨false, before, after, rfl, Nat.le_refl _, leadingComments?_append hbefore after⟩

/-- The range of a leading comment is that of a comment of the text. -/
theorem exists_comment_of_mem_leadingComments {text : List Char} {offset : Nat}
    (hoffset : IsBoundary text offset) {ranges : List ByteRange}
    (hranges : leadingComments? text offset = some ranges) {range : ByteRange}
    (hmem : range ∈ ranges) :
    ∃ before comment after, text = before ++ (comment ++ after) ∧ FrontComment comment after ∧
      range = ⟨byteLength before, byteLength before + byteLength comment⟩ := by
  obtain ⟨leads, front, rest, rfl, -, hfound⟩ := exists_leadingComments hoffset
  obtain rfl := Option.some.inj (hfound.symm.trans hranges)
  obtain ⟨before, comment, after, rfl, hcomment, hstart, hstop⟩ :=
    exists_comment_of_mem_commentsFrom hmem
  refine ⟨front ++ before, comment, after, by simp, hcomment, ?_⟩
  rw [byteLength_append, ← hstart, ← hstop]

end DocCoverage.Text
