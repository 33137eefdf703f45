import DocCoverage.Proofs.Text.Crlf

/-!
# Lone carriage returns

A text is written with a carriage return in the place of each of its line feeds. No offset moves. The
comments that lead a statement stand where they stood, and every offset lies on the line on which it
lay, as a carriage return by itself ends a line too.
-/

namespace DocCoverage.Text

/-- A character with a carriage return in the place of a line feed. -/
def returnOf (c : Char) : Char := if c = '\n' then '\r' else c

/-- A text with a carriage return in the place of each line feed. -/
def toCr (text : List Char) : List Char := text.map returnOf

/-- An empty text has no line feeds. -/
@[simp]
theorem toCr_nil : toCr [] = [] := rfl

/-- The characters are replaced one by one. -/
@[simp]
theorem toCr_cons (c : Char) (rest : List Char) : toCr (c :: rest) = returnOf c :: toCr rest := rfl

/-- Two texts get their carriage returns one after the other. -/
@[simp]
theorem toCr_append (first second : List Char) : toCr (first ++ second) = toCr first ++ toCr second :=
  List.map_append

/-- A carriage return stands in the place of a line feed. -/
@[simp]
theorem returnOf_lineFeed : returnOf '\n' = '\r' := rfl

/-- Any other character stays as it is. -/
theorem returnOf_of_ne {c : Char} (hc : c ≠ '\n') : returnOf c = c := if_neg hc

/-- A test that does not tell a carriage return from a line feed gives the same answer. -/
theorem test_returnOf {α : Type} (test : Char → α) (htest : test '\r' = test '\n') (c : Char) :
    test (returnOf c) = test c := by
  by_cases hc : c = '\n'
  · rw [hc, returnOf_lineFeed, htest]
  · rw [returnOf_of_ne hc]

/-- A carriage return takes as many bytes as a line feed. -/
theorem utf8Size_returnOf (c : Char) : (returnOf c).utf8Size = c.utf8Size :=
  test_returnOf Char.utf8Size rfl c

/-- A carriage return ends a line as a line feed does. -/
theorem endsLine_returnOf (c : Char) : endsLine (returnOf c) = endsLine c :=
  test_returnOf endsLine rfl c

/-- A carriage return breaks a line as a line feed does. -/
theorem breaksLine_returnOf (c : Char) : breaksLine (returnOf c) = breaksLine c :=
  test_returnOf breaksLine (by decide) c

/-- A carriage return separates comments as a line feed does. -/
theorem separates_returnOf (c : Char) : separates (returnOf c) = separates c :=
  test_returnOf separates (by decide) c

/-- A character that is none of the two is there exactly where it was. -/
theorem returnOf_eq_iff {c d : Char} (hreturn : d ≠ '\r') (hfeed : d ≠ '\n') :
    returnOf c = d ↔ c = d := by
  by_cases hc : c = '\n'
  · rw [hc, returnOf_lineFeed]
    exact iff_of_false (Ne.symm hreturn) (Ne.symm hfeed)
  · rw [returnOf_of_ne hc]

/-- No line feed is left. -/
theorem lineFeed_notMem_toCr (text : List Char) : '\n' ∉ toCr text := by
  rw [toCr, List.mem_map]
  rintro ⟨c, -, hc⟩
  by_cases hfeed : c = '\n'
  · rw [hfeed] at hc
    cases hc
  · exact hfeed ((returnOf_of_ne hfeed).symm.trans hc)

/-! ## Words on one line -/

/-- A word on one line comes from the same word only. -/
theorem toCr_eq_iff {word : List Char} (hword : OnOneLine word) (text : List Char) :
    toCr text = word ↔ text = word := by
  induction text generalizing word with
  | nil => rfl
  | cons c rest ih =>
    cases word with
    | nil => simp
    | cons d word =>
      obtain ⟨hreturn, hreturns⟩ := not_or.mp (mt List.mem_cons.mpr hword.1)
      obtain ⟨hfeed, hfeeds⟩ := not_or.mp (mt List.mem_cons.mpr hword.2)
      rw [toCr_cons, List.cons.injEq, List.cons.injEq, ih ⟨hreturns, hfeeds⟩,
        returnOf_eq_iff (Ne.symm hreturn) (Ne.symm hfeed)]

/-- A word on one line stays as it is. -/
theorem toCr_of_onOneLine {word : List Char} (hword : OnOneLine word) : toCr word = word :=
  (toCr_eq_iff hword word).mpr rfl

/-- A word stands in front of a text with carriage returns as in front of the text. -/
theorem prefix_toCr_iff {word : List Char} (hword : OnOneLine word) (text : List Char) :
    word <+: toCr text ↔ word <+: text := by
  constructor
  · rintro ⟨after, hafter⟩
    obtain ⟨front, rest, rfl, hfront, -⟩ := List.map_eq_append_iff.mp hafter.symm
    obtain rfl := (toCr_eq_iff hword front).mp hfront
    exact List.prefix_append front rest
  · rintro ⟨after, rfl⟩
    rw [toCr_append, toCr_of_onOneLine hword]
    exact List.prefix_append word (toCr after)

/-- A word stands inside of a text with carriage returns as inside of the text. -/
theorem infix_toCr_iff {word : List Char} (hword : OnOneLine word) (text : List Char) :
    word <:+: toCr text ↔ word <:+: text := by
  rw [List.infix_iff_prefix_suffix, List.infix_iff_prefix_suffix]
  constructor
  · rintro ⟨front, hprefix, before, hbefore⟩
    obtain ⟨others, rest, rfl, -, rfl⟩ := List.map_eq_append_iff.mp hbefore.symm
    exact ⟨rest, (prefix_toCr_iff hword rest).mp hprefix, List.suffix_append others rest⟩
  · rintro ⟨rest, hprefix, before, rfl⟩
    rw [toCr_append]
    exact ⟨toCr rest, (prefix_toCr_iff hword rest).mpr hprefix, List.suffix_append _ _⟩

/-! ## Offsets -/

/-- A carriage return takes as many bytes as a line feed. -/
theorem byteLength_toCr (text : List Char) : byteLength (toCr text) = byteLength text := by
  induction text with
  | nil => rfl
  | cons c rest ih => rw [toCr_cons, byteLength_cons, byteLength_cons, ih, utf8Size_returnOf]

/-- The text at an offset with carriage returns. -/
theorem suffixAt?_toCr (text : List Char) (offset : Nat) :
    suffixAt? (toCr text) offset = (suffixAt? text offset).map toCr := by
  fun_induction suffixAt? text offset with
  | case1 text => rw [suffixAt?, Option.map_some]
  | case2 => rfl
  | case3 c rest n hle ih =>
    rw [toCr_cons, suffixAt?, utf8Size_returnOf, if_pos hle, ih]
  | case4 c rest n hlt =>
    rw [toCr_cons, suffixAt?, utf8Size_returnOf, if_neg hlt, Option.map_none]

/-- The text before an offset with carriage returns. -/
theorem prefixAt_toCr (text : List Char) (offset : Nat) :
    prefixAt (toCr text) offset = toCr (prefixAt text offset) := by
  induction text generalizing offset with
  | nil => rfl
  | cons c rest ih =>
    rw [toCr_cons, prefixAt, prefixAt, utf8Size_returnOf, ih]
    split <;> rfl

/-- A part of a text with carriage returns. -/
theorem slice_toCr (text : List Char) (start stop : Nat) :
    slice (toCr text) start stop = toCr (slice text start stop) := by
  rw [slice, slice, suffixAt?_toCr, ← prefixAt_toCr]
  cases suffixAt? text start <;> rfl

/-! ## Leading comments -/

/-- A line ends in front of a carriage return where it ended in front of a line feed. -/
theorem cut_toCr {body rest : List Char} (hcut : Cut (fun c => !endsLine c) body rest) :
    Cut (fun c => !endsLine c) (toCr body) (toCr rest) := by
  refine ⟨fun c hc => ?_, fun c hc => ?_⟩
  · obtain ⟨d, hd, rfl⟩ := List.mem_map.mp hc
    rw [endsLine_returnOf, hcut.passes d hd]
  · rw [toCr, List.head?_map] at hc
    obtain ⟨d, hd, rfl⟩ := Option.map_eq_some_iff.mp hc
    rw [endsLine_returnOf, hcut.stops d hd]

/-- What closes a comment is not changed. -/
theorem closes_toCr_iff (text : List Char) : Closes (toCr text) ↔ Closes text :=
  infix_toCr_iff (by decide) text

/-- A comment in front of a text is one with carriage returns too. -/
theorem FrontComment.toCr {comment rest : List Char} (hcomment : FrontComment comment rest) :
    FrontComment (toCr comment) (toCr rest) := by
  cases hcomment with
  | line hcut => exact .line (cut_toCr hcut)
  | @closed body rest hbody =>
    have hshape : Text.toCr ('/' :: '*' :: (body ++ ['*', '/'])) =
        '/' :: '*' :: (Text.toCr body ++ ['*', '/']) := by
      rw [toCr_cons, toCr_cons, toCr_append]
      rfl
    rw [hshape]
    exact .closed _ (mt (closes_toCr_iff body).mp hbody)
  | @unclosed body hbody => exact .unclosed (mt (closes_toCr_iff body).mp hbody)

/-- A text that starts with no comment and no separating character does not with carriage
returns. -/
theorem startsTrivia_of_toCr {text : List Char} (hstarts : StartsTrivia (toCr text)) :
    StartsTrivia text := by
  rcases hstarts with hline | hblock | hseparator
  · exact .inl ((prefix_toCr_iff (by decide) text).mp hline)
  · exact .inr (.inl ((prefix_toCr_iff (by decide) text).mp hblock))
  · refine .inr (.inr ?_)
    cases text with
    | nil => exact hseparator
    | cons c rest =>
      rw [toCr_cons, List.head?_cons, Option.any_some, separates_returnOf] at hseparator
      exact hseparator

/-- The finder keeps the same ranges of a text with carriage returns. -/
theorem commentsFrom_toCr (leads : Bool) (offset : Nat) (text : List Char) :
    commentsFrom leads offset (toCr text) = commentsFrom leads offset text := by
  induction text using frontTrivia_induction generalizing leads offset with
  | hcomment comment rest hcomment ih =>
    rw [toCr_append, commentsFrom_comment hcomment.toCr, commentsFrom_comment hcomment,
      byteLength_toCr, ih]
  | hseparator c rest hc ih =>
    rw [toCr_cons, commentsFrom_separator ((separates_returnOf c).trans hc),
      commentsFrom_separator hc, breaksLine_returnOf, utf8Size_returnOf, ih]
  | hstop text htext =>
    rw [commentsFrom_stop htext, commentsFrom_stop (mt startsTrivia_of_toCr htext)]

/-- An interpreter line in front of a text is one in front of it with carriage returns. -/
theorem InterpreterLine.toCr {front rest : List Char} (hline : InterpreterLine front rest) :
    InterpreterLine (toCr front) (toCr rest) := by
  cases hline with
  | present hcut => exact .present (cut_toCr hcut)
  | absent hother => exact .absent (mt (prefix_toCr_iff (by decide) rest).mp hother)

/-- The leading comments of a text with carriage returns are those of the text. -/
theorem leadingComments?_toCr (text : List Char) (offset : Nat) :
    leadingComments? (toCr text) offset = leadingComments? text offset := by
  by_cases hzero : offset = 0
  · subst hzero
    obtain ⟨front, rest, rfl, hline⟩ := exists_interpreterLine text
    rw [toCr_append, leadingComments?_zero hline.toCr, leadingComments?_zero hline,
      byteLength_toCr, commentsFrom_toCr]
  · have hcomments : commentsFrom false offset ∘ toCr = commentsFrom false offset :=
      funext (commentsFrom_toCr false offset)
    rw [leadingComments?, leadingComments?, if_neg hzero, if_neg hzero, byteLength_toCr,
      suffixAt?_toCr, Option.map_map, hcomments]

/-- The leading comment nearest to a statement is the same one with carriage returns. -/
theorem nearestComment_toCr (text : List Char) (ranges : List ByteRange) :
    nearestComment (toCr text) ranges = (nearestComment text ranges).map toCr := by
  rw [nearestComment, nearestComment, Option.map_map]
  congr 1
  funext range
  exact slice_toCr text range.start range.stop

/-! ## Lines -/

/-- The lines of a text with carriage returns start where those of the text do. -/
theorem laterStarts_toCr (offset : Nat) {text : List Char} (hfree : '\r' ∉ text) :
    LineIndex.laterStarts offset (toCr text) = LineIndex.laterStarts offset text := by
  induction text generalizing offset with
  | nil => rfl
  | cons c rest ih =>
    obtain ⟨hne, hrest⟩ := not_or.mp (mt List.mem_cons.mpr hfree)
    have hends : (returnOf c = '\r' ∨ returnOf c = '\n') = (c = '\r' ∨ c = '\n') :=
      test_returnOf (fun c => c = '\r' ∨ c = '\n') (by simp) c
    rw [toCr_cons, LineIndex.laterStarts, LineIndex.laterStarts, ih _ hrest, ih _ hrest,
      utf8Size_returnOf]
    · simp only [hends]
    · intro after h
      exact absurd h.symm hne
    · intro after _ hafter
      exact lineFeed_notMem_toCr rest (hafter ▸ List.mem_cons_self)

/-- Every offset lies on the same line of a text with carriage returns. -/
theorem lineOf_toCr {text : List Char} (hfree : '\r' ∉ text) (offset : Nat) :
    (LineIndex.ofText (toCr text)).lineOf offset = (LineIndex.ofText text).lineOf offset := by
  rw [LineIndex.ofText, LineIndex.ofText, laterStarts_toCr 0 hfree]

end DocCoverage.Text
