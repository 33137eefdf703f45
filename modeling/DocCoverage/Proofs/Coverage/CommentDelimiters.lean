import DocCoverage.Coverage.Tally
import DocCoverage.Proofs.DocComment.Framing
import DocCoverage.Proofs.Text.FrontTrivia

/-!
# Delimiters of the comments that are found

The finder closes a comment at the first place after its two opening characters where it can be
closed. The validator takes three opening characters away and then looks for the closing ones at the
end. They disagree on one comment only, the one whose second star belongs to both delimiters:
the finder closes it and the validator does not. Any other comment that is found closed has an inner
text, which cannot close the comment.
-/

namespace DocCoverage.Coverage

open Text DocComment

/-- The comment whose star is part of its opening and of its closing. -/
def sharedStarComment : List Char := ['/', '*', '*', '/']

/-- What the validator makes of the delimiters of a documentation comment. `runsOut` says that the
comment goes up to the end of the text in which it is found. -/
structure DelimitersAgree (runsOut : Prop) (comment : List Char) : Prop where
  missingClosing_iff : Reports (validate comment) .missingClosingDelimiter ↔
    comment = sharedStarComment ∨ runsOut ∧ ¬ Closes (comment.drop 2)
  not_missingOpening : ¬ Reports (validate comment) .missingOpeningDelimiter
  not_closes : ∀ text, inner comment = .ok text → ¬ Closes text

/-- A comment that starts as documentation does not miss its opening delimiter. -/
theorem not_reports_missingOpening {comment : List Char}
    (hopening : ['/', '*', '*'] <+: comment) :
    ¬ Reports (validate comment) .missingOpeningDelimiter := by
  rw [reports_delimiter_iff rfl (by decide)]
  intro herror
  obtain ⟨body, rfl⟩ := hopening
  by_cases hclosing : ['*', '/'] <:+ body
  · obtain ⟨text, rfl⟩ := hclosing
    rw [(inner_eq_ok_iff _ text).mpr (List.append_assoc _ _ _).symm] at herror
    cases herror
  · rw [inner_eq_missingClosingDelimiter hclosing] at herror
    cases herror

/-- The delimiters of a comment without an inner text agree where it is closed nowhere after its
opening, or shares its star. -/
theorem DelimitersAgree.of_missing {runsOut : Prop} {comment : List Char}
    (hopening : ['/', '*', '*'] <+: comment)
    (herror : inner comment = .error .missingClosingDelimiter)
    (hwhy : comment = sharedStarComment ∨ runsOut ∧ ¬ Closes (comment.drop 2)) :
    DelimitersAgree runsOut comment := by
  refine ⟨iff_of_true ?_ hwhy, not_reports_missingOpening hopening, fun text hok => ?_⟩
  · rwa [reports_delimiter_iff rfl (by decide)]
  · rw [herror] at hok
    cases hok

/-- The delimiters of a comment with an inner text agree where this text does not close it. -/
theorem DelimitersAgree.of_inner {runsOut : Prop} {text : List Char}
    (htext : ¬ Closes ('*' :: text)) :
    DelimitersAgree runsOut (['/', '*', '*'] ++ text ++ ['*', '/']) := by
  have hok : inner (['/', '*', '*'] ++ text ++ ['*', '/']) = .ok text :=
    (inner_eq_ok_iff _ text).mpr rfl
  refine ⟨iff_of_false ?_ ?_, not_reports_missingOpening ?_, fun text' hok' => ?_⟩
  · rw [reports_delimiter_iff rfl (by decide), hok]
    simp
  · rintro (hshared | ⟨-, hopen⟩)
    · have hlength := congrArg List.length hshared
      simp [sharedStarComment] at hlength
    · exact hopen ⟨'*' :: text, [], by simp⟩
  · exact ⟨text ++ ['*', '/'], (List.append_assoc _ _ _).symm⟩
  · obtain rfl := Except.ok.inj (hok.symm.trans hok')
    exact fun hcloses => htext (List.infix_cons_iff.mpr (.inr hcloses))

/-- A documentation comment in front of a text has its delimiters where the finder sees them. -/
theorem delimitersAgree_of_frontComment {comment rest : List Char} (hcomment : FrontComment comment rest)
    (hopening : ['/', '*', '*'] <+: comment) : DelimitersAgree (rest = []) comment := by
  cases hcomment with
  | line => exact absurd hopening (by simp)
  | @closed body rest hbody =>
    cases body with
    | nil => exact .of_missing hopening (inner_eq_missingClosingDelimiter (by decide)) (.inl rfl)
    | cons c body =>
      obtain rfl : '*' = c := by simpa using hopening
      exact .of_inner hbody
  | @unclosed body hbody =>
    refine .of_missing hopening ?_ (.inr ⟨rfl, hbody⟩)
    obtain ⟨after, hafter⟩ := hopening
    obtain rfl : '*' :: after = body := by simpa using hafter
    refine inner_eq_missingClosingDelimiter fun hclosing => hbody ?_
    exact List.infix_cons_iff.mpr (.inr hclosing.isInfix)

/-- The finder and the validator agree on the delimiters of the documentation comment nearest to a
statement. Its closing delimiter is reported as missing exactly when it shares its star with the
opening one, or the comment goes up to the end of the text and nothing closes it; the opening one is
never reported; and an inner text does not close the comment. -/
theorem nearestComment_delimitersAgree {text : List Char} {offset : Nat}
    (hoffset : IsBoundary text offset) :
    ∃ ranges, leadingComments? text offset = some ranges ∧
      ∀ comment, nearestComment text ranges = some comment → isDocComment comment = true →
        DelimitersAgree (ranges.getLast?.map ByteRange.stop = some (byteLength text)) comment := by
  obtain ⟨leads, front, rest, -, -, hranges⟩ := exists_leadingComments hoffset
  refine ⟨_, hranges, fun comment hnearest hdoc => ?_⟩
  obtain ⟨range, hlast, hslice⟩ := Option.map_eq_some_iff.mp hnearest
  obtain ⟨before, found, after, rfl, hcomment, rfl⟩ :=
    exists_comment_of_mem_leadingComments hoffset hranges (List.mem_of_getLast? hlast)
  rw [slice_append] at hslice
  subst hslice
  have hagree := delimitersAgree_of_frontComment hcomment (List.isPrefixOf_iff_prefix.mp hdoc)
  -- the comment goes up to the end of the text when nothing follows it
  have hend : ((commentsFrom leads (byteLength front) rest).getLast?.map ByteRange.stop =
      some (byteLength (before ++ (found ++ after)))) ↔ after = [] := by
    rw [hlast, Option.map_some, Option.some.injEq, byteLength_append, byteLength_append]
    constructor
    · intro hsize
      dsimp only at hsize
      apply eq_nil_of_byteLength_eq_zero
      omega
    · rintro rfl
      rfl
  rwa [hend]

/-- A statement and the start of a documentation comment that the end of the text cuts off. -/
def cutOffComment : List Char := "é();\n/*/ a */\n/** b".toList

/-- The comment that is cut off is found, and its closing delimiter is reported as missing. -/
theorem cutOffComment_delimitersAgree :
    IsBoundary cutOffComment 5 ∧
      (leadingComments? cutOffComment 5).map (nearestComment cutOffComment) =
        some (some "/** b".toList) ∧
      isDocComment "/** b".toList = true ∧
      Reports (validate "/** b".toList) .missingClosingDelimiter := by
  have hoffset : IsBoundary cutOffComment 5 := by decide
  have hfound : leadingComments? cutOffComment 5 = some [⟨6, 14⟩, ⟨15, 20⟩] := by decide +kernel
  have hnearest : nearestComment cutOffComment [⟨6, 14⟩, ⟨15, 20⟩] = some "/** b".toList := by
    decide +kernel
  obtain ⟨ranges, hranges, hagree⟩ := nearestComment_delimitersAgree hoffset
  obtain rfl := Option.some.inj (hfound.symm.trans hranges)
  refine ⟨hoffset, by rw [hfound, Option.map_some, hnearest], by decide, ?_⟩
  have hopen : ¬ Closes ("/** b".toList.drop 2) := by simp [Closes, List.infix_cons_iff]
  exact (hagree _ hnearest (by decide)).missingClosing_iff.mpr (.inr ⟨by decide +kernel, hopen⟩)

end DocCoverage.Coverage
