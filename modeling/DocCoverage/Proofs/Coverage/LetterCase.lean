import DocCoverage.Coverage.Tally
import DocCoverage.Proofs.DocComment.LetterCase

/-!
# Coverage and letter case

A declaration has the same status with either of two comments that agree up to ASCII letter case: both
are documentation comments or none is, and the validator reports problems with the same identifiers on
the same lines.
-/

namespace DocCoverage.Coverage

open DocComment

/-- A documentation comment is one in any case. -/
theorem isDocComment_foldCase (comment : List Char) :
    isDocComment (Tag.foldCase comment) = isDocComment comment := by
  rw [isDocComment, isDocComment, Bool.eq_iff_iff, List.isPrefixOf_iff_prefix,
    List.isPrefixOf_iff_prefix, prefix_foldCase_iff (by simp)]

/-- Of two comments that agree up to letter case the validator reports problems with the same
identifiers on the same lines, and they give a declaration the same status. -/
theorem statusOf_sameUpToCase {comment other : List Char} (hsame : SameUpToCase comment other) :
    (validate comment).map Diagnostic.outline = (validate other).map Diagnostic.outline ∧
      statusOf validate (some comment) = statusOf validate (some other) := by
  rw [sameUpToCase_iff] at hsame
  have houtlines : (validate comment).map Diagnostic.outline =
      (validate other).map Diagnostic.outline := by
    rw [← validate_foldCase, hsame, validate_foldCase]
  refine ⟨houtlines, ?_⟩
  have hempty : (validate comment).isEmpty = (validate other).isEmpty := by
    rw [← List.isEmpty_map (f := Diagnostic.outline), houtlines, List.isEmpty_map]
  have hdoc : isDocComment comment = isDocComment other := by
    rw [← isDocComment_foldCase, hsame, isDocComment_foldCase]
  rw [statusOf, statusOf, hempty, hdoc]

/-- An inline tag in capitals, a parameter without a hyphen and a tag that is not defined. -/
def mixedCaseComment : List Char :=
  "/** See \x7b@LINK A\x7d.\n * @Param A b\n * @Return <B>c</B> */".toList

/-- The same comment in lower case. -/
def lowerCaseComment : List Char :=
  "/** see \x7b@link a\x7d.\n * @param a b\n * @return <b>c</b> */".toList

/-- The words of the messages differ between the two comments, and what is reported does not. -/
theorem mixedCaseComment_sameUpToCase :
    SameUpToCase mixedCaseComment lowerCaseComment ∧
      validate mixedCaseComment = [⟨.paramMissingHyphen "param", 2⟩, ⟨.undefinedTag "Return", 3⟩] ∧
      (validate lowerCaseComment).map Diagnostic.outline =
        [("tsdoc-param-tag-missing-hyphen", 2), ("tsdoc-undefined-tag", 3)] ∧
      statusOf validate (some lowerCaseComment) = .undocumented := by
  have hsame : SameUpToCase mixedCaseComment lowerCaseComment := by
    rw [sameUpToCase_iff]
    decide +kernel
  have hmixed : validate mixedCaseComment =
      [⟨.paramMissingHyphen "param", 2⟩, ⟨.undefinedTag "Return", 3⟩] := by
    decide +kernel
  obtain ⟨hvalidate, hstatus⟩ := statusOf_sameUpToCase hsame
  refine ⟨hsame, hmixed, ?_, ?_⟩
  · rw [← hvalidate, hmixed]
    rfl
  · rw [← hstatus]
    decide +kernel

end DocCoverage.Coverage
