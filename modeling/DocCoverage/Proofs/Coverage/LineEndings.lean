import DocCoverage.Proofs.Coverage.Findings
import DocCoverage.Proofs.DocComment.Recognition
import DocCoverage.Proofs.Text.Crlf
import DocCoverage.Proofs.Text.WrittenText

/-!
# Coverage and line endings

The validator reads the lines of a comment without the blanks at their ends, so a carriage return
before a line feed makes no difference to it. The finder of leading comments keeps the same
comments. A unit therefore has the same record whether its lines end in line feeds alone or in
carriage returns and line feeds.
-/

namespace DocCoverage.Text

/-- Every line of a text but the last gets a carriage return. -/
theorem exists_pieces_toCrlf (text : List Char) :
    ∃ lines last, pieces '\n' text = lines ++ [last] ∧
      pieces '\n' (toCrlf text) = lines.map (· ++ ['\r']) ++ [last] := by
  induction text with
  | nil => exact ⟨[], [], rfl, rfl⟩
  | cons c rest ih =>
    obtain ⟨lines, last, hlines, hcrlf⟩ := ih
    by_cases hc : c = '\n'
    · subst hc
      refine ⟨[] :: lines, last, ?_, ?_⟩
      · rw [pieces_cons_self, hlines, List.cons_append]
      · have hreturn : '\n' ∉ ['\r'] := by decide
        rw [toCrlf_cons_lineFeed, ← List.singleton_append, pieces_append_cons hreturn, hcrlf]
        rfl
    · obtain ⟨first, others, heq, hcons⟩ := pieces_cons_of_ne hc rest
      obtain ⟨first', others', heq', hcons'⟩ := pieces_cons_of_ne hc (toCrlf rest)
      rw [toCrlf_cons_of_ne hc, hcons, hcons']
      rw [hlines] at heq
      rw [hcrlf] at heq'
      cases lines with
      | nil =>
        obtain ⟨rfl, rfl⟩ := List.cons.inj heq
        obtain ⟨rfl, rfl⟩ := List.cons.inj heq'
        exact ⟨[], c :: last, rfl, rfl⟩
      | cons line lines =>
        obtain ⟨rfl, rfl⟩ := List.cons.inj heq
        obtain ⟨rfl, rfl⟩ := List.cons.inj heq'
        exact ⟨(c :: line) :: lines, last, rfl, rfl⟩

end DocCoverage.Text

namespace DocCoverage.DocComment

open Text

/-- The content lines of a text are the same with carriage returns. -/
theorem contentLines_toCrlf (text : List Char) :
    contentLines (toCrlf text) = contentLines text := by
  have htrim (line : List Char) : trim (line ++ ['\r']) = trim line :=
    trim_between_blanks (fun _ hc => absurd hc List.not_mem_nil)
      (List.forall_mem_singleton.mpr (by decide)) line
  obtain ⟨lines, last, hlines, hcrlf⟩ := exists_pieces_toCrlf text
  rw [contentLines, contentLines, hlines, hcrlf]
  cases lines with
  | nil => rfl
  | cons line lines => simp [htrim]

/-- The text between the delimiters of a comment gets its carriage returns, and a delimiter that is
missing stays so. -/
theorem inner_toCrlf (comment : List Char) :
    inner (toCrlf comment) = (inner comment).map toCrlf := by
  by_cases hopening : ['/', '*', '*'] <+: comment
  · obtain ⟨body, rfl⟩ := hopening
    have hdelimiter : toCrlf ['/', '*', '*'] = ['/', '*', '*'] := by decide
    rw [toCrlf_append, hdelimiter]
    by_cases hclosing : ['*', '/'] <:+ body
    · obtain ⟨text, rfl⟩ := hclosing
      have hinner := (inner_eq_ok_iff (['/', '*', '*'] ++ (text ++ ['*', '/'])) text).mpr
        (List.append_assoc _ _ _).symm
      rw [hinner, toCrlf_append, ← List.append_assoc]
      exact (inner_eq_ok_iff _ (toCrlf text)).mpr rfl
    · rw [inner_eq_missingClosingDelimiter hclosing, inner_eq_missingClosingDelimiter]
      · rfl
      · exact mt (suffix_toCrlf_iff (by decide) body).mp hclosing
  · rw [inner_eq_missingOpeningDelimiter hopening, inner_eq_missingOpeningDelimiter]
    · rfl
    · exact mt (prefix_toCrlf_iff (by decide) comment).mp hopening

/-- The validator reports the same on a comment with carriage returns. -/
theorem validate_toCrlf (comment : List Char) : validate (toCrlf comment) = validate comment := by
  have hlength : (pieces '\n' (toCrlf comment)).length = (pieces '\n' comment).length := by
    obtain ⟨lines, last, hlines, hcrlf⟩ := exists_pieces_toCrlf comment
    rw [hlines, hcrlf, List.length_append, List.length_append, List.length_map]
  rw [validate, validate, inner_toCrlf, hlength]
  cases inner comment with
  | error problem => cases problem <;> rfl
  | ok text => simp only [Except.map, contentLines_toCrlf]

end DocCoverage.DocComment

namespace DocCoverage.Coverage

open Text

/-- A declaration of a text in that text with carriage returns. -/
def Declaration.toCrlf (text : List Char) (declaration : Declaration) : Declaration :=
  { declaration with commentOffset := crlfOffset text declaration.commentOffset }

/-- A unit with carriage returns. -/
def SourceUnit.toCrlf (unit : SourceUnit) : SourceUnit :=
  ⟨unit.path, Text.toCrlf unit.text, unit.declarations.map (Declaration.toCrlf unit.text)⟩

/-- What is found for a declaration of a text, in that text with carriage returns. -/
def Finding.toCrlf (text : List Char) (finding : Finding) : Finding :=
  ⟨finding.declaration.toCrlf text, finding.comment.map Text.toCrlf, finding.status⟩

/-- A comment gives the same status with carriage returns. -/
theorem statusOf_toCrlf (comment : Option (List Char)) :
    statusOf DocComment.validate (comment.map Text.toCrlf) =
      statusOf DocComment.validate comment := by
  cases comment with
  | none => rfl
  | some comment =>
    have hdoc : isDocComment (Text.toCrlf comment) = isDocComment comment := by
      rw [Bool.eq_iff_iff, isDocComment, isDocComment, List.isPrefixOf_iff_prefix,
        List.isPrefixOf_iff_prefix, prefix_toCrlf_iff (by decide)]
    rw [Option.map_some, statusOf, statusOf, hdoc, DocComment.validate_toCrlf]

/-- The same is found for a declaration with carriage returns. -/
theorem finding?_toCrlf {text : List Char} {declaration : Declaration}
    (hoffset : IsBoundary text declaration.commentOffset) :
    finding? DocComment.validate (Text.toCrlf text) (declaration.toCrlf text) =
      (finding? DocComment.validate text declaration).map (Finding.toCrlf text) := by
  rw [finding?, finding?, commentOf?, commentOf?, Declaration.toCrlf,
    leadingComments?_toCrlf hoffset]
  cases hranges : leadingComments? text declaration.commentOffset with
  | none => rfl
  | some ranges =>
    simp only [Option.map_some, nearestComment_toCrlf hoffset hranges, statusOf_toCrlf]
    rfl

/-- The same is found for all declarations of a unit with carriage returns. -/
theorem findings?_toCrlf {unit : SourceUnit}
    (hoffsets : ∀ declaration ∈ unit.declarations,
      IsBoundary unit.text declaration.commentOffset) :
    findings? DocComment.validate unit.toCrlf =
      (findings? DocComment.validate unit).map (List.map (Finding.toCrlf unit.text)) :=
  findings?_map rfl fun declaration hmem => finding?_toCrlf (hoffsets declaration hmem)

/-- Findings give the same record with carriage returns. -/
theorem ofFindings_map_toCrlf (path : String) (text : List Char) (findings : List Finding) :
    Record.ofFindings path (findings.map (Finding.toCrlf text)) =
      Record.ofFindings path findings :=
  ofFindings_map (g := Finding.toCrlf text) (fun _ => rfl) (fun _ => rfl) path findings

/-- A unit has the same record, and every offset of its text lies on the same line, with carriage
returns before its line feeds as without. -/
theorem tally?_toCrlf {unit : SourceUnit}
    (hoffsets : ∀ declaration ∈ unit.declarations,
      IsBoundary unit.text declaration.commentOffset) (hfree : '\r' ∉ unit.text) :
    (∃ record, tally? DocComment.validate unit = some record ∧
      tally? DocComment.validate unit.toCrlf = some record) ∧
    ∀ offset, (LineIndex.ofText unit.toCrlf.text).lineOf (crlfOffset unit.text offset) =
      (LineIndex.ofText unit.text).lineOf offset := by
  refine ⟨?_, lineOf_toCrlf hfree⟩
  obtain ⟨record, hrecord⟩ : ∃ record, tally? DocComment.validate unit = some record := by
    rw [← Option.isSome_iff_exists, tally?_isSome_iff]
    intro declaration hmem
    exact (leadingComments?_isSome_iff _ _).mpr (Or.inl (hoffsets declaration hmem))
  refine ⟨record, hrecord, ?_⟩
  rw [← hrecord, tally?, tally?, findings?_toCrlf hoffsets, Option.map_map]
  congr 1
  funext findings
  exact ofFindings_map_toCrlf unit.path unit.text findings

/-- A unit with a comment of three lines before its function. -/
def threeLineComment : SourceUnit where
  path := "m.ts"
  text := "a('é')\n/**\n * D.\n */\nfunction g() {}".toList
  declarations := [⟨"g", .function, 7, ⟨5, 5⟩⟩]

/-- A comment of three lines documents its function with carriage returns too. -/
theorem threeLineComment_tally?_toCrlf :
    tally? DocComment.validate threeLineComment.toCrlf = some ⟨"m.ts", 1, 1, []⟩ := by
  have hrecord : tally? DocComment.validate threeLineComment = some ⟨"m.ts", 1, 1, []⟩ := by
    decide +kernel
  have hoffsets : ∀ declaration ∈ threeLineComment.declarations,
      IsBoundary threeLineComment.text declaration.commentOffset := by decide
  have hfree : '\r' ∉ threeLineComment.text := by decide
  obtain ⟨⟨record, hplain, hcrlf⟩, -⟩ := tally?_toCrlf hoffsets hfree
  rw [hcrlf, ← hplain, hrecord]

end DocCoverage.Coverage
