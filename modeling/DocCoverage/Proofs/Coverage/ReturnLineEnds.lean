import DocCoverage.Proofs.Coverage.LineEndings
import DocCoverage.Proofs.Text.Returns

/-!
# Coverage and lone carriage returns

The index of lines and the finder of leading comments take a carriage return by itself for the end of
a line. The validator does not: it takes the whole of a comment without line feeds for one line, from
which no star is taken away and in which no fence is closed. A unit with lone carriage returns
therefore has the record that it has with line feeds under a validator that reads its comments so. The
record is the same when every documentation comment is well formed as one line exactly when it is.
-/

namespace DocCoverage.DocComment

open Text

/-- A comment is well formed when it is taken for one line. -/
def WellFormedAsLine (comment : List Char) : Prop :=
  ∃ text, comment = ['/', '*', '*'] ++ text ++ ['*', '/'] ∧ isFence (trim text) = false ∧
    TextUnits none (trim text)

/-- A comment without line feeds is taken for one line. -/
theorem wellFormed_iff_asLine {comment : List Char} (hfree : '\n' ∉ comment) :
    WellFormed comment ↔ WellFormedAsLine comment := by
  refine exists_congr fun text => and_congr_right fun hcomment => ?_
  subst hcomment
  have htext : '\n' ∉ text := fun hmem => hfree (by simp [hmem])
  have hlines : contentLines text = [trim text] := by
    rw [contentLines, pieces_of_not_mem htext]
    rfl
  have hodd : oddFences [trim text] = isFence (trim text) := by
    rw [oddFences_cons]
    exact Bool.xor_false _
  rw [hlines, FencesClosed, hodd]
  refine and_congr_right fun hfence => ?_
  have houtside : outsideFences [trim text] = [trim text] := by
    simp [outsideFences, hfence, oddFences]
  rw [houtside, List.intercalate_singleton]

/-- With carriage returns a comment is taken for one line. -/
theorem validate_toCr_eq_nil_iff (comment : List Char) :
    validate (toCr comment) = [] ↔ WellFormedAsLine (toCr comment) := by
  rw [← wellFormed_iff_asLine (lineFeed_notMem_toCr comment)]
  exact ⟨wellFormed_of_validate_eq_nil, validate_eq_nil_of_wellFormed⟩

/-- Whether a comment is accepted with carriage returns exactly when it is accepted, by the grammar. -/
theorem validate_toCr_alike_iff (comment : List Char) :
    (validate (toCr comment) = [] ↔ validate comment = []) ↔
      (WellFormedAsLine (toCr comment) ↔ WellFormed comment) :=
  iff_congr (validate_toCr_eq_nil_iff comment)
    ⟨wellFormed_of_validate_eq_nil, validate_eq_nil_of_wellFormed⟩

end DocCoverage.DocComment

namespace DocCoverage.Coverage

open Text

/-- A unit with a carriage return in the place of each line feed. -/
def SourceUnit.toCr (unit : SourceUnit) : SourceUnit := { unit with text := Text.toCr unit.text }

/-- What is found for a declaration of a text, in that text with carriage returns. -/
def Finding.toCr (finding : Finding) : Finding :=
  { finding with comment := finding.comment.map Text.toCr }

/-- The status of a declaration of a text; there is none where its offset lies inside of a
character. -/
def status? (text : List Char) (declaration : Declaration) : Option Status :=
  (commentOf? text declaration).map (statusOf DocComment.validate)

/-- The documentation comment nearest to a declaration, if there is one, is well formed as one line
with carriage returns exactly when it is well formed. -/
def ReadsAlike (text : List Char) (declaration : Declaration) : Prop :=
  ∀ comment, commentOf? text declaration = some (some comment) → isDocComment comment = true →
    (DocComment.WellFormedAsLine (Text.toCr comment) ↔ DocComment.WellFormed comment)

/-- The same comment is nearest to a declaration with carriage returns. -/
theorem commentOf?_toCr (text : List Char) (declaration : Declaration) :
    commentOf? (Text.toCr text) declaration =
      (commentOf? text declaration).map (Option.map Text.toCr) := by
  rw [commentOf?, commentOf?, leadingComments?_toCr, Option.map_map]
  congr 1
  funext ranges
  exact nearestComment_toCr text ranges

/-- A documentation comment is one with carriage returns too. -/
theorem isDocComment_toCr (comment : List Char) :
    isDocComment (Text.toCr comment) = isDocComment comment := by
  rw [Bool.eq_iff_iff, isDocComment, isDocComment, List.isPrefixOf_iff_prefix,
    List.isPrefixOf_iff_prefix, prefix_toCr_iff (by decide)]

section Validator

variable (validate : List Char → List DocComment.Diagnostic)

/-- The status that a comment gives with carriage returns is that under a validator that reads it
so. -/
theorem statusOf_toCr (comment : Option (List Char)) :
    statusOf validate (comment.map Text.toCr) =
      statusOf (fun comment => validate (Text.toCr comment)) comment := by
  cases comment with
  | none => rfl
  | some comment => rw [Option.map_some, statusOf, statusOf, isDocComment_toCr]

/-- What is found for a declaration with carriage returns is what a validator finds that reads its
comment so. -/
theorem finding?_toCr (text : List Char) (declaration : Declaration) :
    finding? validate (Text.toCr text) declaration =
      (finding? (fun comment => validate (Text.toCr comment)) text declaration).map Finding.toCr := by
  rw [finding?, finding?, commentOf?_toCr, Option.map_map, Option.map_map]
  congr 1
  funext comment
  rw [Function.comp_apply, Function.comp_apply, statusOf_toCr]
  rfl

/-- The record of a unit with carriage returns is that of the unit under a validator that reads its
comments so. -/
theorem tally?_toCr_eq (unit : SourceUnit) :
    tally? validate unit.toCr = tally? (fun comment => validate (Text.toCr comment)) unit := by
  have hfindings : findings? validate unit.toCr =
      (findings? (fun comment => validate (Text.toCr comment)) unit).map (List.map Finding.toCr) :=
    findings?_map (List.map_id _).symm fun declaration _ => finding?_toCr validate unit.text declaration
  rw [tally?, tally?, hfindings, Option.map_map]
  congr 1
  funext findings
  exact ofFindings_map (g := Finding.toCr) (fun _ => rfl) (fun _ => rfl) unit.path findings

end Validator

/-- A declaration has the same status with carriage returns exactly when its comment reads alike. -/
theorem status?_toCr_eq_iff (text : List Char) (declaration : Declaration) :
    status? (Text.toCr text) declaration = status? text declaration ↔ ReadsAlike text declaration := by
  rw [status?, status?, ReadsAlike, commentOf?_toCr, Option.map_map]
  rcases commentOf? text declaration with _ | _ | comment
  · simp
  · simp [statusOf]
  · have hstatus : statusOf DocComment.validate (some (Text.toCr comment)) =
        statusOf DocComment.validate (some comment) ↔ (isDocComment comment = true →
          (DocComment.WellFormedAsLine (Text.toCr comment) ↔ DocComment.WellFormed comment)) := by
      rw [← DocComment.validate_toCr_alike_iff, statusOf, statusOf, isDocComment_toCr]
      cases isDocComment comment with
      | false => simp
      | true =>
        by_cases hreturns : DocComment.validate (Text.toCr comment) = [] <;>
          by_cases hfeeds : DocComment.validate comment = [] <;> simp [hreturns, hfeeds]
    simpa using hstatus

/-- A validator that reads comments with carriage returns finds the same for a declaration whose
comment reads alike. -/
theorem ReadsAlike.finding?_eq {text : List Char} {declaration : Declaration}
    (halike : ReadsAlike text declaration) :
    finding? (fun comment => DocComment.validate (Text.toCr comment)) text declaration =
      finding? DocComment.validate text declaration := by
  have hstatus := (status?_toCr_eq_iff text declaration).mpr halike
  rw [status?, status?, commentOf?_toCr] at hstatus
  rw [finding?, finding?]
  cases hcomment : commentOf? text declaration with
  | none => rfl
  | some comment =>
    rw [hcomment, Option.map_some, Option.map_some, Option.map_some, statusOf_toCr,
      Option.some.injEq] at hstatus
    rw [Option.map_some, Option.map_some, hstatus]

/-- The record of a unit is the same with carriage returns where its documentation comments read
alike. -/
theorem tally?_toCr_eq_of_readsAlike {unit : SourceUnit}
    (halike : ∀ declaration ∈ unit.declarations, ReadsAlike unit.text declaration) :
    tally? DocComment.validate unit.toCr = tally? DocComment.validate unit := by
  have hfindings : findings? (fun comment => DocComment.validate (Text.toCr comment)) unit =
      (findings? DocComment.validate unit).map (List.map id) := by
    refine findings?_map (List.map_id _).symm fun declaration hmem => ?_
    rw [Option.map_id, id, id, (halike declaration hmem).finding?_eq]
  rw [tally?_toCr_eq, tally?, tally?, hfindings, List.map_id_fun, Option.map_id, id]

/-- Whether the lines of a unit end in line feeds or in lone carriage returns makes no difference to
the lines of its offsets and to the comments found before them, and to its record only by what the
validator reads. A declaration has the same status exactly when the documentation comment nearest to it
reads alike; where all do, the record is the same. -/
theorem tally?_toCr {unit : SourceUnit}
    (hoffsets : ∀ declaration ∈ unit.declarations,
      IsBoundary unit.text declaration.commentOffset) (hfree : '\r' ∉ unit.text) :
    (∀ offset, (LineIndex.ofText unit.toCr.text).lineOf offset =
      (LineIndex.ofText unit.text).lineOf offset) ∧
    (∀ offset, leadingComments? unit.toCr.text offset = leadingComments? unit.text offset) ∧
    (∃ record, tally? DocComment.validate unit.toCr = some record ∧
      tally? (fun comment => DocComment.validate (Text.toCr comment)) unit = some record) ∧
    (∀ declaration ∈ unit.declarations,
      status? unit.toCr.text declaration = status? unit.text declaration ↔
        ReadsAlike unit.text declaration) ∧
    ((∀ declaration ∈ unit.declarations, ReadsAlike unit.text declaration) →
      tally? DocComment.validate unit.toCr = tally? DocComment.validate unit) := by
  refine ⟨lineOf_toCr hfree, leadingComments?_toCr unit.text, ?_,
    fun declaration _ => status?_toCr_eq_iff unit.text declaration, tally?_toCr_eq_of_readsAlike⟩
  rw [tally?_toCr_eq]
  obtain ⟨record, hrecord⟩ : ∃ record,
      tally? (fun comment => DocComment.validate (Text.toCr comment)) unit = some record := by
    rw [← Option.isSome_iff_exists, tally?_isSome_iff]
    intro declaration hmem
    exact (leadingComments?_isSome_iff _ _).mpr (.inl (hoffsets declaration hmem))
  exact ⟨record, hrecord, hrecord⟩

/-- The stars of a comment of three lines are text when it is taken for one line, and it documents its
function all the same. -/
theorem threeLineComment_tally?_toCr_eq :
    tally? DocComment.validate threeLineComment.toCr = some ⟨"m.ts", 1, 1, []⟩ := by
  have hrecord : tally? DocComment.validate threeLineComment = some ⟨"m.ts", 1, 1, []⟩ := by
    decide +kernel
  have hoffsets : ∀ declaration ∈ threeLineComment.declarations,
      IsBoundary threeLineComment.text declaration.commentOffset := by decide
  have halike : ∀ declaration ∈ threeLineComment.declarations,
      ReadsAlike threeLineComment.text declaration := by
    refine List.forall_mem_singleton.mpr fun comment hcomment _ => ?_
    have hfound : commentOf? threeLineComment.text ⟨"g", .function, 7, ⟨5, 5⟩⟩ =
        some (some "/**\n * D.\n */".toList) := by decide +kernel
    obtain rfl := Option.some.inj (Option.some.inj (hfound.symm.trans hcomment))
    rw [← DocComment.validate_toCr_alike_iff]
    decide +kernel
  obtain ⟨-, -, -, -, hsame⟩ := tally?_toCr hoffsets (by decide)
  rw [hsame halike, hrecord]

/-- A unit with code between fences in the comment before its function. -/
def fencedCodeComment : SourceUnit where
  path := "m.ts"
  text := "/**\n * A.\n * ```\n * \x7d\n * ```\n */\nfunction g() \x7b\x7d".toList
  declarations := [⟨"g", .function, 0, ⟨7, 7⟩⟩]

/-- A comment whose lines end in line feeds documents its function, and with lone carriage returns it
does not: the fences no longer stand at the start of a line. -/
theorem fencedCodeComment_tally?_toCr :
    '\r' ∉ fencedCodeComment.text ∧
      tally? DocComment.validate fencedCodeComment = some ⟨"m.ts", 1, 1, []⟩ ∧
      tally? DocComment.validate fencedCodeComment.toCr = some ⟨"m.ts", 1, 0, [⟨7, 7⟩]⟩ := by
  decide +kernel

end DocCoverage.Coverage
