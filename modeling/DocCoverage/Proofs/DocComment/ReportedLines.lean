import DocCoverage.Proofs.DocComment.FencedCode
import DocCoverage.Proofs.Text.WrittenText

/-!
# The lines of diagnostics

The scanner takes the cells of a comment for a sequence of constructs, and each diagnostic comes from
one of them. It carries the line of the comment on which that construct starts, with one exception: a
tag that lacks the name, the hyphen or the message that it requires, and that ends with its line, is
reported on the next one. What is missing is noticed at the line feed, which counts for the line after
it.
-/

namespace DocCoverage.DocComment

open Text

/-- A construct where the scanner comes to it: the cells before it, its first cell and the cells after
that. -/
structure Site where
  before : List Cell
  start : Cell
  rest : List Cell
  deriving DecidableEq, Repr

/-- What the construct of a site amounts to. -/
def Site.found (site : Site) : Construct :=
  construct (site.before.getLast?.map Cell.char) site.start site.rest

/-- The sites of cells in order, after the cells that are passed already. -/
def sitesFrom (before : List Cell) : List Cell → List Site
  | [] => []
  | start :: rest =>
    let site : Site := ⟨before, start, rest⟩
    let length := site.found.length
    site :: sitesFrom (before ++ start :: rest.take length) (rest.drop length)
termination_by cells => cells.length
decreasing_by
  simp only [List.length_cons, List.length_drop]
  omega

/-- The sites of the text between the delimiters of a comment. -/
def sites (text : List Char) : List Site :=
  sitesFrom [] (flatten (maskFences none 1 (contentLines text)).1)

/-- The number of lines before that of a site. -/
def Site.linesBefore (site : Site) : Nat := (site.before.map Cell.char).count '\n'

/-- The characters on the line of a site, its first one and those around it. -/
def Site.line (site : Site) : List Char :=
  lastPiece '\n' (site.before.map Cell.char) ++
    site.start.char :: firstPiece '\n' (site.rest.map Cell.char)

/-- A site stands on the line of a comment that has as many lines before it: that line holds its
characters. -/
def Site.StandsIn (site : Site) (comment : List Char) : Prop :=
  ∃ line ∈ (pieces '\n' comment)[site.linesBefore]?, site.line <:+: line

/-- A site ends with its line, and another line follows. -/
def Site.EndsLine (site : Site) : Prop :=
  firstChar (site.rest.drop site.found.length) = some '\n'

instance (site : Site) : Decidable site.EndsLine :=
  inferInstanceAs (Decidable (_ = _))

/-- A tag lacks something that it requires. -/
def Problem.isOmission : Problem → Bool
  | paramMissingName _ | paramMissingHyphen _ | missingDeprecationMessage => true
  | _ => false

/-! ## Sites -/

/-- The scanner reports what the constructs of the sites amount to. -/
theorem scan_eq_flatMap_sitesFrom (before cells : List Cell) :
    scan (before.getLast?.map Cell.char) cells =
      (sitesFrom before cells).flatMap fun site => site.found.diagnostics := by
  -- the sites follow the recursion of the scan, with all cells before in place of the last one
  fun_induction sitesFrom before cells with
  | case1 before => rw [scan]; rfl
  | case2 before start rest site length ih =>
    rw [List.flatMap_cons, ← ih, scan, List.getLast?_append_of_ne_nil _ (List.cons_ne_nil _ _)]
    rfl

/-- A site is a place in the cells. -/
theorem append_of_mem_sitesFrom {before cells : List Cell} {site : Site}
    (hmem : site ∈ sitesFrom before cells) :
    before ++ cells = site.before ++ site.start :: site.rest := by
  fun_induction sitesFrom before cells with
  | case1 before => cases hmem
  | case2 before start rest first length ih =>
    rcases List.mem_cons.mp hmem with rfl | hmem
    · rfl
    · rw [← ih hmem, List.append_assoc, List.cons_append, List.take_append_drop]

/-! ## Numbered cells -/

/-- Cells that go on after a line: each stands on the line of the one before it, and a line feed on the
next one. -/
def Numbered (line : Nat) : List Cell → Prop
  | [] => True
  | cell :: rest =>
    cell.line = (if cell.char = '\n' then line + 1 else line) ∧ Numbered cell.line rest

/-- Numbered cells in two parts. -/
theorem numbered_append_iff (line : Nat) (cells others : List Cell) :
    Numbered line (cells ++ others) ↔
      Numbered line cells ∧ Numbered (line + (cells.map Cell.char).count '\n') others := by
  induction cells generalizing line with
  | nil => simp [Numbered]
  | cons cell rest ih =>
    rw [List.cons_append, Numbered, Numbered, ih, and_assoc]
    refine and_congr_right fun hcell => and_congr_right fun _ => ?_
    have hline : cell.line + (rest.map Cell.char).count '\n' =
        line + ((cell :: rest).map Cell.char).count '\n' := by
      rw [hcell, List.map_cons, List.count_cons]
      simp only [beq_iff_eq]
      split <;> omega
    rw [hline]

/-- The cells of one line are numbered. -/
theorem numbered_lineCells {line : List Char} (hfree : '\n' ∉ line) (number : Nat) :
    Numbered number (lineCells number line) := by
  induction line with
  | nil => trivial
  | cons c rest ih =>
    obtain ⟨hc, hrest⟩ := not_or.mp (mt List.mem_cons.mpr hfree)
    exact ⟨(if_neg (Ne.symm hc)).symm, ih hrest⟩

/-- The cells of later lines are numbered after those of the line before them. -/
theorem numbered_laterCells {lines : List (List Char)} (hfree : ∀ line ∈ lines, '\n' ∉ line)
    (number : Nat) : Numbered number (laterCells (number + 1) lines) := by
  induction lines generalizing number with
  | nil => trivial
  | cons line rest ih =>
    obtain ⟨hline, hrest⟩ := List.forall_mem_cons.mp hfree
    refine ⟨(if_pos rfl).symm, (numbered_append_iff _ _ _).mpr ⟨numbered_lineCells hline _, ?_⟩⟩
    rw [lineCells_map_char, List.count_eq_zero_of_not_mem hline, Nat.add_zero]
    exact ih hrest (number + 1)

/-- The cells of lines are numbered from the first line on. -/
theorem numbered_flatten {lines : List (List Char)} (hfree : ∀ line ∈ lines, '\n' ∉ line) :
    Numbered 1 (flatten lines) := by
  cases lines with
  | nil => trivial
  | cons first rest =>
    obtain ⟨hfirst, hrest⟩ := List.forall_mem_cons.mp hfree
    refine (numbered_append_iff _ _ _).mpr ⟨numbered_lineCells hfirst 1, ?_⟩
    rw [lineCells_map_char, List.count_eq_zero_of_not_mem hfirst]
    exact numbered_laterCells hrest 1

/-! ## Constructs -/

/-- The line on which a problem of a construct is reported, by the line of its first cell and the cells
after it. -/
def reportLine (line : Nat) (after : List Cell) (problem : Problem) : Nat :=
  if problem.isOmission ∧ firstChar after = some '\n' then line + 1 else line

/-- A construct reports each problem on the line of its first cell, or on the next one where it lacks
something and ends with its line. -/
def ReportsAt (line : Nat) (cells : List Cell) (found : Construct) : Prop :=
  ∀ diagnostic ∈ found.diagnostics,
    diagnostic.line = reportLine line (cells.drop found.length) diagnostic.problem

/-- The characters of the first cells are no line feeds. -/
def OnLine (length : Nat) (cells : List Cell) : Prop :=
  ∀ cell ∈ cells.take length, cell.char ≠ '\n'

section Reports

variable {line : Nat} {cells : List Cell}

/-- A construct without problems reports nothing on another line. -/
theorem reportsAt_nil (length : Nat) : ReportsAt line cells ⟨[], length⟩ :=
  fun _ hmem => absurd hmem List.not_mem_nil

/-- Other problems than that of something missing are reported on the line of the first cell. -/
theorem reportsAt_map {problems : List Problem}
    (hproblems : ∀ problem ∈ problems, problem.isOmission = false) (length : Nat) :
    ReportsAt line cells ⟨problems.map (⟨·, line⟩), length⟩ := by
  intro diagnostic hmem
  obtain ⟨problem, hproblem, rfl⟩ := List.mem_map.mp hmem
  rw [reportLine, if_neg]
  simp [hproblems problem hproblem]

/-- A problem other than that of something missing is reported on the line of the first cell. -/
theorem reportsAt_singleton {problem : Problem} (hproblem : problem.isOmission = false)
    (length : Nat) : ReportsAt line cells ⟨[⟨problem, line⟩], length⟩ :=
  reportsAt_map (List.forall_mem_singleton.mpr hproblem) length

end Reports

/-- A backslash is reported on its line. -/
theorem reportsAt_backslash (start : Cell) (rest : List Cell) :
    ReportsAt start.line rest (backslash start rest) := by
  rw [backslash]
  split
  · exact reportsAt_nil _
  · exact reportsAt_singleton rfl _

/-- A code span is reported on the line on which it starts. -/
theorem reportsAt_codeSpan (start : Cell) (rest : List Cell) :
    ReportsAt start.line rest (codeSpan start rest) := by
  simp only [codeSpan]
  split
  · split
    · exact reportsAt_singleton rfl _
    · exact reportsAt_nil _
  · exact reportsAt_singleton rfl _

/-- An inline tag is reported on the line on which it starts. -/
theorem reportsAt_inlineTag (start : Cell) (rest : List Cell) :
    ReportsAt start.line rest (inlineTag start rest) := by
  simp only [inlineTag]
  split
  · split
    · split
      · exact reportsAt_singleton rfl _
      · refine reportsAt_map (fun problem hmem => ?_) _
        rcases List.mem_append.mp hmem with hmem | hmem
        · split at hmem
          · exact absurd hmem List.not_mem_nil
          · obtain rfl := List.mem_singleton.mp hmem
            rfl
        · obtain rfl | ⟨tag, rfl⟩ := eq_of_mem_inlineTagProblems hmem
          · rfl
          · rfl
    · exact reportsAt_singleton rfl _
  · exact reportsAt_singleton rfl _

/-- An element tag is reported on the line on which it starts. -/
theorem reportsAt_htmlTag (start : Cell) (rest : List Cell) :
    ReportsAt start.line rest (htmlTag start rest) := by
  simp only [htmlTag]
  generalize (if firstChar rest = some '/' then 1 else 0) = slash
  split
  · split
    · exact reportsAt_nil _
    · exact reportsAt_singleton rfl _
  · exact reportsAt_singleton rfl _

/-! ## Tags that require something -/

/-- The leading cells that pass a test which a line feed fails are on one line. -/
theorem onLine_leading (test : Char → Bool) (htest : test '\n' = false) (cells : List Cell) :
    OnLine (leading test cells).length cells := by
  intro cell hmem hfeed
  have hpassed : (cells.take (leading test cells).length).map Cell.char = leading test cells := by
    rw [List.map_take]
    exact (List.prefix_iff_eq_take.mp (List.takeWhile_prefix test)).symm
  have hchar : cell.char ∈ leading test cells := hpassed ▸ List.mem_map_of_mem hmem
  have hpass := List.mem_takeWhile_imp hchar
  rw [hfeed, htest] at hpass
  cases hpass

/-- One stretch on a line after the other. -/
theorem OnLine.add {first second : Nat} {cells : List Cell} (hfirst : OnLine first cells)
    (hsecond : OnLine second (cells.drop first)) : OnLine (first + second) cells := by
  intro cell hmem
  rw [List.take_add, List.mem_append] at hmem
  exact hmem.elim (hfirst cell) (hsecond cell)

/-- Cells stay numbered from the same line after a stretch on it. -/
theorem OnLine.numbered_drop {line length : Nat} {cells : List Cell} (honLine : OnLine length cells)
    (hcells : Numbered line cells) : Numbered line (cells.drop length) := by
  have hcount : ((cells.take length).map Cell.char).count '\n' = 0 := by
    rw [List.count_eq_zero, List.mem_map]
    rintro ⟨cell, hmem, hfeed⟩
    exact honLine cell hmem hfeed
  rw [← List.take_append_drop length cells, numbered_append_iff, hcount] at hcells
  exact hcells.2

/-- After a stretch on its line a construct reports a problem there, unless the line ends. -/
theorem OnLine.lineAt_eq {start : Cell} {rest : List Cell} {length : Nat}
    (honLine : OnLine length rest) (hrest : Numbered start.line rest) :
    lineAt start (rest.drop length) =
      if firstChar (rest.drop length) = some '\n' then start.line + 1 else start.line := by
  have hafter := honLine.numbered_drop hrest
  cases hcells : rest.drop length with
  | nil => rfl
  | cons cell others =>
    rw [hcells] at hafter
    exact hafter.1.trans (if_congr Option.some_inj.symm rfl rfl)

/-- What is missing after a stretch on the line of a tag is reported there, unless the line ends. -/
theorem OnLine.reportsAt_omission {start : Cell} {rest : List Cell} {length : Nat}
    (honLine : OnLine length rest) (hrest : Numbered start.line rest) (problem : Problem)
    (hproblem : problem.isOmission = true) :
    ReportsAt start.line rest ⟨[⟨problem, lineAt start (rest.drop length)⟩], length⟩ := by
  intro diagnostic hmem
  obtain rfl := List.mem_singleton.mp hmem
  rw [honLine.lineAt_eq hrest, reportLine]
  simp only [hproblem, true_and]

/-- Any other problem after a stretch on the line of a tag is reported there, where the line does not
end. -/
theorem OnLine.reportsAt_other {start : Cell} {rest : List Cell} {length : Nat}
    (honLine : OnLine length rest) (hrest : Numbered start.line rest)
    (hfirst : firstChar (rest.drop length) ≠ some '\n') {problem : Problem}
    (hproblem : problem.isOmission = false) (total : Nat) :
    ReportsAt start.line rest ⟨[⟨problem, lineAt start (rest.drop length)⟩], total⟩ := by
  rw [honLine.lineAt_eq hrest, if_neg hfirst]
  exact reportsAt_singleton hproblem total

/-- Where a line ends no name begins. -/
theorem leading_eq_nil_of_firstChar {test : Char → Bool} {cells : List Cell} {c : Char}
    (hfirst : firstChar cells = some c) (hc : test c = false) : leading test cells = [] := by
  cases cells with
  | nil => cases hfirst
  | cons cell rest =>
    obtain rfl := Option.some.inj hfirst
    exact List.takeWhile_cons_of_neg (by rw [hc]; exact Bool.false_ne_true)

/-- What follows a parameter tag is reported on the line of the tag, or on the next one where a name or
a hyphen is missing at its end. -/
theorem reportsAt_paramBlock (tag : String) {start : Cell} {rest : List Cell}
    (hrest : Numbered start.line rest) : ReportsAt start.line rest (paramBlock tag start rest) := by
  have hspaces := onLine_leading isSpace rfl rest
  have hname := hspaces.add (onLine_leading (fun c => !isBlank c) rfl _)
  have hgap := hname.add (onLine_leading isSpace rfl _)
  simp only [paramBlock]
  split
  · next hfirst => exact hspaces.reportsAt_other hrest (by rw [hfirst]; decide) rfl _
  · next hfirst => exact hspaces.reportsAt_other hrest (by rw [hfirst]; decide) rfl _
  · split
    · exact hspaces.reportsAt_omission hrest _ rfl
    · next hempty =>
      split
      · split
        · exact reportsAt_nil _
        · have hreports := hgap.reportsAt_omission hrest (.paramMissingHyphen tag) rfl
          simpa only [List.drop_drop, Nat.add_assoc] using hreports
      · -- a name that is not empty stands here, so the line does not end
        refine hspaces.reportsAt_other hrest (fun hfeed => hempty ?_) rfl _
        rw [leading_eq_nil_of_firstChar hfeed rfl]
        rfl

/-- What a tag requires after it is reported on the line of the tag, or on the next one where it is
missing at its end. -/
theorem reportsAt_tagBlock (tag : String) {start : Cell} {rest : List Cell}
    (hrest : Numbered start.line rest) : ReportsAt start.line rest (tagBlock tag start rest) := by
  have hnone : OnLine 0 rest := fun _ hmem => absurd hmem List.not_mem_nil
  rw [tagBlock]
  split
  · exact reportsAt_paramBlock tag hrest
  · split
    · exact hnone.reportsAt_omission hrest _ rfl
    · exact reportsAt_nil _

/-- A block tag is reported on its line, or on the next one where what it requires is missing at its
end. -/
theorem reportsAt_blockTag (previous : Option Char) {start : Cell} {rest : List Cell}
    (hrest : Numbered start.line rest) :
    ReportsAt start.line rest (blockTag previous start rest) := by
  have hname := onLine_leading Char.isAlphanum rfl rest
  simp only [blockTag]
  split
  · exact reportsAt_singleton rfl _
  · split
    · exact reportsAt_singleton rfl _
    · split
      · exact reportsAt_singleton rfl _
      · split
        · exact reportsAt_singleton rfl _
        · split
          · exact reportsAt_singleton rfl _
          · next tag _ _ =>
            have hafter := hname.numbered_drop hrest
            intro diagnostic hmem
            have hreport := reportsAt_tagBlock tag.name hafter diagnostic hmem
            rwa [List.drop_drop] at hreport

/-- A construct reports each problem on the line of its first cell, or on the next one where it lacks
something and ends with its line. -/
theorem reportsAt_construct (previous : Option Char) {start : Cell} {rest : List Cell}
    (hrest : Numbered start.line rest) :
    ReportsAt start.line rest (construct previous start rest) := by
  rw [construct]
  split
  · exact reportsAt_backslash start rest
  · exact reportsAt_codeSpan start rest
  · exact reportsAt_inlineTag start rest
  · exact reportsAt_singleton rfl _
  · exact reportsAt_blockTag previous hrest
  · exact reportsAt_htmlTag start rest
  · exact reportsAt_singleton rfl _
  · exact reportsAt_nil _

/-! ## Lines of the comment -/

/-- What is left of a line stands in it. -/
theorem contentLine_isInfix (place : Nat) (line : List Char) : contentLine place line <:+: line := by
  have htrim : trim line <:+: line := by
    obtain ⟨before, after, hline, -⟩ := exists_trim line
    refine ⟨before, after, ?_⟩
    rw [List.append_assoc, ← hline]
  cases place with
  | zero => exact htrim
  | succ place =>
    refine List.IsInfix.trans ?_ htrim
    change undecorate (trim line) <:+: trim line
    generalize trim line = trimmed
    unfold undecorate
    split
    · next rest => exact (List.suffix_append ['*', ' '] rest).isInfix
    · next rest _ => exact (List.suffix_append ['*'] rest).isInfix
    · exact List.infix_refl trimmed

/-- A line outside of fenced code is a content line or empty. -/
theorem eq_or_eq_nil_of_getElem?_outsideFences {lines : List (List Char)} {place : Nat}
    {line : List Char} (hline : (outsideFences lines)[place]? = some line) :
    lines[place]? = some line ∨ line = [] := by
  rw [outsideFences, List.getElem?_mapIdx] at hline
  obtain ⟨found, hfound, heq⟩ := Option.map_eq_some_iff.mp hline
  split at heq
  · exact .inr heq.symm
  · exact .inl (heq ▸ hfound)

/-- A content line stands in the line of the text at its place. -/
theorem exists_piece_of_contentLine {text line : List Char} {place : Nat}
    (hline : (contentLines text)[place]? = some line) :
    ∃ piece, (pieces '\n' text)[place]? = some piece ∧ line <:+: piece := by
  rw [getElem?_contentLines] at hline
  obtain ⟨piece, hpiece, rfl⟩ := Option.map_eq_some_iff.mp hline
  exact ⟨piece, hpiece, contentLine_isInfix place piece⟩

/-- The lines that the scanner reads hold no line feed. -/
theorem lineFeed_notMem_of_mem_outsideFences {text line : List Char}
    (hmem : line ∈ outsideFences (contentLines text)) : '\n' ∉ line := by
  obtain ⟨place, hplace⟩ := List.getElem?_of_mem hmem
  rcases eq_or_eq_nil_of_getElem?_outsideFences hplace with hline | rfl
  · obtain ⟨piece, hpiece, hpart⟩ := exists_piece_of_contentLine hline
    exact fun hfeed => notMem_of_mem_pieces (List.mem_of_getElem? hpiece) (hpart.subset hfeed)
  · exact List.not_mem_nil

/-- The cells that the scanner reads are numbered by the lines of the comment. -/
theorem numbered_outsideFences (text : List Char) :
    Numbered 1 (flatten (outsideFences (contentLines text))) :=
  numbered_flatten fun _ => lineFeed_notMem_of_mem_outsideFences

section Sites

variable {text : List Char} {site : Site} (hmem : site ∈ sites text)

include hmem

/-- The cells around a site are those of the lines outside of fenced code. -/
theorem flatten_eq_of_mem_sites :
    flatten (outsideFences (contentLines text)) = site.before ++ site.start :: site.rest := by
  rw [sites, maskFences_none_fst] at hmem
  exact append_of_mem_sitesFrom hmem

/-- The first cell of a site that is no line feed has the number of its line, and the cells after it
are numbered from there. -/
theorem numbered_of_mem_sites (hstart : site.start.char ≠ '\n') :
    site.start.line = site.linesBefore + 1 ∧ Numbered site.start.line site.rest := by
  have hnumbered := numbered_outsideFences text
  rw [flatten_eq_of_mem_sites hmem, numbered_append_iff] at hnumbered
  obtain ⟨-, hline, hrest⟩ := hnumbered
  rw [if_neg hstart, Nat.add_comm] at hline
  exact ⟨hline, hrest⟩

/-- A site that does not start with a line feed stands in the comment. -/
theorem standsIn_of_mem_sites (hstart : site.start.char ≠ '\n') :
    site.StandsIn (delimited text) := by
  have hplace : (outsideFences (contentLines text))[site.linesBefore]? = some site.line := by
    have hne : outsideFences (contentLines text) ≠ [] := by
      intro hnil
      have hcells := flatten_eq_of_mem_sites hmem
      rw [hnil] at hcells
      simp [flatten] at hcells
    have hpieces := pieces_intercalate hne fun _ => lineFeed_notMem_of_mem_outsideFences
    rw [← flatten_map_char, flatten_eq_of_mem_sites hmem, List.map_append, List.map_cons] at hpieces
    rw [← hpieces]
    exact getElem?_pieces_append_cons hstart _ _
  rcases eq_or_eq_nil_of_getElem?_outsideFences hplace with hline | hnil
  · obtain ⟨piece, hpiece, hpart⟩ := exists_piece_of_contentLine hline
    obtain ⟨whole, hwhole, hwholePart⟩ :=
      exists_getElem?_pieces_append (by decide : '\n' ∉ ['/', '*', '*'])
        (by decide : '\n' ∉ ['*', '/']) hpiece
    exact ⟨whole, hwhole, hpart.trans hwholePart⟩
  · -- an emptied line has no site
    simp [Site.line] at hnil

end Sites

/-- The diagnostics of a comment are those of its sites, after that of an open fence. Each carries the
number of the line of the comment on which its site stands, except that a tag that lacks something and
ends with its line is reported on the line after it. -/
theorem validate_reportedLines (text : List Char) :
    (∃ fences, validate (delimited text) =
        fences ++ (sites text).flatMap (fun site => site.found.diagnostics) ∧
      ∀ diagnostic ∈ fences, diagnostic.problem = .codeFenceMissingDelimiter) ∧
    ∀ site ∈ sites text, ∀ diagnostic ∈ site.found.diagnostics,
      site.start.char ∈ specialChars ∧ site.StandsIn (delimited text) ∧
      diagnostic.line =
        if diagnostic.problem.isOmission ∧ site.EndsLine then site.linesBefore + 2
        else site.linesBefore + 1 := by
  constructor
  · refine ⟨(maskFences none 1 (contentLines text)).2.toList.map (⟨.codeFenceMissingDelimiter, ·⟩),
      ?_, ?_⟩
    · rw [validate_delimited, sites, ← scan_eq_flatMap_sitesFrom]
      rfl
    · intro diagnostic hmem
      obtain ⟨line, -, rfl⟩ := List.mem_map.mp hmem
      rfl
  · intro site hmem diagnostic hdiagnostic
    have hspecial : site.start.char ∈ specialChars := by
      by_contra hplain
      rw [Site.found, construct_of_notMem _ _ hplain] at hdiagnostic
      exact absurd hdiagnostic List.not_mem_nil
    have hstart : site.start.char ≠ '\n' := by
      intro hfeed
      rw [hfeed] at hspecial
      exact absurd hspecial (by decide)
    obtain ⟨hline, hrest⟩ := numbered_of_mem_sites hmem hstart
    refine ⟨hspecial, standsIn_of_mem_sites hmem hstart, ?_⟩
    rw [reportsAt_construct _ hrest diagnostic hdiagnostic, hline]
    rfl

/-- A parameter without a hyphen in the middle of its line, and a deprecation without a message at the
end of its own. -/
def omissionsText : List Char := "\n * @param a b\n * @deprecated\n ".toList

/-- The first is reported on the second line, where it stands, and the other on the fourth, though it
stands on the third. -/
theorem omissionsText_reportedLines :
    (∃ site ∈ sites omissionsText, ⟨.paramMissingHyphen "param", 2⟩ ∈ site.found.diagnostics ∧
      ¬ site.EndsLine ∧ site.StandsIn (delimited omissionsText) ∧ site.linesBefore + 1 = 2) ∧
    ∃ site ∈ sites omissionsText, ⟨.missingDeprecationMessage, 4⟩ ∈ site.found.diagnostics ∧
      site.EndsLine ∧ site.StandsIn (delimited omissionsText) ∧ site.linesBefore + 1 = 3 := by
  obtain ⟨-, hreported⟩ := validate_reportedLines omissionsText
  constructor
  · obtain ⟨site, hmem, hdiagnostic, hinside⟩ : ∃ site ∈ sites omissionsText,
        ⟨.paramMissingHyphen "param", 2⟩ ∈ site.found.diagnostics ∧ ¬ site.EndsLine := by
      decide +kernel
    obtain ⟨-, hstands, hline⟩ := hreported site hmem _ hdiagnostic
    rw [if_neg fun h => hinside h.2] at hline
    exact ⟨site, hmem, hdiagnostic, hinside, hstands, hline.symm⟩
  · obtain ⟨site, hmem, hdiagnostic, hends⟩ : ∃ site ∈ sites omissionsText,
        ⟨.missingDeprecationMessage, 4⟩ ∈ site.found.diagnostics ∧ site.EndsLine := by
      decide +kernel
    obtain ⟨-, hstands, hline⟩ := hreported site hmem _ hdiagnostic
    rw [if_pos ⟨rfl, hends⟩] at hline
    exact ⟨site, hmem, hdiagnostic, hends, hstands, Nat.succ.inj hline.symm⟩

/-- A parameter tag that ends the second line. -/
def endedParamText : List Char := "\n * @param\n ".toList

/-- Its missing name is reported on the third line. -/
theorem endedParamText_validate :
    delimited endedParamText = "/**\n * @param\n */".toList ∧
      (∃ site ∈ sites endedParamText, site.start.char = '@' ∧ site.linesBefore + 1 = 2 ∧
        site.found.diagnostics = [⟨.paramMissingName "param", 3⟩]) ∧
      validate (delimited endedParamText) = [⟨.paramMissingName "param", 3⟩] := by
  decide +kernel

end DocCoverage.DocComment
