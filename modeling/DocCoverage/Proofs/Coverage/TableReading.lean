import DocCoverage.Coverage.Table
import DocCoverage.Proofs.Text.WrittenText

/-!
# Reading a coverage table back

The table of a report is read back from its text: the lines that start with a bar are its rows, and the
cells of a row are what stands between its bars, trimmed. All cells but the paths are written so that
they hold neither a bar nor a line feed nor a blank at their ends. Where the paths do so too, every cell
is read back as it was, whatever the widths of the columns are. A row gives back the counts and the
lines that it shows, so a report is known by its table.
-/

namespace DocCoverage.Coverage

open Text

/-- The cells of a row of a table: what stands between its bars. -/
def readRow (line : String) : List String :=
  (pieces '│' line.toList).tail.dropLast.map fun cell => String.ofList (trim cell)

/-- The rows of a table after its header. -/
def readTable (text : String) : List (List String) :=
  (((lines text).filter fun line => line.toList.head? == some '│').drop 1).map readRow

/-- A cell that can be read back: it holds no bar and no line feed, and it neither starts nor ends with
a blank. -/
structure IsPlainCell (cell : String) : Prop where
  noBar : '│' ∉ cell.toList
  noLineFeed : '\n' ∉ cell.toList
  bare : Bare cell.toList

instance (cell : String) : Decidable (IsPlainCell cell) :=
  decidable_of_iff ('│' ∉ cell.toList ∧ '\n' ∉ cell.toList ∧ Bare cell.toList)
    ⟨fun h => ⟨h.1, h.2.1, h.2.2⟩, fun h => ⟨h.noBar, h.noLineFeed, h.bare⟩⟩

/-- All paths of a report can be read back. -/
def Report.HasPlainPaths (report : Report) : Prop := ∀ file ∈ report.files, IsPlainCell file.path

/-! ## Rows -/

/-- What holds of all things of a row holds column by column. -/
theorem Columns.forall_mem_toList {α : Type} {p : α → Prop} {row : Columns α} :
    (∀ thing ∈ row.toList, p thing) ↔
      p row.path ∧ p row.total ∧ p row.documented ∧ p row.undocumented ∧ p row.percentage := by
  simp [Columns.toList]

/-- The cells of a row, filled up to the widths of their columns. -/
def filled (sides : Columns Align) (widths : Columns Nat) (row : Row) : Row :=
  (sides.zipWith pad widths).zipWith (fun fill cell => fill cell) row

/-- A text is filled with spaces on the side on which it does not stand. -/
theorem toList_pad (side : Align) (width : Nat) (cell : String) :
    (pad side width cell).toList =
      match side with
      | .left => cell.toList ++ List.replicate (width - cellWidth cell) ' '
      | .right => List.replicate (width - cellWidth cell) ' ' ++ cell.toList := by
  cases side <;> simp [pad]

/-- A filled text is the text among spaces. -/
theorem exists_toList_pad (side : Align) (width : Nat) (cell : String) :
    ∃ before after, (pad side width cell).toList =
      List.replicate before ' ' ++ (cell.toList ++ List.replicate after ' ') := by
  rw [toList_pad]
  cases side with
  | left => exact ⟨0, width - cellWidth cell, rfl⟩
  | right => exact ⟨width - cellWidth cell, 0, by rw [List.replicate_zero, List.append_nil]⟩

/-- A character other than a space stands in a filled text only where it stands in the text. -/
theorem not_mem_pad {c : Char} (hspace : c ≠ ' ') {cell : String} (hcell : c ∉ cell.toList)
    (side : Align) (width : Nat) : c ∉ (pad side width cell).toList := by
  obtain ⟨before, after, htext⟩ := exists_toList_pad side width cell
  have hspaces (count : Nat) : c ∉ List.replicate count ' ' :=
    fun hc => hspace (List.eq_of_mem_replicate hc)
  rw [htext, List.mem_append, List.mem_append, not_or, not_or]
  exact ⟨hspaces before, hcell, hspaces after⟩

/-- A plain cell is what is left of it when it is filled, set between spaces and trimmed. -/
theorem trim_pad {cell : String} (hcell : IsPlainCell cell) (side : Align) (width : Nat) :
    trim (' ' :: ((pad side width cell).toList ++ [' '])) = cell.toList := by
  obtain ⟨before, after, htext⟩ := exists_toList_pad side width cell
  have hspaces (count : Nat) : ∀ c ∈ List.replicate count ' ', isBlank c = true := by
    intro c hc
    rw [List.eq_of_mem_replicate hc]
    decide
  have hframe : ' ' :: ((pad side width cell).toList ++ [' ']) =
      List.replicate (before + 1) ' ' ++ (cell.toList ++ List.replicate (after + 1) ' ') := by
    rw [htext, List.replicate_succ, List.replicate_succ']
    simp
  rw [hframe, trim_append_append hcell.bare (hspaces _) (hspaces _)]

/-- Words between bars with spaces on both sides are joined by bars, each with its spaces. -/
theorem intercalate_bar {words : List (List Char)} (hwords : words ≠ []) :
    ' ' :: ([' ', '│', ' '].intercalate words ++ [' ']) =
      ['│'].intercalate (words.map fun word => ' ' :: (word ++ [' '])) := by
  induction words with
  | nil => exact absurd rfl hwords
  | cons word rest ih =>
    by_cases hrest : rest = []
    · subst hrest
      rw [List.map_cons, List.map_nil, List.intercalate_singleton, List.intercalate_singleton]
    · have hmap : (rest.map fun word => ' ' :: (word ++ [' '])) ≠ [] := by simpa using hrest
      rw [List.map_cons, List.intercalate_cons_of_ne_nil hrest, List.intercalate_cons_of_ne_nil hmap,
        ← ih hrest]
      simp

/-- The text of a row of cells. -/
theorem toList_barred (cells : Row) :
    (barred cells).toList =
      '│' :: (['│'].intercalate ((cells.toList.map String.toList).map fun word =>
        ' ' :: (word ++ [' '])) ++ '│' :: []) := by
  rw [← intercalate_bar (by simp [Columns.toList]), barred, String.toList_append,
    String.toList_append, String.toList_intercalate]
  simp

/-- The characters of a row are bars, spaces and those of its cells. -/
theorem mem_barred {cells : Row} {c : Char} (hc : c ∈ (barred cells).toList) :
    c = '│' ∨ c = ' ' ∨ ∃ cell ∈ cells.toList, c ∈ cell.toList := by
  rw [toList_barred, List.mem_cons, List.mem_append, List.mem_singleton] at hc
  rcases hc with hbar | hc | hbar
  · exact .inl hbar
  · rcases mem_intercalate hc with hbar | ⟨word, hword, hc⟩
    · exact .inl hbar
    · rw [List.map_map, List.mem_map] at hword
      obtain ⟨cell, hcell, rfl⟩ := hword
      rw [Function.comp_apply, List.mem_cons, List.mem_append, List.mem_singleton] at hc
      rcases hc with hspace | hc | hspace
      · exact .inr (.inl hspace)
      · exact .inr (.inr ⟨cell, hcell, hc⟩)
      · exact .inr (.inl hspace)
  · exact .inl hbar

/-- The cells of a row without bars in them are read back trimmed. -/
theorem readRow_barred {cells : Row} (hcells : ∀ cell ∈ cells.toList, '│' ∉ cell.toList) :
    readRow (barred cells) = cells.toList.map fun cell =>
      String.ofList (trim (' ' :: (cell.toList ++ [' ']))) := by
  have hfree : ∀ word ∈ (cells.toList.map String.toList).map fun word => ' ' :: (word ++ [' ']),
      '│' ∉ word := by
    intro word hword
    rw [List.map_map, List.mem_map] at hword
    obtain ⟨cell, hcell, rfl⟩ := hword
    simp [hcells cell hcell]
  rw [readRow, toList_barred, pieces_cons_self, pieces_append_separator,
    pieces_intercalate (by simp [Columns.toList]) hfree, List.tail_cons]
  simp [pieces]

section Filled

variable {row : Row} (sides : Columns Align) (widths : Columns Nat)

/-- A character other than a space stands in no cell of a filled row where it stands in none of the
row. -/
theorem not_mem_filled {c : Char} (hspace : c ≠ ' ') (hrow : ∀ cell ∈ row.toList, c ∉ cell.toList) :
    ∀ text ∈ (filled sides widths row).toList, c ∉ text.toList := by
  rw [Columns.forall_mem_toList] at hrow ⊢
  obtain ⟨hpath, htotal, hdocumented, hundocumented, hpercentage⟩ := hrow
  exact ⟨not_mem_pad hspace hpath _ _, not_mem_pad hspace htotal _ _,
    not_mem_pad hspace hdocumented _ _, not_mem_pad hspace hundocumented _ _,
    not_mem_pad hspace hpercentage _ _⟩

/-- The cells of a row that is filled and set between bars are read back. -/
theorem readRow_filled (hrow : ∀ cell ∈ row.toList, IsPlainCell cell) :
    readRow (barred (filled sides widths row)) = row.toList := by
  have hbars := not_mem_filled sides widths (by decide) fun cell hcell => (hrow cell hcell).noBar
  rw [Columns.forall_mem_toList] at hrow
  obtain ⟨hpath, htotal, hdocumented, hundocumented, hpercentage⟩ := hrow
  rw [readRow_barred hbars]
  simp only [filled, Columns.toList, Columns.zipWith, List.map_cons, List.map_nil, trim_pad hpath,
    trim_pad htotal, trim_pad hdocumented, trim_pad hundocumented, trim_pad hpercentage,
    String.ofList_toList]

/-- A control character stands in a filled row between bars only where it stands in the row. -/
theorem not_mem_barred_filled {c : Char} (hcontrol : c < ' ')
    (hrow : ∀ cell ∈ row.toList, c ∉ cell.toList) : c ∉ (barred (filled sides widths row)).toList := by
  have hspace : c ≠ ' ' := by
    rintro rfl
    exact absurd hcontrol (by decide)
  intro hmem
  rcases mem_barred hmem with hbar | heq | ⟨text, htext, hc⟩
  · rw [hbar] at hcontrol
    exact absurd hcontrol (by decide)
  · exact hspace heq
  · exact not_mem_filled sides widths hspace hrow text htext hc

end Filled

/-! ## Cells -/

/-- A count can be read back. -/
theorem isPlainCell_toString (n : Nat) : IsPlainCell (toString n) where
  noBar := not_mem_toString (by decide) n
  noLineFeed := not_mem_toString (by decide) n
  bare := bare_of_forall fun _ hc => isBlank_eq_false_of_isDigit (isDigit_of_mem_toString hc)

/-- A percentage is written in digits and a percent sign, or as not applicable. -/
theorem mem_percentage {percentage : Percentage} {c : Char} (hc : c ∈ percentage.display.toList) :
    c.isDigit = true ∨ c ∈ ['%', 'N', '/', 'A'] := by
  cases percentage with
  | notApplicable => exact .inr (List.mem_cons_of_mem '%' hc)
  | value percent =>
    rw [Percentage.display, String.toList_append, List.mem_append] at hc
    refine hc.imp isDigit_of_mem_toString fun hsign => ?_
    rw [List.mem_singleton.mp hsign]
    exact List.mem_cons_self

/-- A percentage can be read back. -/
theorem isPlainCell_percentage (percentage : Percentage) : IsPlainCell percentage.display := by
  refine ⟨fun hc => ?_, fun hc => ?_, bare_of_forall fun c hc => ?_⟩
  · exact absurd (mem_percentage hc) (by decide)
  · exact absurd (mem_percentage hc) (by decide)
  · rcases mem_percentage hc with hdigit | hsign
    · exact isBlank_eq_false_of_isDigit hdigit
    · have hsigns : ['%', 'N', '/', 'A'].any isBlank = false := by decide
      exact Bool.eq_false_iff.mpr (List.any_eq_false.mp hsigns c hsign)

/-- The text of a range of lines: its ends, and a hyphen between them. -/
theorem LineRange.toList_display (range : LineRange) :
    range.display.toList = (toString range.first).toList ++ '-' :: (toString range.last).toList := by
  rw [LineRange.display, String.toList_append, String.toList_append, List.append_assoc]
  rfl

/-- A range of lines is known by its text. -/
theorem LineRange.display_injective {range range' : LineRange}
    (heq : range.display = range'.display) : range = range' := by
  have hpieces (range : LineRange) : pieces '-' range.display.toList =
      [(toString range.first).toList, (toString range.last).toList] := by
    rw [LineRange.toList_display, pieces_append_cons (not_mem_toString (by decide) range.first),
      pieces_of_not_mem (not_mem_toString (by decide) range.last)]
  have hends := hpieces range
  rw [heq, hpieces range'] at hends
  simp only [List.cons.injEq, String.toList_inj] at hends
  have hfirst := toString_nat_injective hends.1
  have hlast := toString_nat_injective hends.2.1
  cases range
  cases range'
  simp_all only

/-- The text of a range of lines holds digits and a hyphen. -/
theorem LineRange.mem_display {range : LineRange} {c : Char} (hc : c ∈ range.display.toList) :
    c.isDigit = true ∨ c = '-' := by
  rw [LineRange.toList_display, List.mem_append, List.mem_cons] at hc
  rcases hc with hfirst | hhyphen | hlast
  · exact .inl (isDigit_of_mem_toString hfirst)
  · exact .inr hhyphen
  · exact .inl (isDigit_of_mem_toString hlast)

/-- The text of a range of lines is not empty and holds no blank. -/
theorem LineRange.bare_display (range : LineRange) :
    range.display.toList ≠ [] ∧ Bare range.display.toList := by
  refine ⟨by rw [LineRange.toList_display]; simp, bare_of_forall fun c hc => ?_⟩
  rcases LineRange.mem_display hc with hdigit | rfl
  · exact isBlank_eq_false_of_isDigit hdigit
  · decide

/-- The undocumented lines of a file are shown as the texts of their ranges, with commas and spaces
between them. -/
theorem toList_undocumentedLines (record : Record) :
    record.undocumentedLines.toList =
      [',', ' '].intercalate (record.undocumented.map fun range => range.display.toList) := by
  rw [Record.undocumentedLines, String.toList_intercalate, List.map_map]
  rfl

/-- The undocumented lines of a file are written in digits, hyphens, commas and spaces. -/
theorem mem_undocumentedLines {record : Record} {c : Char}
    (hc : c ∈ record.undocumentedLines.toList) : c.isDigit = true ∨ c ∈ ['-', ',', ' '] := by
  rw [toList_undocumentedLines] at hc
  rcases mem_comma_space hc with rfl | rfl | ⟨word, hword, hc⟩
  · simp
  · simp
  · obtain ⟨range, -, rfl⟩ := List.mem_map.mp hword
    exact (LineRange.mem_display hc).imp_right fun hhyphen => by simp [hhyphen]

/-- The undocumented lines of a file can be read back. -/
theorem isPlainCell_undocumentedLines (record : Record) : IsPlainCell record.undocumentedLines := by
  refine ⟨fun hc => ?_, fun hc => ?_, ?_⟩
  · exact absurd (mem_undocumentedLines hc) (by decide)
  · exact absurd (mem_undocumentedLines hc) (by decide)
  · rw [toList_undocumentedLines]
    by_cases hnone : record.undocumented = []
    · rw [hnone]
      decide
    · refine (bare_intercalate (by simpa using hnone) fun word hword => ?_).2
      obtain ⟨range, -, rfl⟩ := List.mem_map.mp hword
      exact range.bare_display

/-- The undocumented ranges of a file are known by how they are shown. -/
theorem undocumented_eq_of_undocumentedLines_eq {record record' : Record}
    (heq : record.undocumentedLines = record'.undocumentedLines) :
    record.undocumented = record'.undocumented := by
  have hwords (record : Record) : ∀ word ∈ record.undocumented.map fun range => range.display.toList,
      word ≠ [] ∧ ',' ∉ word := by
    intro word hword
    obtain ⟨range, -, rfl⟩ := List.mem_map.mp hword
    refine ⟨range.bare_display.1, fun hcomma => ?_⟩
    exact absurd (LineRange.mem_display hcomma) (by decide)
  have htexts := congrArg String.toList heq
  rw [toList_undocumentedLines, toList_undocumentedLines] at htexts
  have hranges := intercalate_comma_space_injective (hwords record) (hwords record') htexts
  refine List.map_injective_iff.mpr (fun range range' hrange => ?_) hranges
  exact LineRange.display_injective (String.toList_inj.mp hrange)

/-- The cells of a file can be read back where its path can. -/
theorem Record.isPlainCell_row {record : Record} (hpath : IsPlainCell record.path) :
    ∀ cell ∈ record.row.toList, IsPlainCell cell :=
  Columns.forall_mem_toList.mpr ⟨hpath, isPlainCell_toString _, isPlainCell_toString _,
    isPlainCell_undocumentedLines record, isPlainCell_percentage _⟩

/-- The cells of the totals can be read back. -/
theorem Totals.isPlainCell_row (totals : Totals) : ∀ cell ∈ totals.row.toList, IsPlainCell cell :=
  have htotal : IsPlainCell "Total" := by decide
  have hempty : IsPlainCell "" := by decide
  Columns.forall_mem_toList.mpr ⟨htotal, isPlainCell_toString _, isPlainCell_toString _, hempty,
    isPlainCell_percentage _⟩

section Control

variable {c : Char} (hcontrol : c < ' ')

include hcontrol

/-- A control character is no digit. -/
theorem isDigit_eq_false_of_control : c.isDigit = false := by
  rw [← Bool.not_eq_true, Char.isDigit, Bool.and_eq_true, decide_eq_true_eq]
  rintro ⟨hzero, -⟩
  exact Char.not_le.mpr hcontrol (Char.le_trans (by decide) hzero)

/-- A control character stands in no text of digits and other characters that are not below the
space. -/
theorem not_mem_of_control {text others : List Char}
    (htext : ∀ d ∈ text, d.isDigit = true ∨ d ∈ others) (hothers : others.all (' ' ≤ ·) = true) :
    c ∉ text := by
  intro hc
  rcases htext c hc with hdigit | hother
  · rw [isDigit_eq_false_of_control hcontrol] at hdigit
    cases hdigit
  · exact Char.not_le.mpr hcontrol (of_decide_eq_true (List.all_eq_true.mp hothers c hother))

/-- A control character stands in the cells of a file only where it stands in its path. -/
theorem Record.not_mem_row {record : Record} (hpath : c ∉ record.path.toList) :
    ∀ cell ∈ record.row.toList, c ∉ cell.toList :=
  have hdigit := isDigit_eq_false_of_control hcontrol
  Columns.forall_mem_toList.mpr ⟨hpath, not_mem_toString hdigit _, not_mem_toString hdigit _,
    not_mem_of_control hcontrol (fun _ => mem_undocumentedLines) (by decide),
    not_mem_of_control hcontrol (fun _ => mem_percentage) (by decide)⟩

/-- No control character stands in the cells of the totals. -/
theorem Totals.not_mem_row (totals : Totals) : ∀ cell ∈ totals.row.toList, c ∉ cell.toList :=
  have hdigit := isDigit_eq_false_of_control hcontrol
  have hname : "Total".toList.all (' ' ≤ ·) = true := by decide
  Columns.forall_mem_toList.mpr ⟨not_mem_of_control hcontrol (fun _ => .inr) hname,
    not_mem_toString hdigit _, not_mem_toString hdigit _, List.not_mem_nil,
    not_mem_of_control hcontrol (fun _ => mem_percentage) (by decide)⟩

end Control

/-- A file is known by its row. -/
theorem Record.row_injective {record record' : Record} (heq : record.row = record'.row) :
    record = record' := by
  have hranges := undocumented_eq_of_undocumentedLines_eq (congrArg Columns.undocumented heq)
  have hpath : record.path = record'.path := congrArg Columns.path heq
  have htotal := toString_nat_injective (congrArg Columns.total heq)
  have hdocumented := toString_nat_injective (congrArg Columns.documented heq)
  cases record
  cases record'
  simp_all only

/-- Totals are known by their row. -/
theorem Totals.row_injective {totals totals' : Totals} (heq : totals.row = totals'.row) :
    totals = totals' := by
  have htotal := toString_nat_injective (congrArg Columns.total heq)
  have hdocumented := toString_nat_injective (congrArg Columns.documented heq)
  cases totals
  cases totals'
  simp_all only

/-! ## Tables -/

/-- The widths of the columns of the table of a report. -/
def Report.widths (report : Report) : Columns Nat :=
  columnWidths (headerRow :: (report.files.map Record.row ++ [report.totals.row]))

/-- All columns with their texts at the left. -/
def leftSides : Columns Align := ⟨.left, .left, .left, .left, .left⟩

/-- The lines of a table without colours: a header, a row for each file and the totals, and rules
between them. -/
theorem table_false (report : Report) :
    report.table false =
      [rule report.widths "┌" "┬" "┐", barred (filled leftSides report.widths headerRow),
        rule report.widths "├" "┼" "┤"] ++
      (report.files.map Record.row).map (fun row => barred (filled alignments report.widths row)) ++
      [rule report.widths "├" "┼" "┤", barred (filled alignments report.widths report.totals.row),
        rule report.widths "└" "┴" "┘"] := rfl

/-- The text of a rule. -/
theorem toList_rule (widths : Columns Nat) {left middle right : String} {l m r : Char}
    (hleft : left.toList = [l]) (hmiddle : middle.toList = [m]) (hright : right.toList = [r]) :
    (rule widths left middle right).toList =
      l :: ([m].intercalate (widths.toList.map fun width => List.replicate (width + 2) '─') ++ [r]) := by
  rw [rule, String.toList_append, String.toList_append, String.toList_intercalate, hleft, hmiddle,
    hright, List.map_map]
  simp [Function.comp_def]

/-- A row starts and ends with a bar. -/
theorem ends_barred (cells : Row) :
    (barred cells).toList.head? = some '│' ∧ (barred cells).toList.getLast? = some '│' := by
  rw [toList_barred, List.head?_cons, ← List.cons_append, List.getLast?_concat]
  exact ⟨rfl, rfl⟩

/-- A rule starts and ends with its corners, and holds what it is drawn with. -/
theorem ends_rule (widths : Columns Nat) {left middle right : String} {l m r : Char}
    (hleft : left.toList = [l]) (hmiddle : middle.toList = [m]) (hright : right.toList = [r]) :
    (rule widths left middle right).toList.head? = some l ∧
      (rule widths left middle right).toList.getLast? = some r ∧
      ∀ c ∈ (rule widths left middle right).toList, c ∈ [l, m, r, '─'] := by
  rw [toList_rule widths hleft hmiddle hright, List.head?_cons, ← List.cons_append,
    List.getLast?_concat]
  refine ⟨rfl, rfl, fun c hc => ?_⟩
  rw [List.cons_append, List.mem_cons, List.mem_append, List.mem_singleton] at hc
  rcases hc with rfl | hc | rfl
  · simp
  · rcases mem_intercalate hc with rfl | ⟨word, hword, hc⟩
    · simp
    · obtain ⟨width, -, rfl⟩ := List.mem_map.mp hword
      simp [List.eq_of_mem_replicate hc]
  · simp

/-- A line of a table: it can be read back as one, and `isRow` says whether it is a row. -/
structure IsTableLine (isRow : Bool) (line : String) : Prop where
  noLineFeed : '\n' ∉ line.toList
  noReturn : line.toList.getLast? ≠ some '\r'
  isRow_eq : (line.toList.head? == some '│') = isRow

/-- A row of cells without line feeds is a line of a table. -/
theorem isTableLine_filled {row : Row} (hrow : ∀ cell ∈ row.toList, '\n' ∉ cell.toList)
    (sides : Columns Align) (widths : Columns Nat) :
    IsTableLine true (barred (filled sides widths row)) := by
  obtain ⟨hhead, hlast⟩ := ends_barred (filled sides widths row)
  refine ⟨not_mem_barred_filled sides widths (by decide) hrow, ?_, ?_⟩
  · rw [hlast]
    decide
  · rw [hhead]
    decide

/-- A rule is a line of a table and no row. -/
theorem isTableLine_rule (widths : Columns Nat) {left middle right : String} {l m r : Char}
    (hleft : left.toList = [l]) (hmiddle : middle.toList = [m]) (hright : right.toList = [r])
    (hdrawn : '\n' ∉ [l, m, r, '─']) (hcorner : l ≠ '│' ∧ r ≠ '\r') :
    IsTableLine false (rule widths left middle right) := by
  obtain ⟨hhead, hlast, hmem⟩ := ends_rule widths hleft hmiddle hright
  refine ⟨fun hfeed => hdrawn (hmem _ hfeed), ?_, ?_⟩
  · rw [hlast]
    exact fun heq => hcorner.2 (Option.some.inj heq)
  · rw [hhead]
    simpa using hcorner.1

/-- The rules of a table are lines of it and no rows. -/
theorem isTableLine_rules (widths : Columns Nat) :
    IsTableLine false (rule widths "┌" "┬" "┐") ∧ IsTableLine false (rule widths "├" "┼" "┤") ∧
      IsTableLine false (rule widths "└" "┴" "┘") :=
  ⟨isTableLine_rule widths rfl rfl rfl (by decide) (by decide),
    isTableLine_rule widths rfl rfl rfl (by decide) (by decide),
    isTableLine_rule widths rfl rfl rfl (by decide) (by decide)⟩

section Lines

variable {report : Report}

/-- The rows of a table whose paths hold no line feed are lines of it. -/
theorem isTableLine_rows (hpaths : ∀ file ∈ report.files, '\n' ∉ file.path.toList) :
    IsTableLine true (barred (filled leftSides report.widths headerRow)) ∧
      (∀ line ∈ (report.files.map Record.row).map fun row =>
        barred (filled alignments report.widths row), IsTableLine true line) ∧
      IsTableLine true (barred (filled alignments report.widths report.totals.row)) := by
  refine ⟨isTableLine_filled (by decide) leftSides report.widths, fun line hline => ?_,
    isTableLine_filled (report.totals.not_mem_row (by decide)) alignments report.widths⟩
  rw [List.map_map] at hline
  obtain ⟨file, hfile, rfl⟩ := List.mem_map.mp hline
  exact isTableLine_filled (Record.not_mem_row (by decide) (hpaths file hfile)) alignments report.widths

/-- The lines of a table whose paths hold no line feed are read back. -/
theorem lines_tableText (hpaths : ∀ file ∈ report.files, '\n' ∉ file.path.toList) :
    lines (report.tableText false) = report.table false := by
  obtain ⟨htop, hmiddle, hbottom⟩ := isTableLine_rules report.widths
  obtain ⟨hheader, hbody, htotals⟩ := isTableLine_rows hpaths
  apply lines_unlines
  intro line hline
  obtain ⟨isRow, hkind⟩ : ∃ isRow, IsTableLine isRow line := by
    rw [table_false] at hline
    simp only [List.mem_append, List.mem_cons, List.not_mem_nil, or_false] at hline
    rcases hline with ((rfl | rfl | rfl) | hline) | rfl | rfl | rfl
    · exact ⟨_, htop⟩
    · exact ⟨_, hheader⟩
    · exact ⟨_, hmiddle⟩
    · exact ⟨_, hbody line hline⟩
    · exact ⟨_, hmiddle⟩
    · exact ⟨_, htotals⟩
    · exact ⟨_, hbottom⟩
  exact ⟨hkind.noLineFeed, hkind.noReturn⟩

/-- The rows of a table whose paths hold no line feed are the header, the files and the totals; its
rules are no rows. -/
theorem filter_lines_tableText (hpaths : ∀ file ∈ report.files, '\n' ∉ file.path.toList) :
    ((lines (report.tableText false)).filter fun line => line.toList.head? == some '│') =
      barred (filled leftSides report.widths headerRow) ::
        ((report.files.map Record.row).map (fun row => barred (filled alignments report.widths row)) ++
          [barred (filled alignments report.widths report.totals.row)]) := by
  obtain ⟨htop, hmiddle, hbottom⟩ := isTableLine_rules report.widths
  obtain ⟨hheader, hbody, htotals⟩ := isTableLine_rows hpaths
  have hrows := List.filter_eq_self.mpr fun line hline => (hbody line hline).isRow_eq
  rw [lines_tableText hpaths, table_false, List.filter_append, List.filter_append, hrows]
  simp only [List.filter_cons, List.filter_nil, htop.isRow_eq, hheader.isRow_eq, hmiddle.isRow_eq,
    htotals.isRow_eq, hbottom.isRow_eq, Bool.false_eq_true, if_true, if_false, List.cons_append,
    List.nil_append]

end Lines

/-- The rows that are read back from a table are those of the files and of the totals. -/
theorem rows_of_tableText {report : Report} (hplain : report.HasPlainPaths) :
    readTable (report.tableText false) =
      (report.files.map Record.row ++ [report.totals.row]).map Columns.toList := by
  have hfiles : (report.files.map Record.row).map
      (readRow ∘ fun row => barred (filled alignments report.widths row)) =
      (report.files.map Record.row).map Columns.toList := by
    apply List.map_congr_left
    intro row hrow
    obtain ⟨file, hfile, rfl⟩ := List.mem_map.mp hrow
    rw [Function.comp_apply]
    exact readRow_filled alignments report.widths (Record.isPlainCell_row (hplain file hfile))
  have htotals := readRow_filled alignments report.widths report.totals.isPlainCell_row
  have hlines := filter_lines_tableText fun file hfile => (hplain file hfile).noLineFeed
  rw [readTable, hlines, List.drop_succ_cons, List.drop_zero, List.map_append, List.map_map, hfiles,
    List.map_singleton, htotals, List.map_append, List.map_singleton]

/-- A report is known by the rows of its files and of its totals. -/
theorem eq_of_rows_eq {report other : Report}
    (heq : (other.files.map Record.row ++ [other.totals.row]).map Columns.toList =
      (report.files.map Record.row ++ [report.totals.row]).map Columns.toList) : other = report := by
  have hcells : Function.Injective (Columns.toList : Row → List String) := by
    intro row row' hrow
    cases row
    cases row'
    simpa [Columns.toList] using hrow
  have hrows := List.map_injective_iff.mpr hcells heq
  obtain ⟨hfiles, htotals⟩ := List.append_inj' hrows rfl
  have hrecords : other.files = report.files :=
    List.map_injective_iff.mpr (fun _ _ hrow => Record.row_injective hrow) hfiles
  have hsums := Totals.row_injective (List.singleton_inj.mp htotals)
  cases report
  cases other
  simp_all only

/-- A table without colours loses nothing of a report whose paths can be read back: reading it gives a
row for each file, in the order of the report, and the row of the totals, and no other such report has
the same table. -/
theorem tableText_readTable {report : Report} (hplain : report.HasPlainPaths) :
    readTable (report.tableText false) =
        report.files.map (fun file => [file.path, toString file.total, toString file.documented,
          ", ".intercalate (file.undocumented.map LineRange.display), file.percentage.display]) ++
        [["Total", toString report.totals.total, toString report.totals.documented, "",
          report.totals.percentage.display]] ∧
      ∀ other : Report, other.HasPlainPaths →
        other.tableText false = report.tableText false → other = report := by
  have hrows := rows_of_tableText hplain
  refine ⟨?_, fun other hother htext => ?_⟩
  · rw [hrows, List.map_append, List.map_map, List.map_singleton]
    rfl
  · apply eq_of_rows_eq
    rw [← hrows, ← rows_of_tableText hother, htext]

/-- The table of three files, one of them with wide characters in its path and one without a path, is
read back. -/
theorem wideAndNamelessFiles_readTable :
    let report : Report :=
      ⟨[⟨"src/日本語 (1).ts", 12, 9, [⟨3, 3⟩, ⟨7, 21⟩, ⟨30, 30⟩]⟩, ⟨"", 0, 0, []⟩,
        ⟨"a.ts", 1, 1, []⟩], ⟨13, 10⟩⟩
    report.HasPlainPaths ∧
      readTable (report.tableText false) =
        [["src/日本語 (1).ts", "12", "9", "3-3, 7-21, 30-30", "75%"], ["", "0", "0", "", "N/A"],
          ["a.ts", "1", "1", "", "100%"], ["Total", "13", "10", "", "77%"]] ∧
      ∀ other : Report, other.HasPlainPaths →
        other.tableText false = report.tableText false → other = report := by
  intro report
  have hplain : report.HasPlainPaths := by
    unfold Report.HasPlainPaths
    decide
  obtain ⟨hread, hunique⟩ := tableText_readTable hplain
  refine ⟨hplain, hread.trans ?_, hunique⟩
  decide

end DocCoverage.Coverage
