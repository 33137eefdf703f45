import DocCoverage.Proofs.Coverage.TableReading
import DocCoverage.Proofs.Text.Columns
import Mathlib.Data.List.Forall2
import Mathlib.Data.List.Induction
import Mathlib.Order.Bounds.Basic

/-!
# The layout of a coverage table

A table is a rectangle. Every column is as wide as its widest cell, and every cell is filled up to the
width of its column: the columns of a text and of spaces beside it add up, whatever the text is. Bars
stand between spaces, so the cells of a row are measured apart from each other, and a rule is drawn with
characters of one column each. Bold type marks only texts that are filled already; without its marks a
table in colours is the table without.
-/

namespace DocCoverage.Coverage

open Text

/-! ## Columns -/

/-- A column of a table. -/
inductive Column where
  | path
  | total
  | documented
  | undocumented
  | percentage
  deriving DecidableEq, Repr

/-- The thing of one column. -/
def Columns.get {α : Type} (row : Columns α) : Column → α
  | .path => row.path
  | .total => row.total
  | .documented => row.documented
  | .undocumented => row.undocumented
  | .percentage => row.percentage

/-- Two rows are joined column by column. -/
@[simp]
theorem Columns.get_zipWith {α β γ : Type} (f : α → β → γ) (a : Columns α) (b : Columns β)
    (column : Column) : (a.zipWith f b).get column = f (a.get column) (b.get column) := by
  cases column <;> rfl

/-- A row is changed column by column. -/
@[simp]
theorem Columns.get_map {α β : Type} (f : α → β) (a : Columns α) (column : Column) :
    (a.map f).get column = f (a.get column) := by
  cases column <;> rfl

/-- Rows with the same thing in every column are the same. -/
theorem Columns.ext_get {α : Type} {a b : Columns α} (h : ∀ column, a.get column = b.get column) :
    a = b := by
  cases a
  cases b
  rw [mk.injEq]
  exact ⟨h .path, h .total, h .documented, h .undocumented, h .percentage⟩

/-- The thing of a column stands in its row. -/
theorem Columns.get_mem_toList {α : Type} (row : Columns α) (column : Column) :
    row.get column ∈ row.toList := by
  cases column <;> simp [get, toList]

/-- The sum over all columns. -/
def Columns.sum (widths : Columns Nat) : Nat :=
  widths.path + widths.total + widths.documented + widths.undocumented + widths.percentage

/-- All rows of the table of a report. -/
def Report.rows (report : Report) : List Row :=
  headerRow :: (report.files.map Record.row ++ [report.totals.row])

/-- The header is one of the rows. -/
theorem Report.header_mem_rows (report : Report) : headerRow ∈ report.rows := List.mem_cons_self

/-- The rows of the files are among the rows. -/
theorem Report.row_mem_rows (report : Report) {row : Row} (hrow : row ∈ report.files.map Record.row) :
    row ∈ report.rows :=
  List.mem_cons_of_mem headerRow (List.mem_append_left _ hrow)

/-- The totals are one of the rows. -/
theorem Report.totals_mem_rows (report : Report) : report.totals.row ∈ report.rows :=
  List.mem_cons_of_mem headerRow (List.mem_append_right _ List.mem_cons_self)

/-- A column is as wide as the widest of its cells. -/
theorem isGreatest_columnWidths (first : Row) (rows : List Row) (column : Column) :
    IsGreatest {width | ∃ row ∈ first :: rows, cellWidth (row.get column) = width}
      ((columnWidths (first :: rows)).get column) := by
  -- from the right, as the fold reads the last row last
  induction rows using List.reverseRecOn with
  | nil =>
    have hwidth : (columnWidths [first]).get column = cellWidth (first.get column) := by
      cases column <;> exact Nat.zero_max _
    rw [hwidth]
    simp
  | append_singleton rows last ih =>
    have hwidth : (columnWidths (first :: (rows ++ [last]))).get column =
        max (cellWidth (last.get column)) ((columnWidths (first :: rows)).get column) := by
      rw [columnWidths, ← List.cons_append, List.foldl_concat, Columns.get_zipWith, Columns.get_map,
        max_comm]
      rfl
    have hwidths : {width | ∃ row ∈ first :: (rows ++ [last]), cellWidth (row.get column) = width} =
        insert (cellWidth (last.get column))
          {width | ∃ row ∈ first :: rows, cellWidth (row.get column) = width} := by
      ext width
      simp only [Set.mem_ofPred_eq, Set.mem_insert_iff, ← List.cons_append, List.mem_append,
        List.mem_singleton, or_and_right, exists_or, exists_eq_left]
      rw [or_comm, eq_comm]
    rw [hwidth, hwidths]
    exact ih.insert (cellWidth (last.get column))

/-- No cell is wider than its column. -/
theorem cellWidth_le_widths {report : Report} {row : Row} (hrow : row ∈ report.rows) (column : Column) :
    cellWidth (row.get column) ≤ report.widths.get column :=
  (isGreatest_columnWidths _ _ column).2 ⟨row, hrow, rfl⟩

/-! ## Cells -/

/-- The cells of a row with spaces beside them, so that each takes the width of its column. -/
def Fills (sides : Columns Align) (widths : Columns Nat) (row cells : Row) : Prop :=
  ∀ column, cellWidth (cells.get column) = widths.get column ∧
    ∃ spaces : Nat, (cells.get column).toList =
      match sides.get column with
      | .left => (row.get column).toList ++ List.replicate spaces ' '
      | .right => List.replicate spaces ' ' ++ (row.get column).toList

/-- A text that is filled up to a width that is not too small takes it. -/
theorem cellWidth_pad {cell : String} {width : Nat} (hfits : cellWidth cell ≤ width) (side : Align) :
    cellWidth (pad side width cell) = width := by
  rw [cellWidth, toList_pad]
  cases side with
  | left => exact (columns_append_spaces cell.toList _).trans (Nat.add_sub_of_le hfits)
  | right => exact (columns_spaces_append _ cell.toList).trans (Nat.sub_add_cancel hfits)

/-- Each cell is filled to the width of its column. -/
theorem get_filled (sides : Columns Align) (widths : Columns Nat) (row : Row) (column : Column) :
    (filled sides widths row).get column =
      pad (sides.get column) (widths.get column) (row.get column) := by
  rw [filled, Columns.get_zipWith, Columns.get_zipWith]

/-- The cells of a row of a table are filled up to the widths of their columns. -/
theorem fills_filled {report : Report} {row : Row} (hrow : row ∈ report.rows) (sides : Columns Align) :
    Fills sides report.widths row (filled sides report.widths row) := by
  intro column
  rw [get_filled]
  exact ⟨cellWidth_pad (cellWidth_le_widths hrow column) _,
    report.widths.get column - cellWidth (row.get column), toList_pad _ _ _⟩

/-! ## Lines -/

/-- The text of a row, cell by cell. -/
theorem toList_barred_cells (cells : Row) :
    (barred cells).toList = ['│', ' '] ++ (cells.path.toList ++ ([' ', '│', ' '] ++
      (cells.total.toList ++ ([' ', '│', ' '] ++ (cells.documented.toList ++ ([' ', '│', ' '] ++
        (cells.undocumented.toList ++ ([' ', '│', ' '] ++
          (cells.percentage.toList ++ [' ', '│']))))))))) := by
  simp [barred, Columns.toList]

/-- A row takes the columns of its cells, and sixteen for the bars and spaces around them. -/
theorem columns_barred (cells : Row) :
    columns (barred cells).toList = 16 + (cells.map cellWidth).sum := by
  have hstart (text : List Char) : columns (['│', ' '] ++ text) = 1 + (1 + columns text) :=
    (columns_append_space ['│'] text).trans (by rw [columns_bar])
  have hstop (text : List Char) : columns (text ++ [' ', '│']) = columns text + (1 + 1) :=
    (columns_append_space text ['│']).trans (by rw [columns_bar])
  rw [toList_barred_cells, hstart, columns_append_bar, columns_append_bar, columns_append_bar,
    columns_append_bar, hstop]
  simp only [Columns.map, Columns.sum, cellWidth]
  omega

/-- A row whose cells are filled takes the widths of the columns, and sixteen. -/
theorem columns_of_fills {sides : Columns Align} {widths : Columns Nat} {row cells : Row}
    (hfills : Fills sides widths row cells) : columns (barred cells).toList = 16 + widths.sum := by
  have hwidths : cells.map cellWidth = widths := by
    have hwidth (column : Column) := (hfills column).1
    exact Columns.ext_get fun column => (Columns.get_map cellWidth cells column).trans (hwidth column)
  rw [columns_barred, hwidths]

/-- A rule takes the widths of the columns and sixteen columns more. -/
theorem columns_rule (widths : Columns Nat) {left middle right : String} {l m r : Char}
    (hleft : left.toList = [l]) (hmiddle : middle.toList = [m]) (hright : right.toList = [r])
    (hdrawn : [l, m, r, '─'] ⊆ Stretch.drawn) :
    columns (rule widths left middle right).toList = 16 + widths.sum := by
  obtain ⟨-, -, hmem⟩ := ends_rule widths hleft hmiddle hright
  rw [columns_drawn fun c hc => hdrawn (hmem c hc), toList_rule widths hleft hmiddle hright]
  simp only [Columns.toList, Columns.sum, List.map_cons, List.map_nil, List.intercalate_cons_cons,
    List.intercalate_singleton, List.append_assoc, List.cons_append, List.nil_append, List.length_cons,
    List.length_append, List.length_replicate, List.length_nil, Nat.zero_add]
  omega

/-! ## Styles -/

/-- A text without the marks that begin and end bold type. -/
def dropStyles : List Char → List Char
  | '\x1b' :: '[' :: '1' :: 'm' :: rest => dropStyles rest
  | '\x1b' :: '[' :: '0' :: 'm' :: rest => dropStyles rest
  | c :: rest => c :: dropStyles rest
  | [] => []

/-- Dropping the marks of bold type from one text leaves the other, whatever text comes after it. -/
def Unstyles (styled plain : List Char) : Prop :=
  ∀ rest, dropStyles (styled ++ rest) = plain ++ dropStyles rest

namespace Unstyles

variable {styled styled' plain plain' : List Char}

/-- Nothing is dropped from a text without escape characters. -/
theorem of_not_mem {text : List Char} (htext : '\x1b' ∉ text) : Unstyles text text := by
  intro rest
  induction text with
  | nil => rfl
  | cons c text ih =>
    rw [List.mem_cons, not_or] at htext
    -- both marks start with an escape character
    have hc : dropStyles (c :: (text ++ rest)) = c :: dropStyles (text ++ rest) := by
      rw [dropStyles] <;>
      · rintro tail hc -
        exact htext.1 hc.symm
    rw [List.cons_append, hc, ih htext.2, List.cons_append]

/-- The marks are dropped from two texts as from each of them. -/
theorem append (hfirst : Unstyles styled plain) (hsecond : Unstyles styled' plain') :
    Unstyles (styled ++ styled') (plain ++ plain') := by
  intro rest
  rw [List.append_assoc, hfirst, hsecond, List.append_assoc]

/-- The marks around a text are dropped. -/
theorem bold {text : String} (htext : '\x1b' ∉ text.toList) :
    Unstyles (bold text).toList text.toList := by
  intro rest
  have hmarks : (Coverage.bold text).toList ++ rest =
      '\x1b' :: '[' :: '1' :: 'm' :: (text.toList ++ '\x1b' :: '[' :: '0' :: 'm' :: rest) := by
    simp [Coverage.bold]
  rw [hmarks, dropStyles, of_not_mem htext, dropStyles]

/-- The marks are dropped from the cells of a row between bars. -/
theorem barred {cells cells' : Row}
    (hcells : ∀ column, Unstyles (cells.get column).toList (cells'.get column).toList) :
    Unstyles (barred cells).toList (barred cells').toList := by
  have hbar : Unstyles [' ', '│', ' '] [' ', '│', ' '] := of_not_mem (by decide)
  rw [toList_barred_cells, toList_barred_cells]
  refine append (of_not_mem (by decide)) (append (hcells .path) (append hbar ?_))
  refine append (hcells .total) (append hbar (append (hcells .documented) (append hbar ?_)))
  exact append (hcells .undocumented) (append hbar
    (append (hcells .percentage) (of_not_mem (by decide))))

/-- The marks are dropped from lines, line by line. -/
theorem unlines {written written' : List String}
    (hlines : List.Forall₂ (fun styled plain => Unstyles styled.toList plain.toList) written written') :
    Unstyles (unlines written).toList (unlines written').toList := by
  rw [toList_unlines, toList_unlines]
  induction hlines with
  | nil => exact of_not_mem List.not_mem_nil
  | cons hline _ ih =>
    rw [List.flatMap_cons, List.flatMap_cons]
    exact (hline.append (of_not_mem (by decide))).append ih

/-- Dropping the marks from a whole text. -/
theorem dropStyles_eq (h : Unstyles styled plain) : dropStyles styled = plain := by
  simpa [dropStyles] using h []

end Unstyles

/-- A rule has no marks. -/
theorem Unstyles.rule (widths : Columns Nat) {left middle right : String} {l m r : Char}
    (hleft : left.toList = [l]) (hmiddle : middle.toList = [m]) (hright : right.toList = [r])
    (hdrawn : '\x1b' ∉ [l, m, r, '─']) :
    Unstyles (rule widths left middle right).toList (rule widths left middle right).toList := by
  obtain ⟨-, -, hmem⟩ := ends_rule widths hleft hmiddle hright
  exact of_not_mem fun hescape => hdrawn (hmem _ hescape)

/-- The marks are dropped from a filled row in bold type. -/
theorem unstyles_bold_filled {row : Row} (hrow : ∀ cell ∈ row.toList, '\x1b' ∉ cell.toList)
    (sides : Columns Align) (widths : Columns Nat) :
    Unstyles (barred ((filled sides widths row).map bold)).toList
      (barred (filled sides widths row)).toList := by
  apply Unstyles.barred
  intro column
  rw [Columns.get_map]
  exact .bold (not_mem_filled sides widths (by decide) hrow _ (Columns.get_mem_toList _ column))

/-! ## Tables -/

/-- The lines of a table in colours: the cells of its header and of its totals are in bold type. -/
theorem table_true (report : Report) :
    report.table true =
      [rule report.widths "┌" "┬" "┐", barred ((filled leftSides report.widths headerRow).map bold),
        rule report.widths "├" "┼" "┤"] ++
      (report.files.map Record.row).map (fun row => barred (filled alignments report.widths row)) ++
      [rule report.widths "├" "┼" "┤",
        barred ((filled alignments report.widths report.totals.row).map bold),
        rule report.widths "└" "┴" "┘"] := rfl

section Table

variable (report : Report)

/-- The marks of bold type are dropped from the table in colours, line by line. -/
theorem unstyles_table (hpaths : ∀ file ∈ report.files, '\x1b' ∉ file.path.toList) :
    List.Forall₂ (fun styled plain => Unstyles styled.toList plain.toList) (report.table true)
      (report.table false) := by
  have hbody : ∀ line ∈ (report.files.map Record.row).map fun row =>
      barred (filled alignments report.widths row), Unstyles line.toList line.toList := by
    intro line hline
    rw [List.map_map] at hline
    obtain ⟨file, hfile, rfl⟩ := List.mem_map.mp hline
    exact .of_not_mem (not_mem_barred_filled alignments report.widths (by decide)
      (Record.not_mem_row (by decide) (hpaths file hfile)))
  have hnames : ∀ cell ∈ headerRow.toList, '\x1b' ∉ cell.toList := by decide
  have hheader := unstyles_bold_filled hnames leftSides report.widths
  have htotals := unstyles_bold_filled (report.totals.not_mem_row (by decide)) alignments report.widths
  rw [table_true, table_false]
  refine List.rel_append (List.rel_append ?_ (List.forall₂_same.mpr hbody)) ?_
  · exact .cons (.rule _ rfl rfl rfl (by decide))
      (.cons hheader (.cons (.rule _ rfl rfl rfl (by decide)) .nil))
  · exact .cons (.rule _ rfl rfl rfl (by decide))
      (.cons htotals (.cons (.rule _ rfl rfl rfl (by decide)) .nil))

/-- The lines of a table whose paths hold no line feed: rules, and rows of cells that are filled up to the
widths of their columns. -/
theorem exists_rows_tableText (hpaths : ∀ file ∈ report.files, '\n' ∉ file.path.toList) :
    ∃ header body totals,
      lines (report.tableText false) =
        [rule report.widths "┌" "┬" "┐", barred header, rule report.widths "├" "┼" "┤"] ++
          body.map barred ++
          [rule report.widths "├" "┼" "┤", barred totals, rule report.widths "└" "┴" "┘"] ∧
      Fills leftSides report.widths headerRow header ∧
      List.Forall₂ (Fills alignments report.widths) (report.files.map Record.row) body ∧
      Fills alignments report.widths report.totals.row totals := by
  refine ⟨filled leftSides report.widths headerRow,
    (report.files.map Record.row).map (filled alignments report.widths),
    filled alignments report.widths report.totals.row, ?_, ?_, ?_, ?_⟩
  · have hbody : ((report.files.map Record.row).map (filled alignments report.widths)).map barred =
        (report.files.map Record.row).map fun row => barred (filled alignments report.widths row) :=
      List.map_map
    rw [lines_tableText hpaths, table_false, hbody]
  · exact fills_filled report.header_mem_rows leftSides
  · refine List.forall₂_map_right_iff.mpr (List.forall₂_same.mpr fun row hrow => ?_)
    exact fills_filled (report.row_mem_rows hrow) alignments
  · exact fills_filled report.totals_mem_rows alignments

/-- Whatever the paths hold, each line of a table as it is written takes the widths of the columns and
sixteen more. -/
theorem columns_of_mem_table {line : String} (hline : line ∈ report.table false) :
    columns line.toList = 16 + report.widths.sum := by
  rw [table_false] at hline
  simp only [List.mem_append, List.mem_cons, List.mem_map, List.not_mem_nil, or_false] at hline
  rcases hline with ((rfl | rfl | rfl) | ⟨row, hrow, rfl⟩) | rfl | rfl | rfl
  · exact columns_rule _ rfl rfl rfl (by decide)
  · exact columns_of_fills (fills_filled report.header_mem_rows leftSides)
  · exact columns_rule _ rfl rfl rfl (by decide)
  · exact columns_of_fills (fills_filled (report.row_mem_rows (List.mem_map.mpr hrow)) alignments)
  · exact columns_rule _ rfl rfl rfl (by decide)
  · exact columns_of_fills (fills_filled report.totals_mem_rows alignments)
  · exact columns_rule _ rfl rfl rfl (by decide)

/-- A table has six lines besides those of its files. -/
theorem length_table : (report.table false).length = report.files.length + 6 := by
  simp [table_false]

/-- A table is a rectangle: every column is as wide as the widest of its cells, every cell is filled up to
its column, there are six lines besides those of the files, and all lines take the widths of the columns and
sixteen more. In colours the table is the same but for the marks of bold type. -/
theorem tableText_rectangular :
    ((∀ file ∈ report.files, '\n' ∉ file.path.toList) →
      (∀ column, IsGreatest {width | ∃ row ∈ report.rows, cellWidth (row.get column) = width}
        (report.widths.get column)) ∧
      (∃ header body totals,
        lines (report.tableText false) =
          [rule report.widths "┌" "┬" "┐", barred header, rule report.widths "├" "┼" "┤"] ++
            body.map barred ++
            [rule report.widths "├" "┼" "┤", barred totals, rule report.widths "└" "┴" "┘"] ∧
        Fills leftSides report.widths headerRow header ∧
        List.Forall₂ (Fills alignments report.widths) (report.files.map Record.row) body ∧
        Fills alignments report.widths report.totals.row totals) ∧
      (lines (report.tableText false)).length = report.files.length + 6 ∧
      ∀ line ∈ lines (report.tableText false), columns line.toList = 16 + report.widths.sum) ∧
    ((∀ file ∈ report.files, '\x1b' ∉ file.path.toList) →
      dropStyles (report.tableText true).toList = (report.tableText false).toList) := by
  refine ⟨fun hpaths => ?_, fun hpaths => (Unstyles.unlines (unstyles_table report hpaths)).dropStyles_eq⟩
  refine ⟨isGreatest_columnWidths _ _, exists_rows_tableText report hpaths, ?_, fun line hline => ?_⟩
  · rw [lines_tableText hpaths, length_table]
  · rw [lines_tableText hpaths] at hline
    exact columns_of_mem_table report hline

end Table

/-- A table of a wide path, a path with joined emoji and a combining mark, and an empty path has nine lines
of ninety-eight columns each. -/
theorem wideAndJoinedPaths_rectangular :
    let report : Report :=
      ⟨[⟨"src/日本語.ts", 12, 9, [⟨3, 3⟩, ⟨7, 21⟩]⟩, ⟨"👩\u200d👧/e\u0301.ts", 0, 0, []⟩, ⟨"", 1, 1, []⟩],
        ⟨13, 10⟩⟩
    (∀ file ∈ report.files, '\n' ∉ file.path.toList ∧ '\x1b' ∉ file.path.toList) ∧
      report.widths = ⟨13, 18, 23, 18, 10⟩ ∧
      (lines (report.tableText false)).length = 9 ∧
      (∀ line ∈ lines (report.tableText false), columns line.toList = 98) ∧
      dropStyles (report.tableText true).toList = (report.tableText false).toList := by
  intro report
  have hpaths : ∀ file ∈ report.files, '\n' ∉ file.path.toList ∧ '\x1b' ∉ file.path.toList := by decide
  have hwidths : report.widths = ⟨13, 18, 23, 18, 10⟩ := by decide +kernel
  obtain ⟨hlayout, hstyles⟩ := tableText_rectangular report
  obtain ⟨-, -, hlength, hcolumns⟩ := hlayout fun file hfile => (hpaths file hfile).1
  refine ⟨hpaths, hwidths, hlength, fun line hline => ?_, hstyles fun file hfile => (hpaths file hfile).2⟩
  rw [hcolumns line hline, hwidths]
  rfl

end DocCoverage.Coverage
