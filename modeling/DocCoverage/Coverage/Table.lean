import DocCoverage.Coverage.Record
import DocCoverage.Text.Columns
import DocCoverage.Text.Lines

/-!
# The coverage table

A report is shown as a box-drawn table with one row a file, a rule, and a row of totals. Every column
is as wide as its widest cell; paths and lines stand at the left of their columns, counts and
percentages at the right, and headers at the left.
-/

namespace DocCoverage.Coverage

/-- The side of a column on which a text stands. -/
inductive Align where
  | left
  | right
  deriving DecidableEq, Repr

/-- One thing for each of the five columns. -/
structure Columns (α : Type) where
  path : α
  total : α
  documented : α
  undocumented : α
  percentage : α
  deriving DecidableEq, Repr

namespace Columns

/-- The things of the columns from left to right. -/
def toList {α : Type} (row : Columns α) : List α :=
  [row.path, row.total, row.documented, row.undocumented, row.percentage]

/-- Combine the things of two rows column by column. -/
def zipWith {α β γ : Type} (f : α → β → γ) (a : Columns α) (b : Columns β) : Columns γ :=
  ⟨f a.path b.path, f a.total b.total, f a.documented b.documented,
    f a.undocumented b.undocumented, f a.percentage b.percentage⟩

/-- Change the thing of every column. -/
def map {α β : Type} (f : α → β) (a : Columns α) : Columns β :=
  ⟨f a.path, f a.total, f a.documented, f a.undocumented, f a.percentage⟩

end Columns

/-- The texts of one row. -/
abbrev Row := Columns String

/-- The row of headers. -/
def headerRow : Row :=
  ⟨"File Path", "Total Declarations", "Documented Declarations", "Undocumented Lines",
    "Percentage"⟩

/-- The side on which the texts of a column stand. -/
def alignments : Columns Align := ⟨.left, .right, .right, .left, .right⟩

/-- The row of a file. -/
def Record.row (record : Record) : Row :=
  ⟨record.path, toString record.total, toString record.documented, record.undocumentedLines,
    record.percentage.display⟩

/-- The row of the totals. -/
def Totals.row (totals : Totals) : Row :=
  ⟨"Total", toString totals.total, toString totals.documented, "", totals.percentage.display⟩

/-- The columns that a cell takes. -/
def cellWidth (cell : String) : Nat := Text.columns cell.toList

/-- The width of the widest cell of each column. -/
def columnWidths (rows : List Row) : Columns Nat :=
  rows.foldl (fun widths row => widths.zipWith max (row.map cellWidth)) ⟨0, 0, 0, 0, 0⟩

/-- A text filled up with spaces to a width. -/
def pad (align : Align) (width : Nat) (cell : String) : String :=
  let fill := String.ofList (List.replicate (width - cellWidth cell) ' ')
  match align with
  | .left => cell ++ fill
  | .right => fill ++ cell

/-- A rule between rows. -/
def rule (widths : Columns Nat) (left middle right : String) : String :=
  left ++ middle.intercalate (widths.toList.map fun width =>
    String.ofList (List.replicate (width + 2) '─')) ++ right

/-- A row of padded cells between bars. -/
def barred (cells : Columns String) : String := "│ " ++ " │ ".intercalate cells.toList ++ " │"

/-- A text in bold type. -/
def bold (text : String) : String := "\x1b[1m" ++ text ++ "\x1b[0m"

/-- A text in bold type where the output takes colours. -/
def emphasize (color : Bool) (text : String) : String := if color then bold text else text

/-- The lines of the table of a report. -/
def Report.table (color : Bool) (report : Report) : List String :=
  let body := report.files.map Record.row
  let widths := columnWidths (headerRow :: (body ++ [report.totals.row]))
  let aligned (row : Row) := (alignments.zipWith pad widths).zipWith (fun f cell => f cell) row
  let header := (widths.map (pad .left)).zipWith (fun f cell => f cell) headerRow
  [rule widths "┌" "┬" "┐", barred (header.map (emphasize color)), rule widths "├" "┼" "┤"] ++
    body.map (fun row => barred (aligned row)) ++
    [rule widths "├" "┼" "┤", barred ((aligned report.totals.row).map (emphasize color)),
      rule widths "└" "┴" "┘"]

/-- The table of a report as it is written. -/
def Report.tableText (color : Bool) (report : Report) : String := Text.unlines (report.table color)

end DocCoverage.Coverage
