import DocCoverage.Coverage.Percentage

/-!
# Coverage records and reports

A record holds the counts of one file and the lines of its undocumented declarations; a report
holds the records of all files and their totals.
-/

namespace DocCoverage.Coverage

/-- A range of lines, both ends included. -/
structure LineRange where
  first : Nat
  last : Nat
  deriving DecidableEq, Repr

/-- A range of lines as it is shown. -/
def LineRange.display (range : LineRange) : String :=
  toString range.first ++ "-" ++ toString range.last

/-- The coverage of one file. -/
structure Record where
  path : String
  total : Nat
  documented : Nat
  undocumented : List LineRange
  deriving DecidableEq, Repr

namespace Record

/-- The share of documented declarations of a file. -/
def percentage (record : Record) : Percentage := .of record.documented record.total

/-- The undocumented lines of a file as they are shown. -/
def undocumentedLines (record : Record) : String :=
  ", ".intercalate (record.undocumented.map LineRange.display)

end Record

/-- The counts of all files together. -/
structure Totals where
  total : Nat
  documented : Nat
  deriving DecidableEq, Repr

/-- The share of documented declarations of all files. -/
def Totals.percentage (totals : Totals) : Percentage := .of totals.documented totals.total

/-- The coverage of all files. -/
structure Report where
  files : List Record
  totals : Totals
  deriving DecidableEq, Repr

/-- The sum of a count over files. -/
def sumOf (count : Record → Nat) (files : List Record) : Nat :=
  files.foldr (fun file rest => count file + rest) 0

/-- The report on a list of files. -/
def Report.ofRecords (files : List Record) : Report :=
  ⟨files, sumOf Record.total files, sumOf Record.documented files⟩

end DocCoverage.Coverage
