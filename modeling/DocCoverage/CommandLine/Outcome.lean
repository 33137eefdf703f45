import DocCoverage.Check
import DocCoverage.CommandLine.Arguments
import DocCoverage.Coverage.Table

/-!
# Outcomes of the program

A run of the program ends with an exit code and with what it writes to its output and to its errors.
A check ends with zero whatever the coverage; a check that fails and arguments that are refused end
with two and write nothing to the output. A comment that is sought from inside of a character on stops
the program, which then ends with its own code.
-/

namespace DocCoverage.CommandLine

open FileTree Selection Coverage

/-- What a run of the program leaves behind. -/
structure Outcome where
  exitCode : Nat
  output : String
  errors : String
  deriving DecidableEq, Repr

/-- The warning for a directory that cannot be listed. -/
def unlistableWarning (path : String) : String :=
  "warning: Cannot access path: IO error for operation on " ++ path ++ ": " ++
    FileError.denied.message

/-- The warnings of a scan from a root on. -/
def warnings (root : String) (result : ScanResult) : List String :=
  if result.unlistable.isEmpty then []
  else
    result.unlistable.map (fun path => unlistableWarning (openedPath root path)) ++
      ["warning: " ++ Nat.repr result.unlistable.length ++ " path(s) skipped due to access errors"]

/-- The exit code of a check that fails. -/
def failureCode : CheckError → Nat
  | .scan _ => 2
  | .load _ => 2
  | .splitCharacter _ => 101

/-- The outcome of a check with warnings; `color` says that the table is shown with colours. -/
def checkOutcome (color : Bool) (warned : List String) (result : Except CheckError Report) :
    Outcome :=
  match result with
  | .ok report => ⟨0, report.tableText color, Text.unlines warned⟩
  | .error error => ⟨failureCode error, "", Text.unlines (warned ++ ["Error: " ++ error.message])⟩

/-- The outcome of a check of a tree from the working directory on. -/
def runCheck (color : Bool) (tree : Node) (working : List String)
    (loadAll : Loader := List.mapM SelectedFile.load) : Outcome :=
  match scan .standard tree working "." with
  | .error error => checkOutcome color [] (.error (.scan error))
  | .ok result =>
    checkOutcome color (warnings "." result) (reportOn (readSelected tree working "." result) loadAll)

/-- The outcome of a request that needs no files. -/
def Request.answer? : Request → Option Outcome
  | check => none
  | nothing => some ⟨1, Command.top.helpText, ""⟩
  | showHelp command => some ⟨0, command.helpText, ""⟩
  | showVersion => some ⟨0, versionText, ""⟩
  | refused error => some ⟨2, "", error.message⟩

/-- The outcome of a run with arguments over a tree, in a working directory. -/
def run (color : Bool) (tree : Node) (working : List String) (arguments : List String)
    (loadAll : Loader := List.mapM SelectedFile.load) : Outcome :=
  ((requestOf .top arguments).answer?).getD (runCheck color tree working loadAll)

end DocCoverage.CommandLine
