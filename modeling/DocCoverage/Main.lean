import DocCoverage.CommandLine.Color
import DocCoverage.CommandLine.Outcome
import DocCoverage.FileTree.Edit

/-!
# The program

The program takes a picture of the files below the working directory, lets a scan select from it, and
fills in the bytes of the selected files only. The outcome is that of a run over the picture.
-/

namespace DocCoverage.CommandLine

open FileTree Selection Coverage

/-- The node of an entry, whose files have no bytes yet. Directories that the scan does not enter
are left empty, and what is neither a file nor a directory stands as a link. -/
partial def snapshot (entry : IO.FS.DirEntry) : IO Node := do
  match (← entry.path.symlinkMetadata.toBaseIO) with
  | .error _ => return .file [] false
  | .ok found =>
    match found.type with
    | .file => return .file [] true
    | .dir =>
      if holdsExcluded Settings.standard.excluded entry.fileName then return .empty
      match (← entry.path.readDir.toBaseIO) with
      | .error _ => return .directory ⟨false, false⟩ []
      | .ok below =>
        let entries ← below.toList.mapM fun e => do return (e.fileName, ← snapshot e)
        return .directory .full entries
    | _ => return .link ""

/-- A tree in which names lead from the top to a node. -/
def treeAbove (names : List String) (node : Node) : Node :=
  names.foldr (fun name below => .directory .full [(name, below)]) node

/-- The node of the file with a path, with its bytes where they can be read. -/
def fileNode (path : String) : IO Node := do
  match (← (IO.FS.readBinFile path).toBaseIO) with
  | .ok bytes => return .file bytes.toList true
  | .error _ => return .file [] false

/-- A picture of the files below the working directory, with the bytes of those that a scan selects, and
the names that lead to that directory. -/
def picture : IO (Node × List String) := do
  let here ← IO.currentDir
  let names := here.components.filter (· != "")
  let tree := treeAbove names (← snapshot ⟨here, "."⟩)
  let selected := (scan .standard tree names ".").toOption.elim [] ScanResult.files
  let filled ← selected.foldlM (fun tree path => do
    let node ← fileNode (openedPath "." path)
    return tree.alter (fun _ => some node) (names ++ path)) tree
  return (filled, names)

/-- Whether the output of the program is coloured. -/
def outputColor : IO Bool := do
  let settings : ColorSettings :=
    { force := ← IO.getEnv "CLICOLOR_FORCE"
      noColor := ← IO.getEnv "NO_COLOR"
      onTerminal := ← IO.getEnv "CLICOLOR" }
  return settings.color (← (← IO.getStdout).isTty)

end DocCoverage.CommandLine

open DocCoverage.CommandLine

/-- Run the program with arguments. A request that needs no files is answered without a picture of
them. -/
def main (arguments : List String) : IO UInt32 := do
  let (tree, working) ←
    if (requestOf .top arguments).answer?.isSome then pure (.empty, []) else picture
  let outcome := run (← outputColor) tree working arguments
  IO.print outcome.output
  IO.eprint outcome.errors
  return UInt32.ofNat outcome.exitCode
