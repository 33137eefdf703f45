import DocCoverage.FileTree.Resolve
import DocCoverage.Selection.Settings
import DocCoverage.Text.Occurrence

/-!
# Scanning a file tree

A scan visits the files below a root through its directories, and does not follow links except for
the root itself. Directories whose names hold the excluded text are not entered. What is visited is
selected by the settings and listed in the order of the characters of its path.

A directory that cannot be listed is passed over with a warning.
-/

namespace DocCoverage.Selection

open FileTree

/-- What a scan meets; paths are the names from the root on. -/
inductive Visit where
  | file (path : List String)
  /-- A directory that cannot be listed. -/
  | unlistable (path : List String)
  deriving DecidableEq, Repr

/-- Whether the excluded text occurs in another. -/
def holdsExcluded (excluded text : String) : Bool := Text.occursIn excluded.toList text.toList

/-- Whether a walk that skips the directories with some names does not enter a node with a name. -/
def isPruned (skips : String → Bool) (name : String) (node : Node) : Bool :=
  node.isDirectory && skips name

mutual

/-- The visits at a node with a path, by a walk that skips the directories with some names.
`reachable` says that the directories above it may be entered. -/
def visits (skips : String → Bool) (reachable : Bool) (path : List String) : Node → List Visit
  | .file _ _ => [.file path]
  | .link _ => []
  | .directory access entries =>
    if reachable && access.list then
      visitsBelow skips (reachable && access.enter) path entries
    else [.unlistable path]

/-- The visits at the entries of a directory with a path. -/
def visitsBelow (skips : String → Bool) (reachable : Bool) (path : List String) :
    List (String × Node) → List Visit
  | [] => []
  | (name, node) :: rest =>
    (if isPruned skips name node then []
      else visits skips reachable (path ++ [name]) node) ++
      visitsBelow skips reachable path rest

end

/-- The path of a visited file. -/
def Visit.file? : Visit → Option (List String)
  | file path => some path
  | unlistable _ => none

/-- The path of a visited directory that cannot be listed. -/
def Visit.unlistable? : Visit → Option (List String)
  | file _ => none
  | unlistable path => some path

/-- A path below the root as reports show it. -/
def displayPath (path : List String) : String := "/".intercalate path

/-- The text of a directory with the slash that what it holds follows. -/
def withSlash (root : String) : String :=
  if root.toList.getLast? == some '/' then root else root ++ "/"

/-- A path below a root as it is opened. -/
def openedPath (root : String) (path : List String) : String :=
  if path.isEmpty then root else withSlash root ++ displayPath path

/-- A path below a resolved root as the excluded text is sought in it. -/
def resolvedPath (root path : List String) : String :=
  withSlash (absolutePath root) ++ displayPath path

/-- Whether a file below a resolved root is selected. -/
def isSelected (patterns : List Glob.Pattern) (excluded : String) (root path : List String) :
    Bool :=
  !holdsExcluded excluded (resolvedPath root path) &&
    patterns.any fun pattern => pattern.accepts (displayPath path)

/-- Why a tree cannot be scanned. -/
inductive ScanError where
  | invalidPattern (invalid : InvalidPattern)
  | unresolved (root : String) (error : FileError)
  deriving DecidableEq, Repr

/-- The message of an error. -/
def ScanError.message : ScanError → String
  | invalidPattern invalid => invalid.message
  | unresolved root error => "Cannot resolve directory: " ++ root ++ ": " ++ error.message

/-- What a scan finds; paths are the names from the root on. -/
structure ScanResult where
  /-- The selected files in the order of their paths. -/
  files : List (List String)
  /-- The directories that cannot be listed. -/
  unlistable : List (List String)
  deriving DecidableEq, Repr

/-- Paths in the order of the characters that show them. -/
def sortPaths (paths : List (List String)) : List (List String) :=
  paths.mergeSort fun a b => decide (displayPath a ≤ displayPath b)

/-- What is selected from visits below a resolved root. -/
def ScanResult.ofVisits (patterns : List Glob.Pattern) (excluded : String) (root : List String)
    (found : List Visit) : ScanResult :=
  ⟨sortPaths ((found.filterMap Visit.file?).filter (isSelected patterns excluded root)),
    found.filterMap Visit.unlistable?⟩

/-- The visits from a root on, which is also given resolved. A root that is a link leads to a
directory or nowhere, and one that cannot be looked at or followed is passed over. -/
def visitsFrom (skips : String → Bool) (tree : Node) (working : List String) (root : String)
    (resolved : List String) : List Visit :=
  match (resolve { followsLast := false } tree working root).map tree.find? with
  | .error _ => [.unlistable []]
  | .ok (some (.link _)) =>
    match resolve {} tree working root, tree.find? resolved with
    | .error _, _ => [.unlistable []]
    | .ok _, some (.directory access entries) => visits skips true [] (.directory access entries)
    | .ok _, _ => []
  | .ok (some node) => visits skips true [] node
  | .ok none => []

/-- Scan a tree from a root on. -/
def scan (settings : Settings) (tree : Node) (working : List String) (root : String) :
    Except ScanError ScanResult :=
  match compilePatterns settings.patterns, resolve { entryCheck := .names } tree working root with
  | .error invalid, _ => .error (.invalidPattern invalid)
  | _, .error error => .error (.unresolved root error)
  | .ok patterns, .ok resolved =>
    if holdsExcluded settings.excluded (absolutePath resolved) then .ok ⟨[], []⟩
    else
      .ok (.ofVisits patterns settings.excluded resolved
        (visitsFrom (holdsExcluded settings.excluded) tree working root resolved))

end DocCoverage.Selection
