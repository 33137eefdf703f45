import DocCoverage.Coverage.Declarations
import DocCoverage.Selection.Scan

/-!
# Checking a file tree

A check selects the source files of a tree, reads and parses each of them, and reports on their
coverage. One file that cannot be read or parsed fails the check.
-/

namespace DocCoverage

open FileTree Selection Coverage

/-- Why a file cannot be loaded. -/
inductive LoadError where
  | unreadable (path : String) (error : FileError)
  | unparsable (path : String) (error : TypeScript.ModuleError)
  deriving DecidableEq, Repr

/-- The message of an error. -/
def LoadError.message : LoadError → String
  | unreadable path error => "Failed to read file: " ++ path ++ ": " ++ error.message
  | unparsable path error => "Failed to parse file: " ++ path ++ ": " ++ error.message path

/-- The text that bytes encode. -/
def decodeText (content : List UInt8) : Except FileError (List Char) :=
  match String.fromUTF8? ⟨content.toArray⟩ with
  | some text => .ok text.toList
  | none => .error .notText

/-- The unit of the file with a path, given its bytes or why they cannot be read. A byte order mark
in front of the text is no part of it. -/
def loadUnit (path : String) (content : Except FileError (List UInt8)) :
    Except LoadError SourceUnit :=
  match content.bind decodeText with
  | .error error => .error (.unreadable path error)
  | .ok text =>
    match SourceUnit.read path (TypeScript.dropByteOrderMark text) with
    | .error error => .error (.unparsable path error)
    | .ok unit => .ok unit

/-- Why a check fails. -/
inductive CheckError where
  | scan (error : ScanError)
  | load (error : LoadError)
  /-- The comments of a declaration are sought from inside of a character on. -/
  | splitCharacter (path : String)
  deriving DecidableEq, Repr

/-- The message of an error. -/
def CheckError.message : CheckError → String
  | scan error => error.message
  | load error => error.message
  | splitCharacter path => "Comment offset inside of a character: " ++ path

/-- The record of a unit. -/
def recordUnit (unit : SourceUnit) : Except CheckError Record :=
  match tally? DocComment.validate unit with
  | some record => .ok record
  | none => .error (.splitCharacter unit.path)

/-- A selected file: its path in reports, and its bytes or why they cannot be read. -/
structure SelectedFile where
  path : String
  content : Except FileError (List UInt8)

/-- The unit of a selected file. -/
def SelectedFile.load (file : SelectedFile) : Except LoadError SourceUnit :=
  loadUnit file.path file.content

/-- A way to load files together. -/
abbrev Loader := List SelectedFile → Except LoadError (List SourceUnit)

/-- The report on selected files, in order. All of them are loaded before the first is tallied, one
after the other if `loadAll` does not say otherwise. -/
def reportOn (files : List SelectedFile) (loadAll : Loader := List.mapM SelectedFile.load) :
    Except CheckError Report :=
  match loadAll files with
  | .error error => .error (.load error)
  | .ok units => (units.mapM recordUnit).map Report.ofRecords

/-- The file of a tree with a path below a root, with its bytes. -/
def SelectedFile.read (tree : Node) (working : List String) (root : String) (path : List String) :
    SelectedFile :=
  ⟨displayPath path, fileContent tree working (openedPath root path)⟩

/-- The selected files of a tree below a root, with their bytes. -/
def readSelected (tree : Node) (working : List String) (root : String) (result : ScanResult) :
    List SelectedFile :=
  result.files.map (SelectedFile.read tree working root)

/-- Check the files of a tree below a root. -/
def check (tree : Node) (working : List String) (root : String)
    (loadAll : Loader := List.mapM SelectedFile.load) : Except CheckError Report :=
  match scan .standard tree working root with
  | .error error => .error (.scan error)
  | .ok result => reportOn (readSelected tree working root result) loadAll

end DocCoverage
