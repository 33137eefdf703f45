/-!
# File trees

A file tree is a node: a file with its bytes, a directory with named nodes, or a symbolic link. Nodes
are found by the names on the way to them.
-/

namespace DocCoverage.FileTree

/-- What may be done with a directory. -/
structure Access where
  /-- Whether its names may be listed. -/
  list : Bool
  /-- Whether what it holds may be reached. -/
  enter : Bool
  deriving DecidableEq, Repr

/-- The access to a directory without restrictions. -/
def Access.full : Access := ⟨true, true⟩

/-- A file, a directory or a symbolic link. -/
inductive Node where
  | file (content : List UInt8) (readable : Bool)
  | directory (access : Access) (entries : List (String × Node))
  | link (target : String)

/-- Why a file or a directory cannot be used. -/
inductive FileError where
  | notFound
  | denied
  | alreadyPresent
  | notDirectory
  | isDirectory
  | tooManyLinks
  /-- The bytes of a file are no UTF-8 text. -/
  | notText
  deriving DecidableEq, Repr

/-- The message of an error. -/
def FileError.message : FileError → String
  | notFound => "No such file or directory (os error 2)"
  | denied => "Permission denied (os error 13)"
  | alreadyPresent => "File exists (os error 17)"
  | notDirectory => "Not a directory (os error 20)"
  | isDirectory => "Is a directory (os error 21)"
  | tooManyLinks => "Too many levels of symbolic links (os error 40)"
  | notText => "stream did not contain valid UTF-8"

namespace Node

/-- A directory that holds nothing. -/
def empty : Node := directory .full []

/-- Whether a node is a directory. -/
def isDirectory : Node → Bool
  | directory _ _ => true
  | _ => false

/-- The node with a name in a directory. -/
def entry? (node : Node) (name : String) : Option Node :=
  match node with
  | directory _ entries => entries.lookup name
  | _ => none

/-- The node that names lead to. -/
def find? (node : Node) : List String → Option Node
  | [] => some node
  | name :: rest =>
    match node.entry? name with
    | some found => found.find? rest
    | none => none

end Node

end DocCoverage.FileTree
