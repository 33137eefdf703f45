import DocCoverage.FileTree.Node
import DocCoverage.Text.Blank

/-!
# Resolving paths

A path leads through the directories of a tree from a working directory on, or from the top if it
starts with a slash. Links on the way are followed, at most `linkLimit` of them. The resolved path is
the list of names from the top that leads to the same node without links.
-/

namespace DocCoverage.FileTree

/-- One step of a path. -/
inductive Step where
  /-- Nothing between slashes or after the last one, where a directory has to be. -/
  | pause
  | stay
  | up
  | down (name : String)
  deriving DecidableEq, Repr

/-- The step that one component of a path writes. -/
def Step.ofComponent (component : String) : Step :=
  if component == "" then .pause
  else if component == "." then .stay
  else if component == ".." then .up
  else .down component

/-- The components of a path. -/
def components (path : String) : List String :=
  (Text.pieces '/' path.toList).map String.ofList

/-- The steps of a path. -/
def stepsOf (path : String) : List Step := (components path).map Step.ofComponent

/-- Whether a path starts at the top of the tree. -/
def isAbsolute (path : String) : Bool := path.toList.head? == some '/'

/-- Which steps are stopped by a directory that may not be entered. -/
inductive EntryCheck where
  | never
  /-- The steps to a name, as dots are taken away before. -/
  | names
  /-- All that a path writes between its slashes. -/
  | components
  deriving DecidableEq, Repr

/-- Whether a check stops a step in a directory that may not be entered. -/
def EntryCheck.stops : EntryCheck → Step → Bool
  | never, _ => false
  | _, .down _ => true
  | components, .stay => true
  | components, .up => true
  | _, _ => false

/-- How a path is resolved. -/
structure Resolution where
  /-- Whether a link at the end of the path is followed. -/
  followsLast : Bool := true
  entryCheck : EntryCheck := .components
  deriving DecidableEq, Repr

/-- The number of links that a path may lead through. -/
def linkLimit : Nat := 40

/-- The names from the top to where steps lead from a directory on, through at most so many
links. -/
def resolveSteps (resolution : Resolution) (tree : Node) (links : Nat) (here : List String)
    (steps : List Step) : Except FileError (List String) :=
  match steps with
  | [] => .ok here
  | step :: rest =>
    match tree.find? here with
    | some (.directory access entries) =>
      if resolution.entryCheck.stops step && !access.enter then .error .denied
      else
        match step with
        | .pause => resolveSteps resolution tree links here rest
        | .stay => resolveSteps resolution tree links here rest
        | .up => resolveSteps resolution tree links here.dropLast rest
        | .down name =>
          match entries.lookup name with
          | none => .error .notFound
          | some (.link target) =>
            if rest.isEmpty && !resolution.followsLast then .ok (here ++ [name])
            else
              match links with
              | 0 => .error .tooManyLinks
              | links + 1 =>
                resolveSteps resolution tree links (if isAbsolute target then [] else here)
                  (stepsOf target ++ rest)
          | some _ => resolveSteps resolution tree links (here ++ [name]) rest
    | _ => .error .notDirectory
termination_by (links, steps.length)

/-- The names from the top to where a path leads from a working directory on. -/
def resolve (resolution : Resolution) (tree : Node) (working : List String) (path : String) :
    Except FileError (List String) :=
  if path.isEmpty then .error .notFound
  else
    resolveSteps resolution tree linkLimit (if isAbsolute path then [] else working) (stepsOf path)

/-- The text of the path with names from the top. -/
def absolutePath (names : List String) : String := "/" ++ "/".intercalate names

/-- The bytes of the file that a path leads to. -/
def fileContent (tree : Node) (working : List String) (path : String) :
    Except FileError (List UInt8) := do
  let names ← resolve {} tree working path
  match tree.find? names with
  | some (.file content readable) => if readable then .ok content else .error .denied
  | some (.directory access _) => .error (if access.list then .isDirectory else .denied)
  | _ => .error .notFound

end DocCoverage.FileTree
