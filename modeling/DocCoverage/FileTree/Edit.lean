import DocCoverage.FileTree.Resolve

/-!
# Changing a file tree

The owner of a tree changes it: restrictions of access do not bind the owner.
-/

namespace DocCoverage.FileTree

/-- The entries of a directory with another node, or none, under a name. -/
def setEntry (name : String) (node : Option Node) (entries : List (String × Node)) :
    List (String × Node) :=
  let others := entries.filter fun entry => entry.1 != name
  match node with
  | some found => others ++ [(name, found)]
  | none => others

/-- The tree with the node at a place changed, if there is a directory for it. -/
def Node.alter (change : Option Node → Option Node) : List String → Node → Node
  | [], node => (change (some node)).getD node
  | [name], .directory access entries =>
    .directory access (setEntry name (change (entries.lookup name)) entries)
  | name :: rest, .directory access entries =>
    match entries.lookup name with
    | some node => .directory access (setEntry name (some (node.alter change rest)) entries)
    | none => .directory access entries
  | _, node => node

/-- A path cut into the steps to a directory and the name in it. -/
def splitLast (path : String) : Option (List Step × String) :=
  let steps := stepsOf path
  match steps.getLast? with
  | some (.down name) => some (steps.dropLast, name)
  | _ => none

/-- The resolution of paths by the owner of a tree. -/
def byOwner : Resolution := { entryCheck := .never }

/-- The tree with all directories on a way from a directory on, and the names that lead to its
end. -/
def ensureSteps (tree : Node) (here : List String) :
    List Step → Except FileError (Node × List String)
  | [] => .ok (tree, here)
  | step :: rest =>
    match resolveSteps byOwner tree linkLimit here [step] with
    | .ok found => ensureSteps tree found rest
    | .error .notFound =>
      match step with
      | .down name =>
        ensureSteps (tree.alter (fun _ => some .empty) (here ++ [name])) (here ++ [name]) rest
      | _ => .error .notFound
    | .error error => .error error

/-- The tree with all directories of a path. -/
def makeDirectory (tree : Node) (working : List String) (path : String) :
    Except FileError Node := do
  let (tree, names) ← ensureSteps tree (if isAbsolute path then [] else working) (stepsOf path)
  if ((tree.find? names).map Node.isDirectory).getD false then .ok tree
  else .error .alreadyPresent

/-- A tree and the names that lead to where a path is to make something, with the directories on the
way. -/
def placeFor (tree : Node) (working : List String) (path : String) :
    Except FileError (Node × List String) :=
  match splitLast path with
  | some (steps, name) => do
    let (tree, names) ← ensureSteps tree (if isAbsolute path then [] else working) steps
    return (tree, names ++ [name])
  | none => .error .isDirectory

/-- The node with other bytes; a file that was there keeps its access. -/
def withContent (content : List UInt8) : Option Node → Option Node
  | some (.file _ readable) => some (.file content readable)
  | _ => some (.file content true)

/-- Where a file is that is written at a place: at the end of the links from there on, of which there
are at most so many, whether or not there is a file yet. -/
def followLinks (tree : Node) : Nat → List String → Except FileError (List String)
  | 0, _ => .error .tooManyLinks
  | links + 1, names =>
    match tree.find? names with
    | some (.link target) =>
      let here := if isAbsolute target then [] else names.dropLast
      match splitLast target with
      | some (steps, name) => do
        let above ← resolveSteps byOwner tree linkLimit here steps
        followLinks tree links (above ++ [name])
      | none => resolveSteps byOwner tree linkLimit here (stepsOf target)
    | _ => .ok names

/-- The tree with a file under a path, and the directories on the way. -/
def putFile (tree : Node) (working : List String) (path : String) (content : List UInt8) :
    Except FileError Node := do
  let (tree, names) ← placeFor tree working path
  let target ← followLinks tree linkLimit names
  match tree.find? target with
  | some (.directory _ _) => .error .isDirectory
  | _ => .ok (tree.alter (withContent content) target)

/-- The tree with a link under a path. -/
def makeLink (tree : Node) (working : List String) (path target : String) :
    Except FileError Node := do
  let (tree, names) ← placeFor tree working path
  match tree.find? names with
  | some _ => .error .alreadyPresent
  | none => .ok (tree.alter (fun _ => some (.link target)) names)

/-- The tree without what a path leads to. -/
def remove (tree : Node) (working : List String) (path : String) : Except FileError Node := do
  let names ← resolve { byOwner with followsLast := false } tree working path
  return tree.alter (fun _ => none) names

/-- The node with the access that the last three bits of a mode give. -/
def withMode (mode : Nat) : Option Node → Option Node
  | some (.file content _) => some (.file content (mode.testBit 2))
  | some (.directory _ entries) => some (.directory ⟨mode.testBit 2, mode.testBit 0⟩ entries)
  | node => node

/-- The tree with another access to what a path leads to. -/
def changeMode (tree : Node) (working : List String) (path : String) (mode : Nat) :
    Except FileError Node := do
  let names ← resolve byOwner tree working path
  return tree.alter (withMode mode) names

end DocCoverage.FileTree
