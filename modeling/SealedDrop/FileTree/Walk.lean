import SealedDrop.Error
import SealedDrop.FileTree.Basic
import SealedDrop.Path

/-!
# Walking a file tree

Which entry a path names, seen from a working directory.

## The model

* A path is a list of steps. Each starts in a directory and leads to an entry of it, to the directory itself or to the one
  above. A slash at the end is a step to the entry itself, so that the entry must be a directory.
* A symbolic link is replaced by the steps of its target, at most forty times; that is what ends the walk through links that
  lead in a circle.
* `locate` follows a link at the end of a path. `parent` stops before the last step, for the operations that act on an entry
  by its name.
-/

namespace SealedDrop.FileTree

/-- A step of a path. -/
inductive Step where
  /-- To the entry with this name. -/
  | name (s : String)
  /-- To the same directory. -/
  | here
  /-- To the directory above. -/
  | up
deriving DecidableEq, Repr

/-- The longest name in bytes. -/
def nameLimit : Nat := 255

/-- The longest path in bytes, and the zero after it. -/
def pathLimit : Nat := 4096

/-- The greatest number of links in a walk. -/
def linkLimit : Nat := 40

/-- The step of a component between slashes; an empty one is none. -/
def Step.ofComponent? (s : String) : Option Step :=
  if s = "" then none else if s = "." then some .here else if s = ".." then some .up else some (.name s)

/-- The steps between the slashes of a path. -/
def innerSteps (path : String) : List Step :=
  (path.toList.splitOn '/').filterMap fun l => Step.ofComponent? (String.ofList l)

/-- Whether a path ends in a slash. -/
def endsInSlash (path : String) : Bool :=
  path.toList.getLast? == some '/'

/-- The steps of a path, with the one for a slash at its end. -/
def steps (path : String) : List Step :=
  innerSteps path ++ if endsInSlash path then [.here] else []

/-- The directory in which the steps of a path start. -/
def start (workDir : Route) (path : String) : Route :=
  if Path.isAbsolute path then [] else workDir

/-- Refuses the texts that are no paths at all. -/
def checkPath (path : String) : Except SystemError Unit :=
  if path.toList.contains '\x00' then .error .nulInPath
  else if path = "" then .error .noEntry
  else if pathLimit ≤ path.utf8ByteSize then .error .nameTooLong
  else .ok ()

/-- The entry that a walk ends at. -/
def walk (t : FileTree) (links : Nat) (place : Route) (l : List Step) : Except SystemError Route :=
  match l with
  | [] => .ok place
  | step :: rest =>
    match t.node? place with
    | none => .error .noEntry
    | some .directory =>
      match step with
      | .here => walk t links place rest
      | .up => walk t links (place.drop 1) rest
      | .name s =>
        if nameLimit < s.utf8ByteSize then .error .nameTooLong
        else
          match t.node? (s :: place) with
          | none => .error .noEntry
          | some (.link target) =>
            match links with
            | 0 => .error .tooManyLinks
            | links + 1 => walk t links (start place target) (steps target ++ rest)
          | some _ => walk t links (s :: place) rest
    | some _ => .error .notDirectory
termination_by (links, l.length)

/-- The entry that a path names, following a link at its end. -/
def locate (t : FileTree) (workDir : Route) (path : String) : Except SystemError Route := do
  checkPath path
  walk t linkLimit (start workDir path) (steps path)

/-- The directory that a path leads through last, and the last step. There is none in a path of slashes. -/
def parent (t : FileTree) (workDir : Route) (path : String) : Except SystemError (Route × Option Step) := do
  checkPath path
  let l := innerSteps path
  let place ← walk t linkLimit (start workDir path) l.dropLast
  match t.node? place with
  | some .directory => return (place, l.getLast?)
  | _ => throw .notDirectory

end SealedDrop.FileTree
