import SealedDrop.FileTree.Walk

/-!
# Operations on a file tree

Looking up, creating, renaming and removing entries by path, each with the refusals of a Linux file system.

## The model

Creation asks for a new name and refuses any entry that has it, links included. Renaming replaces an entry of the new name
unless it is a directory; it moves entries that are no directories. Both refuse a slash behind the name. A refused operation
changes nothing.
-/

namespace SealedDrop.FileTree

/-- The node that a path names, following a link at its end. -/
def find (t : FileTree) (workDir : Route) (path : String) : Except SystemError Node := do
  match t.node? (← t.locate workDir path) with
  | some n => return n
  | none => throw .noEntry

/-- The route of the entry to create at a path. -/
def newRoute (t : FileTree) (workDir : Route) (path : String) : Except SystemError Route := do
  match ← t.parent workDir path with
  | (place, some (.name s)) =>
    if endsInSlash path then throw .isDirectory
    if nameLimit < s.utf8ByteSize then throw .nameTooLong
    if (t.node? (s :: place)).isSome then throw .entryExists
    return s :: place
  | _ => throw .entryExists

/-- Creates an empty regular file at a path, and tells its route. -/
def create (t : FileTree) (workDir : Route) (path : String) (mode : Nat) : Except SystemError (Route × FileTree) := do
  let r ← t.newRoute workDir path
  return (r, t.put r (.file mode []))

/-- The entry that a path names without following a link at its end. -/
def entry (t : FileTree) (workDir : Route) (path : String) : Except SystemError (Route × Node) := do
  match ← t.parent workDir path with
  | (place, some (.name s)) =>
    if nameLimit < s.utf8ByteSize then throw .nameTooLong
    match t.node? (s :: place) with
    | some n => return (s :: place, n)
    | none => throw .noEntry
  | _ => throw .busy

/-- Moves an entry that is no directory to another path. -/
def rename (t : FileTree) (workDir : Route) (old new : String) : Except SystemError FileTree := do
  let (oldRoute, n) ← t.entry workDir old
  match ← t.parent workDir new with
  | (place, some (.name s)) =>
    if nameLimit < s.utf8ByteSize then throw .nameTooLong
    if endsInSlash old ∨ endsInSlash new then throw .notDirectory
    if t.node? (s :: place) = some .directory then throw .isDirectory
    return (t.erase oldRoute).put (s :: place) n
  | _ => throw .busy

/-- Removes an entry that is no directory. -/
def remove (t : FileTree) (workDir : Route) (path : String) : Except SystemError FileTree := do
  let (r, n) ← t.entry workDir path
  if n = .directory then throw .isDirectory
  if endsInSlash path then throw .notDirectory
  return t.erase r

end SealedDrop.FileTree
