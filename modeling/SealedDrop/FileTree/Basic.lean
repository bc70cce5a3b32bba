import SealedDrop.Bytes

/-!
# File trees

The entries of a file system, and the elementary changes to them.

## The model

* A route names an entry by the names on the way to it, innermost first; the empty route is the root, which is a directory.
* A tree lists routes with their nodes. A route occurs at most once as long as entries are only added by `put`, which takes
  an earlier one out.
-/

namespace SealedDrop

/-- The names on the way to an entry, innermost first. -/
abbrev Route := List String

/-- What an entry is. -/
inductive Node where
  /-- A directory. -/
  | directory
  /-- A regular file, with its permission bits. -/
  | file (mode : Nat) (data : Bytes)
  /-- A symbolic link. -/
  | link (target : String)
  /-- Anything else that can be read: a pipe, a device, or a file that the system makes up, which tells no size. -/
  | stream (isRegular : Bool) (data : Bytes)
deriving DecidableEq, Repr

/-- The entries of a file system below its root. -/
structure FileTree where
  /-- Each entry with its route. -/
  entries : List (Route × Node) := []
deriving DecidableEq, Repr

namespace FileTree

/-- The node at a route. -/
def node? (t : FileTree) (r : Route) : Option Node :=
  if r = [] then some .directory else t.entries.lookup r

/-- The tree without the entry at a route. -/
def erase (t : FileTree) (r : Route) : FileTree :=
  ⟨t.entries.filter fun e => e.1 ≠ r⟩

/-- The tree with this node at a route. -/
def put (t : FileTree) (r : Route) (n : Node) : FileTree :=
  ⟨(r, n) :: (t.erase r).entries⟩

/-- Adds bytes at the end of a regular file. -/
def append (t : FileTree) (r : Route) (b : Bytes) : FileTree :=
  match t.node? r with
  | some (.file mode data) => t.put r (.file mode (data ++ b))
  | _ => t

@[simp] theorem node?_put_self (t : FileTree) {r : Route} (n : Node) (h : r ≠ []) : (t.put r n).node? r = some n := by
  simp [node?, put, h]

end FileTree

end SealedDrop
