/-!
# Paths

Path texts: joining them, and taking apart their last component. What a path names is the file tree's affair.

## The model

A path is a text of components between slashes; one that begins with a slash is absolute. Slashes and dots at the end
are no component of their own, so that `a/b`, `a/b/` and `a/b/.` have the same last component.
-/

namespace SealedDrop.Path

/-- Whether a path starts at the root. -/
def isAbsolute (path : String) : Bool :=
  path.toList.head? == some '/'

/-- The path `rest` as seen from `base`: an absolute one stands for itself. -/
def join (base rest : String) : String :=
  if isAbsolute rest ∨ base.isEmpty then rest
  else if base.toList.getLast? = some '/' then base ++ rest
  else base ++ "/" ++ rest

/-- Removes slashes and lone dots from the end of a path, which is given in reverse; the root stays. -/
def dropTail : List Char → List Char
  | '/' :: c :: rest => dropTail (c :: rest)
  | '.' :: '/' :: rest => dropTail ('/' :: rest)
  | path => path

/-- The directory part and the last component of a path; there is none in the root, in an empty path and in one that ends
in the name of a directory relative to another. -/
def split? (path : String) : Option (String × String) :=
  let rev := dropTail path.toList.reverse
  let name := (rev.takeWhile (· ≠ '/')).reverse
  if name = [] ∨ name = ['.'] ∨ name = ['.', '.'] then none
  else some (String.ofList (dropTail (rev.drop name.length)).reverse, String.ofList name)

end SealedDrop.Path
