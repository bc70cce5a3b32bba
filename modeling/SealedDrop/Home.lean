import SealedDrop.Error
import SealedDrop.Path

/-!
# Home directories

Paths may begin with a tilde that stands for the home directory of the user.

## The model

Only a tilde alone or before a slash is expanded. A tilde before anything else would name another user's directory and
is refused; a path without a leading tilde stands for itself.
-/

namespace SealedDrop.Home

/-- The path with a leading tilde replaced by the home directory. -/
def expand (home : Option String) (path : String) : Except Error String :=
  match path.toList with
  | '~' :: rest =>
    if rest = [] ∨ rest.head? = some '/' then
      match home with
      | none => .error (.invalidInput "Cannot determine home directory")
      | some home => if rest = [] then .ok home else .ok (Path.join home (String.ofList (rest.drop 1)))
    else .error (.invalidInput ("Cannot expand user-specific home directory in '" ++ path ++ "'"))
  | _ => .ok path

end SealedDrop.Home
