import SealedDrop.Json.Tree

/-!
# Bodies of requests

Reads the fields of a JSON request body, all of which are strings.

## The model

A body is an object with every field once, among any others, or an array of the fields in order. What other members hold is
skipped without being decoded; their names must be text.
-/

namespace SealedDrop.Remote

open Json

/-- The text that a tree is. -/
def textOf? : Tree → Option String
  | .string raw => decodeString? raw
  | _ => none

/-- The text of the only member with this name. -/
def onlyMember? (members : List (String × Tree)) (name : String) : Option String :=
  match members.filter (·.1 == name) with
  | [(_, t)] => textOf? t
  | _ => none

/-- The texts of the fields with these names, in order. -/
def fields? (names : List String) (body : Bytes) : Option (List String) := do
  match ← Tree.parse? body with
  | .object members =>
    let members ← members.mapM fun (name, t) => do return (← decodeString? name, t)
    names.mapM (onlyMember? members)
  | .array items => if items.length = names.length then items.mapM textOf? else none
  | _ => none

end SealedDrop.Remote
