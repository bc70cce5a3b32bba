import SealedDrop.Json.Mismatch
import SealedDrop.KeyName
import SealedDrop.Reference

/-!
# Names and references in JSON

Key names and references are strings in JSON and are checked when they are read; an object identifier is taken as it is.
-/

namespace SealedDrop

open Json

/-- The key name that a JSON value is. -/
def KeyName.ofJson (v : Value) : Except String KeyName := do
  match KeyName.ofString (← v.toText "a string") with
  | .ok name => return name
  | .error e => throw e.message

/-- The object identifier that a JSON value is. -/
def ObjectId.ofJson (v : Value) : Except String ObjectId := do
  return ⟨← v.toText "a string"⟩

/-- The reference that a JSON value is. -/
def Reference.ofJson (v : Value) : Except String Reference := do
  match Reference.parse (← v.toText "a string") with
  | .ok r => return r
  | .error e => throw e.message

end SealedDrop
