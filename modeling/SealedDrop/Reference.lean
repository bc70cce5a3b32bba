import SealedDrop.Checksum
import SealedDrop.ObjectId

/-!
# Object references

What one party hands to the other so that it can fetch an object: the identifier that the remote gave it, and the
checksum of the bytes exactly as they were transmitted.

## The model

The text form is the identifier, a colon and the checksum. Neither an identifier that `ObjectId.ofString` accepts nor a
checksum contains a colon, so the first colon separates them. `Reference.parse` ignores white space around the text.
-/

namespace SealedDrop

/-- An object identifier bound to the checksum of the transmitted bytes. -/
structure Reference where
  /-- The identifier of the object at the remote. -/
  objectId : ObjectId
  /-- The checksum of the bytes as transmitted. -/
  checksum : Checksum
deriving DecidableEq, Repr

namespace Reference

/-- The reference to transmitted bytes under an identifier. -/
def ofTransmitted (id : ObjectId) (transmitted : Bytes) : Reference :=
  ⟨id, .ofBytes transmitted⟩

/-- Whether downloaded bytes are those that were transmitted, as far as the checksum tells. -/
def verify (r : Reference) (downloaded : Bytes) : Bool :=
  r.checksum.isOf downloaded

/-- The text form. -/
def text (r : Reference) : String :=
  r.objectId.text ++ ":" ++ r.checksum.text

instance : ToString Reference where
  toString := text

/-- The parts of a text before and after its first colon. -/
def splitColon? (s : String) : Option (String × String) :=
  let l := s.toList
  let before := l.takeWhile (· ≠ ':')
  match l.drop before.length with
  | [] => none
  | _ :: after => some (String.ofList before, String.ofList after)

/-- The reference with this text form, white space around it aside. -/
def parse (s : String) : Except Error Reference := do
  let s := Text.trim s
  if s = "" then throw (.format "Object reference is empty")
  let some (id, checksum) := splitColon? s
    | throw (.format "Object reference must look like <object>:<checksum>")
  match ObjectId.ofString id with
  | .error e => throw (.format ("Invalid object id: " ++ e.message))
  | .ok id => return ⟨id, ← Checksum.parse checksum⟩

end Reference

end SealedDrop
