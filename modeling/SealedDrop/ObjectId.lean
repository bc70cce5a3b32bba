import SealedDrop.Error
import SealedDrop.Text.Blank
import SealedDrop.Text.Escape
import SealedDrop.Text.Percent

/-!
# Object identifiers

The identifier that a remote gives to a stored object.

## The model

An identifier is opaque, but it is put into a URL path and into the text of a reference. `ObjectId.ofString` therefore
accepts only identifiers that are safe there (`ObjectId.Safe`): not empty, and free of colons, slashes, white space and
control characters. The type itself is any text, because a configuration format may name an object without this check.
-/

namespace SealedDrop

/-- The identifier of a stored object. -/
structure ObjectId where
  /-- The identifier as text. -/
  text : String
deriving DecidableEq, Repr

namespace ObjectId

/-- Whether a character would be misread in a reference or in a URL path. -/
def isRefused (c : Char) : Bool :=
  c == ':' || c == '/' || Text.isBlank c || Text.isControl c

/-- The text can stand in a reference and in a URL path: it is not empty and no character is refused. -/
def Safe (s : String) : Prop :=
  s ≠ "" ∧ s.toList.any isRefused = false

instance (s : String) : Decidable (Safe s) :=
  inferInstanceAs (Decidable (_ ∧ _))

/-- The identifier with this text, if the text is safe; a refusal quotes the text in its escaped spelling. -/
def ofString (s : String) : Except Error ObjectId :=
  if s = "" then .error (.invalidInput "ObjectId cannot be empty")
  else if s.toList.any isRefused then .error (.invalidInput ("Invalid object id '" ++ Text.escape s ++ "'"))
  else .ok ⟨s⟩

instance : ToString ObjectId where
  toString id := id.text

end ObjectId

end SealedDrop
