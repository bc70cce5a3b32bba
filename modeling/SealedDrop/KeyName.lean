import SealedDrop.Error
import SealedDrop.Text.Escape

/-!
# Key names

The name under which a public key is registered with the remote.

## The model

A key name begins with an ASCII letter or digit, continues with letters, digits, underscores, dots and hyphens, and
has at most 64 characters (`KeyName.Allowed`). The structure `KeyName` carries the proof, so that a name in hand is
always safe to send; `KeyName.ofString` is the only way to one and says which text it refuses.
-/

namespace SealedDrop

namespace KeyName

/-- Whether a character is an ASCII letter or digit. -/
def isAlphanumeric (c : Char) : Bool :=
  ('A' ≤ c && c ≤ 'Z') || ('a' ≤ c && c ≤ 'z') || ('0' ≤ c && c ≤ '9')

/-- Whether a character may stand in a key name after the first place. -/
def isLater (c : Char) : Bool :=
  isAlphanumeric c || c == '_' || c == '.' || c == '-'

/-- The characters form a key name: a letter or digit, then at most 63 characters of the wider class. -/
def Allowed : List Char → Prop
  | [] => False
  | c :: rest => isAlphanumeric c = true ∧ rest.all isLater = true ∧ rest.length ≤ 63

instance (l : List Char) : Decidable (Allowed l) :=
  match l with
  | [] => inferInstanceAs (Decidable False)
  | c :: rest => inferInstanceAs (Decidable (isAlphanumeric c = true ∧ rest.all isLater = true ∧ rest.length ≤ 63))

end KeyName

/-- The name of a registered public key. -/
structure KeyName where
  /-- The name as text. -/
  text : String
  /-- The text has the form of a key name. -/
  allowed : KeyName.Allowed text.toList
deriving DecidableEq

namespace KeyName

/-- The key name with this text, or a refusal that quotes the text in its escaped spelling. -/
def ofString (s : String) : Except Error KeyName :=
  if h : Allowed s.toList then .ok ⟨s, h⟩
  else .error (.invalidInput ("Invalid key name '" ++ Text.escape s ++ "'"))

instance : ToString KeyName where
  toString n := n.text

end KeyName

end SealedDrop
