import SealedDrop.Error
import SealedDrop.Rsa.Oaep
import SealedDrop.Text.Blank

/-!
# Bearer tokens

The credential for one request, and how it travels: encrypted to the public key of the one who asked for it.

## The model

A token is a text that can stand in a header: not empty and free of control characters. `BearerToken.decrypt` is the
only reader and refuses anything else; `BearerToken.encrypt` encrypts any bytes, as a remote does.
-/

namespace SealedDrop

/-- A credential for one request. -/
structure BearerToken where
  /-- The token as text. -/
  text : String
deriving DecidableEq

namespace BearerToken

/-- The label that binds a ciphertext to its use as a token. -/
def label : Bytes := utf8 "dead-drop-token"

/-- The number of random bytes in a ciphertext. -/
def seedSize : Nat := Rsa.Oaep.hashSize

/-- The token can stand in a header. -/
def IsHeaderValue (s : String) : Prop :=
  s ≠ "" ∧ s.toList.any Text.isControl = false

instance (s : String) : Decidable (IsHeaderValue s) :=
  inferInstanceAs (Decidable (_ ∧ _))

/-- The ciphertext of a token, under a seed. -/
def encrypt (k : Rsa.PublicKey) (seed token : Bytes) : Except Error Bytes :=
  match Rsa.Oaep.encrypt k label seed token with
  | .error e => .error (.crypto ("Token encryption failed: " ++ e.message))
  | .ok ciphertext => .ok ciphertext

/-- The token in a ciphertext. -/
def decrypt (k : Rsa.PrivateKey) (ciphertext : Bytes) : Except Error BearerToken := do
  match Rsa.Oaep.decrypt k label ciphertext with
  | .error e => throw (.tokenDecrypt e.message)
  | .ok plain =>
    let some s := text? plain | throw (.tokenDecrypt "Token is not valid UTF-8")
    if ¬ IsHeaderValue s then throw (.tokenDecrypt "Token is not a valid header value")
    return ⟨s⟩

/-- What is shown of a token where its value must not appear. -/
def redacted (_ : BearerToken) : String :=
  "BearerToken([REDACTED])"

end BearerToken

end SealedDrop
