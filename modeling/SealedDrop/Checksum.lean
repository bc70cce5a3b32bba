import SealedDrop.Base64
import SealedDrop.Error
import SealedDrop.Hash.Sha2

/-!
# Checksums

The SHA-256 digest of a transmitted envelope, as text.

## The model

A checksum is the URL-safe base64 text of a digest. `Checksum.parse` accepts exactly these texts: 44 bytes long,
canonical, and of 32 decoded bytes. Two checksums are compared as texts.
-/

namespace SealedDrop

/-- The text of a digest. -/
structure Checksum where
  /-- The base64 text. -/
  text : String
deriving DecidableEq, Repr

namespace Checksum

/-- The number of bytes in the text of a checksum. -/
def textSize : Nat := 44

/-- The checksum of bytes. -/
def ofBytes (b : Bytes) : Checksum :=
  ⟨Base64.encodeText .urlSafe (Hash.sha256 b)⟩

/-- The checksum with this text. -/
def parse (s : String) : Except Error Checksum := do
  let bytes := utf8 s
  if bytes.length ≠ textSize then
    throw (.format ("Checksum must be " ++ toString textSize ++ " characters, got " ++ toString bytes.length))
  match Base64.decode .urlSafe bytes with
  | .error e => throw (.format ("Invalid checksum encoding: " ++ e.message))
  | .ok digest =>
    if digest.length ≠ 32 then throw (.format "Checksum is not a SHA-256 digest")
    return ⟨s⟩

/-- Whether a checksum is that of the bytes. -/
def isOf (c : Checksum) (b : Bytes) : Bool :=
  c == ofBytes b

instance : ToString Checksum where
  toString c := c.text

end Checksum

end SealedDrop
