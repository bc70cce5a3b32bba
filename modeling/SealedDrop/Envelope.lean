import SealedDrop.Cipher.CounterMode
import SealedDrop.Error
import SealedDrop.Hash.Hmac

/-!
# Envelopes

The form in which an object leaves the machine: encrypted, and authenticated as a whole.

## The model

* An envelope is an initialisation vector of 16 bytes, the encrypted payload, and a tag of 32 bytes over both.
* Cipher and tag use keys of their own (`SubKeys`), derived from the shared key under different labels, so that the
  shared key may have any length but zero.
* `decrypt` compares the tag before it decrypts anything.
-/

namespace SealedDrop.Envelope

/-- The number of bytes of an initialisation vector. -/
def ivSize : Nat := 16

/-- The number of bytes of a tag. -/
def tagSize : Nat := 32

/-- The label under which the cipher key is derived. -/
def cipherLabel : Bytes := utf8 "dead-drop/v1/aes-256-ctr"

/-- The label under which the authentication key is derived. -/
def tagLabel : Bytes := utf8 "dead-drop/v1/hmac-sha-256"

/-- The keys of a single operation. -/
structure SubKeys where
  /-- The key of the cipher. -/
  cipher : Bytes
  /-- The key of the tag. -/
  tag : Bytes

namespace SubKeys

/-- Derives both keys from a shared key, which must not be empty. -/
def derive (key : Bytes) : Except Error SubKeys :=
  if key.isEmpty then .error (.crypto "Encryption key is empty")
  else .ok ⟨Hash.derive key cipherLabel 32, Hash.derive key tagLabel 32⟩

/-- The tag of an initialisation vector and an encrypted payload. -/
def tagOf (keys : SubKeys) (body : Bytes) : Bytes :=
  Hash.hmac keys.tag body

/-- The envelope of a plaintext. -/
def encrypt (keys : SubKeys) (iv plaintext : Bytes) : Bytes :=
  let body := iv ++ Cipher.CounterMode.apply keys.cipher iv plaintext
  body ++ keys.tagOf body

end SubKeys

/-- The envelope of a plaintext under a shared key and an initialisation vector. -/
def encrypt (key iv plaintext : Bytes) : Except Error Bytes := do
  let keys ← SubKeys.derive key
  return keys.encrypt iv plaintext

/-- The plaintext in an envelope, if the envelope is authentic under the shared key. -/
def decrypt (key envelope : Bytes) : Except Error Bytes := do
  if envelope.length < ivSize + tagSize then throw (.integrity "Envelope too short")
  let keys ← SubKeys.derive key
  let body := envelope.take (envelope.length - tagSize)
  let tag := envelope.drop (envelope.length - tagSize)
  if keys.tagOf body ≠ tag then throw (.integrity "Authentication tag mismatch, envelope was modified")
  return Cipher.CounterMode.apply keys.cipher (body.take ivSize) (body.drop ivSize)

end SealedDrop.Envelope
