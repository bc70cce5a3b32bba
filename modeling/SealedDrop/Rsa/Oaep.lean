import SealedDrop.Hash.Sha2
import SealedDrop.Rsa.Key

/-!
# Optimal asymmetric encryption padding

Encrypts short messages to an RSA public key, with SHA-512 for the label and for the masks.

## The model

* `encode` spreads a message over the size of the modulus: a zero byte, the masked seed, and the masked data block of
  label hash, zeros, a one byte and the message. `decode?` undoes it and checks every part.
* `encrypt` refuses a message that does not fit. `decrypt` refuses a ciphertext of another size or of a number that is
  not below the modulus, and tells a failed private operation apart from bad padding.
-/

namespace SealedDrop.Rsa.Oaep

/-- The number of bytes of a hash, and of a seed. -/
def hashSize : Nat := 64

/-- The number of bytes by which a message must be shorter than the modulus. -/
def overhead : Nat := 2 * hashSize + 2

/-- The mask of `size` bytes that a seed generates. -/
def mask (seed : Bytes) (size : Nat) : Bytes :=
  ((List.range ((size + 63) / 64)).flatMap fun i => Hash.sha512 (seed ++ Bytes.ofNatWidth 4 i)).take size

/-- The padded message of `size` bytes. -/
def encode (size : Nat) (label seed message : Bytes) : Bytes :=
  let zeros := size - overhead - message.length
  let block := Hash.sha512 label ++ List.replicate zeros 0 ++ 0x01 :: message
  let maskedBlock := Bytes.xor block (mask seed block.length)
  let maskedSeed := Bytes.xor seed (mask maskedBlock hashSize)
  0 :: maskedSeed ++ maskedBlock

/-- The message in a padded message. -/
def decode? (label padded : Bytes) : Option Bytes :=
  match padded with
  | 0 :: rest =>
    let maskedBlock := rest.drop hashSize
    let seed := Bytes.xor (rest.take hashSize) (mask maskedBlock hashSize)
    let block := Bytes.xor maskedBlock (mask seed maskedBlock.length)
    if block.take hashSize = Hash.sha512 label then
      match (block.drop hashSize).dropWhile (· == 0) with
      | 0x01 :: message => some message
      | _ => none
    else none
  | _ => none

/-- Why an encryption or a decryption fails. -/
inductive Failure where
  /-- The message does not fit. -/
  | messageTooLong
  /-- The ciphertext has the wrong size, or its padding is wrong. -/
  | decryption
  /-- The private operation gave no preimage. -/
  | internal
deriving DecidableEq, Repr

/-- What failed, in words. -/
def Failure.message : Failure → String
  | messageTooLong => "message too long"
  | decryption => "decryption error"
  | internal => "internal error"

/-- The ciphertext of a message under a seed. -/
def encrypt (k : PublicKey) (label seed message : Bytes) : Except Failure Bytes :=
  if k.size < message.length + overhead then .error .messageTooLong
  else .ok (Bytes.ofNatWidth k.size (k.apply (encode k.size label seed message).toNat))

/-- The message in a ciphertext. -/
def decrypt (k : PrivateKey) (label ciphertext : Bytes) : Except Failure Bytes :=
  let size := k.toPublic.size
  let c := ciphertext.toNat
  if ciphertext.length ≠ size ∨ size < overhead ∨ k.toPublic.modulus ≤ c then .error .decryption
  else
    match k.recover? c with
    | none => .error .internal
    | some m =>
      match decode? label (Bytes.ofNatWidth size m) with
      | none => .error .decryption
      | some message => .ok message

end SealedDrop.Rsa.Oaep
