import SealedDrop.Der
import SealedDrop.Error
import SealedDrop.Pem
import SealedDrop.Rsa.Key

/-!
# Key files

RSA keys as text files: a sequence of integers in distinguished encoding, wrapped in a labelled block.

## The model

* A public key is its modulus and exponent. A private key is a zero for the version, the numbers of both halves, the
  two factors, and three numbers that speed up the private operation. Those three are computed when a key is written and
  ignored when it is read.
* A private key is not written if its factors have a common divisor, or if its numbers are too long for a reader.
* A reader accepts a key only if its numbers fit together. Which of the layers refused a file is not told.
-/

namespace SealedDrop.KeyFile

open Rsa

/-- The label of a private key. -/
def privateLabel : String := "RSA PRIVATE KEY"

/-- The label of a public key. -/
def publicLabel : String := "RSA PUBLIC KEY"

/-! ### Writing -/

/-- The file of a public key. -/
def publicText (k : PublicKey) : Bytes :=
  Pem.encode publicLabel (Der.sequence [k.modulus, k.exponent])

/-- The integers of a private key; there are none if its factors have a common divisor. -/
def privateIntegers? (k : PrivateKey) : Option (List Nat) :=
  (inverse? k.q k.p).map fun coefficient =>
    [0, k.toPublic.modulus, k.toPublic.exponent, k.exponent, k.p, k.q, k.exponent % (k.p - 1), k.exponent % (k.q - 1),
      coefficient]

/-- The file of a private key. -/
def privateText (k : PrivateKey) : Except Error Bytes :=
  match privateIntegers? k with
  | none => .error (.crypto "Failed to encode private key: the factors have a common divisor")
  | some l =>
    if Der.lengthLimit ≤ (Der.sequence l).length then .error (.crypto "Failed to encode private key: the numbers are too long")
    else .ok (Pem.encode privateLabel (Der.sequence l))

/-! ### Reading -/

/-- The public key in a labelled block. -/
def publicKey? (text : Bytes) : Option PublicKey := do
  match ← Der.sequence? 2 (← Pem.decode? publicLabel text) with
  | [modulus, exponent] =>
    let k : PublicKey := ⟨modulus, exponent⟩
    if k.IsUsable ∧ bitLength modulus ≤ PublicKey.modulusLimit then some k else none
  | _ => none

/-- The private key in a labelled block. -/
def privateKey? (text : Bytes) : Option PrivateKey := do
  match ← Der.sequence? 9 (← Pem.decode? privateLabel text) with
  | [version, modulus, exponent, d, p, q, _, _, _] =>
    let k : PrivateKey := ⟨⟨modulus, exponent⟩, d, p, q⟩
    if version = 0 ∧ k.IsUsable then some k else none
  | _ => none

/-- The public key in the contents of a file. -/
def readPublic (contents : Bytes) : Except Error PublicKey := do
  if (text? contents).isNone then throw (.crypto "Failed to decode pem bytes")
  match publicKey? contents with
  | none => throw (.crypto "Failed to parse public key: not a usable key")
  | some k => return k

/-- The private key in the contents of a file. -/
def readPrivate (contents : Bytes) : Except Error PrivateKey := do
  if (text? contents).isNone then throw (.crypto "Failed to decode pem bytes")
  match privateKey? contents with
  | none => throw (.crypto "Failed to parse private key: not a usable key")
  | some k => return k

end SealedDrop.KeyFile
