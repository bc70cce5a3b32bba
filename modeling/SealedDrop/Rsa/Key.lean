import SealedDrop.Bytes
import SealedDrop.Rsa.Arithmetic

/-!
# RSA keys

Public and private keys, what makes them usable, and the two operations on numbers.

## The model

* A key is accepted if its numbers fit together: `PublicKey.IsUsable` and `PrivateKey.IsUsable`. That the two factors
  are prime is not checked; a key whose factors are not is caught by `PrivateKey.recover?`.
* `PrivateKey.recover?` works modulo each factor and combines the results; it then applies the public operation and
  compares, so that it never answers a wrong number.
-/

namespace SealedDrop.Rsa

/-- The number of binary digits of a number. -/
def bitLength (n : Nat) : Nat :=
  if n = 0 then 0 else n.log2 + 1

/-- A public key. -/
structure PublicKey where
  /-- The modulus. -/
  modulus : Nat
  /-- The public exponent. -/
  exponent : Nat
deriving DecidableEq, Repr

namespace PublicKey

/-- The greatest public exponent in use. -/
def exponentLimit : Nat := Nat.pow 2 33 - 1

/-- The greatest length in bits of a modulus that is accepted in a public key. -/
def modulusLimit : Nat := 4096

/-- The numbers fit together: both are odd, and the exponent lies between 2 and its limit and below the modulus. -/
def IsUsable (k : PublicKey) : Prop :=
  k.exponent < k.modulus ∧ k.modulus % 2 = 1 ∧ k.exponent % 2 = 1 ∧ 2 ≤ k.exponent ∧ k.exponent ≤ exponentLimit

instance (k : PublicKey) : Decidable k.IsUsable :=
  inferInstanceAs (Decidable (_ ∧ _))

/-- The number of bytes of the modulus, which is that of a ciphertext. -/
def size (k : PublicKey) : Nat :=
  Bytes.widthOf k.modulus

/-- The public operation. -/
def apply (k : PublicKey) (m : Nat) : Nat :=
  modPow m k.exponent k.modulus

end PublicKey

/-- A private key with two factors. -/
structure PrivateKey where
  /-- The public half. -/
  toPublic : PublicKey
  /-- The private exponent. -/
  exponent : Nat
  /-- The first factor of the modulus. -/
  p : Nat
  /-- The second factor of the modulus. -/
  q : Nat
deriving DecidableEq, Repr

namespace PrivateKey

/-- The numbers fit together: the factors give the modulus, and the exponents undo each other modulo one less than
either factor. -/
def IsUsable (k : PrivateKey) : Prop :=
  k.toPublic.IsUsable ∧ 2 ≤ k.p ∧ 2 ≤ k.q ∧ k.p * k.q = k.toPublic.modulus ∧ 0 < k.exponent ∧
    (k.exponent * k.toPublic.exponent - 1) % (k.p - 1) = 0 ∧ (k.exponent * k.toPublic.exponent - 1) % (k.q - 1) = 0

instance (k : PrivateKey) : Decidable k.IsUsable :=
  inferInstanceAs (Decidable (_ ∧ _))

/-- The private operation: modulo each factor and combined, or directly if the factors have a common divisor. -/
def invert (k : PrivateKey) (c : Nat) : Nat :=
  match inverse? k.q k.p with
  | none => modPow c k.exponent k.toPublic.modulus
  | some coefficient =>
    let atP := modPow c (k.exponent % (k.p - 1)) k.p
    let atQ := modPow c (k.exponent % (k.q - 1)) k.q
    atQ + (atP + (k.p - atQ % k.p)) * coefficient % k.p * k.q

/-- The number that the public operation takes to `c`, if the private operation finds one. -/
def recover? (k : PrivateKey) (c : Nat) : Option Nat :=
  let m := k.invert c
  if k.toPublic.apply m = c then some m else none

/-- What is shown of a private key where its numbers must not appear. -/
def redacted (_ : PrivateKey) : String :=
  "KeyPair([REDACTED])"

end PrivateKey

end SealedDrop.Rsa
