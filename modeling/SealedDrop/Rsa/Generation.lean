import SealedDrop.Rsa.Key
import SealedDrop.Session.Effect

/-!
# Generating RSA keys

Draws two random primes and makes a key pair of them.

## The model

* A candidate for a prime has its two highest bits and its lowest bit set, so that the product of two candidates is as long
  as both together. `isProbablePrime` tests it with small divisors and with Miller and Rabin's criterion for fixed bases.
* The loops are bounded by a number of draws that is never reached in practice; a key that is too short for two primes, or
  shorter than its public exponent, is refused outright.
-/

namespace SealedDrop.Rsa.Generation

/-- The public exponent of generated keys. -/
def publicExponent : Nat := 65537

/-- The bases of the primality test. -/
def bases : List Nat :=
  [2, 3, 5, 7, 11, 13, 17, 19, 23, 29, 31, 37, 41, 43, 47, 53, 59, 61, 67, 71]

/-- Whether some of the next `n` squarings of `x` gives one less than the modulus. -/
def reachesMinusOne (modulus : Nat) : Nat → Nat → Bool
  | 0, _ => false
  | n + 1, x => x == modulus - 1 || reachesMinusOne modulus n (x * x % modulus)

/-- How often a positive number can be halved. -/
def twos (n : Nat) : Nat :=
  if n = 0 ∨ n % 2 = 1 then 0 else twos (n / 2) + 1

/-- Whether an odd number passes Miller and Rabin's criterion for a base. -/
def passes (n base : Nat) : Bool :=
  let s := twos (n - 1)
  let x := modPow base ((n - 1) / Nat.pow 2 s) n
  x == 1 || reachesMinusOne n s x

/-- Whether a number is prime, as far as the test tells. -/
def isProbablePrime (n : Nat) : Bool :=
  2 ≤ n && bases.all (fun b => n % b != 0 || n == b) && bases.all fun b => b % n == 0 || passes n b

/-- The number of draws after which the search for a prime of this length is given up. -/
def drawLimit (bits : Nat) : Nat :=
  1000 + 200 * bits

/-- The candidate of this length that random bytes give. -/
def candidate (bits : Nat) (random : Bytes) : Nat :=
  let low := random.toNat % Nat.pow 2 (bits - 2)
  (3 * Nat.pow 2 (bits - 2) + low) ||| 1

/-- A random prime of this length, within a number of draws. -/
def prime? (bits : Nat) : Nat → Session (Option Nat)
  | 0 => .done none
  | draws + 1 =>
    .perform (.draw ((bits + 7) / 8)) fun random =>
      let n := candidate bits random.val
      if isProbablePrime n then .done (some n) else prime? bits draws

/-- The key pair of two different primes, if the public exponent is invertible for it. -/
def keyOfPrimes? (p q : Nat) : Option PrivateKey :=
  if p = q then none
  else (inverse? publicExponent ((p - 1) * (q - 1))).map fun d => ⟨⟨p * q, publicExponent⟩, d, p, q⟩

/-- A random key pair with a modulus of this length, within a number of tries. -/
def key? (bits : Nat) : Nat → Session (Option PrivateKey)
  | 0 => .done none
  | tries + 1 =>
    (prime? (bits / 2) (drawLimit bits)).bind fun p =>
      (prime? (bits - bits / 2) (drawLimit bits)).bind fun q =>
        match p.bind fun p => q.bind fun q => keyOfPrimes? p q with
        | some k => if bitLength k.toPublic.modulus = bits then .done (some k) else key? bits tries
        | none => key? bits tries

/-- The least length of a modulus for which there are enough primes. -/
def leastLength : Nat := 12

/-- The complaint of a failed generation. -/
def failed (why : String) : Error :=
  .crypto ("Failed generating private key: " ++ why)

/-- A random key pair with a modulus of this length. -/
def generate (bits : Nat) : Op PrivateKey := do
  let tooFew := failed "too few primes of given length to generate an RSA key"
  if bits < leastLength then throw tooFew
  match ← ExceptT.lift (key? bits 100) with
  | none => throw tooFew
  | some k => if k.IsUsable then return k else throw (failed "invalid modulus")

end SealedDrop.Rsa.Generation
