import SealedDrop.Bytes

/-!
# The SHA-2 hash functions

SHA-256 and SHA-512 as two members of one family, which differ in the width of their words, in their rotations and in
the number of their rounds.

## The model

* `Sha2 ω` holds what tells a member apart, over the type `ω` of its words.
* A message is padded to whole blocks of sixteen words (`Sha2.pad`), each block is stretched to one word for every
  round (`Sha2.schedule`), and the rounds stir the words into a state of eight (`Sha2.compress`).
* The constants are the leading fractional bits of roots of primes, as `fractionalRoot` computes them: square roots
  for the initial state and cube roots for the rounds.
-/

namespace SealedDrop.Hash

/-! ### Constants -/

/-- The primes below `bound`, in order. -/
def primesBelow (bound : Nat) : List Nat :=
  (List.range bound).filter fun n => 2 ≤ n && (List.range n).all fun d => d < 2 || n % d != 0

/-- The greatest number below `2 ^ bits + r` and not below `r` whose `degree`-th power is at most `n`, if that of `r` is. -/
def rootFrom (degree n : Nat) : Nat → Nat → Nat
  | 0, r => r
  | bits + 1, r =>
    let r' := r + Nat.pow 2 bits
    rootFrom degree n bits (if Nat.pow r' degree ≤ n then r' else r)

/-- The first 64 fractional bits of the `degree`-th root of `n`, for a root below 256. -/
def fractionalRoot (degree n : Nat) : Nat :=
  rootFrom degree (n * Nat.pow 2 (64 * degree)) 72 0 % Nat.pow 2 64

/-- The first 64 fractional bits of the cube roots of the first eighty primes. -/
def cubeRoots : List Nat :=
  (primesBelow 410).map (fractionalRoot 3)

/-- The first 64 fractional bits of the square roots of the first eight primes. -/
def squareRoots : List Nat :=
  (primesBelow 20).map (fractionalRoot 2)

/-! ### The family -/

/-- The eight words that the rounds stir. -/
structure Sha2.State (ω : Type) where
  /-- The first word. -/
  a : ω
  /-- The second word. -/
  b : ω
  /-- The third word. -/
  c : ω
  /-- The fourth word. -/
  d : ω
  /-- The fifth word. -/
  e : ω
  /-- The sixth word. -/
  f : ω
  /-- The seventh word. -/
  g : ω
  /-- The eighth word. -/
  h : ω

/-- What tells a member of the family apart. -/
structure Sha2 (ω : Type) where
  /-- The number of bytes in a word. -/
  wordSize : Nat
  /-- The word with these low bits. -/
  ofNat : Nat → ω
  /-- The number that a word denotes. -/
  toNat : ω → Nat
  /-- The mixing of the first word of the state. -/
  stir₀ : ω → ω
  /-- The mixing of the fifth word of the state. -/
  stir₁ : ω → ω
  /-- The mixing of an early word of the schedule. -/
  stretch₀ : ω → ω
  /-- The mixing of a late word of the schedule. -/
  stretch₁ : ω → ω
  /-- One constant for every round. -/
  constants : List ω
  /-- The state before the first block. -/
  initial : Sha2.State ω

namespace Sha2

variable {ω : Type}

/-- The number of bytes in a block. -/
def blockSize (h : Sha2 ω) : Nat :=
  16 * h.wordSize

/-- The message, a set bit, the fewest zeros that fill the last block, and the length of the message in bits. -/
def pad (h : Sha2 ω) (message : Bytes) : Bytes :=
  let filled := (message.length + 1 + 2 * h.wordSize) % h.blockSize
  let zeros := (h.blockSize - filled) % h.blockSize
  message ++ 0x80 :: List.replicate zeros 0 ++ Bytes.ofNatWidth (2 * h.wordSize) (8 * message.length)

variable [Add ω] [AndOp ω] [XorOp ω] [Complement ω]

/-- The word that follows sixteen words of the schedule. -/
def nextWord (h : Sha2 ω) (window : List ω) : ω :=
  let word := fun i => window.getD i (h.ofNat 0)
  h.stretch₁ (word 14) + word 9 + h.stretch₀ (word 1) + word 0

/-- The next `n` words of the schedule, of which the first sixteen are given. -/
def schedule (h : Sha2 ω) : Nat → List ω → List ω
  | n + 1, w :: window => w :: schedule h n (window ++ [nextWord h (w :: window)])
  | _, _ => []

/-- One round, with its constant and its word of the schedule. -/
def round (h : Sha2 ω) (s : State ω) (step : ω × ω) : State ω :=
  let choice := (s.e &&& s.f) ^^^ (~~~s.e &&& s.g)
  let majority := (s.a &&& s.b) ^^^ (s.a &&& s.c) ^^^ (s.b &&& s.c)
  let t₁ := s.h + h.stir₁ s.e + choice + step.1 + step.2
  let t₂ := h.stir₀ s.a + majority
  ⟨t₁ + t₂, s.a, s.b, s.c, s.d + t₁, s.e, s.f, s.g⟩

/-- The state after a block. -/
def compress (h : Sha2 ω) (s : State ω) (block : Bytes) : State ω :=
  let words := (block.blocks h.wordSize).map fun b => h.ofNat b.toNat
  let t := (h.constants.zip (schedule h h.constants.length words)).foldl (round h) s
  ⟨s.a + t.a, s.b + t.b, s.c + t.c, s.d + t.d, s.e + t.e, s.f + t.f, s.g + t.g, s.h + t.h⟩

/-- The hash of a message. -/
def digest (h : Sha2 ω) (message : Bytes) : Bytes :=
  let s := ((pad h message).blocks h.blockSize).foldl (compress h) h.initial
  [s.a, s.b, s.c, s.d, s.e, s.f, s.g, s.h].flatMap fun w => Bytes.ofNatWidth h.wordSize (h.toNat w)

end Sha2

/-! ### SHA-256 -/

/-- Rotation to the right, by more than no and less than all bits. -/
def rotate₃₂ (x n : UInt32) : UInt32 :=
  (x >>> n) ||| (x <<< (32 - n))

/-- The word of 32 bits at place `i` of a list of 64-bit numbers: their upper half. -/
def upperHalf (l : List Nat) (i : Nat) : UInt32 :=
  UInt32.ofNat (l.getD i 0 / Nat.pow 2 32)

/-- The member with words of 32 bits and 64 rounds. -/
def sha256Member : Sha2 UInt32 where
  wordSize := 4
  ofNat := UInt32.ofNat
  toNat := UInt32.toNat
  stir₀ x := rotate₃₂ x 2 ^^^ rotate₃₂ x 13 ^^^ rotate₃₂ x 22
  stir₁ x := rotate₃₂ x 6 ^^^ rotate₃₂ x 11 ^^^ rotate₃₂ x 25
  stretch₀ x := rotate₃₂ x 7 ^^^ rotate₃₂ x 18 ^^^ (x >>> 3)
  stretch₁ x := rotate₃₂ x 17 ^^^ rotate₃₂ x 19 ^^^ (x >>> 10)
  constants := (List.range 64).map (upperHalf cubeRoots)
  initial :=
    let word := upperHalf squareRoots
    ⟨word 0, word 1, word 2, word 3, word 4, word 5, word 6, word 7⟩

/-- The SHA-256 digest, of 32 bytes. -/
def sha256 (message : Bytes) : Bytes :=
  sha256Member.digest message

/-! ### SHA-512 -/

/-- Rotation to the right, by more than no and less than all bits. -/
def rotate₆₄ (x n : UInt64) : UInt64 :=
  (x >>> n) ||| (x <<< (64 - n))

/-- The member with words of 64 bits and 80 rounds. -/
def sha512Member : Sha2 UInt64 where
  wordSize := 8
  ofNat := UInt64.ofNat
  toNat := UInt64.toNat
  stir₀ x := rotate₆₄ x 28 ^^^ rotate₆₄ x 34 ^^^ rotate₆₄ x 39
  stir₁ x := rotate₆₄ x 14 ^^^ rotate₆₄ x 18 ^^^ rotate₆₄ x 41
  stretch₀ x := rotate₆₄ x 1 ^^^ rotate₆₄ x 8 ^^^ (x >>> 7)
  stretch₁ x := rotate₆₄ x 19 ^^^ rotate₆₄ x 61 ^^^ (x >>> 6)
  constants := cubeRoots.map UInt64.ofNat
  initial :=
    let word := fun i => UInt64.ofNat (squareRoots.getD i 0)
    ⟨word 0, word 1, word 2, word 3, word 4, word 5, word 6, word 7⟩

/-- The SHA-512 digest, of 64 bytes. -/
def sha512 (message : Bytes) : Bytes :=
  sha512Member.digest message

/-! ### Widths -/

@[simp] theorem length_sha256 (message : Bytes) : (sha256 message).length = 32 := by
  simp [sha256, Sha2.digest, sha256Member]

@[simp] theorem length_sha512 (message : Bytes) : (sha512 message).length = 64 := by
  simp [sha512, Sha2.digest, sha512Member]

end SealedDrop.Hash
