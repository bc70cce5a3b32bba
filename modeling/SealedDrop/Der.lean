import SealedDrop.Bytes

/-!
# Distinguished encoding

The two kinds of ASN.1 values that key files consist of: nonnegative integers, and sequences of them.

## The model

* A value is a tag, a length and contents. A length below 128 is one byte; a longer one is the count of its bytes, with
  the high bit set, and the fewest bytes that hold it, at most four of them and below `2 ^ 28`.
* An integer is its fewest big-endian bytes, with a zero byte in front if the first one has its high bit set; zero is one
  zero byte. The readers accept only what the writers produce.
-/

namespace SealedDrop.Der

/-- The tag of an integer. -/
def integerTag : UInt8 := 0x02

/-- The tag of a sequence. -/
def sequenceTag : UInt8 := 0x30

/-- No contents are this long. -/
def lengthLimit : Nat := Nat.pow 2 28

/-! ### Writing -/

/-- The encoding of a length. -/
def length (n : Nat) : Bytes :=
  if n < 128 then [UInt8.ofNat n]
  else UInt8.ofNat (128 + Bytes.widthOf n) :: Bytes.ofNat n

/-- The encoding of a value with these contents. -/
def value (tag : UInt8) (contents : Bytes) : Bytes :=
  tag :: length contents.length ++ contents

/-- The contents of an integer. -/
def integerContents (n : Nat) : Bytes :=
  match Bytes.ofNat n with
  | [] => [0]
  | b :: rest => if b < 0x80 then b :: rest else 0 :: b :: rest

/-- The encoding of an integer. -/
def integer (n : Nat) : Bytes :=
  value integerTag (integerContents n)

/-- The encoding of a sequence of integers. -/
def sequence (l : List Nat) : Bytes :=
  value sequenceTag (l.flatMap integer)

/-! ### Reading -/

/-- Splits off a length. -/
def length? : Bytes → Option (Nat × Bytes)
  | [] => none
  | b :: rest =>
    if b < 0x80 then some (b.toNat, rest)
    else
      let count := b.toNat - 128
      let digits := rest.take count
      let n := Bytes.toNat digits
      if 1 ≤ count ∧ count ≤ 4 ∧ digits.length = count ∧ Bytes.ofNat n = digits ∧ 128 ≤ n ∧ n < lengthLimit then
        some (n, rest.drop count)
      else none

/-- Splits off a value with a tag, into its contents and what follows. -/
def value? (tag : UInt8) : Bytes → Option (Bytes × Bytes)
  | [] => none
  | b :: rest => do
    if b ≠ tag then none
    let (n, rest) ← length? rest
    if rest.length < n then none
    return (rest.take n, rest.drop n)

/-- The number that the contents of an integer denote. -/
def integerContents? (b : Bytes) : Option Nat :=
  if integerContents b.toNat = b then some b.toNat else none

/-- Splits off an integer. -/
def integer? (b : Bytes) : Option (Nat × Bytes) := do
  let (contents, rest) ← value? integerTag b
  return (← integerContents? contents, rest)

/-- Reads exactly `count` integers. -/
def integers? : Nat → Bytes → Option (List Nat)
  | 0, b => if b.isEmpty then some [] else none
  | count + 1, b => do
    let (n, rest) ← integer? b
    return n :: (← integers? count rest)

/-- Reads a sequence of exactly `count` integers, after which nothing follows. -/
def sequence? (count : Nat) (b : Bytes) : Option (List Nat) := do
  let (contents, rest) ← value? sequenceTag b
  if rest.isEmpty then integers? count contents else none

end SealedDrop.Der
