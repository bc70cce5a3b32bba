import SealedDrop.Bytes

/-!
# Percent-encoding of path segments

Writes any byte string as one segment of a URL path and reads it back.

## The model

A byte that is an ASCII letter, a digit or one of `-`, `_`, `.` and `~` stands for itself; any other is written as a
percent sign and two uppercase hexadecimal digits. Decoding replaces every percent sign that two hexadecimal digits of
either case follow, and leaves all else as it is, so that it accepts every input.
-/

namespace SealedDrop.Text.Percent

/-- Whether a byte may stand unescaped in a path segment. -/
def isUnreserved (b : UInt8) : Bool :=
  (0x30 ≤ b && b ≤ 0x39) || (0x41 ≤ b && b ≤ 0x5A) || (0x61 ≤ b && b ≤ 0x7A) ||
    b == 0x2D || b == 0x5F || b == 0x2E || b == 0x7E

/-- The uppercase hexadecimal digit of a number below sixteen, as a byte. -/
def digit (n : UInt8) : UInt8 :=
  if n < 10 then 0x30 + n else 0x37 + n

/-- The value of a hexadecimal digit of either case. -/
def value? (b : UInt8) : Option UInt8 :=
  if 0x30 ≤ b ∧ b ≤ 0x39 then some (b - 0x30)
  else if 0x41 ≤ b ∧ b ≤ 0x46 then some (b - 0x37)
  else if 0x61 ≤ b ∧ b ≤ 0x66 then some (b - 0x57)
  else none

/-- The encoding of a byte. -/
def encodeByte (b : UInt8) : Bytes :=
  if isUnreserved b then [b] else [0x25, digit (b / 16), digit (b % 16)]

/-- The encoding of a byte string as a path segment. -/
def encode (b : Bytes) : Bytes :=
  b.flatMap encodeByte

/-- The byte string that a text of escapes and literal bytes stands for. -/
def decode : Bytes → Bytes
  | [] => []
  | [a] => [a]
  | [a, b] => [a, b]
  | a :: b :: c :: rest =>
    if a = 0x25 then
      match value? b, value? c with
      | some high, some low => (16 * high + low) :: decode rest
      | _, _ => a :: decode (b :: c :: rest)
    else a :: decode (b :: c :: rest)

/-- The encoding of a text as a path segment. -/
def encodeText (s : String) : String :=
  String.ofList ((encode (utf8 s)).map fun b => Char.ofNat b.toNat)

end SealedDrop.Text.Percent
