import SealedDrop.Bytes

/-!
# Base64

Writes bytes as text, three bytes to four symbols, and reads the one canonical spelling back.

## The model

* An `Alphabet` gives every number below 64 its symbol; there is the standard one and the one for URLs.
* `encode` fills the last group with padding. `decode` accepts exactly what `encode` writes: padding must be present
  and complete, and bits that encode nothing must be zero.
* `DecodeError` names what is wrong and where. A symbol that is out of place is reported at the first such place; a
  lone last symbol outside the alphabet is reported before anything else.
-/

namespace SealedDrop.Base64

/-- The two alphabets. -/
inductive Alphabet where
  /-- With plus sign and slash. -/
  | standard
  /-- With hyphen and underscore, for use in URLs. -/
  | urlSafe
deriving DecidableEq, Repr

namespace Alphabet

/-- The symbol of the number 62. -/
def symbol62 : Alphabet → UInt8
  | standard => 0x2B
  | urlSafe => 0x2D

/-- The symbol of the number 63. -/
def symbol63 : Alphabet → UInt8
  | standard => 0x2F
  | urlSafe => 0x5F

/-- The symbol of a number below 64. -/
def symbol (a : Alphabet) (n : Nat) : UInt8 :=
  if n < 26 then UInt8.ofNat (65 + n)
  else if n < 52 then UInt8.ofNat (71 + n)
  else if n < 62 then UInt8.ofNat (n - 4)
  else if n = 62 then a.symbol62
  else a.symbol63

/-- The number of a symbol. -/
def value? (a : Alphabet) (b : UInt8) : Option Nat :=
  if 65 ≤ b ∧ b ≤ 90 then some (b.toNat - 65)
  else if 97 ≤ b ∧ b ≤ 122 then some (b.toNat - 71)
  else if 48 ≤ b ∧ b ≤ 57 then some (b.toNat + 4)
  else if b = a.symbol62 then some 62
  else if b = a.symbol63 then some 63
  else none

end Alphabet

/-- The padding symbol. -/
def pad : UInt8 := 0x3D

/-- The base64 text of bytes, as bytes of ASCII. -/
def encode (a : Alphabet) : Bytes → Bytes
  | [] => []
  | [x] =>
    let n := x.toNat * 16
    [a.symbol (n / 64), a.symbol (n % 64), pad, pad]
  | [x, y] =>
    let n := (x.toNat * 256 + y.toNat) * 4
    [a.symbol (n / 4096), a.symbol (n / 64 % 64), a.symbol (n % 64), pad]
  | x :: y :: z :: rest =>
    let n := (x.toNat * 256 + y.toNat) * 256 + z.toNat
    a.symbol (n / 262144) :: a.symbol (n / 4096 % 64) :: a.symbol (n / 64 % 64) :: a.symbol (n % 64) :: encode a rest

/-- The base64 text of bytes. -/
def encodeText (a : Alphabet) (b : Bytes) : String :=
  String.ofList ((encode a b).map fun x => Char.ofNat x.toNat)

/-! ### Reading -/

/-- Why a text is not base64. -/
inductive DecodeError where
  /-- A byte that cannot stand at this offset. -/
  | invalidSymbol (offset : Nat) (byte : UInt8)
  /-- The symbols end after one of a group, at this length. -/
  | invalidLength (length : Nat)
  /-- The last symbol, at this offset, has bits that encode nothing. -/
  | invalidLastSymbol (offset : Nat) (byte : UInt8)
  /-- Padding is missing or incomplete. -/
  | invalidPadding
deriving DecidableEq, Repr

/-- What is wrong, in words. -/
def DecodeError.message : DecodeError → String
  | invalidSymbol offset byte => "Invalid symbol " ++ toString byte.toNat ++ ", offset " ++ toString offset ++ "."
  | invalidLength length => "Invalid input length: " ++ toString length
  | invalidLastSymbol offset byte =>
    "Invalid last symbol " ++ toString byte.toNat ++ ", offset " ++ toString offset ++ "."
  | invalidPadding => "Invalid padding"

/-- The number of the symbol at an offset. -/
def symbolAt (a : Alphabet) (offset : Nat) (b : UInt8) : Except DecodeError Nat :=
  match a.value? b with
  | some n => .ok n
  | none => .error (.invalidSymbol offset b)

/-- Splits the last group, which begins at `offset`, into the numbers of its symbols and the count of its padding.
`place` counts the symbols before the rest, and `padding` tells where the padding begins, if it has begun. -/
def lastSymbols (a : Alphabet) (offset place : Nat) (padding : Option Nat) :
    Bytes → Except DecodeError (List Nat × Nat)
  | [] => .ok ([], 0)
  | b :: rest =>
    if b = pad then
      if place < 2 then .error (.invalidSymbol (offset + place) b)
      else do
        let (numbers, pads) ← lastSymbols a offset (place + 1) (some (padding.getD place)) rest
        return (numbers, pads + 1)
    else
      match padding with
      | some start => .error (.invalidSymbol (offset + start) pad)
      | none => do
        let n ← symbolAt a (offset + place) b
        let (numbers, pads) ← lastSymbols a offset (place + 1) none rest
        return (n :: numbers, pads)

/-- The bytes of the last group, which begins at `offset`. -/
def decodeLast (a : Alphabet) (offset : Nat) (group : Bytes) : Except DecodeError Bytes := do
  let (numbers, pads) ← lastSymbols a offset 0 none group
  let count := numbers.length
  if group ≠ [] ∧ count < 2 then throw (.invalidLength (offset + count))
  if (count + pads) % 4 ≠ 0 then throw .invalidPadding
  let size := count * 6 / 8
  let n := numbers.foldl (fun n x => 64 * n + x) 0
  let spare := count * 6 - size * 8
  if n % Nat.pow 2 spare ≠ 0 then throw (.invalidLastSymbol (offset + count - 1) (group.getD (count - 1) 0))
  return Bytes.ofNatWidth size (n / Nat.pow 2 spare)

/-- The bytes of the groups from `offset` on; all but the last are complete. -/
def decodeGroups (a : Alphabet) (offset : Nat) : Bytes → Except DecodeError Bytes
  | x :: y :: z :: w :: v :: rest => do
    let nx ← symbolAt a offset x
    let ny ← symbolAt a (offset + 1) y
    let nz ← symbolAt a (offset + 2) z
    let nw ← symbolAt a (offset + 3) w
    let bytes ← decodeGroups a (offset + 4) (v :: rest)
    return Bytes.ofNatWidth 3 (((nx * 64 + ny) * 64 + nz) * 64 + nw) ++ bytes
  | group => decodeLast a offset group

/-- The byte after the last whole group, if it stands alone and is no symbol. -/
def strayLast? (a : Alphabet) (text : Bytes) : Option UInt8 :=
  if text.length % 4 = 1 then
    match text.getLast? with
    | some b => if b ≠ pad ∧ a.value? b = none then some b else none
    | none => none
  else none

/-- The bytes that a canonical base64 text encodes. -/
def decode (a : Alphabet) (text : Bytes) : Except DecodeError Bytes :=
  match strayLast? a text with
  | some b => .error (.invalidSymbol (text.length - 1) b)
  | none => decodeGroups a 0 text

end SealedDrop.Base64
