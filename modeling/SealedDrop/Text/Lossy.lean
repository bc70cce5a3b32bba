import SealedDrop.Bytes

/-!
# Decoding damaged text

Reads any byte string as text. Well-formed UTF-8 is decoded; every maximal piece that begins like the encoding of a
character and does not continue like one is read as a single replacement character.

## The model

`continuations` lists, for a leading byte, the ranges from which its continuation bytes must come; the ranges of the
second byte rule out overlong forms, surrogates and code points past the last plane. A byte that leads nothing has
no entry and is a piece of its own.
-/

namespace SealedDrop.Text

/-- The character that stands for bytes that encode none. -/
def replacement : Char := '\uFFFD'

/-- The ranges of the continuation bytes that a leading byte asks for, or `none` if it leads no character. -/
def continuations (b : UInt8) : Option (List (UInt8 × UInt8)) :=
  if b < 0x80 then some []
  else if b < 0xC2 then none
  else if b < 0xE0 then some [(0x80, 0xBF)]
  else if b = 0xE0 then some [(0xA0, 0xBF), (0x80, 0xBF)]
  else if b = 0xED then some [(0x80, 0x9F), (0x80, 0xBF)]
  else if b < 0xF0 then some [(0x80, 0xBF), (0x80, 0xBF)]
  else if b = 0xF0 then some [(0x90, 0xBF), (0x80, 0xBF), (0x80, 0xBF)]
  else if b < 0xF4 then some [(0x80, 0xBF), (0x80, 0xBF), (0x80, 0xBF)]
  else if b = 0xF4 then some [(0x80, 0x8F), (0x80, 0xBF), (0x80, 0xBF)]
  else none

/-- The longest start of the bytes that follows the ranges one by one. -/
def following : List (UInt8 × UInt8) → Bytes → Bytes
  | (lo, hi) :: ranges, b :: rest => if lo ≤ b ∧ b ≤ hi then b :: following ranges rest else []
  | _, _ => []

/-- The character with this leading byte and these continuation bytes. -/
def assemble (lead : UInt8) (tail : Bytes) : Char :=
  let high := match tail.length with
    | 0 => lead.toNat
    | 1 => lead.toNat % 0x20
    | 2 => lead.toNat % 0x10
    | _ => lead.toNat % 0x08
  Char.ofNat (tail.foldl (fun n b => 64 * n + b.toNat % 64) high)

/-- The characters of a byte string, with a replacement for every piece that encodes none. -/
def lossyChars : Bytes → List Char
  | [] => []
  | b :: rest =>
    match continuations b with
    | none => replacement :: lossyChars rest
    | some ranges =>
      let tail := following ranges rest
      let c := if tail.length = ranges.length then assemble b tail else replacement
      c :: lossyChars (rest.drop tail.length)
termination_by b => b.length
decreasing_by
  · simp
  · simp only [List.length_drop, List.length_cons]; omega

/-- The text of a byte string, with a replacement for every piece that encodes no character. -/
def lossy (b : Bytes) : String :=
  String.ofList (lossyChars b)

end SealedDrop.Text
