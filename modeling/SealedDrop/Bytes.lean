/-!
# Byte strings

A byte string is a list of bytes. This module holds the operations that the rest of the library needs on
them: reading and writing big-endian numbers, exclusive or, hexadecimal digits, cutting into blocks, and the
UTF-8 encoding of text together with its partial inverse.

## The model

* `Bytes.toNat` reads a byte string as a big-endian number; `Bytes.ofNat` writes a number in the fewest bytes
  and `Bytes.ofNatWidth` in exactly the given number of bytes, dropping what does not fit.
* `utf8` and `text?` convert between text and bytes: `text?` answers `none` on bytes that encode no text.
-/

namespace SealedDrop

/-- A string of bytes. -/
abbrev Bytes := List UInt8

namespace Bytes

/-! ### Numbers -/

/-- The number that a byte string denotes, most significant byte first. -/
def toNat (b : Bytes) : Nat :=
  b.foldl (fun n x => 256 * n + x.toNat) 0

/-- The last `width` base-256 digits of `n`, most significant first. -/
def ofNatWidth : Nat → Nat → Bytes
  | 0, _ => []
  | width + 1, n => ofNatWidth width (n / 256) ++ [UInt8.ofNat n]

@[simp] theorem length_ofNatWidth (width n : Nat) : (ofNatWidth width n).length = width := by
  induction width generalizing n with
  | zero => rfl
  | succ width ih => simp [ofNatWidth, ih]

/-- The number of base-256 digits of `n`; zero has none. -/
def widthOf (n : Nat) : Nat :=
  if n = 0 then 0 else n.log2 / 8 + 1

/-- The base-256 digits of `n`, most significant first and without leading zeros. -/
def ofNat (n : Nat) : Bytes :=
  ofNatWidth (widthOf n) n

/-! ### Combination and division -/

/-- Bytewise exclusive or, as long as the shorter of the two. -/
def xor (a b : Bytes) : Bytes :=
  List.zipWith (· ^^^ ·) a b

/-- Adding the same bytes twice gives the first operand back, if there are enough of them. -/
theorem xor_xor_cancel {a b : Bytes} (h : a.length ≤ b.length) : (a.xor b).xor b = a := by
  induction a generalizing b with
  | nil => rfl
  | cons x a ih =>
    cases b with
    | nil => simp at h
    | cons y b =>
      have := ih (b := b) (by simpa using h)
      simp only [xor, List.zipWith_cons_cons, UInt8.xor_assoc, UInt8.xor_self, UInt8.xor_zero] at this ⊢
      rw [this]

/-- Consecutive blocks of `size` bytes; the last one may be shorter. A size of zero gives one block. -/
def blocks (size : Nat) (b : Bytes) : List Bytes :=
  let rest := b.drop size
  if _h : size = 0 ∨ rest.isEmpty then
    if b.isEmpty then [] else [b]
  else
    b.take size :: blocks size rest
termination_by b.length
decreasing_by
  have : b.length ≠ 0 := by
    rintro h
    simp [rest, List.eq_nil_of_length_eq_zero h] at _h
  simp only [List.length_drop]
  omega

/-- Removes the bytes `start` at the front, if they stand there. -/
def dropStart? (start b : Bytes) : Option Bytes :=
  if start.isPrefixOf b then some (b.drop start.length) else none

/-- Removes the bytes `tail` at the end, if they stand there. -/
def dropEnd? (tail b : Bytes) : Option Bytes :=
  (dropStart? tail.reverse b.reverse).map List.reverse

/-! ### Hexadecimal digits -/

/-- The lowercase hexadecimal digit of a number below sixteen. -/
def hexDigit (n : Nat) : Char :=
  if n < 10 then Char.ofNat (48 + n) else Char.ofNat (87 + n)

/-- The value of a hexadecimal digit of either case. -/
def hexValue? (c : Char) : Option Nat :=
  if '0' ≤ c ∧ c ≤ '9' then some (c.toNat - 48)
  else if 'a' ≤ c ∧ c ≤ 'f' then some (c.toNat - 87)
  else if 'A' ≤ c ∧ c ≤ 'F' then some (c.toNat - 55)
  else none

/-- Two lowercase hexadecimal digits for every byte. -/
def toHex (b : Bytes) : String :=
  String.ofList (b.flatMap fun x => [hexDigit (x.toNat / 16), hexDigit (x.toNat % 16)])

end Bytes

/-! ### Text -/

/-- The UTF-8 encoding of a text. -/
def utf8 (s : String) : Bytes :=
  s.toUTF8.data.toList

/-- The text that the bytes encode in UTF-8, if they encode one. -/
def text? (b : Bytes) : Option String :=
  String.fromUTF8? ⟨b.toArray⟩

/-- Encoding and decoding a text gives it back. -/
@[simp] theorem text?_utf8 (s : String) : text? (utf8 s) = some s := by
  simp only [text?, utf8, String.toUTF8_eq_toByteArray, Array.toArray_toList, String.fromUTF8?, dif_pos s.isValidUTF8]
  rfl

end SealedDrop
