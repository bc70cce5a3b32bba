/-!
# Punycode

Reads the ASCII spelling of a label with characters beyond ASCII.

## The model

The literal characters come first, up to the last hyphen. Each further character is inserted at a place that a number of
variable length tells, together with the code point, relative to the insertion before it; the weights of the digits of such
a number adapt to the numbers read so far.
-/

namespace SealedDrop.Url.Punycode

/-- The value of a digit of base 36. -/
def digit? (c : Char) : Option Nat :=
  if 'a' ≤ c ∧ c ≤ 'z' then some (c.toNat - 97)
  else if 'A' ≤ c ∧ c ≤ 'Z' then some (c.toNat - 65)
  else if '0' ≤ c ∧ c ≤ '9' then some (c.toNat - 22)
  else none

/-- The least digit that is not the last one of a number, at a place counted in steps of 36. -/
def threshold (place bias : Nat) : Nat :=
  if place ≤ bias then 1 else if bias + 26 ≤ place then 26 else place - bias

/-- Divides until the rest is small, and counts the divisions in steps of 36. -/
def scale (delta : Nat) : Nat × Nat :=
  if 455 < delta then
    let (rest, places) := scale (delta / 35)
    (rest, places + 36)
  else (delta, 0)
termination_by delta

/-- The bias after a number, of which `count` characters have been read. -/
def adapt (delta count : Nat) (first : Bool) : Nat :=
  let delta := if first then delta / 700 else delta / 2
  let (rest, places) := scale (delta + delta / count)
  places + 36 * rest / (rest + 38)

/-- A number at the front, and what follows it. -/
def number? (bias : Nat) : Nat → Nat → Nat → List Char → Option (Nat × List Char)
  | _, _, _, [] => none
  | place, weight, sum, c :: rest => do
    let d ← digit? c
    let sum := sum + d * weight
    if Nat.pow 2 32 ≤ sum then none
    let t := threshold place bias
    if d < t then some (sum, rest) else number? bias (place + 36) (weight * (36 - t)) sum rest

/-- Inserts a character at a place. -/
def insertAt (c : Char) (place : Nat) (l : List Char) : List Char :=
  l.take place ++ c :: l.drop place

/-- Inserts the characters that the numbers tell; `next` is the code point before the next one and `place` the place after
the last insertion. -/
def insertions? (next place bias : Nat) (out l : List Char) : Option (List Char) :=
  if l.isEmpty then some out
  else
    match number? bias 36 1 0 l with
    | none => none
    | some (delta, rest) =>
      let count := out.length + 1
      let first := place == 0
      let place := place + delta
      let next := next + place / count
      if next < 0xD800 ∨ (0xDFFF < next ∧ next < 0x110000) then
        if _h : rest.length < l.length then
          insertions? next (place % count + 1) (adapt delta count first)
            (insertAt (Char.ofNat next) (place % count) out) rest
        else none
      else none
termination_by l.length

/-- The label that a text spells. A hyphen with no character before it parts nothing. -/
def decode? (l : List Char) : Option (List Char) :=
  let tail := (l.reverse.takeWhile (· ≠ '-')).reverse
  let literal := l.take (l.length - tail.length - 1)
  if literal.isEmpty && tail.length < l.length then none else insertions? 128 0 72 literal tail

end SealedDrop.Url.Punycode
