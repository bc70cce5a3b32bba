/-!
# Shortest decimal digits

The fewest decimal digits that identify a floating-point number: of all decimal numbers that round to it, one with the
fewest digits, and of those the nearest.

## The model

A positive double is `m * 2 ^ q`. The reals that round to it form an interval around it whose ends belong to it iff `m`
is even; below a power of two the interval is narrower on the lower side. For one, two, … digits the two neighbours of
the number on that decimal grid are compared with the interval in exact arithmetic, and the first grid with a hit wins.
All quantities are counted in quarters of the last binary place.
-/

namespace SealedDrop.Decimal

/-- The decimal number `digits * 10 ^ exponent`. -/
structure Scaled where
  /-- All digits, as one number. -/
  digits : Nat
  /-- The power of ten that the last digit counts. -/
  exponent : Int
deriving DecidableEq, Repr

/-- The number of decimal digits of a number. -/
def width (n : Nat) : Nat :=
  (Nat.toDigits 10 n).length

/-- The greatest `k` for which `10 ^ k` is at most the positive fraction. -/
def magnitude (numerator denominator : Nat) : Int :=
  if denominator ≤ numerator then width (numerator / denominator) - 1
  else -width ((denominator + numerator - 1) / numerator - 1)

/-- Drops trailing zeros, at most `fuel` of them. -/
def trimZeros : Nat → Scaled → Scaled
  | 0, d => d
  | fuel + 1, d =>
    if d.digits % 10 = 0 ∧ d.digits ≠ 0 then trimZeros fuel ⟨d.digits / 10, d.exponent + 1⟩ else d

/-- The interval of reals that round to a double, in quarters of its last place. -/
structure Interval where
  /-- The lower end. -/
  low : Nat
  /-- The double itself. -/
  centre : Nat
  /-- The upper end. -/
  high : Nat
  /-- Whether the ends belong to the interval. -/
  closed : Bool
  /-- The numerator of a quarter of the last place. -/
  numerator : Nat
  /-- The denominator of a quarter of the last place. -/
  denominator : Nat

namespace Interval

/-- The interval of the double `m * 2 ^ q`; `narrow` says that the next lower double is only half as far away. -/
def ofBinary (m : Nat) (q : Int) (narrow : Bool) : Interval where
  low := 4 * m - (if narrow then 1 else 2)
  centre := 4 * m
  high := 4 * m + 2
  closed := m % 2 == 0
  numerator := Nat.pow 2 (q - 2).toNat
  denominator := Nat.pow 2 (2 - q).toNat

/-- A number on the grid of multiples of `10 ^ exponent` that lies in the interval, the nearer of the two neighbours. -/
def onGrid? (i : Interval) (exponent : Int) : Option Scaled :=
  let unit := i.denominator * Nat.pow 10 exponent.toNat
  let quarter := i.numerator * Nat.pow 10 (-exponent).toNat
  let inside := fun d =>
    let low := i.low * quarter
    let high := i.high * quarter
    (low < d * unit && d * unit < high) || (i.closed && (d * unit == low || d * unit == high))
  let below := i.centre * quarter / unit
  let above := below + 1
  let hit := fun d => if inside d then some (Scaled.mk d exponent) else none
  let down := i.centre * quarter - below * unit
  let up := above * unit - i.centre * quarter
  if down < up ∨ (down = up ∧ below % 2 = 0) then (hit below).or (hit above) else (hit above).or (hit below)

/-- The shortest decimal number in the interval. -/
def shortest (i : Interval) : Scaled :=
  let top := magnitude (i.centre * i.numerator) i.denominator
  let found := (List.range 18).findSome? fun n => i.onGrid? (top - Int.ofNat n)
  trimZeros 20 (found.getD ⟨0, 0⟩)

end Interval

/-- The shortest decimal number that rounds to the absolute value of a finite double. -/
def ofFloat (x : Float) : Scaled :=
  let bits := x.toBits.toNat % Nat.pow 2 63
  let fraction := bits % Nat.pow 2 52
  let place := bits / Nat.pow 2 52
  if bits = 0 then ⟨0, 0⟩
  else if place = 0 then (Interval.ofBinary fraction (-1074) false).shortest
  else (Interval.ofBinary (fraction + Nat.pow 2 52) (Int.ofNat place - 1075) (fraction == 0 && place > 1)).shortest

/-- Whether the sign bit of a double is set. -/
def isSigned (x : Float) : Bool :=
  x.toBits.toNat / Nat.pow 2 63 == 1

/-- Positional notation, with at least one digit on either side of the point. -/
def positional (d : Scaled) : String :=
  let digits := Nat.toDigits 10 d.digits
  if 0 ≤ d.exponent then
    String.ofList (digits ++ List.replicate (if d.digits = 0 then 0 else d.exponent.toNat) '0' ++ ['.', '0'])
  else
    let after := (-d.exponent).toNat
    let padded := List.replicate (after + 1 - digits.length) '0' ++ digits
    String.ofList (padded.take (padded.length - after) ++ '.' :: padded.drop (padded.length - after))

/-- Scientific notation: one digit, the others behind a point if there are any, and the power of ten with its sign. -/
def scientific (d : Scaled) : String :=
  let digits := Nat.toDigits 10 d.digits
  let power := d.exponent + (digits.length - 1 : Nat)
  let rest := digits.drop 1
  String.ofList (digits.take 1 ++ (if rest.isEmpty then [] else '.' :: rest)) ++ "e" ++ (if 0 ≤ power then "+" else "") ++
    toString power

end SealedDrop.Decimal
