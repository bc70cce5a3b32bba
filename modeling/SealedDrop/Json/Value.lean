import SealedDrop.Json.Tree

/-!
# JSON values

What a JSON text denotes, and how a text is read as a value.

## The model

* A number is an unsigned or a negative integer of 64 bits if it is written without point and exponent and fits;
  otherwise it is a double, and it is refused if it exceeds all doubles.
* The members of an object are sorted by name, and of two with one name the later counts.
-/

namespace SealedDrop.Json

/-- A JSON number. -/
inductive Number where
  /-- An integer from zero up, below `2 ^ 64`. -/
  | unsigned (n : Nat)
  /-- The integer `-n`, for a positive `n` up to `2 ^ 63`. -/
  | negative (n : Nat)
  /-- Any other number. -/
  | float (x : Float)

/-- A JSON value. -/
inductive Value where
  /-- The absent value. -/
  | null
  /-- A truth value. -/
  | bool (b : Bool)
  /-- A number. -/
  | number (n : Number)
  /-- A text. -/
  | string (s : String)
  /-- A list of values. -/
  | array (items : List Value)
  /-- Named values, sorted by name. -/
  | object (members : List (String × Value))

/-! ### Numbers -/

/-- The number that decimal digits denote. -/
def ofDigits (digits : Bytes) : Nat :=
  digits.foldl (fun n b => 10 * n + (b.toNat - 48)) 0

/-- The greatest number of decimal places, before or after the point, that a number may be moved by. -/
def placeLimit : Nat := 4096

/-- The double nearest to `digits * 10 ^ exponent`, unless it exceeds all doubles. -/
def double? (digits : Nat) (exponent : Int) : Option Float :=
  if digits = 0 then some 0.0
  else if (placeLimit : Int) < exponent then none
  else if exponent < -(placeLimit : Int) then some 0.0
  else
    let x := Float.ofScientific digits (exponent < 0) exponent.natAbs
    if x.isInf then none else some x

/-- The number that a written number denotes. -/
def Number.ofText? (t : NumberText) : Option Number :=
  let whole := ofDigits t.whole
  match t.fraction, t.exponent, t.negative with
  | none, none, false => if whole < Nat.pow 2 64 then some (.unsigned whole) else (double? whole 0).map .float
  | none, none, true =>
    if 0 < whole ∧ whole ≤ Nat.pow 2 63 then some (.negative whole) else (double? whole 0).map fun x => .float (-x)
  | fraction, exponent, minus =>
    let fraction := fraction.getD []
    let power : Int := match exponent with
      | none => 0
      | some (true, digits) => -ofDigits digits
      | some (false, digits) => ofDigits digits
    (double? (ofDigits (t.whole ++ fraction)) (power - fraction.length)).map fun x =>
      .float (if minus then -x else x)

/-! ### Reading -/

/-- Adds a member to sorted members, in place of one with the same name. -/
def insertMember (name : String) (v : Value) : List (String × Value) → List (String × Value)
  | [] => [(name, v)]
  | (n, w) :: rest =>
    if name < n then (name, v) :: (n, w) :: rest
    else if name = n then (name, v) :: rest
    else (n, w) :: insertMember name v rest

mutual

/-- The value of a tree. -/
def Value.ofTree? : Tree → Option Value
  | .null => some .null
  | .bool b => some (.bool b)
  | .number text => do return .number (← Number.ofText? (← NumberText.ofBytes? text))
  | .string raw => (decodeString? raw).map .string
  | .array items => (Value.ofTrees? items).map .array
  | .object members => (Value.ofMembers? members []).map .object

/-- The values of a list of trees. -/
def Value.ofTrees? : List Tree → Option (List Value)
  | [] => some []
  | t :: rest => do
    let v ← Value.ofTree? t
    return v :: (← Value.ofTrees? rest)

/-- The sorted members of an object, added to those of `sorted`. -/
def Value.ofMembers? : List (Bytes × Tree) → List (String × Value) → Option (List (String × Value))
  | [], sorted => some sorted
  | (name, t) :: rest, sorted => do
    let name ← decodeString? name
    let v ← Value.ofTree? t
    Value.ofMembers? rest (insertMember name v sorted)

end

/-- The value of a JSON text. -/
def Value.parse? (s : String) : Option Value := do
  Value.ofTree? (← Tree.parse? (utf8 s))

namespace Value

/-- The member of an object with this name. -/
def member? (v : Value) (name : String) : Option Value :=
  match v with
  | .object members => members.lookup name
  | _ => none

end Value

end SealedDrop.Json
