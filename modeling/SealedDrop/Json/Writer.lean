import SealedDrop.Decimal.Shortest
import SealedDrop.Json.Value

/-!
# Writing JSON

The compact text of a value: no white space, and the members of an object in their order.

## The model

Quotation marks, backslashes and control characters are escaped, those with a letter of their own by it and the others
by four hexadecimal digits; all other characters stand for themselves. A double is written with the fewest digits that
identify it, positionally if its first digit stands between the sixteenth place before and the fifth place after the
point, and otherwise with a power of ten.
-/

namespace SealedDrop.Json

/-- The escaped spelling of a character in a string. -/
def escapeChar (c : Char) : List Char :=
  if c = '"' then ['\\', '"']
  else if c = '\\' then ['\\', '\\']
  else if c = '\x08' then ['\\', 'b']
  else if c = '\x0c' then ['\\', 'f']
  else if c = '\n' then ['\\', 'n']
  else if c = '\r' then ['\\', 'r']
  else if c = '\t' then ['\\', 't']
  else if c.toNat < 0x20 then
    ['\\', 'u', '0', '0', Bytes.hexDigit (c.toNat / 16), Bytes.hexDigit (c.toNat % 16)]
  else [c]

/-- A text between quotation marks. -/
def quote (s : String) : String :=
  String.ofList ('"' :: s.toList.flatMap escapeChar ++ ['"'])

/-- The text of a double. -/
def floatText (x : Float) : String :=
  let d := Decimal.ofFloat x
  let point := d.exponent + Decimal.width d.digits
  let text := if d.digits = 0 ∨ (-5 < point ∧ point ≤ 16) then Decimal.positional d else Decimal.scientific d
  if Decimal.isSigned x then "-" ++ text else text

/-- The text of a number. -/
def Number.text : Number → String
  | unsigned n => toString n
  | negative n => "-" ++ toString n
  | float x => floatText x

mutual

/-- The compact text of a value. -/
def Value.text : Value → String
  | .null => "null"
  | .bool b => if b then "true" else "false"
  | .number n => n.text
  | .string s => quote s
  | .array items => "[" ++ ",".intercalate (Value.texts items) ++ "]"
  | .object members => "\x7b" ++ ",".intercalate (Value.memberTexts members) ++ "\x7d"

/-- The compact texts of a list of values. -/
def Value.texts : List Value → List String
  | [] => []
  | v :: rest => v.text :: Value.texts rest

/-- The compact texts of members. -/
def Value.memberTexts : List (String × Value) → List String
  | [] => []
  | (name, v) :: rest => (quote name ++ ":" ++ v.text) :: Value.memberTexts rest

end

end SealedDrop.Json
