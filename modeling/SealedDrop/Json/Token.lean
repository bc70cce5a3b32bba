import SealedDrop.Bytes

/-!
# JSON tokens

Cuts a byte string into the tokens of JSON.

## The model

The cut is one pass over the bytes. `Lexer` holds the tokens so far and the token that is being read. A string token
keeps its content as written: escapes are checked for their form but not replaced, and bytes above ASCII are not
checked, because a reader that skips a string needs neither. A run of other bytes is a bare word: a literal or a number.
-/

namespace SealedDrop.Json

/-- A token of JSON. -/
inductive Token where
  /-- An opening bracket. -/
  | openArray
  /-- A closing bracket. -/
  | closeArray
  /-- An opening brace. -/
  | openObject
  /-- A closing brace. -/
  | closeObject
  /-- A colon. -/
  | colon
  /-- A comma. -/
  | comma
  /-- The literal `null`. -/
  | null
  /-- One of the literals `true` and `false`. -/
  | bool (b : Bool)
  /-- A number, as written. -/
  | number (text : Bytes)
  /-- A string, as written between its quotes. -/
  | string (raw : Bytes)
deriving DecidableEq, Repr

/-- Whether a byte is a decimal digit. -/
def isDigit (b : UInt8) : Bool :=
  0x30 ≤ b && b ≤ 0x39

/-- Whether a byte is a hexadecimal digit. -/
def isHexDigit (b : UInt8) : Bool :=
  isDigit b || (0x41 ≤ b && b ≤ 0x46) || (0x61 ≤ b && b ≤ 0x66)

/-- Whether a byte is white space between tokens. -/
def isSpace (b : UInt8) : Bool :=
  b == 0x20 || b == 0x0A || b == 0x0D || b == 0x09

/-- The token that a punctuation mark is. -/
def punctuation? (b : UInt8) : Option Token :=
  if b = 0x5B then some .openArray
  else if b = 0x5D then some .closeArray
  else if b = 0x7B then some .openObject
  else if b = 0x7D then some .closeObject
  else if b = 0x3A then some .colon
  else if b = 0x2C then some .comma
  else none

/-! ### Numbers -/

/-- The parts of a number, as written: its sign, and the digits of its integer, its fraction and its exponent. -/
structure NumberText where
  /-- Whether a minus sign precedes the digits. -/
  negative : Bool
  /-- The digits before the point. -/
  whole : Bytes
  /-- The digits after the point, if there is one. -/
  fraction : Option Bytes
  /-- Whether the exponent is negative, and its digits, if there is one. -/
  exponent : Option (Bool × Bytes)
deriving DecidableEq, Repr

/-- Splits off the digits at the front; at least one must be there. -/
def digits? (b : Bytes) : Option (Bytes × Bytes) :=
  let front := b.takeWhile isDigit
  if front.isEmpty then none else some (front, b.drop front.length)

/-- The exponent at the front, if there is one, and what follows it; `none` if it has no digits. -/
def exponent? (b : Bytes) : Option (Option (Bool × Bytes) × Bytes) :=
  match b with
  | e :: rest =>
    if e = 0x65 ∨ e = 0x45 then
      let (negative, rest) := match rest with
        | 0x2B :: rest => (false, rest)
        | 0x2D :: rest => (true, rest)
        | rest => (false, rest)
      (digits? rest).map fun (front, rest) => (some (negative, front), rest)
    else some (none, b)
  | [] => some (none, [])

/-- Reads a whole byte string as a number. A number has no superfluous leading zero. -/
def NumberText.ofBytes? (b : Bytes) : Option NumberText := do
  let (negative, b) := match b with
    | 0x2D :: rest => (true, rest)
    | b => (false, b)
  let (whole, b) ← digits? b
  if whole.length > 1 ∧ whole.head? = some 0x30 then none
  let (fraction, b) ← match b with
    | 0x2E :: rest => (digits? rest).map fun (front, rest) => (some front, rest)
    | b => some (none, b)
  let (exponent, b) ← exponent? b
  if b.isEmpty then some ⟨negative, whole, fraction, exponent⟩ else none

/-- The token that a bare word is. -/
def bare? (b : Bytes) : Option Token :=
  if b = utf8 "null" then some .null
  else if b = utf8 "true" then some (.bool true)
  else if b = utf8 "false" then some (.bool false)
  else (NumberText.ofBytes? b).map fun _ => .number b

/-! ### The pass -/

/-- How far an escape in a string has been read. -/
inductive Escape where
  /-- No escape has begun. -/
  | outside
  /-- The backslash has been read. -/
  | opened
  /-- This many hexadecimal digits are still to come, and one more. -/
  | hex (more : Nat)

/-- The token that is being read. -/
inductive Pending where
  /-- None. -/
  | nothing
  /-- A string, with its bytes so far in reverse. -/
  | string (rev : Bytes) (escape : Escape)
  /-- A bare word, with its bytes so far in reverse. -/
  | bare (rev : Bytes)

/-- The state of the pass. -/
structure Lexer where
  /-- The tokens so far, in reverse. -/
  tokens : List Token := []
  /-- The token that is being read. -/
  pending : Pending := .nothing

namespace Lexer

/-- Reads a byte between tokens. -/
def between (l : Lexer) (b : UInt8) : Lexer :=
  match punctuation? b with
  | some t => { tokens := t :: l.tokens }
  | none =>
    if isSpace b then { tokens := l.tokens }
    else if b = 0x22 then { tokens := l.tokens, pending := .string [] .outside }
    else { tokens := l.tokens, pending := .bare [b] }

/-- Whether a byte ends a bare word. -/
def endsBare (b : UInt8) : Bool :=
  isSpace b || (punctuation? b).isSome || b == 0x22

/-- Reads a byte. -/
def step (l : Lexer) (b : UInt8) : Option Lexer :=
  match l.pending with
  | .nothing => some (l.between b)
  | .bare rev =>
    if endsBare b then (bare? rev.reverse).map fun t => between { tokens := t :: l.tokens } b
    else some { l with pending := .bare (b :: rev) }
  | .string rev .outside =>
    if b = 0x22 then some { tokens := .string rev.reverse :: l.tokens }
    else if b = 0x5C then some { l with pending := .string (b :: rev) .opened }
    else if b < 0x20 then none
    else some { l with pending := .string (b :: rev) .outside }
  | .string rev .opened =>
    if b = 0x75 then some { l with pending := .string (b :: rev) (.hex 3) }
    else if (utf8 "\"\\/bfnrt").contains b then some { l with pending := .string (b :: rev) .outside }
    else none
  | .string rev (.hex more) =>
    if isHexDigit b then
      match more with
      | 0 => some { l with pending := .string (b :: rev) .outside }
      | more + 1 => some { l with pending := .string (b :: rev) (.hex more) }
    else none

/-- The tokens at the end of the bytes. -/
def finish (l : Lexer) : Option (List Token) :=
  match l.pending with
  | .nothing => some l.tokens.reverse
  | .bare rev => (bare? rev.reverse).map fun t => (t :: l.tokens).reverse
  | .string _ _ => none

end Lexer

/-- The tokens of a byte string. -/
def tokens? (b : Bytes) : Option (List Token) := do
  (← b.foldlM Lexer.step {}).finish

end SealedDrop.Json
