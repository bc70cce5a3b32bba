import SealedDrop.Json.Token

/-!
# JSON syntax trees

Builds the tree of a token list, and decodes the strings in it.

## The model

* `Builder` is a stack of the containers that are still open, together with what may come next. One step per token, so
  the depth of nesting is not limited.
* A tree keeps strings and numbers as written. `decodeString?` replaces the escapes of a string: an escape for half of
  a surrogate pair must be followed by one for the other half, and the result must be UTF-8.
-/

namespace SealedDrop.Json

/-- A JSON text, with its strings and numbers as written and the members of its objects in order. -/
inductive Tree where
  /-- The literal `null`. -/
  | null
  /-- A truth value. -/
  | bool (b : Bool)
  /-- A number. -/
  | number (text : Bytes)
  /-- A string. -/
  | string (raw : Bytes)
  /-- An array. -/
  | array (items : List Tree)
  /-- An object. -/
  | object (members : List (Bytes × Tree))

/-- A container that is still open, with its content so far in reverse. -/
inductive Frame where
  /-- An array. -/
  | array (rev : List Tree)
  /-- An object, and the name of the member whose value is awaited. -/
  | object (rev : List (Bytes × Tree)) (name : Option Bytes)

/-- What may come next. -/
inductive Want where
  /-- A value, or the end of an array if `closable`. -/
  | value (closable : Bool)
  /-- The name of a member, or the end of an object if `closable`. -/
  | name (closable : Bool)
  /-- The colon after a name. -/
  | colon
  /-- What may follow a value. -/
  | separator

/-- The state of building a tree. -/
structure Builder where
  /-- The open containers, innermost first. -/
  stack : List Frame := []
  /-- What may come next. -/
  want : Want := .value false
  /-- The finished tree. -/
  result : Option Tree := none

namespace Builder

/-- Adds a finished value to the innermost container. -/
def supply (stack : List Frame) (t : Tree) : Option Builder :=
  match stack with
  | [] => some ⟨[], .separator, some t⟩
  | .array rev :: outer => some ⟨.array (t :: rev) :: outer, .separator, none⟩
  | .object rev (some name) :: outer => some ⟨.object ((name, t) :: rev) none :: outer, .separator, none⟩
  | .object _ none :: _ => none

/-- Closes the innermost container with a bracket. -/
def closeArray : List Frame → Option Builder
  | .array rev :: outer => supply outer (.array rev.reverse)
  | _ => none

/-- Closes the innermost container with a brace. -/
def closeObject : List Frame → Option Builder
  | .object rev none :: outer => supply outer (.object rev.reverse)
  | _ => none

/-- Reads a token where a value may stand. -/
def value (stack : List Frame) (closable : Bool) : Token → Option Builder
  | .openArray => some ⟨.array [] :: stack, .value true, none⟩
  | .openObject => some ⟨.object [] none :: stack, .name true, none⟩
  | .closeArray => if closable then closeArray stack else none
  | .null => supply stack .null
  | .bool b => supply stack (.bool b)
  | .number text => supply stack (.number text)
  | .string raw => supply stack (.string raw)
  | _ => none

/-- Reads a token. -/
def step (b : Builder) (t : Token) : Option Builder :=
  match b.want, t with
  | .value closable, t => value b.stack closable t
  | .name _, .string raw =>
    match b.stack with
    | .object rev _ :: outer => some ⟨.object rev (some raw) :: outer, .colon, none⟩
    | _ => none
  | .name true, .closeObject => closeObject b.stack
  | .colon, .colon => some { b with want := .value false }
  | .separator, .comma =>
    match b.stack with
    | .array _ :: _ => some { b with want := .value false }
    | .object _ _ :: _ => some { b with want := .name false }
    | [] => none
  | .separator, .closeArray => closeArray b.stack
  | .separator, .closeObject => closeObject b.stack
  | _, _ => none

end Builder

/-- The tree of a token list. -/
def Tree.ofTokens? (l : List Token) : Option Tree := do
  (← l.foldlM Builder.step {}).result

/-- The tree of a byte string. -/
def Tree.parse? (b : Bytes) : Option Tree := do
  Tree.ofTokens? (← tokens? b)

/-! ### Strings -/

/-- The number that four hexadecimal digits denote. -/
def hexQuad? (a b c d : UInt8) : Option Nat := do
  let digits ← [a, b, c, d].mapM fun x => Bytes.hexValue? (Char.ofNat x.toNat)
  return digits.foldl (fun n x => 16 * n + x) 0

/-- The bytes that an escape after a backslash stands for, and what follows it. -/
def escaped? : Bytes → Option (Bytes × Bytes)
  | 0x75 :: a :: b :: c :: d :: rest => do
    let n ← hexQuad? a b c d
    if 0xDC00 ≤ n ∧ n ≤ 0xDFFF then none
    if 0xD800 ≤ n ∧ n ≤ 0xDBFF then
      match rest with
      | 0x5C :: 0x75 :: a :: b :: c :: d :: rest =>
        let low ← hexQuad? a b c d
        if low < 0xDC00 ∨ 0xDFFF < low then none
        let n := 0x10000 + (n - 0xD800) * 0x400 + (low - 0xDC00)
        some (utf8 (String.singleton (Char.ofNat n)), rest)
      | _ => none
    else some (utf8 (String.singleton (Char.ofNat n)), rest)
  | 0x62 :: rest => some ([0x08], rest)
  | 0x66 :: rest => some ([0x0C], rest)
  | 0x6E :: rest => some ([0x0A], rest)
  | 0x72 :: rest => some ([0x0D], rest)
  | 0x74 :: rest => some ([0x09], rest)
  | b :: rest => if b = 0x22 ∨ b = 0x5C ∨ b = 0x2F then some ([b], rest) else none
  | [] => none

/-- Replaces the escapes, in front of `rev` in reverse; `fuel` bounds the number of steps. -/
def unescape? : Nat → Bytes → Bytes → Option Bytes
  | _, rev, [] => some rev.reverse
  | 0, _, _ => none
  | fuel + 1, rev, b :: rest =>
    if b = 0x5C then do
      let (bytes, rest) ← escaped? rest
      unescape? fuel (bytes.reverse ++ rev) rest
    else unescape? fuel (b :: rev) rest

/-- The text that a string stands for. -/
def decodeString? (raw : Bytes) : Option String := do
  text? (← unescape? raw.length [] raw)

end SealedDrop.Json
