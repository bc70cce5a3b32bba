import SealedDrop.Json.Writer
import SealedDrop.Text.Quote

/-!
# Values of unexpected types

Reads single values out of JSON, and says in words when a value is not of the type that is needed.
-/

namespace SealedDrop.Json

namespace Value

/-- What a value is, in words. -/
def kind : Value → String
  | null => "null"
  | bool b => "boolean \x60" ++ (if b then "true" else "false") ++ "\x60"
  | number (.unsigned n) => "integer \x60" ++ toString n ++ "\x60"
  | number (.negative n) => "integer \x60-" ++ toString n ++ "\x60"
  | number (.float x) => "floating point \x60" ++ floatText x ++ "\x60"
  | string s => "string " ++ Text.quoted s
  | array _ => "sequence"
  | object _ => "map"

/-- The complaint that a value is not of the type that is needed. -/
def mismatch (v : Value) (needed : String) : String :=
  "invalid type: " ++ v.kind ++ ", expected " ++ needed

/-- The text that a value is; `needed` says in words what the text is for. -/
def toText (needed : String) : Value → Except String String
  | string s => .ok s
  | v => .error (v.mismatch needed)

/-- The truth value that a value is. -/
def toBool : Value → Except String Bool
  | bool b => .ok b
  | v => .error (v.mismatch "a boolean")

/-- The unsigned integer of 64 bits that a value is. -/
def toUnsigned : Value → Except String Nat
  | number (.unsigned n) => .ok n
  | number (.negative n) => .error ("invalid value: integer \x60-" ++ toString n ++ "\x60, expected u64")
  | v => .error (v.mismatch "u64")

/-- Reads a value that may be absent. -/
def toOption {α : Type} (read : Value → Except String α) : Value → Except String (Option α)
  | null => .ok none
  | v => (read v).map some

end Value

end SealedDrop.Json
