/-!
# Escaped text

The spelling under which a text that was refused is quoted in a message: printable ASCII only, so that nothing a
remote or a user supplies reaches a terminal as it is.

## The model

Tab, line feed and carriage return become `\t`, `\n` and `\r`; quotes and backslashes are preceded by a backslash;
other characters from space to tilde stand for themselves, and any further one becomes `\u{…}` with the lowercase
hexadecimal digits of its code point, without leading zeros.
-/

namespace SealedDrop.Text

/-- The lowercase hexadecimal digits of a number, most significant first. -/
def hexDigits (n : Nat) : List Char :=
  Nat.toDigits 16 n

/-- The escaped spelling of a character. -/
def escapeChar (c : Char) : List Char :=
  if c = '\t' then ['\\', 't']
  else if c = '\n' then ['\\', 'n']
  else if c = '\r' then ['\\', 'r']
  else if c = '\'' ∨ c = '"' ∨ c = '\\' then ['\\', c]
  else if 0x20 ≤ c.toNat ∧ c.toNat ≤ 0x7E then [c]
  else ['\\', 'u', '\x7b'] ++ hexDigits c.toNat ++ ['\x7d']

/-- The escaped spelling of a text. -/
def escape (s : String) : String :=
  String.ofList (s.toList.flatMap escapeChar)

end SealedDrop.Text
