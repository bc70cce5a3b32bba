import SealedDrop.Text.Escape
import SealedDrop.Unicode.Printing

/-!
# Quoted text

A text in quotation marks, as a message shows a value that it does not expect.

## The model

Quotation marks, backslashes, tabs, line ends and the zero character have short escapes. Every other character that prints
stands for itself, and one that does not becomes `\u{…}` with its code point.
-/

namespace SealedDrop.Text

/-- The spelling of a character in a quoted text. -/
def quotedChar (c : Char) : List Char :=
  if c = '"' ∨ c = '\\' then ['\\', c]
  else if c = '\t' then ['\\', 't']
  else if c = '\n' then ['\\', 'n']
  else if c = '\r' then ['\\', 'r']
  else if c = '\x00' then ['\\', '0']
  else if Unicode.prints c then [c]
  else ['\\', 'u', '\x7b'] ++ hexDigits c.toNat ++ ['\x7d']

/-- A text in quotation marks. -/
def quoted (s : String) : String :=
  String.ofList ('"' :: s.toList.flatMap quotedChar ++ ['"'])

end SealedDrop.Text
