/-!
# Character classes and trimming

The two classes of characters that the library tests for, and the removal of blanks at the ends of a text.

## The model

* `isBlank` is the property `White_Space` of Unicode: the ASCII blanks, the next-line character, the no-break
  space, and the spaces and separators of the general punctuation and ideographic blocks.
* `isControl` is the general category `Cc`: the two blocks of control codes and the delete character.
* `trim` removes blanks, as `isBlank` counts them, from both ends of a text.
-/

namespace SealedDrop.Text

/-- Whether a character is white space. -/
def isBlank (c : Char) : Bool :=
  let n := c.toNat
  (9 ≤ n && n ≤ 13) || n == 0x20 || n == 0x85 || n == 0xA0 || n == 0x1680 || (0x2000 ≤ n && n ≤ 0x200A) ||
    n == 0x2028 || n == 0x2029 || n == 0x202F || n == 0x205F || n == 0x3000

/-- Whether a character is a control code. -/
def isControl (c : Char) : Bool :=
  let n := c.toNat
  n < 0x20 || (0x7F ≤ n && n ≤ 0x9F)

/-- Removes the characters that satisfy `p` from both ends of a list. -/
def strip (p : Char → Bool) (l : List Char) : List Char :=
  ((l.dropWhile p).reverse.dropWhile p).reverse

/-- Removes white space from both ends of a text. -/
def trim (s : String) : String :=
  String.ofList (strip isBlank s.toList)

/-- Removes every character that satisfies `p` from the end of a text. -/
def trimEnd (p : Char → Bool) (s : String) : String :=
  String.ofList (s.toList.reverse.dropWhile p).reverse

end SealedDrop.Text
