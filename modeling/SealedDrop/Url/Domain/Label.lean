import SealedDrop.Unicode.Composition
import SealedDrop.Unicode.Direction
import SealedDrop.Unicode.Joining
import SealedDrop.Url.Domain.Mapping
import SealedDrop.Url.Punycode

/-!
# Labels

What may stand between two full stops of a domain name.

## The model

* A label that begins with `xn--` spells another label in ASCII. That one must be as mapping and composition leave it.
* A label does not begin with a combining mark. If it has characters beyond ASCII, it has no more than a thousand.
* A joiner follows a mark that ends a syllable without a vowel. The one that parts its neighbours may also stand between two
  letters that would join.
* In a name with characters from right to left, a label is written in one direction: it begins with a letter, has no letter of
  the other direction and ends, marks apart, with a letter or a digit. Digits from right to left are all of one kind.
-/

namespace SealedDrop.Url.Domain

open Unicode

/-- Whether an ASCII character delimits parts of a URL, so that it may not stand in a domain name. -/
def isDelimiter (c : Char) : Bool :=
  c.toNat ≤ 0x20 || c.toNat == 0x7F || "%#/:<>?@[\\]^|".toList.contains c

/-- Whether a character stands for itself in a domain name. -/
def isStable (c : Char) : Bool :=
  mapping? c == some [c] && !isDelimiter c

namespace Label

/-! ### Spelling -/

/-- The label that a label spells: another one behind `xn--`, or else itself. -/
def spelled? (label : List Char) : Option (List Char) :=
  if "xn--".toList.isPrefixOf label then
    let code := label.drop 4
    if code.isEmpty || code.getLast? == some '-' || 2000 < code.length || code.any (0x80 ≤ ·.toNat) then none
    else do
      let l ← Punycode.decode? code
      if l.all isStable && composed l == l then some l else none
  else some label

/-! ### Characters -/

/-- Whether a label begins with a combining mark. -/
def startsWithMark (label : List Char) : Bool :=
  label.head?.any isMark

/-- Whether a label is short enough. -/
def isShort (label : List Char) : Bool :=
  label.all (·.toNat < 0x80) || label.length ≤ 1000

/-- Whether the next character of a text, other than those that do not come between their neighbours, joins on a side or on
both. -/
def joins (side : Joining) : List Char → Bool
  | [] => false
  | c :: rest => if joining c = .transparent then joins side rest else joining c = .dual || joining c = side

/-- Whether all joiners of a text stand where they may; `before` are the characters before it, the last one first. -/
def joinersFit (before : List Char) : List Char → Bool
  | [] => true
  | c :: rest =>
    let followsVirama := before.head?.any (combiningClass · == 9)
    let parts := c.toNat == 0x200C && joins .left before && joins .right rest
    (!isJoiner c || followsVirama || parts) && joinersFit (c :: before) rest

/-- Whether a label may stand in a domain name of characters from left to right. -/
def isFit (label : List Char) : Bool :=
  isShort label && !startsWithMark label && joinersFit [] label

/-! ### Direction -/

/-- Whether a label has characters from right to left. -/
def hasRightToLeft (label : List Char) : Bool :=
  label.any fun c => direction c == .rightToLeft || direction c == .arabicDigit

/-- Whether a label is written in one direction. -/
def hasOneDirection : List Char → Bool
  | [] => true
  | c :: rest =>
    match direction c, (rest.map direction).reverse.dropWhile (· == .mark) with
    | .leftToRight, [] => true
    | .rightToLeft, [] => true
    | .leftToRight, last :: inner =>
      [.leftToRight, .europeanDigit].contains last && inner.all fun d => d != .rightToLeft && d != .arabicDigit
    | .rightToLeft, last :: inner =>
      [.rightToLeft, .europeanDigit, .arabicDigit].contains last && !inner.contains .leftToRight &&
        !((last :: inner).contains .europeanDigit && (last :: inner).contains .arabicDigit)
    | _, _ => false

end Label

end SealedDrop.Url.Domain
