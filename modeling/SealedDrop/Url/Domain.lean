import SealedDrop.Bytes
import SealedDrop.Url.Domain.Label

/-!
# Domain names

Whether the host of a URL is a domain name, and its normal form.

## The model

* Every character is mapped to what it stands for, and the text is composed. The result has no ASCII character that delimits
  parts of a URL.
* Full stops part the result into labels, each of which must be fit to stand in a name. If a label has characters from right
  to left, then all of them must be written in one direction.
-/

namespace SealedDrop.Url.Domain

/-- The normal form of a text as a domain name, if every character is allowed. -/
def normalized? (l : List Char) : Option (List Char) :=
  (l.mapM mapping?).map fun texts => Unicode.composed texts.flatten

/-- The labels of a domain name in normal form. -/
def labels (l : List Char) : List (List Char) :=
  Unicode.parts (· == '.') l

/-- Whether labels may form a domain name. -/
def areFit (labels : List (List Char)) : Bool :=
  labels.all Label.isFit && (!labels.any Label.hasRightToLeft || labels.all Label.hasOneDirection)

/-- The normal form of a domain name, if it is one. -/
def ofBytes? (b : Bytes) : Option (List Char) := do
  let l ← normalized? (← text? b).toList
  if l.any isDelimiter then none
  if areFit (← (labels l).mapM Label.spelled?) then some l else none

end SealedDrop.Url.Domain
