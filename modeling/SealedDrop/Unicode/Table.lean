import SealedDrop.Bytes
import SealedDrop.Text.Blank

/-!
# Tables of code points

Sets of code points, and texts that code points stand for, as compact tables.

## The model

* A table is an array of rows, each of which concerns a range of code points. The ranges ascend and do not overlap, so that a
  row is found by bisection.
* A table is written in words, with code points in hexadecimal digits. In a set, `AD` is one code point and `AC-AF` a
  range.
* In a table of replacements, `AD>61,62+63` tells what this code point and the ones after it stand for, one by one, where a
  plus joins the characters of one text; `A0-AE/2>61` tells that every second code point of a range stands for the
  character as far behind the target as the code point is behind the first one of the range.
-/

namespace SealedDrop.Unicode

/-! ### Bisection -/

/-- A row at a place from `low` up to but not including `high` for which `side` answers `eq`; `lt` says that a row lies before
what is sought. -/
def bisect {α : Type} (side : α → Ordering) (rows : Array α) (low high : Nat) : Option α :=
  if low < high then
    let middle := (low + high) / 2
    match rows[middle]? with
    | none => none
    | some row =>
      match side row with
      | .lt => bisect side rows (middle + 1) high
      | .gt => bisect side rows low middle
      | .eq => some row
  else none
termination_by high - low

/-! ### Ranges -/

/-- The code points from a first to a last one. -/
structure Range where
  /-- The first code point. -/
  first : Nat
  /-- The last code point. -/
  last : Nat
deriving DecidableEq, Repr

namespace Range

/-- Where a range lies, seen from a code point. -/
def side (n : Nat) (r : Range) : Ordering :=
  if r.last < n then .lt else if n < r.first then .gt else .eq

end Range

/-! ### Notation -/

/-- The number that hexadecimal digits denote. -/
def number (digits : List Char) : Nat :=
  digits.foldl (fun n c => 16 * n + (Bytes.hexValue? c).getD 0) 0

/-- The parts of a text between the characters that satisfy `p`. -/
def parts (p : Char → Bool) (l : List Char) : List (List Char) :=
  l.foldr (fun c rest => if p c then [] :: rest else (c :: rest.headD []) :: rest.tail) [[]]

/-- The words of a text. -/
def words (s : String) : List (List Char) :=
  (parts Text.isBlank s.toList).filter (!·.isEmpty)

/-- The range that a word denotes. -/
def Range.ofWord (w : List Char) : Range :=
  match parts (· == '-') w with
  | [first, last] => ⟨number first, number last⟩
  | _ => ⟨number w, number w⟩

/-! ### Sets -/

/-- A set of code points. -/
structure RangeSet where
  /-- The ranges of the set, in ascending order. -/
  ranges : Array Range

namespace RangeSet

/-- The set that a text denotes. -/
def ofText (s : String) : RangeSet :=
  ⟨((words s).map Range.ofWord).toArray⟩

/-- Whether a code point belongs to a set. -/
def contains (s : RangeSet) (n : Nat) : Bool :=
  (bisect (Range.side n) s.ranges 0 s.ranges.size).isSome

end RangeSet

/-! ### Replacements -/

/-- What the code points of a range stand for, each told by its distance from the first one. -/
inductive Rule where
  /-- Every `stride`-th code point stands for the character at the same distance from the target. -/
  | shift (stride target : Nat)
  /-- Each code point stands for a text of its own. -/
  | each (texts : Array (List Char))

/-- The text for the code point at a distance from the first one. -/
def Rule.text? (distance : Nat) : Rule → Option (List Char)
  | .shift stride target => if distance % stride = 0 then some [Char.ofNat (target + distance)] else none
  | .each texts => texts[distance]?

/-- What the code points of a range stand for. -/
structure Replacement where
  /-- The range. -/
  range : Range
  /-- The texts. -/
  rule : Rule

/-- The replacement that a word denotes. -/
def Replacement.ofWord? (w : List Char) : Option Replacement :=
  match parts (· == '>') w with
  | [source, target] =>
    match parts (fun c => c == '-' || c == '/') source with
    | [first, last, stride] => some ⟨⟨number first, number last⟩, .shift (number stride) (number target)⟩
    | [first] =>
      let texts := (parts (· == ',') target).map fun text => (parts (· == '+') text).map fun c => Char.ofNat (number c)
      some ⟨⟨number first, number first + texts.length - 1⟩, .each texts.toArray⟩
    | _ => none
  | _ => none

/-- A table of texts that code points stand for. -/
structure Replacements where
  /-- The rows, in ascending order. -/
  rows : Array Replacement

namespace Replacements

/-- The table that a text denotes. -/
def ofText (s : String) : Replacements :=
  ⟨((words s).filterMap Replacement.ofWord?).toArray⟩

/-- What a code point stands for, if the table tells. -/
def text? (t : Replacements) (n : Nat) : Option (List Char) := do
  let row ← bisect (fun row => row.range.side n) t.rows 0 t.rows.size
  row.rule.text? (n - row.range.first)

/-- All code points of a table, each with the text that it stands for. -/
def entries (t : Replacements) : List (Nat × List Char) :=
  t.rows.toList.flatMap fun row =>
    (List.range (row.range.last + 1 - row.range.first)).filterMap fun distance =>
      (row.rule.text? distance).map (row.range.first + distance, ·)

end Replacements

end SealedDrop.Unicode
