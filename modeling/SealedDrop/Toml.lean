import SealedDrop.Bytes

/-!
# Flat TOML documents

Reads documents of `key = value` lines whose values are strings, truth values and integers.

## The model

* A key is bare or quoted. A document that uses anything else of TOML (tables, dotted keys, arrays, floating-point
  numbers, dates) is refused as a whole, as are repeated keys; no setting has such a value or such a name.
* The four kinds of strings are read: on one line or on several, with escapes or without. A line end of two characters
  inside a string of several lines becomes a line feed.
* An integer is of 64 bits and signed, in decimal notation or, without a sign, in one of the bases sixteen, eight and two;
  single underscores may stand between digits.
-/

namespace SealedDrop.Toml

/-- A value in a flat document. -/
inductive Value where
  /-- A text. -/
  | string (s : String)
  /-- A truth value. -/
  | bool (b : Bool)
  /-- A signed integer of 64 bits. -/
  | integer (n : Int)
deriving DecidableEq, Repr

/-! ### Characters -/

/-- Whether a character is white space within a line. -/
def isSpace (c : Char) : Bool :=
  c == ' ' || c == '\t'

/-- Whether a character may stand as it is in comments and in strings of one line. -/
def isPlain (c : Char) : Bool :=
  c == '\t' || (0x20 ≤ c.toNat && c.toNat != 0x7F)

/-- Whether a character may stand in a bare key. -/
def isKeyChar (c : Char) : Bool :=
  ('A' ≤ c && c ≤ 'Z') || ('a' ≤ c && c ≤ 'z') || ('0' ≤ c && c ≤ '9') || c == '_' || c == '-'

/-- Drops white space at the front. -/
def skipSpace (l : List Char) : List Char :=
  l.dropWhile isSpace

/-- Drops a line end at the front, if there is one. -/
def newline? : List Char → Option (List Char)
  | '\n' :: rest => some rest
  | '\r' :: '\n' :: rest => some rest
  | _ => none

/-! ### Strings -/

/-- The character whose code point the hexadecimal digits denote. -/
def hexChar? (digits : List Char) : Option Char := do
  let n := (← digits.mapM Bytes.hexValue?).foldl (fun n d => 16 * n + d) 0
  if n < 0xD800 ∨ (0xDFFF < n ∧ n < 0x110000) then some (Char.ofNat n) else none

/-- The character that an escape after a backslash stands for, and what follows it. -/
def escape? : List Char → Option (Char × List Char)
  | 'b' :: rest => some ('\x08', rest)
  | 't' :: rest => some ('\t', rest)
  | 'n' :: rest => some ('\n', rest)
  | 'f' :: rest => some ('\x0c', rest)
  | 'r' :: rest => some ('\r', rest)
  | '"' :: rest => some ('"', rest)
  | '\\' :: rest => some ('\\', rest)
  | 'u' :: rest => if rest.length < 4 then none else (hexChar? (rest.take 4)).map fun c => (c, rest.drop 4)
  | 'U' :: rest => if rest.length < 8 then none else (hexChar? (rest.take 8)).map fun c => (c, rest.drop 8)
  | _ => none

/-- Drops white space and line ends at the front. -/
def skipBlank : List Char → List Char
  | [] => []
  | '\r' :: '\n' :: rest => skipBlank rest
  | c :: rest => if isSpace c || c == '\n' then skipBlank rest else c :: rest

/-- Drops the white space and the line ends that a backslash at the end of a line joins to it. -/
def joinedLine? (l : List Char) : Option (List Char) :=
  (newline? (skipSpace l)).map skipBlank

/-- How a string is written. -/
structure Quoting where
  /-- The quotation mark. -/
  mark : Char
  /-- Whether backslashes begin escapes. -/
  escapes : Bool
  /-- Whether the string may have several lines, between three marks at either end. -/
  multiline : Bool

/-- The characters of a string up to its end, in front of `rev` in reverse, and what follows the end.
`fuel` bounds the number of steps; as many as there are characters suffice. -/
def stringBody? (q : Quoting) : Nat → List Char → List Char → Option (List Char × List Char)
  | 0, _, _ => none
  | _, _, [] => none
  | fuel + 1, rev, c :: rest =>
    if c = q.mark then
      if q.multiline then
        let marks := (c :: rest).takeWhile (· == q.mark)
        if marks.length < 3 then stringBody? q fuel (c :: rev) rest
        else if marks.length ≤ 5 then
          some ((marks.drop 3 ++ rev).reverse, (c :: rest).drop marks.length)
        else none
      else some (rev.reverse, rest)
    else if c = '\\' ∧ q.escapes then
      match escape? rest with
      | some (e, rest) => stringBody? q fuel (e :: rev) rest
      | none =>
        if q.multiline then
          match joinedLine? rest with
          | some rest => stringBody? q fuel rev rest
          | none => none
        else none
    else if isPlain c then stringBody? q fuel (c :: rev) rest
    else if q.multiline then
      match newline? (c :: rest) with
      | some rest => stringBody? q fuel ('\n' :: rev) rest
      | none => none
    else none

/-- The string with this quoting, of which the opening marks have been read. -/
def stringRest? (q : Quoting) (l : List Char) : Option (String × List Char) := do
  let l := if q.multiline then (newline? l).getD l else l
  let (s, rest) ← stringBody? q (l.length + 1) [] l
  return (String.ofList s, rest)

/-- A string at the front. -/
def string? : List Char → Option (String × List Char)
  | '"' :: '"' :: '"' :: rest => stringRest? ⟨'"', true, true⟩ rest
  | '\'' :: '\'' :: '\'' :: rest => stringRest? ⟨'\'', false, true⟩ rest
  | '"' :: rest => stringRest? ⟨'"', true, false⟩ rest
  | '\'' :: rest => stringRest? ⟨'\'', false, false⟩ rest
  | _ => none

/-! ### Integers -/

/-- The number that digits of a base denote; single underscores may stand between them. -/
def digits? (base : Nat) (l : List Char) : Option Nat := do
  let groups := (String.ofList l).splitOn "_"
  if groups.any (·.isEmpty) then none
  let digits ← (l.filter (· ≠ '_')).mapM Bytes.hexValue?
  if digits.any (base ≤ ·) then none
  return digits.foldl (fun n d => base * n + d) 0

/-- The decimal number without a superfluous leading zero. -/
def decimal? (l : List Char) : Option Nat :=
  if l.length > 1 ∧ l.head? = some '0' then none else digits? 10 l

/-- The integer that a word denotes. -/
def integer? (word : List Char) : Option Int := do
  let n : Int ← match word with
    | '0' :: 'x' :: rest => (digits? 16 rest).map Int.ofNat
    | '0' :: 'o' :: rest => (digits? 8 rest).map Int.ofNat
    | '0' :: 'b' :: rest => (digits? 2 rest).map Int.ofNat
    | '+' :: rest => (decimal? rest).map Int.ofNat
    | '-' :: rest => (decimal? rest).map fun n => -Int.ofNat n
    | word => (decimal? word).map Int.ofNat
  if -(Nat.pow 2 63 : Int) ≤ n ∧ n < (Nat.pow 2 63 : Int) then some n else none

/-! ### Lines -/

/-- Whether a character belongs to an unquoted value. -/
def isWordChar (c : Char) : Bool :=
  isKeyChar c || c == '+'

/-- A value at the front. -/
def value? (l : List Char) : Option (Value × List Char) :=
  match string? l with
  | some (s, rest) => some (.string s, rest)
  | none =>
    let word := l.takeWhile isWordChar
    let rest := l.drop word.length
    if word = "true".toList then some (.bool true, rest)
    else if word = "false".toList then some (.bool false, rest)
    else (integer? word).map fun n => (.integer n, rest)

/-- A key at the front. A quoted key stands on one line. -/
def key? : List Char → Option (String × List Char)
  | '"' :: rest => stringRest? ⟨'"', true, false⟩ rest
  | '\'' :: rest => stringRest? ⟨'\'', false, false⟩ rest
  | l =>
    let key := l.takeWhile isKeyChar
    if key.isEmpty then none else some (String.ofList key, l.drop key.length)

/-- What follows the end of a line, of which white space and a comment may precede the end. -/
def endLine? (l : List Char) : Option (List Char) :=
  let l := skipSpace l
  let l := if l.head? = some '#' then l.dropWhile isPlain else l
  if l.isEmpty then some [] else newline? l

/-- The entry of a line, if it has one, and what follows the line. -/
def line? (l : List Char) : Option (Option (String × Value) × List Char) :=
  let l := skipSpace l
  match endLine? l with
  | some rest => some (none, rest)
  | none => do
    let (key, l) ← key? l
    let l ← match skipSpace l with
      | '=' :: l => some (skipSpace l)
      | _ => none
    let (v, l) ← value? l
    return (some (key, v), ← endLine? l)

/-- The entries of all lines, each of which must be shorter than the text before it. -/
def lines? (l : List Char) : Option (List (String × Value)) :=
  if l.isEmpty then some []
  else
    match line? l with
    | none => none
    | some (entry, rest) =>
      if _h : rest.length < l.length then (lines? rest).map (entry.toList ++ ·) else none
termination_by l.length

/-- The entries of a flat document, in order and without repeated keys. A byte order mark in front is skipped. -/
def parse? (s : String) : Option (List (String × Value)) := do
  let l := match s.toList with
    | '\uFEFF' :: rest => rest
    | l => l
  let entries ← lines? l
  if (entries.map Prod.fst).Nodup then some entries else none

end SealedDrop.Toml
