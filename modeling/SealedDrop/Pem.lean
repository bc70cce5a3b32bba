import SealedDrop.Base64

/-!
# Textual encoding of keys

Wraps bytes in base64 lines between boundaries that carry a label, and reads such a block back.

## The model

* `encode` writes lines of 64 symbols that end in a line feed.
* `decode?` skips any text before the opening boundary, which must begin the text or follow a line feed. A line ends with a
  line feed, a carriage return, or both. All lines but the last have 64 symbols, the label is the same at both ends, and
  after the closing boundary at most one line end may follow.
-/

namespace SealedDrop.Pem

/-- The number of symbols in a full line. -/
def lineWidth : Nat := 64

/-- The boundary in front of a block. -/
def opening (label : String) : Bytes :=
  utf8 ("-----BEGIN " ++ label ++ "-----")

/-- The boundary after a block. -/
def closing (label : String) : Bytes :=
  utf8 ("-----END " ++ label ++ "-----")

/-- The block that holds the bytes under a label. -/
def encode (label : String) (b : Bytes) : Bytes :=
  let lines := (Base64.encode .standard b).blocks lineWidth
  opening label ++ 0x0A :: lines.flatMap (· ++ [0x0A]) ++ closing label ++ [0x0A]

/-! ### Line ends -/

/-- Removes the line end at the front, if there is one. -/
def dropEol? : Bytes → Option Bytes
  | 0x0D :: 0x0A :: rest => some rest
  | 0x0D :: rest => some rest
  | 0x0A :: rest => some rest
  | _ => none

/-- Removes the line end at the back, if there is one. -/
def dropLastEol? (b : Bytes) : Option Bytes :=
  match b.reverse with
  | 0x0A :: 0x0D :: rest => some rest.reverse
  | 0x0A :: rest => some rest.reverse
  | 0x0D :: rest => some rest.reverse
  | _ => none

theorem length_dropEol? {b rest : Bytes} (h : dropEol? b = some rest) : rest.length < b.length := by
  unfold dropEol? at h
  split at h <;> simp only [Option.some.injEq, reduceCtorEq] at h
  all_goals subst h; simp only [List.length_cons]; omega

/-! ### Reading -/

/-- The text from the first opening boundary on. A zero byte before it is refused. -/
def dropPreamble? (start : Bytes) (b : Bytes) : Option Bytes :=
  if start.isPrefixOf b then some b else afterLineFeed b
where
  /-- The text after the first line feed that the boundary follows. -/
  afterLineFeed : Bytes → Option Bytes
    | [] => none
    | b :: rest =>
      if b = 0 then none
      else if b = 0x0A ∧ start.isPrefixOf rest then some rest
      else afterLineFeed rest

/-- The lines of a body: full ones that end in a line end, and a last one. -/
def lines? (b : Bytes) : Option (List Bytes) :=
  if b.length ≤ lineWidth then
    some (if b.isEmpty then [] else [(dropLastEol? b).getD b])
  else
    match _h : dropEol? (b.drop lineWidth) with
    | none => none
    | some rest => (lines? rest).map (b.take lineWidth :: ·)
termination_by b.length
decreasing_by
  have := length_dropEol? ‹_›
  simp only [List.length_drop] at this
  omega

/-- The bytes that the lines of a body encode. There must be a line, and padding must stand in the last one. -/
def decodeLines? (lines : List Bytes) : Option Bytes := do
  let last ← lines.getLast?
  let text := lines.flatten
  if last.isEmpty ∧ text.contains Base64.pad then none
  (Base64.decode .standard text).toOption

/-- The bytes of the block under a label. -/
def decode? (label : String) (text : Bytes) : Option Bytes := do
  let text ← dropPreamble? (utf8 "-----BEGIN ") text
  let text ← Bytes.dropStart? (opening label) text
  let text ← dropEol? text
  let text ← Bytes.dropEnd? (closing label) ((dropLastEol? text).getD text)
  let body ← dropLastEol? text
  decodeLines? (← lines? body)

end SealedDrop.Pem
