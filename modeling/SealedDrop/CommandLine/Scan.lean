import SealedDrop.CommandLine.Grammar

/-!
# Reading the words of a level

## The model

* A flag with a value takes it from its own word (`--name=value`, `-nvalue`, `-n=value`) or else from the next one, which must
  not start with a dash, except that a dash alone is a value. Short forms may share a word.
* Two dashes alone end the flags: the words that follow are operands.
* No flag is given twice.
* A value that stands in a word of its own is judged late: when the next flag or operand is met, or at the end of the level. A
  request for help that comes earlier is answered, whatever the value.
-/

namespace SealedDrop.CommandLine

/-- Why reading stops early. -/
inductive Halt where
  /-- The words do not follow the grammar. -/
  | misuse
  /-- Help is asked for. -/
  | help
  /-- The version is asked for. -/
  | version
deriving DecidableEq, Repr

/-- What is not settled yet. -/
inductive Pending where
  /-- A flag whose value is still to come. -/
  | awaiting (name : String) (form : ValueForm)
  /-- A flag with a value that is still to be judged. -/
  | flag (name : String) (form : ValueForm) (value : String)
  /-- An operand that is still to be judged. -/
  | operand (form : ValueForm) (value : String)
deriving DecidableEq, Repr

/-- What has been read of a level. -/
structure Scan where
  /-- The flags that were given, each with its value; that of a mark is empty. -/
  flags : List (String × String) := []
  /-- The operands that were given. -/
  operands : List String := []
  /-- What is not settled yet. -/
  pending : Option Pending := none
deriving DecidableEq, Repr

namespace Scan

/-- The value of a flag, if it was given. -/
def value? (s : Scan) (name : String) : Option String :=
  s.flags.lookup name

/-- Notes a flag, which must not have been given before. -/
def note (s : Scan) (name value : String) : Except Halt Scan :=
  if (s.value? name).isSome then .error .misuse else .ok { s with flags := s.flags ++ [(name, value)] }

/-- Judges what is not settled. -/
def settle (s : Scan) : Except Halt Scan :=
  let settled := { s with pending := none }
  match s.pending with
  | none => .ok s
  | some (.awaiting _ _) => .error .misuse
  | some (.flag name form value) => if form.accepts value then settled.note name value else .error .misuse
  | some (.operand form value) =>
    if form.accepts value then .ok { settled with operands := s.operands ++ [value] } else .error .misuse

/-- Reads a flag that has no value in its word. -/
def readFlag (s : Scan) (f : Flag) : Except Halt Scan := do
  let s ← s.settle
  match f.kind with
  | .mark => s.note f.name ""
  | .value form => return { s with pending := some (.awaiting f.name form) }
  | .help => throw .help
  | .version => throw .version

/-- Reads a flag that has a value in its word. -/
def readAttached (s : Scan) (f : Flag) (value : String) : Except Halt Scan := do
  let s ← s.settle
  match f.kind with
  | .value form => settle { s with pending := some (.flag f.name form value) }
  | _ => throw .misuse

/-- Reads a word that starts with two dashes, of which what follows them is given. -/
def readLong (g : Grammar) (s : Scan) (word : List Char) : Except Halt Scan :=
  let name := String.ofList (word.takeWhile (· ≠ '='))
  match g.flag? name, word.dropWhile (· ≠ '=') with
  | none, _ => .error .misuse
  | some f, [] => s.readFlag f
  | some f, _ :: value => s.readAttached f (String.ofList value)

/-- Reads a word that starts with one dash, of which what follows it is given. -/
def readShort (g : Grammar) (s : Scan) : List Char → Except Halt Scan
  | [] => .ok s
  | c :: rest =>
    match g.flagOfLetter? c with
    | none => .error .misuse
    | some f =>
      match f.kind, rest with
      | .value _, '=' :: value => s.readAttached f (String.ofList value)
      | .value _, d :: value => s.readAttached f (String.ofList (d :: value))
      | _, _ => do readShort g (← s.readFlag f) rest

/-- Reads an operand. -/
def readOperand (g : Grammar) (s : Scan) (word : String) : Except Halt Scan := do
  let s ← s.settle
  match g.operands[s.operands.length]? with
  | none => throw .misuse
  | some o => return { s with pending := some (.operand o.form word) }

/-- Reads a word before the flags have ended. -/
def readWord (g : Grammar) (s : Scan) (word : String) : Except Halt Scan :=
  match word.toList with
  | '-' :: '-' :: long => s.readLong g long
  | '-' :: c :: short => s.readShort g (c :: short)
  | _ =>
    match s.pending with
    | some (.awaiting name form) => .ok { s with pending := some (.flag name form word) }
    | _ => s.readOperand g word

/-- Whether the next word may be a command. -/
def mayBeCommand (s : Scan) : Bool :=
  match s.pending with
  | some (.awaiting _ _) => false
  | _ => true

/-- Reads words up to their end or to a command, which is told with the words after it. -/
def readWords (g : Grammar) : Scan → List String → Except Halt (Scan × Option (String × List String))
  | s, [] => .ok (s, none)
  | s, word :: rest =>
    if s.mayBeCommand ∧ word ∈ g.commands then .ok (s, some (word, rest))
    else if word = "--" then do return (← rest.foldlM (readOperand g) s, none)
    else do readWords g (← s.readWord g word) rest

/-- Settles the last word; every operand must have been given. -/
def finish (g : Grammar) (s : Scan) : Except Halt Scan := do
  let s ← s.settle
  if s.operands.length = g.operands.length then return s else throw .misuse

end Scan

end SealedDrop.CommandLine
