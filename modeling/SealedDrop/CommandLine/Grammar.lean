/-!
# Grammars of arguments

What the words after a command may be: flags, which start with dashes, and operands, which stand at their place.

## The model

A grammar describes one level of a command line. A level may name commands; a command word ends the level, and what follows
is read by the grammar of that command.
-/

namespace SealedDrop.CommandLine

/-- What a value must be. -/
inductive ValueForm where
  /-- Any text. -/
  | text
  /-- A path, which is not empty. -/
  | path
  /-- A natural number below `2 ^ 64`. -/
  | count
deriving DecidableEq, Repr

/-- A natural number below `2 ^ 64` in decimal digits, which may follow a plus sign. -/
def count? (s : String) : Option Nat :=
  let digits := match s.toList with
    | '+' :: rest => rest
    | l => l
  if digits ≠ [] ∧ digits.all Char.isDigit then
    let n := digits.foldl (fun n c => 10 * n + (c.toNat - '0'.toNat)) 0
    if n < Nat.pow 2 64 then some n else none
  else none

/-- Whether a text is a value of this form. -/
def ValueForm.accepts : ValueForm → String → Bool
  | text, _ => true
  | path, s => s ≠ ""
  | count, s => (count? s).isSome

/-- What a flag does. -/
inductive FlagKind where
  /-- It is there or not. -/
  | mark
  /-- It has a value. -/
  | value (form : ValueForm)
  /-- It asks for help. -/
  | help
  /-- It asks for the version. -/
  | version
deriving DecidableEq, Repr

/-- A word that starts with dashes. -/
structure Flag where
  /-- What follows two dashes. -/
  name : String
  /-- What follows a single dash, if there is a short form. -/
  letter : Option Char := none
  /-- What it does. -/
  kind : FlagKind
  /-- What it is for, as help tells it. -/
  purpose : String
deriving DecidableEq, Repr

/-- A value that stands at its place. -/
structure Operand where
  /-- What the value is. -/
  name : String
  /-- What it must be. -/
  form : ValueForm
  /-- What it is for, as help tells it. -/
  purpose : String
deriving DecidableEq, Repr

/-- What the words of a level may be. -/
structure Grammar where
  /-- The flags, which may stand anywhere. -/
  flags : List Flag
  /-- The operands, all of which are required. -/
  operands : List Operand := []
  /-- The words that end the level. -/
  commands : List String := []
deriving DecidableEq, Repr

/-- The flag with a name. -/
def Grammar.flag? (g : Grammar) (name : String) : Option Flag :=
  g.flags.find? (·.name = name)

/-- The flag with a short form. -/
def Grammar.flagOfLetter? (g : Grammar) (c : Char) : Option Flag :=
  g.flags.find? (·.letter = some c)

end SealedDrop.CommandLine
