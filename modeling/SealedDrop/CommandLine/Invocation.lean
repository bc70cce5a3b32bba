import SealedDrop.CommandLine.Help
import SealedDrop.CommandLine.Scan
import SealedDrop.Settings.Basic

/-!
# Invocations

What the words after the program's name ask for.

## The model

An invocation is a task with a place for the settings file and settings that win over those of the file. Instead of doing
anything the program may answer with a `Reply`: that it has been misused, a page of help, or its version. A shared flag may be
given once before the word of the command and once after it; the value after it wins.
-/

namespace SealedDrop.CommandLine

/-- What the program is to do. -/
inductive Task where
  /-- Drop a file. -/
  | drop (file : String)
  /-- Pull the object with a reference and put it in place of a file. -/
  | pull (reference destination : String)
  /-- Register a public key under a name. -/
  | addKey (publicKey name : String)
  /-- Generate a key pair with a modulus of this many bits, each half in a file. -/
  | genKey (privateKey publicKey : String) (bits : Nat)
deriving DecidableEq, Repr

/-- What the words after the program's name ask for. -/
structure Invocation where
  /-- The settings file, if one is named. -/
  settingsPath : Option String
  /-- Settings that win over those of the file. -/
  overrides : Settings
  /-- What to do. -/
  task : Task
deriving DecidableEq, Repr

/-- What the program says instead of doing anything. -/
inductive Reply where
  /-- That it has been misused. -/
  | misuse
  /-- A page of help. -/
  | help (t : Topic)
  /-- Its version. -/
  | version
deriving DecidableEq, Repr

/-- What to say when reading the words on a subject stops early. -/
def Reply.ofHalt (t : Topic) : Halt → Reply
  | .misuse => misuse
  | .help => help t
  | .version => version

/-- What to say to words after the one that asks for help. -/
def Reply.helpOn : List String → Reply
  | [] => help .program
  | [word] =>
    match Verb.ofWord? word with
    | some v => help (.verb v)
    | none => if word = helpWord then help .help else misuse
  | _ => misuse

/-- The task of a command with its operands and, for keys, the size that was asked for. -/
def Verb.task? (v : Verb) (operands : List String) (bits : Option Nat) : Option Task :=
  match v, operands with
  | .drop, [file] => some (.drop file)
  | .pull, [reference, destination] => some (.pull reference destination)
  | .addKey, [publicKey, name] => some (.addKey publicKey name)
  | .genKey, [privateKey, publicKey] => some (.genKey privateKey publicKey (bits.getD defaultBits))
  | _, _ => none

namespace Invocation

/-- Settings from the flags, of which the first list wins over the second. -/
def settingsOfFlags (inner outer : Scan) : Settings :=
  let value := fun name => (inner.value? name).or (outer.value? name)
  { remote := value "remote"
    privateKey := value "private-key"
    keyName := value "key-name"
    encryptionKey := value "encryption-key"
    insecureSkipVerify := (value "insecure-skip-verify").isSome }

/-- The invocation of a command, given what was read before its word and the words after it. -/
def ofVerb (v : Verb) (outer : Scan) (words : List String) : Except Reply Invocation := do
  let halted := Reply.ofHalt (.verb v)
  let (inner, _) ← (Scan.readWords v.grammar {} words).mapError halted
  let inner ← (inner.finish v.grammar).mapError halted
  let outer ← outer.settle.mapError (Reply.ofHalt .program)
  match v.task? inner.operands ((inner.value? "bits").bind count?) with
  | none => throw .misuse
  | some task =>
    return { settingsPath := (inner.value? "config").or (outer.value? "config")
             overrides := settingsOfFlags inner outer
             task }

/-- The invocation that words ask for. -/
def ofWords (words : List String) : Except Reply Invocation := do
  let (outer, command) ← (Scan.readWords programGrammar {} words).mapError (Reply.ofHalt .program)
  match command with
  | none => throw .misuse
  | some (word, rest) =>
    if word = helpWord then throw (Reply.helpOn rest)
    match Verb.ofWord? word with
    | none => throw .misuse
    | some v => ofVerb v outer rest

end Invocation

end SealedDrop.CommandLine
