import SealedDrop.CommandLine.Grammar

/-!
# The interface of the command

The commands of the program, their operands and flags.
-/

namespace SealedDrop.CommandLine

/-- The name of the program. -/
def programName : String := "dead"

/-- The version of the program. -/
def programVersion : String := "0.1.0"

/-- What the program is for. -/
def programPurpose : String := "Encrypted dead-drop object exchange"

/-- The commands. -/
inductive Verb where
  /-- Drops a file at the remote. -/
  | drop
  /-- Pulls an object from the remote. -/
  | pull
  /-- Registers a public key. -/
  | addKey
  /-- Generates a key pair. -/
  | genKey
deriving DecidableEq, Repr

namespace Verb

/-- All commands, in the order of help. -/
def all : List Verb :=
  [drop, pull, addKey, genKey]

/-- The word of a command. -/
def word : Verb → String
  | drop => "drop"
  | pull => "pull"
  | addKey => "add-key"
  | genKey => "gen-key"

/-- The command of a word. -/
def ofWord? (s : String) : Option Verb :=
  all.find? (·.word = s)

/-- What a command does, as help tells it. -/
def purpose : Verb → String
  | drop => "Encrypt a file and upload it; prints the object reference"
  | pull => "Download, verify and decrypt an object"
  | addKey => "Register another public key with the remote"
  | genKey => "Generate an RSA key pair for authentication"

/-- The operands of a command. -/
def operands : Verb → List Operand
  | drop => [⟨"file", .path, "File to drop"⟩]
  | pull =>
    [⟨"object", .text, "Object reference printed by \x60drop\x60 (\x60<id>:<checksum>\x60)"⟩,
      ⟨"dest", .path, "Where to write the decrypted file"⟩]
  | addKey =>
    [⟨"public-key", .path, "PEM encoded RSA public key"⟩, ⟨"name", .text, "Name to register the key under"⟩]
  | genKey =>
    [⟨"private-key", .path, "Where to write the private key"⟩,
      ⟨"public-key", .path, "Where to write the public key"⟩]

/-- The size of a generated modulus if none is asked for. -/
def defaultBits : Nat := 4096

/-- The flags of a command that others do not have. -/
def ownFlags : Verb → List Flag
  | genKey =>
    [{ name := "bits", kind := .value .count, purpose := "Key size in bits [default: " ++ toString defaultBits ++ "]" }]
  | _ => []

end Verb

/-- The flags that may stand before and after the word of a command. -/
def sharedFlags : List Flag :=
  [{ name := "verbose", letter := some 'v', kind := .mark, purpose := "Enable verbose logging" },
    { name := "config", letter := some 'c', kind := .value .path
      purpose := "Config file (default: ~/.dead-drop/config.toml)" },
    { name := "remote", kind := .value .text, purpose := "Base URL of the dead-drop host" },
    { name := "private-key", kind := .value .path, purpose := "Private key used to authenticate" },
    { name := "key-name", kind := .value .text, purpose := "Name the public key is registered under" },
    { name := "encryption-key", kind := .value .path, purpose := "Symmetric key shared with the other party" },
    { name := "insecure-skip-verify", kind := .mark, purpose := "Skip TLS certificate verification" }]

/-- The flag that asks for help. -/
def helpFlag : Flag where
  name := "help"
  letter := some 'h'
  kind := .help
  purpose := "Print help"

/-- The flag that asks for the version. -/
def versionFlag : Flag where
  name := "version"
  letter := some 'V'
  kind := .version
  purpose := "Print version"

/-- The command that asks for help. -/
def helpWord : String := "help"

/-- What the command that asks for help does. -/
def helpPurpose : String := "Print this message or the help of the given subcommand(s)"

/-- What may stand before the word of a command. -/
def programGrammar : Grammar where
  flags := sharedFlags ++ [helpFlag, versionFlag]
  commands := Verb.all.map Verb.word ++ [helpWord]

/-- What may follow the word of a command. A shared flag gives way to an operand of the same name. -/
def Verb.grammar (v : Verb) : Grammar where
  flags := v.ownFlags ++ sharedFlags.filter (fun f => v.operands.all (·.name ≠ f.name)) ++ [helpFlag]
  operands := v.operands

end SealedDrop.CommandLine
