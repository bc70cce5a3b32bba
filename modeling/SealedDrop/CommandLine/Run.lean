import SealedDrop.CommandLine.Invocation
import SealedDrop.Exchange
import SealedDrop.Settings.Load

/-!
# Running the program

What the program does and says, as a session.

## The model

* A run ends with an `Outcome`: an exit code, and what is written to the two output streams.
* The settings of a task are those of the file with those of the flags laid over them. The remote they name is checked before
  the task starts. Generating keys needs no settings, so that none are loaded.
* A `Failure` says what was attempted and why it failed; its report lists the causes one below the other, with numbers if
  there is more than one.
-/

namespace SealedDrop.CommandLine

/-- How a run of the program ends. -/
structure Outcome where
  /-- The exit code. -/
  code : Nat
  /-- What is written to the standard output. -/
  output : String := ""
  /-- What is written to the standard error stream. -/
  complaint : String := ""
deriving DecidableEq, Repr

/-- Why a task failed. -/
structure Failure where
  /-- What was attempted, as a complaint. -/
  attempt : String
  /-- Why that failed. -/
  cause : Error
deriving DecidableEq, Repr

namespace Failure

/-- What caused a failure, from the outermost cause to the innermost. -/
def causes (f : Failure) : List String :=
  match f.cause with
  | .io e => [f.cause.message, e.description]
  | e => [e.message]

/-- A text whose lines after the first are indented. -/
def hang (indent text : String) : String :=
  String.ofList (text.toList.flatMap fun c => if c = '\n' then '\n' :: indent.toList else [c])

/-- The report of a failure. -/
def report (f : Failure) : String :=
  let causes := match f.causes with
    | [cause] => ["    " ++ hang "    " cause]
    | l => l.mapIdx fun i cause => "    " ++ toString i ++ ": " ++ hang "       " cause
  "Error: " ++ f.attempt ++ "\n\nCaused by:\n" ++ "\n".intercalate causes ++ "\n"

end Failure

/-! ### What is said without doing anything -/

/-- The outcome of a reply. -/
def Reply.outcome : Reply → Outcome
  | misuse =>
    { code := 2
      complaint := "error: invalid arguments\n\nUsage: " ++ programName ++ " " ++ Help.usage .program ++
        "\n\nFor more information, try '--help'.\n" }
  | help t => { code := 0, output := Help.page t }
  | version => { code := 0, output := programName ++ " " ++ programVersion ++ "\n" }

/-! ### Tasks -/

/-- An operation whose failure is told as that of an attempt. -/
def attempt {α : Type} (what : String) (op : Op α) : ExceptT Failure Session α :=
  ExceptT.mk do
    match ← ExceptT.run op with
    | .ok a => return .ok a
    | .error e => return .error ⟨what, e⟩

/-- The settings of an invocation, which name a remote that can be reached by a URL. -/
def Invocation.settings (i : Invocation) : ExceptT Failure Session Settings := do
  let loaded ← attempt "Failed to load configuration" (Settings.load i.settingsPath)
  let settings := loaded.overlay i.overrides
  let _ ← attempt "Failed to set up remote connection" (Op.check settings.remoteUrl)
  return settings

/-- Does what an invocation asks for, and gives what to write to the standard output. -/
def Invocation.perform (i : Invocation) : ExceptT Failure Session String := do
  match i.task with
  | .drop file =>
    let settings ← i.settings
    let reference ← attempt ("Failed to drop '" ++ file ++ "'") (Exchange.drop settings file)
    return "Dropped " ++ file ++ " -> " ++ reference.text ++ "\n"
  | .pull reference destination =>
    let settings ← i.settings
    attempt ("Failed to pull '" ++ reference ++ "'") (Exchange.pull settings reference destination)
    return "Pulled " ++ destination ++ " <- " ++ reference ++ "\n"
  | .addKey publicKey name =>
    let settings ← i.settings
    attempt ("Failed to add key '" ++ name ++ "'") (Exchange.addKey settings publicKey name)
    return "Key '" ++ name ++ "' registered\n"
  | .genKey privateKey publicKey bits =>
    attempt "Failed to generate key pair" (KeyGeneration.run privateKey publicKey bits)
    return "Private key: " ++ privateKey ++ "\nPublic key:  " ++ publicKey ++ "\n"

/-- The outcome of a task. -/
def Outcome.ofResult : Except Failure String → Outcome
  | .ok output => { code := 0, output }
  | .error f => { code := 1, complaint := f.report }

/-- Runs the program on the words after its name. -/
def run (words : List String) : Session Outcome := do
  match Invocation.ofWords words with
  | .error reply => return reply.outcome
  | .ok i => return .ofResult (← ExceptT.run i.perform)

end SealedDrop.CommandLine
