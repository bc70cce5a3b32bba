import SealedDrop.CommandLine.Interface

/-!
# Help

The pages that tell how the program and its commands are used.

## The model

A page says what the subject is for and how it is used, and then lists commands, operands and flags, each list in two columns.
-/

namespace SealedDrop.CommandLine

/-- What help is about. -/
inductive Topic where
  /-- The program. -/
  | program
  /-- A command. -/
  | verb (v : Verb)
  /-- The command that asks for help. -/
  | help
deriving DecidableEq, Repr

namespace Help

/-- How a value is called: in capitals, with underscores. -/
def placeholder (name : String) : String :=
  name.map fun c => if c = '-' then '_' else c.toUpper

/-- How an operand stands in a page. -/
def operandForm (o : Operand) : String :=
  "<" ++ placeholder o.name ++ ">"

/-- How a flag stands in a page. -/
def flagForm (f : Flag) : String :=
  let short := match f.letter with
    | some c => "-" ++ c.toString ++ ", "
    | none => "    "
  let value := match f.kind with
    | .value _ => " <" ++ placeholder f.name ++ ">"
    | _ => ""
  short ++ "--" ++ f.name ++ value

/-- Two columns under a title. -/
def table (title : String) (rows : List (String × String)) : String :=
  let width := (rows.map (·.1.length)).foldl max 0
  let row := fun (left, right) => "\n  " ++ left.pushn ' ' (width + 2 - left.length) ++ right
  title ++ ":" ++ String.join (rows.map row)

/-- The list of flags. -/
def flagTable (l : List Flag) : String :=
  table "Options" (l.map fun f => (flagForm f, f.purpose))

/-- A page. -/
def layout (purpose usage : String) (tables : List String) : String :=
  "\n\n".intercalate ([purpose, "Usage: " ++ programName ++ " " ++ usage] ++ tables) ++ "\n"

/-- How a subject is used. -/
def usage : Topic → String
  | .program => "[OPTIONS] <COMMAND>"
  | .verb v => " ".intercalate ([v.word, "[OPTIONS]"] ++ v.operands.map operandForm)
  | .help => helpWord ++ " [COMMAND]..."

/-- The page about a subject. -/
def page (t : Topic) : String :=
  match t with
  | .program =>
    layout programPurpose (usage t)
      [table "Commands" (Verb.all.map (fun v => (v.word, v.purpose)) ++ [(helpWord, helpPurpose)]),
        flagTable programGrammar.flags]
  | .verb v =>
    layout v.purpose (usage t)
      [table "Arguments" (v.operands.map fun o => (operandForm o, o.purpose)), flagTable v.grammar.flags]
  | .help => layout helpPurpose (usage t) [table "Arguments" [("[COMMAND]...", "Print help for the subcommand(s)")]]

end Help

end SealedDrop.CommandLine
