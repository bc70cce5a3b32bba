import SealedDrop.Session.Effect
import SealedDrop.Settings.Format

/-!
# Loading settings

Reads settings from a file that is named, or else from the one under the home directory if it is there.
-/

namespace SealedDrop.Settings

/-- The settings in a file. -/
def readFile (path : String) : Op Settings := do
  let failed := fun (e : IoError) => Error.config ("Error reading config file '" ++ path ++ "': " ++ e.description)
  let source ← Op.access failed (← Op.ask (.openRead path))
  let contents ← Op.access failed (readToEnd source.events)
  let some text := text? contents | throw (failed ⟨.invalidData, "stream did not contain valid UTF-8"⟩)
  Op.check <| (parse text).mapError fun e => .config ("In '" ++ path ++ "': " ++ e.message)

/-- The settings in the file that is named, which must exist; without one, those in the default file if that is a file, and
otherwise none. -/
def load (path : Option String) : Op Settings := do
  match path with
  | some path => readFile path
  | none =>
    let home : Option String ← Op.ask .home
    match home.map defaultPath with
    | none => return {}
    | some path =>
      let found : Bool ← Op.ask (.isFile path)
      if found then readFile path else return {}

end SealedDrop.Settings
