import SealedDrop.Json.Mismatch
import SealedDrop.Settings.Basic
import SealedDrop.Toml

/-!
# Settings in files and messages

The two formats of settings: the lines of a settings file, and a JSON object.

## The model

Both formats name the settings by the same six keys and refuse any other. A settings file leaves a setting out to have
none; in JSON a setting may also be absent by value, and the settings may be listed in order without their keys.
-/

namespace SealedDrop.Settings

/-- The names of the settings, in order. -/
def names : List String :=
  ["remote", "private-key", "key-name", "encryption-key", "insecure-skip-verify", "request-timeout-secs"]

/-! ### Files -/

/-- The settings with one more entry of a file; `none` if the key or the type of the value is wrong. -/
def withEntry? (s : Settings) (key : String) (v : Toml.Value) : Option Settings :=
  match key, v with
  | "remote", .string t => some { s with remote := some t }
  | "private-key", .string t => some { s with privateKey := some t }
  | "key-name", .string t => some { s with keyName := some t }
  | "encryption-key", .string t => some { s with encryptionKey := some t }
  | "insecure-skip-verify", .bool b => some { s with insecureSkipVerify := b }
  | "request-timeout-secs", .integer n => if 0 ≤ n then some { s with requestTimeout := some n.toNat } else none
  | _, _ => none

/-- The settings in the text of a file, if it is well-formed. -/
def ofToml? (text : String) : Option Settings := do
  (← Toml.parse? text).foldlM (fun s entry => s.withEntry? entry.1 entry.2) {}

/-- The settings in the text of a file. -/
def parse (text : String) : Except Error Settings :=
  match ofToml? text with
  | some s => .ok s
  | none => .error (.config "Invalid config file: not a list of known settings")

/-! ### JSON -/

open Json

/-- The settings with one more setting from JSON. -/
def withMember (s : Settings) (name : String) (v : Value) : Except String Settings :=
  match name with
  | "remote" => return { s with remote := ← v.toOption (Value.toText "a string") }
  | "private-key" => return { s with privateKey := ← v.toOption (Value.toText "path string") }
  | "key-name" => return { s with keyName := ← v.toOption (Value.toText "a string") }
  | "encryption-key" => return { s with encryptionKey := ← v.toOption (Value.toText "path string") }
  | "insecure-skip-verify" => return { s with insecureSkipVerify := ← v.toBool }
  | "request-timeout-secs" => return { s with requestTimeout := ← v.toOption Value.toUnsigned }
  | _ =>
    let quoted := names.map fun n => "\x60" ++ n ++ "\x60"
    throw ("unknown field \x60" ++ name ++ "\x60, expected one of " ++ ", ".intercalate quoted)

/-- The settings that a JSON value lists, by key or in order. -/
def ofJson (v : Value) : Except String Settings :=
  match v with
  | .object members => members.foldlM (fun s (name, v) => s.withMember name v) {}
  | .array items => do
    let s ← (names.zip items).foldlM (fun s (name, v) => s.withMember name v) {}
    if names.length < items.length then
      throw ("invalid length " ++ toString items.length ++ ", expected fewer elements in array")
    return s
  | v => .error (v.mismatch "struct ClientConfig")

/-- The JSON object of settings, with all six keys. -/
def toJson (s : Settings) : Value :=
  let text := fun (v : Option String) => (v.map Value.string).getD .null
  .object [("remote", text s.remote), ("private-key", text s.privateKey), ("key-name", text s.keyName),
    ("encryption-key", text s.encryptionKey), ("insecure-skip-verify", .bool s.insecureSkipVerify),
    ("request-timeout-secs", (s.requestTimeout.map fun n => Value.number (.unsigned n)).getD .null)]

end SealedDrop.Settings
