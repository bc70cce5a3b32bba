import SealedDrop.KeyName
import SealedDrop.Path
import SealedDrop.Text.Blank
import SealedDrop.Url

/-!
# Settings

What an operation needs to know about the remote and the keys, and how settings from several sources are laid over each
other.

## The model

Any setting may be missing. The accessors (`remoteUrl`, `privateKeyPath`, …) give the value of a setting or an error that
names it; a blank text counts as missing, an empty path as well. `Settings.overlay` lets a given value win over one from
below; certificates go unverified as soon as either side asks for it.
-/

namespace SealedDrop

/-- The settings of an operation. -/
structure Settings where
  /-- The base URL of the remote. -/
  remote : Option String := none
  /-- The path of the private key that authenticates requests. -/
  privateKey : Option String := none
  /-- The name under which the matching public key is registered. -/
  keyName : Option String := none
  /-- The path of the key that both parties share. -/
  encryptionKey : Option String := none
  /-- Whether the certificate of the remote goes unverified. -/
  insecureSkipVerify : Bool := false
  /-- The number of seconds after which a request is given up. -/
  requestTimeout : Option Nat := none
deriving DecidableEq, Repr

namespace Settings

/-- The number of seconds after which a request is given up if no setting says otherwise. -/
def defaultTimeout : Nat := 30

/-- The complaint that a setting is missing. -/
def missing (name : String) : Error :=
  .config ("Setting '" ++ name ++ "' not specified or empty")

/-- The text of a setting without surrounding white space. -/
def requiredText (name : String) (value : Option String) : Except Error String :=
  match value.map Text.trim with
  | some s => if s = "" then .error (missing name) else .ok s
  | none => .error (missing name)

/-- The path in a setting. -/
def requiredPath (name : String) (value : Option String) : Except Error String :=
  match value with
  | some s => if s = "" then .error (missing name) else .ok s
  | none => .error (missing name)

/-- The base URL of the remote, without slashes at its end. -/
def remoteUrl (s : Settings) : Except Error String := do
  let raw ← requiredText "remote" s.remote
  match Url.parse raw with
  | .error e => throw (.config ("Invalid remote '" ++ raw ++ "': " ++ e.message))
  | .ok url =>
    if url.scheme ≠ "https" ∧ url.scheme ≠ "http" then
      throw (.config ("Remote '" ++ raw ++ "' must use http or https"))
    return Text.trimEnd (· == '/') raw

/-- The path of the private key. -/
def privateKeyPath (s : Settings) : Except Error String :=
  requiredPath "private-key" s.privateKey

/-- The path of the shared key. -/
def encryptionKeyPath (s : Settings) : Except Error String :=
  requiredPath "encryption-key" s.encryptionKey

/-- The name under which the public key is registered. -/
def registeredName (s : Settings) : Except Error KeyName := do
  let raw ← requiredText "key-name" s.keyName
  match KeyName.ofString raw with
  | .error e => throw (.config ("Setting 'key-name': " ++ e.message))
  | .ok name => return name

/-- The number of seconds after which a request is given up. -/
def timeout (s : Settings) : Nat :=
  s.requestTimeout.getD defaultTimeout

/-- These settings with those of `top` laid over them. -/
def overlay (s top : Settings) : Settings where
  remote := top.remote.or s.remote
  privateKey := top.privateKey.or s.privateKey
  keyName := top.keyName.or s.keyName
  encryptionKey := top.encryptionKey.or s.encryptionKey
  insecureSkipVerify := top.insecureSkipVerify || s.insecureSkipVerify
  requestTimeout := top.requestTimeout.or s.requestTimeout

/-- The path of the settings file under a home directory. -/
def defaultPath (home : String) : String :=
  Path.join (Path.join home ".dead-drop") "config.toml"

end Settings

end SealedDrop
