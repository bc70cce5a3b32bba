import SealedDrop.Home
import SealedDrop.KeyFile
import SealedDrop.Session.Effect

/-!
# Secrets

Buffers of secret bytes, and how key files are loaded into them.

## The model

* A secret shows its size and never its bytes.
* `Secret.load` expands a leading tilde and reads the whole file. A regular file whose size is known is read into a buffer of
  that size, and then must have ended; any other file is read to its end into a growing buffer. Every failure is one of
  access to a key.
-/

namespace SealedDrop

/-- A buffer of secret bytes. -/
structure Secret where
  /-- The bytes. -/
  bytes : Bytes := []
deriving DecidableEq

namespace Secret

/-- A buffer of zeros. -/
def zeroed (n : Nat) : Secret :=
  ⟨List.replicate n 0⟩

/-- Overwrites the bytes from a place on; the size stays. -/
def overwrite (s : Secret) (place : Nat) (b : Bytes) : Secret :=
  ⟨(s.bytes.take place ++ b ++ s.bytes.drop (place + b.length)).take s.bytes.length⟩

/-- The number of bytes. -/
def size (s : Secret) : Nat :=
  s.bytes.length

/-- What is shown of a secret. -/
def redacted (s : Secret) : String :=
  "SecretBuffer([REDACTED; " ++ toString s.size ++ " bytes])"

/-- The contents of an open key file, of which messages tell the path. -/
def read (path : String) (source : Source) : Except Error Secret :=
  let failed := fun (e : IoError) => Error.keyAccess ("Cannot read '" ++ path ++ "': " ++ e.description)
  if source.isRegular ∧ source.size ≠ 0 then
    match readExact source.size source.events with
    | (.error e, _) => .error (failed e)
    | (.ok b, rest) =>
      match (ReadEvent.read 1 rest).1 with
      | .data [] => .ok ⟨b⟩
      | .data _ => .error (.keyAccess ("'" ++ path ++ "' changed while being read"))
      | .interrupted => .error (failed .interrupted)
      | .failure e => .error (failed e)
  else
    match readToEnd source.events with
    | .error e => .error (failed e)
    | .ok b => .ok ⟨b⟩

/-- Loads a whole file. -/
def load (raw : String) : Op Secret := do
  let home ← Op.ask .home
  let path ← Op.check <| (Home.expand home raw).mapError fun e =>
    .keyAccess ("Cannot locate '" ++ raw ++ "': " ++ e.message)
  let source ← Op.access (fun e => .keyAccess ("Cannot open '" ++ path ++ "': " ++ e.description))
    (← Op.ask (.openRead path))
  Op.check (read path source)

end Secret

/-- Loads the private key in a file. -/
def KeyFile.loadPrivate (path : String) : Op Rsa.PrivateKey := do
  Op.check (KeyFile.readPrivate (← Secret.load path).bytes)

end SealedDrop
