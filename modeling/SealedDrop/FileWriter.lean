import SealedDrop.Session.Effect
import SealedDrop.Uuid

/-!
# Writing files

Two ways to put bytes into a file: under a name that must be new, and in place of whatever file has the name.

## The model

* `writeNew` creates the file under its name and then writes to it. A failure after the creation leaves the file behind.
* `replace` writes to a hidden sibling with a random name first and moves it into place when all of it is on the disk, so
  that the destination holds the old contents or the new ones and nothing between. On failure it removes the sibling.
-/

namespace SealedDrop.FileWriter

/-- Writes bytes to an open file and brings them to the disk. -/
def writeAll (h : Handle) (b : Bytes) : Session (Except IoError Unit) := do
  match ← Session.ask (.write h b) with
  | .error e => return .error e
  | .ok () => Session.ask (.sync h)

/-- Creates a file with these contents and permission bits. -/
def writeNew (path : String) (b : Bytes) (mode : Nat) : Op Unit := do
  let h ← Op.access (Error.ioWith ("Failed to create '" ++ path ++ "'")) (← Op.ask (.createNew path mode))
  Op.access (Error.ioWith ("Failed to write '" ++ path ++ "'")) (← ExceptT.lift (writeAll h b))

/-- Creates a file under a temporary name and moves it into place. -/
def writeAndMove (temporary destination : String) (b : Bytes) (mode : Nat) : Session (Except IoError Unit) := do
  match ← Session.ask (.createNew temporary mode) with
  | .error e => return .error e
  | .ok h =>
    match ← writeAll h b with
    | .error e => return .error e
    | .ok () => Session.ask (.rename temporary destination)

/-- The hidden sibling of a file, told apart from others by random bytes. -/
def sibling (directory name : String) (random : Bytes) : String :=
  Path.join directory ("." ++ name ++ "." ++ Uuid.simple random ++ ".partial")

/-- Puts these contents, with these permission bits, in place of the file of this name. -/
def replace (destination : String) (b : Bytes) (mode : Nat) : Op Unit := do
  let some (directory, name) := Path.split? destination
    | throw (.invalidInput ("'" ++ destination ++ "' is not a file path"))
  let random ← Op.ask (.draw 16)
  let temporary := sibling directory name random.val
  match ← ExceptT.lift (writeAndMove temporary destination b mode) with
  | .ok () => return
  | .error e =>
    Op.ask (.remove temporary)
    throw (Error.ioWith ("Error writing object to '" ++ destination ++ "'") e)

end SealedDrop.FileWriter
