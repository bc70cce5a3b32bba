import SealedDrop.FileTree.Operations
import SealedDrop.Message
import SealedDrop.Reading

/-!
# Effects and sessions

What an operation asks of the machine it runs on and of the remote, as data.

## The model

* An `Effect` is one request to the machine, and `Effect.Answer` the type of its answer.
* A `Session` is a run of an operation: it ends with a value, or performs an effect, or calls the remote, and goes on with
  the answer. Nothing is said about who answers, so that the same session runs on a real machine, on a `Machine` that is a
  value, and step by step beside other sessions.
* `Op` is a session that may fail with an `Error`.
-/

namespace SealedDrop

/-- A file that has been created and is open for writing. -/
structure Handle where
  /-- The route of the file. -/
  route : Route
deriving DecidableEq, Repr

/-- A request to the machine. -/
inductive Effect where
  /-- The home directory of the user. -/
  | home
  /-- The next random bytes. -/
  | draw (n : Nat)
  /-- Whether a path names an entry. -/
  | hasEntry (path : String)
  /-- Whether a path names a regular file. -/
  | isFile (path : String)
  /-- Opens a file for reading. -/
  | openRead (path : String)
  /-- Creates a file with permission bits and opens it for writing. -/
  | createNew (path : String) (mode : Nat)
  /-- Writes bytes to an open file. -/
  | write (h : Handle) (b : Bytes)
  /-- Brings what was written to the disk. -/
  | sync (h : Handle)
  /-- Moves an entry. -/
  | rename (old new : String)
  /-- Removes an entry; whether that worked is not told. -/
  | remove (path : String)

/-- The type of the answer to a request. -/
def Effect.Answer : Effect → Type
  | home => Option String
  | draw n => { b : Bytes // b.length = n }
  | hasEntry _ => Bool
  | isFile _ => Bool
  | openRead _ => Except IoError Source
  | createNew _ _ => Except IoError Handle
  | write _ _ => Except IoError Unit
  | sync _ => Except IoError Unit
  | rename _ _ => Except IoError Unit
  | remove _ => Unit

/-- A run of an operation. -/
inductive Session (α : Type) where
  /-- The run ends. -/
  | done (a : α)
  /-- The run asks the machine and goes on with the answer. -/
  | perform (e : Effect) (next : e.Answer → Session α)
  /-- The run calls the remote and goes on with the response. -/
  | call (r : Request) (token : Option BearerToken) (next : Except Error Response → Session α)

namespace Session

variable {α β : Type}

/-- Goes on with another session when one ends. -/
def bind : Session α → (α → Session β) → Session β
  | done a, f => f a
  | perform e next, f => perform e fun answer => (next answer).bind f
  | call r token next, f => call r token fun response => (next response).bind f

instance : Monad Session where
  pure := done
  bind := bind

/-- The session of a single effect. -/
def ask (e : Effect) : Session e.Answer :=
  perform e done

end Session

/-- A session that may fail. -/
abbrev Op := ExceptT Error Session

namespace Op

variable {α : Type}

/-- Fails if a check has failed. -/
def check (x : Except Error α) : Op α :=
  ExceptT.mk (.done x)

/-- Asks the machine. -/
def ask (e : Effect) : Op e.Answer :=
  ExceptT.mk (.perform e fun answer => .done (.ok answer))

/-- Calls the remote. -/
def call (r : Request) (token : Option BearerToken) : Op Response :=
  ExceptT.mk (.call r token .done)

/-- Fails with words of the operation if an access to a file has failed. -/
def access (words : IoError → Error) (x : Except IoError α) : Op α :=
  match x with
  | .ok a => check (.ok a)
  | .error e => check (.error (words e))

end Op

end SealedDrop
