import SealedDrop.Session.Effect

/-!
# The host

Runs sessions on the machine that the program itself runs on.

## The model

Each effect is carried out by the system, and each refusal of the system becomes an `IoError` with the system's words and number
for it. Requests go to a transport that the caller provides. What a session does is decided elsewhere: here its questions are
passed on and the answers passed back.
-/

namespace SealedDrop

/-- The kind of failure that the system has a number for. -/
def IoKind.ofCode (code : Nat) : IoKind :=
  match code with
  | 1 | 13 => permissionDenied
  | 2 => notFound
  | 4 => interrupted
  | 16 => resourceBusy
  | 17 => alreadyExists
  | 18 => crossesDevices
  | 20 => notADirectory
  | 21 => isADirectory
  | 22 => invalidInput
  | 28 => storageFull
  | 30 => readOnlyFilesystem
  | 36 => invalidFilename
  | 40 => filesystemLoop
  | _ => other

namespace Host

/-- A refusal with its number and the system's words for it. -/
def numbered (code : UInt32) (words : String) : IoError :=
  ⟨.ofCode code.toNat, words ++ " (os error " ++ toString code ++ ")"⟩

/-- A refusal of the system. -/
def refusal : IO.Error → IoError
  | .alreadyExists _ code words | .interrupted _ code words | .noFileOrDirectory _ code words
  | .invalidArgument _ code words | .permissionDenied _ code words | .resourceExhausted _ code words
  | .inappropriateType _ code words | .noSuchThing _ code words | .otherError code words | .resourceBusy code words
  | .resourceVanished code words | .unsupportedOperation code words | .hardwareFault code words
  | .unsatisfiedConstraints code words | .illegalOperation code words | .protocolError code words
  | .timeExpired code words => numbered code words
  | .unexpectedEof => .endOfFile
  | .userError words => ⟨.other, words⟩

/-- Carries out an action; a refusal becomes a value. -/
def attempt {α : Type} (action : IO α) : IO (Except IoError α) := do
  match ← EIO.toBaseIO action with
  | .ok a => return .ok a
  | .error e => return .error (refusal e)

/-- The files that are open for writing. -/
abbrev OpenFiles := IO.Ref (List (Route × IO.FS.Handle))

/-- Bytes as the system takes them. -/
def packed (b : Bytes) : ByteArray :=
  ⟨b.toArray⟩

/-- The first bytes of a list, filled up with zeros. -/
def exactly (n : Nat) (b : Bytes) : { b : Bytes // b.length = n } :=
  ⟨(b ++ List.replicate n 0).take n, by simp⟩

/-- The rights of one class of users: the bits of reading, writing and executing. -/
def rights (bits : Nat) : IO.AccessRight where
  read := bits.testBit 2
  write := bits.testBit 1
  execution := bits.testBit 0

/-- Rights as permission bits give them. -/
def fileRights (mode : Nat) : IO.FileRight where
  user := rights (mode >>> 6)
  group := rights (mode >>> 3)
  other := rights mode

/-- The number that the octal digits of a text give. -/
def octal (text : String) : Nat :=
  text.foldl (fun n c => if c.isDigit then 8 * n + (c.toNat - '0'.toNat) else n) 0

/-- The permission bits that new files do not get, as the system lists them with the state of the process. -/
def umask : IO Nat := do
  match ← attempt (IO.FS.lines "/proc/self/status") with
  | .error _ => return 0o022
  | .ok lines => return (lines.find? (·.startsWith "Umask:")).elim 0o022 octal

/-- Whether a path names an entry that can be opened for reading, or may not be. -/
def hasEntry (path : String) : IO Bool := do
  match ← attempt (IO.FS.Handle.mk path .read) with
  | .ok _ => return true
  | .error e => return e.kind = .permissionDenied

/-- Whether a path names an entry that can be read as a file, or may not be read. -/
def isFile (path : String) : IO Bool := do
  match ← attempt (do (← IO.FS.Handle.mk path .read).read 1) with
  | .ok _ => return true
  | .error e => return e.kind = .permissionDenied

/-- Opens a file and reads it to its end. -/
def openRead (path : String) : IO (Except IoError Source) := do
  match ← attempt (IO.FS.Handle.mk path .read) with
  | .error e => return .error e
  | .ok h =>
    match ← attempt h.readBinToEnd with
    | .error e => return .ok ⟨false, 0, [.failure e]⟩
    | .ok contents => return .ok ⟨true, contents.size, ReadEvent.ofBytes contents.toList⟩

/-- Creates a file, which stays open for writing. -/
def createNew (files : OpenFiles) (path : String) (mode : Nat) : IO (Except IoError Handle) :=
  attempt do
    let h ← IO.FS.Handle.mk path .writeNew
    IO.setAccessRights path (fileRights (mode &&& (0o7777 ^^^ (← umask))))
    files.modify (([path], h) :: ·)
    return ⟨[path]⟩

/-- Does something with an open file. -/
def withOpen (files : OpenFiles) (h : Handle) (action : IO.FS.Handle → IO Unit) : IO (Except IoError Unit) := do
  match (← files.get).lookup h.route with
  | none => return .error ⟨.other, "file is not open"⟩
  | some handle => attempt (action handle)

/-- The answer of the system to an effect. -/
def answer (files : OpenFiles) : (e : Effect) → IO e.Answer
  | .home => IO.getEnv "HOME"
  | .draw n => do return exactly n (← IO.getRandomBytes n.toUSize).toList
  | .hasEntry path => hasEntry path
  | .isFile path => isFile path
  | .openRead path => openRead path
  | .createNew path mode => createNew files path mode
  | .write h b => withOpen files h (·.write (packed b))
  | .sync h => withOpen files h (·.flush)
  | .rename old new => attempt (IO.FS.rename old new)
  | .remove path => do let _ ← attempt (IO.FS.removeFile path)

/-- Runs a session to its end. -/
def run {α : Type} (transport : Request → Option BearerToken → IO (Except Error Response)) (files : OpenFiles) :
    Session α → IO α
  | .done a => return a
  | .perform e next => do run transport files (next (← answer files e))
  | .call r token next => do run transport files (next (← transport r token))

end Host

end SealedDrop
