/-!
# Errors

Why an operation of the library fails, and the text that says so.

## The model

* `SystemError` is a refusal of the operating system. Each has a kind (`SystemError.kind`) and a fixed description.
* `IoError` is a failed access to a file: a kind and a description, which may put a system error into words of the
  operation that met it.
* `Error` is the failure of an operation. A constructor says which part of the work failed, and its field says how;
  `Error.message` puts the name of the part in front of the description.
-/

namespace SealedDrop

/-- What kind of failure an access to a file met. -/
inductive IoKind where
  /-- No entry has this name. -/
  | notFound
  /-- The entry was to be new and exists. -/
  | alreadyExists
  /-- A directory was needed. -/
  | notADirectory
  /-- A directory stands where a file was needed. -/
  | isADirectory
  /-- The name is longer than the file system stores. -/
  | invalidFilename
  /-- Symbolic links lead in a circle. -/
  | filesystemLoop
  /-- The entry is in use by the system. -/
  | resourceBusy
  /-- The arguments make no sense to the system. -/
  | invalidInput
  /-- The contents are not of the expected form. -/
  | invalidData
  /-- The contents end too early. -/
  | unexpectedEof
  /-- A signal came in between. -/
  | interrupted
  /-- The device is full. -/
  | storageFull
  /-- The user may not do this. -/
  | permissionDenied
  /-- The file system may only be read. -/
  | readOnlyFilesystem
  /-- The entry lies on another file system. -/
  | crossesDevices
  /-- Any other failure. -/
  | other
deriving DecidableEq, Repr

/-- A failed access to a file. -/
structure IoError where
  /-- What kind of failure it is. -/
  kind : IoKind
  /-- What happened, in words. -/
  description : String
deriving DecidableEq, Repr

/-- A refusal of the operating system. -/
inductive SystemError where
  /-- No entry has this name. -/
  | noEntry
  /-- The entry exists already. -/
  | entryExists
  /-- A component that is not the last is no directory. -/
  | notDirectory
  /-- The entry is a directory. -/
  | isDirectory
  /-- A component or the path is too long. -/
  | nameTooLong
  /-- More symbolic links than the system follows. -/
  | tooManyLinks
  /-- The entry is in use by the system. -/
  | busy
  /-- The path holds the character that ends paths. -/
  | nulInPath
deriving DecidableEq, Repr

namespace SystemError

/-- The kind of failure that a refusal is. -/
def kind : SystemError → IoKind
  | noEntry => .notFound
  | entryExists => .alreadyExists
  | notDirectory => .notADirectory
  | isDirectory => .isADirectory
  | nameTooLong => .invalidFilename
  | tooManyLinks => .filesystemLoop
  | busy => .resourceBusy
  | nulInPath => .invalidInput

/-- The system's words for a refusal, with its number for it. -/
def description : SystemError → String
  | noEntry => "No such file or directory (os error 2)"
  | entryExists => "File exists (os error 17)"
  | notDirectory => "Not a directory (os error 20)"
  | isDirectory => "Is a directory (os error 21)"
  | nameTooLong => "File name too long (os error 36)"
  | tooManyLinks => "Too many levels of symbolic links (os error 40)"
  | busy => "Device or resource busy (os error 16)"
  | nulInPath => "file name contained an unexpected NUL byte"

/-- A refusal as a failed access to a file. -/
def toIoError (e : SystemError) : IoError :=
  ⟨e.kind, e.description⟩

end SystemError

/-- Why an operation failed. -/
inductive Error where
  /-- A required setting is missing or invalid. -/
  | config (what : String)
  /-- Key material could not be located or read. -/
  | keyAccess (what : String)
  /-- A cryptographic operation failed. -/
  | crypto (what : String)
  /-- An envelope is not authentic. -/
  | integrity (what : String)
  /-- A downloaded object does not have the checksum of its reference. -/
  | integrityViolation (what : String)
  /-- An object reference is malformed. -/
  | format (what : String)
  /-- An argument is invalid. -/
  | invalidInput (what : String)
  /-- The token endpoint refused to issue a token. -/
  | authRequest (what : String)
  /-- The issued token could not be decrypted. -/
  | tokenDecrypt (what : String)
  /-- The remote rejected the token this many times, and no attempt is left. -/
  | authExhausted (attempts : Nat)
  /-- A request failed in transport, or with this status. -/
  | requestFailed (status : Option Nat) (what : String)
  /-- An access to a file failed. -/
  | io (e : IoError)
  /-- An answer or a request has no usable form. -/
  | serialization (what : String)
deriving DecidableEq, Repr

namespace Error

/-- The text that tells the user about the failure. -/
def message : Error → String
  | config what => "Configuration error: " ++ what
  | keyAccess what => "Key access error: " ++ what
  | crypto what => "Cryptographic error: " ++ what
  | integrity what => "Integrity error: " ++ what
  | integrityViolation what => "Object integrity compromised, discarding unsafe pull: " ++ what
  | format what => "Format error: " ++ what
  | invalidInput what => "Invalid input: " ++ what
  | authRequest what => "Token request failed: " ++ what
  | tokenDecrypt what => "Failed to decrypt authorization token: " ++ what
  | authExhausted attempts =>
    "Authentication exhausted: remote answered unauthorized " ++ toString attempts ++ " times"
  | requestFailed none what => "Request failed: " ++ what
  | requestFailed (some status) what => "Request failed with status " ++ toString status ++ ": " ++ what
  | io e => "I/O error: " ++ e.description
  | serialization what => "Serialization error: " ++ what

/-- A failed access to a file, told in the words of the operation that met it. -/
def ioWith (words : String) (e : IoError) : Error :=
  io ⟨e.kind, words ++ ": " ++ e.description⟩

end Error

end SealedDrop
