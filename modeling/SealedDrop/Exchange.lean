import SealedDrop.Credentials
import SealedDrop.Envelope
import SealedDrop.FileWriter
import SealedDrop.KeyGeneration
import SealedDrop.Reference
import SealedDrop.Settings.Basic

/-!
# Exchanges

The three operations of a client: to drop a file at the remote, to pull an object from it, and to register a public key.

## The model

Each operation checks the settings that it needs before it reads a key or calls the remote, then takes its steps in order
and stops at the first failure. A pull compares the checksum of what it has downloaded before it decrypts anything, and
writes nothing before the envelope has proved authentic.
-/

namespace SealedDrop.Exchange

/-- The permission bits of a pulled file. -/
def pulledMode : Nat := 0o644

/-- Who authenticates requests according to the settings. -/
def credentials (s : Settings) : Except Error Credentials := do
  let name ← s.registeredName
  return ⟨name, ← s.privateKeyPath⟩

/-! ### Dropping -/

/-- The contents of a file. -/
def readFile (path : String) : Op Bytes := do
  let failed := Error.ioWith ("Error reading '" ++ path ++ "'")
  let source ← Op.access failed (← Op.ask (.openRead path))
  Op.access failed (readToEnd source.events)

/-- The envelope of a file under the shared key, which is loaded for this only. -/
def encryptFile (keyPath : String) (plaintext : Bytes) : Op Bytes := do
  let key ← Secret.load keyPath
  let keys ← Op.check (Envelope.SubKeys.derive key.bytes)
  let iv ← Op.ask (.draw Envelope.ivSize)
  return keys.encrypt iv.val plaintext

/-- The identifier in the answer to an upload. -/
def storedId (body : Bytes) : Except Error ObjectId := do
  let some text := text? body | throw (.serialization "Object id is not valid UTF-8")
  match ObjectId.ofString (Text.trim text) with
  | .error e => throw (.serialization ("Unusable object id: " ++ e.message))
  | .ok id => return id

/-- Encrypts a file and uploads it. -/
def drop (s : Settings) (path : String) : Op Reference := do
  let keyPath ← Op.check s.encryptionKeyPath
  let who ← Op.check (credentials s)
  let path ← expandHome path
  let plaintext ← readFile path
  let envelope ← encryptFile keyPath plaintext
  let request := (Request.post objectsPath envelope).withContentType .octets
  let response ← who.send request
  let id ← Op.check (storedId response.body)
  return .ofTransmitted id request.body

/-! ### Pulling -/

/-- Downloads an object, verifies and decrypts it, and puts it in place of a file. -/
def pullReference (s : Settings) (r : Reference) (destination : String) : Op Unit := do
  let keyPath ← Op.check s.encryptionKeyPath
  let who ← Op.check (credentials s)
  let destination ← expandHome destination
  let response ← who.send (.get r.objectId.path)
  if ¬ r.verify response.body then
    throw (.integrityViolation ("Checksum mismatch for object '" ++ r.objectId.text ++ "'"))
  let key ← Secret.load keyPath
  let plaintext ← Op.check (Envelope.decrypt key.bytes response.body)
  FileWriter.replace destination plaintext pulledMode

/-- Pulls the object that a text refers to. -/
def pull (s : Settings) (reference destination : String) : Op Unit := do
  pullReference s (← Op.check (Reference.parse reference)) destination

/-! ### Registering keys -/

/-- The request to register a public key, given as its file, under a name. -/
def addKeyRequest (file : Bytes) (name : KeyName) : Request :=
  .postJson addKeyPath
    (.object [("key", .string (Base64.encodeText .standard file)), ("keyName", .string name.text)])

/-- Registers another public key with the remote under a name. -/
def addKey (s : Settings) (publicKey : String) (name : String) : Op Unit := do
  let name ← Op.check (KeyName.ofString name)
  let who ← Op.check (credentials s)
  let file ← Secret.load publicKey
  let _ ← Op.check (KeyFile.readPublic file.bytes)
  let _ ← who.send (addKeyRequest file.bytes name)

end SealedDrop.Exchange
