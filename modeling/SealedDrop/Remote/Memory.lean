import SealedDrop.Entropy
import SealedDrop.KeyFile
import SealedDrop.Message
import SealedDrop.Remote.Body
import SealedDrop.Text.Lossy
import SealedDrop.Uuid

/-!
# A remote in memory

A remote that keeps registered keys, unused tokens and objects in memory, for use where no network is wanted.

## The model

* A token is issued to anyone who asks under a registered name, encrypted to the key of that name, and authorises one
  request whatever becomes of it.
* Objects get the identifiers `obj-1`, `obj-2`, … in order of their upload, unless one identifier is fixed for all.
* Two switches imitate a remote that misbehaves: `rejectNext` refuses that many requests although their tokens are good, and
  `corruptDownloads` flips a bit of every object that is handed out.
-/

namespace SealedDrop

/-- The state of a remote. -/
structure Remote where
  /-- The supply of randomness. -/
  entropy : Entropy
  /-- The registered public keys by name, the latest first. -/
  keys : List (String × Rsa.PublicKey) := []
  /-- The tokens that have been issued and not yet presented. -/
  tokens : List String := []
  /-- The objects by identifier, the latest first. -/
  objects : List (String × Bytes) := []
  /-- The identifier of every object, if it is fixed. -/
  fixedId : Option String := none
  /-- The number of objects that have been given identifiers. -/
  stored : UInt64 := 0
  /-- How many of the next requests are refused. -/
  rejectNext : UInt32 := 0
  /-- Whether objects are handed out damaged. -/
  corruptDownloads : Bool := false
  /-- The number of requests for tokens. -/
  tokenRequests : UInt32 := 0
  /-- The number of requests that need a token. -/
  authenticatedRequests : UInt32 := 0

namespace Remote

/-- Puts a value under a key, in place of an earlier one. -/
def insertAt {α : Type} (name : String) (a : α) (l : List (String × α)) : List (String × α) :=
  (name, a) :: l.filter (·.1 != name)

/-- Registers a public key under a name. -/
def registerKey (s : Remote) (name : String) (k : Rsa.PublicKey) : Remote :=
  { s with keys := insertAt name k s.keys }

/-- The public key under a name. -/
def key? (s : Remote) (name : String) : Option Rsa.PublicKey :=
  s.keys.lookup name

/-- The object with an identifier. -/
def object? (s : Remote) (id : String) : Option Bytes :=
  s.objects.lookup id

/-- Whether a token has been issued and not yet presented. -/
def isLive (s : Remote) (token : String) : Bool :=
  s.tokens.contains token

/-! ### Answering requests -/

/-- A response with a text for its body. -/
def reply (status : Nat) (text : String) : Response :=
  ⟨status, utf8 text⟩

/-- Issues a token under the name in the body. -/
def issueToken (s : Remote) (body : Bytes) : Response × Remote :=
  let s := { s with tokenRequests := s.tokenRequests + 1 }
  match fields? ["keyName"] body with
  | some [name] =>
    match s.key? name with
    | none => (reply 404 "unknown key name", s)
    | some k =>
      let token := Uuid.hyphenated (s.entropy.peek 16)
      let rest := s.entropy.skip 16
      let seed := rest.peek BearerToken.seedSize
      let s := { s with entropy := rest.skip BearerToken.seedSize }
      match BearerToken.encrypt k seed (utf8 token) with
      | .error _ => (reply 500 "token encryption failed", s)
      | .ok ciphertext => (⟨200, ciphertext⟩, { s with tokens := token :: s.tokens.filter (· != token) })
  | _ => (reply 400 "malformed token request", s)

/-- Takes the token of a request out of use, and tells whether it authorises the request. -/
def authorize (s : Remote) (token : Option BearerToken) : Bool × Remote :=
  let s := { s with authenticatedRequests := s.authenticatedRequests + 1 }
  let (valid, s) := match token with
    | none => (false, s)
    | some t => (s.isLive t.text, { s with tokens := s.tokens.filter (· != t.text) })
  if 0 < s.rejectNext then (false, { s with rejectNext := s.rejectNext - 1 }) else (valid, s)

/-- Stores an object. -/
def store (s : Remote) (body : Bytes) : Response × Remote :=
  match s.fixedId with
  | some id => (reply 200 id, { s with objects := insertAt id body s.objects })
  | none =>
    let stored := s.stored + 1
    let id := "obj-" ++ toString stored.toNat
    (reply 200 id, { s with stored, objects := insertAt id body s.objects })

/-- Flips the lowest bit of the byte in the middle. -/
def damage (b : Bytes) : Bytes :=
  b.modify (b.length / 2) (· ^^^ 1)

/-- Hands out the object whose identifier is encoded in a path segment. -/
def fetch (s : Remote) (segment : Bytes) : Response :=
  match s.object? (Text.lossy (Text.Percent.decode segment)) with
  | none => reply 404 "no such object"
  | some data => ⟨200, if s.corruptDownloads then damage data else data⟩

/-- Registers the public key in the body. -/
def addKey (s : Remote) (body : Bytes) : Response × Remote :=
  match fields? ["key", "keyName"] body with
  | some [key, name] =>
    match Base64.decode .standard (utf8 key) with
    | .error _ => (reply 400 "key is not base64", s)
    | .ok file =>
      match KeyFile.readPublic file with
      | .error _ => (reply 400 "key is not an RSA public key", s)
      | .ok k => (⟨200, []⟩, s.registerKey name k)
  | _ => (reply 400 "malformed add-key request", s)

/-- Answers a request that is authorised. -/
def serve (s : Remote) (r : Request) : Response × Remote :=
  match r.method with
  | .post =>
    if r.path = objectsPath then s.store r.body
    else if r.path = addKeyPath then s.addKey r.body
    else (reply 404 "not found", s)
  | .get =>
    match Bytes.dropStart? (utf8 (objectsPath ++ "/")) (utf8 r.path) with
    | some (b :: rest) => (s.fetch (b :: rest), s)
    | _ => (reply 404 "not found", s)

/-- Answers a request. -/
def execute (s : Remote) (r : Request) (token : Option BearerToken) : Response × Remote :=
  if r.method = .post ∧ r.path = tokenPath then s.issueToken r.body
  else
    match s.authorize token with
    | (true, s) => s.serve r
    | (false, s) => (reply 401 "unauthorized", s)

/-- The remote as a transport that is never broken. -/
def transport : Transport Remote := fun r token s =>
  let (response, s) := s.execute r token
  (.ok response, s)

end Remote

end SealedDrop
