import SealedDrop.BearerToken
import SealedDrop.Json.Writer
import SealedDrop.ObjectId

/-!
# Requests and responses

What passes between a client and a remote.

## The model

* A request has a method, a path below the base URL of the remote, and for uploads a body. The token that authorises it is
  not part of it: it is given with each attempt, so that a repeated request cannot carry an old one.
* A response is a status and a body. Only a broken transport is an error; a refusal by the remote is a response.
* A transport answers requests and may change its state of type `σ` with each.
-/

namespace SealedDrop

/-- What a request asks the remote to do. -/
inductive Method where
  /-- Hand something out. -/
  | get
  /-- Take something in. -/
  | post
deriving DecidableEq, Repr

instance : ToString Method where
  toString
    | .get => "GET"
    | .post => "POST"

/-- How the body of a request is to be read. -/
inductive ContentType where
  /-- As bytes. -/
  | octets
  /-- As JSON. -/
  | json
deriving DecidableEq, Repr

instance : ToString ContentType where
  toString
    | .octets => "application/octet-stream"
    | .json => "application/json"

/-- A request to a remote. -/
structure Request where
  /-- What to do. -/
  method : Method
  /-- The path below the base URL. -/
  path : String
  /-- How to read the body, if that is told. -/
  contentType : Option ContentType := none
  /-- The body. -/
  body : Bytes := []
deriving DecidableEq, Repr

namespace Request

/-- Asks for what is at a path. -/
def get (path : String) : Request :=
  ⟨.get, path, none, []⟩

/-- Sends bytes to a path. -/
def post (path : String) (body : Bytes) : Request :=
  ⟨.post, path, none, body⟩

/-- Sends a JSON value to a path. -/
def postJson (path : String) (v : Json.Value) : Request :=
  ⟨.post, path, some .json, utf8 v.text⟩

/-- Tells how to read the body. -/
def withContentType (r : Request) (t : ContentType) : Request :=
  { r with contentType := some t }

/-- The request in a message. -/
def summary (r : Request) : String :=
  toString r.method ++ " " ++ r.path

instance : ToString Request where
  toString := summary

end Request

/-- The answer of a remote. -/
structure Response where
  /-- The status. -/
  status : Nat
  /-- The body. -/
  body : Bytes := []
deriving DecidableEq, Repr

namespace Response

/-- Whether the request was carried out. -/
def isSuccess (r : Response) : Bool :=
  200 ≤ r.status && r.status < 300

/-- Whether the token was refused. -/
def isUnauthorized (r : Response) : Bool :=
  r.status == 401

end Response

/-- What answers requests, each with an optional token, over a state. -/
abbrev Transport (σ : Type) :=
  Request → Option BearerToken → σ → Except Error Response × σ

/-! ### Paths at the remote -/

/-- Where tokens are issued. -/
def tokenPath : String := "/token"

/-- Where objects are stored; each is below it. -/
def objectsPath : String := "/d"

/-- Where public keys are registered. -/
def addKeyPath : String := "/add-key"

/-- Where an object is found. -/
def ObjectId.path (id : ObjectId) : String :=
  objectsPath ++ "/" ++ Text.Percent.encodeText id.text

end SealedDrop
