import SealedDrop.KeyName
import SealedDrop.Secret

/-!
# Authenticated requests

Proves to a remote, for every single request, that the client holds the private key of a registered name.

## The model

* `requestToken` asks the token endpoint for a token under the name. The answer is encrypted to the registered public key;
  the private key is loaded for this call only.
* `send` attaches a fresh token to the request. The remote may have changed its secret between issuing and use, so that an
  unauthorized answer is followed by one more attempt with a new token. A second one ends the exchange.
-/

namespace SealedDrop

/-- Who authenticates requests, and with which key. -/
structure Credentials where
  /-- The name under which the public key is registered. -/
  keyName : KeyName
  /-- The path of the private key. -/
  privateKey : String

namespace Credentials

/-- The request for a token under a name. -/
def tokenRequest (name : KeyName) : Request :=
  .postJson tokenPath (.object [("keyName", .string name.text)])

/-- Obtains a fresh token. -/
def requestToken (a : Credentials) : Op BearerToken := do
  let response ← Op.call (tokenRequest a.keyName) none
  if ¬ response.isSuccess then
    throw (.authRequest ("Token endpoint answered status " ++ toString response.status ++ " for key '" ++
      a.keyName.text ++ "'"))
  let key ← KeyFile.loadPrivate a.privateKey
  Op.check (BearerToken.decrypt key response.body)

/-- Sends a request with a fresh token; there is no response if the token is refused. -/
def attempt (a : Credentials) (r : Request) : Op (Option Response) := do
  let token ← a.requestToken
  let response ← Op.call r (some token)
  if response.isSuccess then return some response
  if response.isUnauthorized then return none
  throw (.requestFailed (some response.status) r.summary)

/-- Sends a request with a fresh token, and once more if the token is refused. -/
def send (a : Credentials) (r : Request) : Op Response := do
  if let some response ← a.attempt r then return response
  if let some response ← a.attempt r then return response
  throw (.authExhausted 2)

end Credentials

end SealedDrop
