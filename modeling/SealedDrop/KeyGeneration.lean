import SealedDrop.FileWriter
import SealedDrop.Home
import SealedDrop.KeyFile
import SealedDrop.Rsa.Generation

/-!
# Generating key files

Generates a key pair and writes its halves to two new files.

## The model

Neither file may exist before. If the public half cannot be written, the private one is removed again, as it would be in the
way of another generation. What a write that fails has stored of its own file is not removed.
-/

namespace SealedDrop

/-- A path with a leading tilde replaced by the home directory. -/
def expandHome (path : String) : Op String := do
  Op.check (Home.expand (← Op.ask .home) path)

namespace KeyGeneration

/-- The permission bits of a private key. -/
def privateMode : Nat := 0o600

/-- The permission bits of a public key. -/
def publicMode : Nat := 0o644

/-- Fails if a path names an entry. -/
def refuseExisting (path : String) : Op Unit := do
  let found : Bool ← Op.ask (.hasEntry path)
  if found then
    throw (.io ⟨.alreadyExists, "Refusing to overwrite '" ++ path ++ "'"⟩)

/-- Generates a key pair with a modulus of this many bits and writes it to two new files. -/
def run (privatePath publicPath : String) (bits : Nat) : Op Unit := do
  let privatePath ← expandHome privatePath
  let publicPath ← expandHome publicPath
  refuseExisting privatePath
  refuseExisting publicPath
  let key ← Rsa.Generation.generate bits
  FileWriter.writeNew privatePath (← Op.check (KeyFile.privateText key)) privateMode
  tryCatch (FileWriter.writeNew publicPath (KeyFile.publicText key.toPublic) publicMode) fun e => do
    Op.ask (.remove privatePath)
    throw e

end KeyGeneration

end SealedDrop
