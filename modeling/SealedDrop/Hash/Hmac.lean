import SealedDrop.Hash.Sha2

/-!
# Message authentication and key derivation

HMAC over SHA-256, and the extract-and-expand key derivation built on it.

## The model

`hmac key message` hashes the message twice, each time behind the key masked with a constant. `derive` condenses the
input key material without a salt and expands the result under a label, one block of 32 bytes after the other.
-/

namespace SealedDrop.Hash

/-- The key filled with zeros to one block of the hash function; a longer key is hashed first. -/
def hmacBlock (key : Bytes) : Bytes :=
  let short := if key.length ≤ 64 then key else sha256 key
  short ++ List.replicate (64 - short.length) 0

/-- The authentication code of a message under a key, of 32 bytes. -/
def hmac (key message : Bytes) : Bytes :=
  let block := hmacBlock key
  sha256 (block.map (· ^^^ 0x5C) ++ sha256 (block.map (· ^^^ 0x36) ++ message))

@[simp] theorem length_hmac (key message : Bytes) : (hmac key message).length = 32 :=
  length_sha256 _

/-- The blocks that a key expands to under a label, from the one with this number on; `last` precedes it. -/
def expandFrom (key label last : Bytes) (number : Nat) : Nat → Bytes
  | 0 => []
  | more + 1 =>
    let block := hmac key (last ++ label ++ [UInt8.ofNat number])
    block ++ expandFrom key label block (number + 1) more

/-- The first `size` bytes that a pseudorandom key expands to under a label. -/
def expand (key label : Bytes) (size : Nat) : Bytes :=
  (expandFrom key label [] 1 ((size + 31) / 32)).take size

/-- The pseudorandom key condensed from input key material, without a salt. -/
def extract (material : Bytes) : Bytes :=
  hmac (List.replicate 32 0) material

/-- A key of `size` bytes derived from input key material for the purpose that the label names. -/
def derive (material label : Bytes) (size : Nat) : Bytes :=
  expand (extract material) label size

end SealedDrop.Hash
