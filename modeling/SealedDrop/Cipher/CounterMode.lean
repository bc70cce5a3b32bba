import SealedDrop.Cipher.Aes256

/-!
# Counter mode

Turns the block cipher into a stream cipher: consecutive values of a counter are encrypted, and the resulting key
stream is added to the text. Adding it a second time gives the text back, which is the main statement here.

## The model

The counter is a big-endian number of sixteen bytes that starts at the initialisation vector and wraps at `2 ^ 128`.
-/

namespace SealedDrop.Cipher.CounterMode

/-- The first `n` blocks of the key stream. -/
def keyStream (keys : List Aes256.Block) (iv : Bytes) (n : Nat) : Bytes :=
  (List.range n).flatMap fun i => Aes256.encryptBlock keys (Bytes.ofNatWidth 16 (iv.toNat + i))

/-- Adds the key stream under a key of 32 bytes and an initialisation vector of 16 bytes to a text. -/
def apply (key iv text : Bytes) : Bytes :=
  text.xor (keyStream (Aes256.roundKeys key) iv ((text.length + 15) / 16))

@[simp] theorem length_keyStream (keys : List Aes256.Block) (iv : Bytes) (n : Nat) :
    (keyStream keys iv n).length = 16 * n := by
  induction n with
  | zero => rfl
  | succ n ih =>
    simp only [keyStream, List.range_succ, List.flatMap_append, List.length_append] at ih ⊢
    simp only [ih, List.flatMap_cons, List.flatMap_nil, List.append_nil, Aes256.length_encryptBlock]
    omega

@[simp] theorem length_apply (key iv text : Bytes) : (apply key iv text).length = text.length := by
  simp only [apply, Bytes.xor, List.length_zipWith, length_keyStream]
  omega

/-- Adding the key stream twice changes nothing. -/
@[simp] theorem apply_apply (key iv text : Bytes) : apply key iv (apply key iv text) = text := by
  have h := length_apply key iv text
  unfold apply at h ⊢
  rw [h, Bytes.xor_xor_cancel]
  simp only [length_keyStream]
  omega

end SealedDrop.Cipher.CounterMode
