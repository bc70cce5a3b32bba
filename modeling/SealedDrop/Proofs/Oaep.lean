import SealedDrop.BearerToken
import SealedDrop.Proofs.Rsa
import SealedDrop.Proofs.Secret

/-!
# Padding and tokens

The padding is undone by its reader, and a token that a remote encrypts to a registered key is what the holder of the
private key reads.
-/

namespace SealedDrop

namespace Rsa.Oaep

variable {size : Nat} {label seed message : Bytes}

/-! ### Padding -/

theorem length_mask (seed : Bytes) (size : Nat) : (mask seed size).length = size := by
  have hblock : ∀ i ∈ List.range ((size + 63) / 64), (Hash.sha512 (seed ++ Bytes.ofNatWidth 4 i)).length = 64 :=
    fun i _ => Hash.length_sha512 _
  rw [mask, List.length_take, List.length_flatMap, List.map_congr_left hblock, List.map_const', List.sum_replicate,
    List.length_range, smul_eq_mul]
  omega

theorem length_xor (a b : Bytes) : (a.xor b).length = min a.length b.length := by
  unfold Bytes.xor
  exact List.length_zipWith

/-- The data block of a padded message. -/
def block (size : Nat) (label message : Bytes) : Bytes :=
  Hash.sha512 label ++ List.replicate (size - overhead - message.length) 0 ++ 0x01 :: message

theorem length_block (h : message.length + overhead ≤ size) :
    (block size label message).length = size - hashSize - 1 := by
  simp only [block, List.length_append, Hash.length_sha512, List.length_replicate, List.length_cons]
  unfold overhead hashSize at *
  omega

/-- The data block behind its mask. -/
def maskedBlock (size : Nat) (label seed message : Bytes) : Bytes :=
  Bytes.xor (block size label message) (mask seed (block size label message).length)

/-- The seed behind its mask. -/
def maskedSeed (size : Nat) (label seed message : Bytes) : Bytes :=
  Bytes.xor seed (mask (maskedBlock size label seed message) hashSize)

theorem encode_eq (size : Nat) (label seed message : Bytes) :
    encode size label seed message = 0 :: (maskedSeed size label seed message ++ maskedBlock size label seed message) := rfl

theorem length_maskedBlock : (maskedBlock size label seed message).length = (block size label message).length := by
  rw [maskedBlock, length_xor, length_mask, Nat.min_self]

theorem length_maskedSeed (hseed : seed.length = hashSize) : (maskedSeed size label seed message).length = hashSize := by
  rw [maskedSeed, length_xor, length_mask, hseed, Nat.min_self]

theorem length_encode (hseed : seed.length = hashSize) (hsize : message.length + overhead ≤ size) :
    (encode size label seed message).length = size := by
  rw [encode_eq, List.length_cons, List.length_append, length_maskedSeed hseed, length_maskedBlock, length_block hsize]
  unfold overhead hashSize at *
  omega

/-- The reader takes off both masks and finds the message behind the zeros. -/
theorem decode?_encode (label : Bytes) (hseed : seed.length = hashSize) :
    decode? label (encode size label seed message) = some message := by
  have hlength : (maskedSeed size label seed message).length = hashSize := length_maskedSeed hseed
  have hdrop : (maskedSeed size label seed message ++ maskedBlock size label seed message).drop hashSize =
      maskedBlock size label seed message := by
    rw [← hlength, List.drop_left]
  have htake : (maskedSeed size label seed message ++ maskedBlock size label seed message).take hashSize =
      maskedSeed size label seed message := by
    rw [← hlength, List.take_left]
  have hunseed : Bytes.xor (maskedSeed size label seed message)
      (mask (maskedBlock size label seed message) hashSize) = seed :=
    Bytes.xor_xor_cancel (by rw [length_mask, hseed])
  have hunblock : Bytes.xor (maskedBlock size label seed message)
      (mask seed (maskedBlock size label seed message).length) = block size label message := by
    rw [length_maskedBlock]
    exact Bytes.xor_xor_cancel (length_mask _ _).ge
  rw [encode_eq, decode?]
  simp only [hdrop, htake, hunseed, hunblock]
  have hlabel : (block size label message).take hashSize = Hash.sha512 label := by
    rw [block, List.append_assoc, show hashSize = (Hash.sha512 label).length from (Hash.length_sha512 label).symm,
      List.take_left]
  have hrest : (block size label message).drop hashSize =
      List.replicate (size - overhead - message.length) 0 ++ 0x01 :: message := by
    rw [block, List.append_assoc, show hashSize = (Hash.sha512 label).length from (Hash.length_sha512 label).symm,
      List.drop_left]
  have hzeros : ∀ b ∈ List.replicate (size - overhead - message.length) (0 : UInt8), (b == 0) = true := by
    intro b hb
    rw [List.eq_of_mem_replicate hb]
    rfl
  rw [if_pos hlabel, hrest, List.dropWhile_append_of_pos hzeros]
  rfl

/-- **Decryption** under the private key of a pair undoes encryption, for every message that fits and every seed. -/
theorem decrypt_encrypt {k : PrivateKey} (hk : k.IsPair) (label : Bytes) (hseed : seed.length = hashSize)
    (hsize : message.length + overhead ≤ k.toPublic.size) :
    ∃ c, encrypt k.toPublic label seed message = .ok c ∧ decrypt k label c = .ok message := by
  have hmodulus : k.toPublic.modulus ≠ 0 := by
    have := hk.odd
    omega
  have hlength : (encode k.toPublic.size label seed message).length = k.toPublic.size := length_encode hseed hsize
  set padded := encode k.toPublic.size label seed message with hpadded
  -- the zero byte in front keeps the padded message below the modulus
  have hlt : padded.toNat < k.toPublic.modulus := by
    have hzero : padded.toNat = Bytes.toNat (maskedSeed k.toPublic.size label seed message ++
        maskedBlock k.toPublic.size label seed message) := by
      rw [hpadded, encode_eq, Bytes.toNat_cons]
      simp
    have hrest := Bytes.toNat_lt (maskedSeed k.toPublic.size label seed message ++
      maskedBlock k.toPublic.size label seed message)
    rw [hpadded, encode_eq, List.length_cons] at hlength
    rw [hzero]
    refine hrest.trans_le (le_trans ?_ (Bytes.pow_widthOf_le hmodulus))
    have hwidth : k.toPublic.size = Bytes.widthOf k.toPublic.modulus := rfl
    exact Nat.pow_le_pow_right (by decide) (by omega)
  have happly : k.toPublic.apply padded.toNat < k.toPublic.modulus := by
    rw [PublicKey.apply, modPow_eq]
    exact Nat.mod_lt _ (Nat.pos_of_ne_zero hmodulus)
  set c := Bytes.ofNatWidth k.toPublic.size (k.toPublic.apply padded.toNat) with hc
  have hnumber : c.toNat = k.toPublic.apply padded.toNat := by
    rw [hc, Bytes.toNat_ofNatWidth]
    exact Nat.mod_eq_of_lt (happly.trans (Bytes.lt_pow_widthOf _))
  refine ⟨c, ?_, ?_⟩
  · rw [encrypt, if_neg (Nat.not_lt.mpr hsize)]
  · have hwritten : Bytes.ofNatWidth k.toPublic.size padded.toNat = padded := by
      conv_lhs => rw [← hlength]
      exact Bytes.ofNatWidth_toNat padded
    have hfits : ¬ (c.length ≠ k.toPublic.size ∨ k.toPublic.size < overhead ∨ k.toPublic.modulus ≤ c.toNat) := by
      rw [hnumber, hc, Bytes.length_ofNatWidth]
      omega
    have hdecode : decode? label padded = some message := decode?_encode label hseed
    simp only [decrypt]
    rw [if_neg hfits, hnumber, k.recover?_apply hk hlt]
    simp only [hwritten, hdecode]

end Rsa.Oaep

/-- **Reading back**: the private key opens what was encrypted to its public half, if it is a token and short enough. -/
theorem BearerToken.exists_encrypt_decrypt {k : Rsa.PrivateKey} (hk : k.IsPair) {seed : Bytes}
    (hseed : seed.length = seedSize) {s : String} (hs : IsHeaderValue s)
    (hsize : (utf8 s).length + Rsa.Oaep.overhead ≤ k.toPublic.size) :
    ∃ c, encrypt k.toPublic seed (utf8 s) = .ok c ∧ decrypt k c = .ok ⟨s⟩ := by
  obtain ⟨c, hencrypt, hdecrypt⟩ := Rsa.Oaep.decrypt_encrypt hk label hseed hsize
  refine ⟨c, ?_, ?_⟩
  · simp only [encrypt, hencrypt]
  · simp only [decrypt_eq, hdecrypt, text?_utf8, if_pos hs]

end SealedDrop
