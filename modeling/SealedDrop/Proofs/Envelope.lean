import SealedDrop.Envelope
import Mathlib.Tactic.Common

/-!
# Envelopes: decryption against encryption

The two directions of an envelope are written apart: `encrypt` puts an envelope together from its front, `decrypt`
takes it apart from its back. This module proves that they agree at every length, and that nothing besides the
envelopes that `encrypt` makes is accepted.

## What is proved

* `SubKeys.encrypt_eq_iff` — an envelope of at least 48 bytes is the encryption of a plaintext, under the
  initialisation vector that it begins with, exactly if its tag is right and its payload decrypts to that plaintext.
* `decrypt_iff_encrypt` — `decrypt` accepts exactly the image of `encrypt`, and says why it refuses anything else.
-/

namespace SealedDrop.Envelope

open Cipher

/-! ### The keys of an operation -/

/-- A key that is not empty gives keys for the cipher and for the tag. -/
theorem SubKeys.exists_derive {key : Bytes} (h : key ≠ []) : ∃ keys, SubKeys.derive key = .ok keys := by
  unfold SubKeys.derive
  rw [if_neg (by simpa using h)]
  exact ⟨_, rfl⟩

theorem encrypt_nil (iv plaintext : Bytes) :
    encrypt [] iv plaintext = .error (.crypto "Encryption key is empty") := rfl

theorem encrypt_of_derive {key : Bytes} {keys : SubKeys} (h : SubKeys.derive key = .ok keys) (iv plaintext : Bytes) :
    encrypt key iv plaintext = .ok (keys.encrypt iv plaintext) := by
  unfold encrypt
  rw [h]
  rfl

/-! ### The parts of an envelope -/

/-- The initialisation vector and the payload of an envelope. -/
def body (envelope : Bytes) : Bytes :=
  envelope.take (envelope.length - tagSize)

/-- The tag at the end of an envelope. -/
def trailer (envelope : Bytes) : Bytes :=
  envelope.drop (envelope.length - tagSize)

theorem body_append_trailer (envelope : Bytes) : body envelope ++ trailer envelope = envelope :=
  List.take_append_drop _ _

@[simp] theorem SubKeys.length_tagOf (keys : SubKeys) (b : Bytes) : (keys.tagOf b).length = tagSize :=
  Hash.length_hmac _ _

theorem body_append {b t : Bytes} (ht : t.length = tagSize) : body (b ++ t) = b := by
  unfold body
  rw [List.length_append, ht, Nat.add_sub_cancel, List.take_left]

theorem trailer_append {b t : Bytes} (ht : t.length = tagSize) : trailer (b ++ t) = t := by
  unfold trailer
  rw [List.length_append, ht, Nat.add_sub_cancel, List.drop_left]

/-- The vector at the front of a long enough envelope is the one at the front of its body. -/
theorem take_body {envelope : Bytes} (h : ivSize + tagSize ≤ envelope.length) :
    (body envelope).take ivSize = envelope.take ivSize := by
  unfold body
  rw [List.take_take, Nat.min_eq_left (by omega)]

section Encrypted

variable (keys : SubKeys) (iv plaintext : Bytes)

theorem SubKeys.encrypt_eq :
    keys.encrypt iv plaintext =
      (iv ++ CounterMode.apply keys.cipher iv plaintext) ++
        keys.tagOf (iv ++ CounterMode.apply keys.cipher iv plaintext) := rfl

theorem SubKeys.body_encrypt :
    body (keys.encrypt iv plaintext) = iv ++ CounterMode.apply keys.cipher iv plaintext :=
  body_append (keys.length_tagOf _)

theorem SubKeys.trailer_encrypt :
    trailer (keys.encrypt iv plaintext) = keys.tagOf (iv ++ CounterMode.apply keys.cipher iv plaintext) :=
  trailer_append (keys.length_tagOf _)

/-- An envelope is 48 bytes longer than its plaintext. -/
theorem SubKeys.length_encrypt {iv : Bytes} (h : iv.length = ivSize) :
    (keys.encrypt iv plaintext).length = ivSize + plaintext.length + tagSize := by
  rw [keys.encrypt_eq, List.length_append, List.length_append, keys.length_tagOf, CounterMode.length_apply, h]

/-- An envelope begins with its initialisation vector. -/
theorem SubKeys.take_encrypt {iv : Bytes} (h : iv.length = ivSize) : (keys.encrypt iv plaintext).take ivSize = iv := by
  rw [keys.encrypt_eq, List.append_assoc, ← h, List.take_left]

end Encrypted

/-! ### Taking an envelope apart -/

/-- The form of an envelope that its keys accept: the tag is that of the body, and the payload decrypts to the
plaintext. -/
theorem SubKeys.encrypt_eq_iff (keys : SubKeys) {envelope : Bytes} (plaintext : Bytes)
    (h : ivSize + tagSize ≤ envelope.length) :
    keys.encrypt (envelope.take ivSize) plaintext = envelope ↔
      keys.tagOf (body envelope) = trailer envelope ∧
        CounterMode.apply keys.cipher ((body envelope).take ivSize) ((body envelope).drop ivSize) = plaintext := by
  have hiv : (envelope.take ivSize).length = ivSize := by
    rw [List.length_take]
    omega
  constructor
  · intro he
    have hb := keys.body_encrypt (envelope.take ivSize) plaintext
    have ht := keys.trailer_encrypt (envelope.take ivSize) plaintext
    rw [he] at hb ht
    refine ⟨by rw [hb, ht], ?_⟩
    -- the payload of the envelope is the encrypted plaintext, so the key stream comes off again
    have hpayload : (body envelope).drop ivSize = CounterMode.apply keys.cipher (envelope.take ivSize) plaintext := by
      rw [hb]
      exact List.drop_left' hiv
    rw [take_body h, hpayload, CounterMode.apply_apply]
  · rintro ⟨ht, rfl⟩
    rw [take_body h, keys.encrypt_eq, CounterMode.apply_apply, ← take_body h, List.take_append_drop, ht, body_append_trailer]

/-- What `decrypt` does with an envelope that is not too short, in terms of the parts of the envelope. -/
theorem decrypt_of_derive {key envelope : Bytes} {keys : SubKeys} (hk : SubKeys.derive key = .ok keys)
    (h : ivSize + tagSize ≤ envelope.length) :
    decrypt key envelope =
      if keys.tagOf (body envelope) = trailer envelope then
        .ok (CounterMode.apply keys.cipher ((body envelope).take ivSize) ((body envelope).drop ivSize))
      else .error (.integrity "Authentication tag mismatch, envelope was modified") := by
  unfold decrypt
  rw [if_neg (by omega), hk]
  by_cases ht : keys.tagOf (body envelope) = trailer envelope
  · rw [if_pos ht]
    exact if_neg (not_not_intro ht)
  · rw [if_neg ht]
    exact if_pos ht

theorem decrypt_of_short (key : Bytes) {envelope : Bytes} (h : envelope.length < ivSize + tagSize) :
    decrypt key envelope = .error (.integrity "Envelope too short") := by
  unfold decrypt
  rw [if_pos h]
  rfl

theorem decrypt_nil {envelope : Bytes} (h : ivSize + tagSize ≤ envelope.length) :
    decrypt [] envelope = .error (.crypto "Encryption key is empty") := by
  unfold decrypt
  rw [if_neg (by omega)]
  rfl

/-- Under a key that is not empty, the plaintext of an envelope is the one whose envelope it is. -/
theorem decrypt_eq_ok_iff {key envelope plaintext : Bytes} (hk : key ≠ []) :
    decrypt key envelope = .ok plaintext ↔
      ivSize + tagSize ≤ envelope.length ∧ encrypt key (envelope.take ivSize) plaintext = .ok envelope := by
  obtain ⟨keys, hkeys⟩ := SubKeys.exists_derive hk
  rw [encrypt_of_derive hkeys, Except.ok.injEq]
  by_cases h : ivSize + tagSize ≤ envelope.length
  · rw [decrypt_of_derive hkeys h, keys.encrypt_eq_iff plaintext h]
    split
    · next ht => simp only [Except.ok.injEq, h, ht, true_and]
    · next ht => simp only [reduceCtorEq, ht, false_and, and_false]
  · rw [decrypt_of_short key (by omega)]
    simp only [reduceCtorEq, h, false_and]

/-- Every envelope that has no plaintext under a key is refused as not authentic. -/
theorem decrypt_eq_integrity {key envelope : Bytes} (hk : key ≠ []) (h : ∀ plaintext, decrypt key envelope ≠ .ok plaintext) :
    ∃ what, decrypt key envelope = .error (.integrity what) := by
  obtain ⟨keys, hkeys⟩ := SubKeys.exists_derive hk
  by_cases hl : ivSize + tagSize ≤ envelope.length
  · rw [decrypt_of_derive hkeys hl] at h ⊢
    split
    · next ht =>
      rw [if_pos ht] at h
      exact absurd rfl (h _)
    · exact ⟨_, rfl⟩
  · exact ⟨_, decrypt_of_short key (by omega)⟩

/-- Decryption undoes encryption. -/
theorem exists_encrypt_decrypt {key iv : Bytes} (hk : key ≠ []) (hiv : iv.length = ivSize) (plaintext : Bytes) :
    ∃ envelope, encrypt key iv plaintext = .ok envelope ∧ envelope.length = plaintext.length + 48 ∧
      envelope.take ivSize = iv ∧ decrypt key envelope = .ok plaintext := by
  obtain ⟨keys, hkeys⟩ := SubKeys.exists_derive hk
  have htake := keys.take_encrypt plaintext hiv
  have hlen : (keys.encrypt iv plaintext).length = ivSize + plaintext.length + tagSize :=
    keys.length_encrypt plaintext hiv
  refine ⟨_, encrypt_of_derive hkeys iv plaintext, ?_, htake, ?_⟩
  · rw [hlen]
    simp only [ivSize, tagSize]
    omega
  · rw [decrypt_eq_ok_iff hk, htake]
    exact ⟨by omega, encrypt_of_derive hkeys iv plaintext⟩

/-- **The decoder accepts exactly the encoder's image.** Under a key that is not empty, a byte string decrypts to a
plaintext just if it has at least 48 bytes and is the envelope of that plaintext under the initialisation vector that
it begins with; whatever else is refused as not authentic; and every plaintext has an envelope under every vector,
which decrypts to it. An empty key is refused by both directions, but `decrypt` looks at the length first. -/
theorem decrypt_iff_encrypt (key envelope : Bytes) :
    (key ≠ [] →
      (∀ plaintext, decrypt key envelope = .ok plaintext ↔
        48 ≤ envelope.length ∧ encrypt key (envelope.take 16) plaintext = .ok envelope) ∧
      ((∀ plaintext, decrypt key envelope ≠ .ok plaintext) →
        ∃ what, decrypt key envelope = .error (.integrity what)) ∧
      ∀ iv plaintext, iv.length = 16 →
        ∃ e, encrypt key iv plaintext = .ok e ∧ e.length = plaintext.length + 48 ∧ e.take 16 = iv ∧
          decrypt key e = .ok plaintext) ∧
    (∀ iv plaintext, ∃ what, encrypt [] iv plaintext = .error (.crypto what)) ∧
    (envelope.length < 48 → ∃ what, decrypt [] envelope = .error (.integrity what)) ∧
    (48 ≤ envelope.length → ∃ what, decrypt [] envelope = .error (.crypto what)) := by
  refine ⟨fun hk => ⟨fun _ => decrypt_eq_ok_iff hk, decrypt_eq_integrity hk, ?_⟩, ?_, ?_, ?_⟩
  · intro iv plaintext hiv
    exact exists_encrypt_decrypt hk hiv plaintext
  · exact fun iv plaintext => ⟨_, encrypt_nil iv plaintext⟩
  · exact fun h => ⟨_, decrypt_of_short [] h⟩
  · exact fun h => ⟨_, decrypt_nil h⟩

/-- A counter that wraps in the second of three blocks, the last of them partial. -/
theorem decrypt_iff_encrypt_wrapping :
    ([7] : Bytes) ≠ [] ∧ (List.replicate 16 255 : Bytes).length = 16 ∧
      ∃ e, encrypt [7] (List.replicate 16 255) (List.replicate 33 1) = .ok e ∧ e.length = 33 + 48 ∧
        e.take 16 = List.replicate 16 255 ∧ decrypt [7] e = .ok (List.replicate 33 1) :=
  ⟨by decide, by decide, ((decrypt_iff_encrypt [7] []).1 (by decide)).2.2 _ (List.replicate 33 1) (by decide)⟩

end SealedDrop.Envelope
