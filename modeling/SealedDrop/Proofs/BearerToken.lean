import SealedDrop.Proofs.RoundTrip

/-!
# What becomes of a token

Whether a token can be encrypted to a public key, what the holder of the private key reads, and what nobody can make him read.

## The model

* `IsCredential` says which bytes are a token: the text is not empty and has no control character. It is stated by the numbers of
  characters.
* `Carries` is the rule for one token, one key and one seed. The key is any `Rsa.PrivateKey.IsPair`.

## What is proved

* `carries_of_isPair` — every pair of keys carries every token under every seed.
* `header_of_decrypt` — what is read, under any key and from any ciphertext, can stand in a header.
-/

namespace SealedDrop.BearerToken

open Exchange (mersenneKey isGenuine_mersenneKey)

variable {k : Rsa.PrivateKey} {seed t c : Bytes} {s : String} {token : BearerToken}

/-! ### Texts that are tokens -/

/-- The bytes are a text that is not empty and has no control character. -/
def IsCredential (t : Bytes) (s : String) : Prop :=
  t = utf8 s ∧ t ≠ [] ∧ ∀ ch ∈ s.toList, ¬ (ch.toNat < 0x20 ∨ 0x7F ≤ ch.toNat ∧ ch.toNat ≤ 0x9F)

/-- These are the texts that are taken for tokens. -/
theorem isHeaderValue_iff : IsHeaderValue s ↔ IsCredential (utf8 s) s := by
  have hempty : s ≠ "" ↔ utf8 s ≠ [] := by
    have hnil : utf8 "" = [] := rfl
    rw [ne_eq, ne_eq, ← hnil, utf8_inj]
  simp only [IsHeaderValue, IsCredential, hempty, true_and, List.any_eq_false, Text.isControl, Bool.or_eq_true,
    Bool.and_eq_true, decide_eq_true_eq]

/-- No byte of a text without control characters is a control code of ASCII. -/
theorem IsCredential.legal (h : IsCredential t s) : ∀ b ∈ t, 0x20 ≤ b ∧ b ≠ 0x7F := by
  obtain ⟨rfl, -, hplain⟩ := h
  intro b hb
  rw [utf8_eq_flatMap] at hb
  obtain ⟨ch, hch, hb⟩ := List.mem_flatMap.mp hb
  have hcontrol := hplain ch hch
  by_cases hascii : ch.toNat < 128
  · rw [utf8EncodeChar_of_lt hascii, List.mem_singleton] at hb
    have hnumber : b.toNat = ch.toNat := by
      rw [hb, UInt8.toNat_ofNat']
      omega
    rw [UInt8.le_iff_toNat_le, ne_eq, ← UInt8.toNat_inj, hnumber]
    change 0x20 ≤ ch.toNat ∧ ¬ ch.toNat = 0x7F
    omega
  · have hle := UInt8.le_iff_toNat_le.mp (le_of_mem_utf8EncodeChar (Nat.le_of_not_lt hascii) b hb)
    change 0x80 ≤ b.toNat at hle
    rw [UInt8.le_iff_toNat_le, ne_eq, ← UInt8.toNat_inj]
    change 0x20 ≤ b.toNat ∧ ¬ b.toNat = 0x7F
    omega

/-! ### Encrypting -/

/-- A token is encrypted to as many bytes as the modulus has, unless it is too long. -/
theorem encrypt_cases (k : Rsa.PublicKey) (seed t : Bytes) :
    (t.length + 130 ≤ k.size ∧ ∃ c, encrypt k seed t = .ok c ∧ c.length = k.size) ∨
      (k.size < t.length + 130 ∧ ∃ what, encrypt k seed t = .error (.crypto what)) := by
  by_cases hsize : k.size < t.length + Rsa.Oaep.overhead
  · refine .inr ⟨hsize, ?_⟩
    simp only [encrypt, Rsa.Oaep.encrypt, if_pos hsize]
    exact ⟨_, rfl⟩
  · refine .inl ⟨Nat.not_lt.mp hsize, ?_⟩
    simp only [encrypt, Rsa.Oaep.encrypt, if_neg hsize]
    exact ⟨_, rfl, Bytes.length_ofNatWidth _ _⟩

/-! ### Reading -/

/-- A token is read just if the padding holds its bytes and these are a token. -/
theorem decrypt_eq_ok_iff :
    decrypt k c = .ok ⟨s⟩ ↔ ∃ plain, Rsa.Oaep.decrypt k label c = .ok plain ∧ IsCredential plain s := by
  rw [decrypt_eq]
  cases hplain : Rsa.Oaep.decrypt k label c with
  | error e => simp
  | ok plain =>
    simp only [Except.ok.injEq, exists_eq_left']
    cases htext : text? plain with
    | none =>
      simp only [reduceCtorEq, false_iff]
      rintro ⟨rfl, -⟩
      rw [text?_utf8] at htext
      cases htext
    | some s' =>
      obtain rfl := text?_eq_some_iff.mp htext
      by_cases hs : IsHeaderValue s'
      · simp only [if_pos hs, Except.ok.injEq, mk.injEq]
        constructor
        · rintro rfl
          exact isHeaderValue_iff.mp hs
        · intro h
          exact utf8_inj.mp h.1
      · simp only [if_neg hs, reduceCtorEq, false_iff]
        intro h
        obtain rfl := utf8_inj.mp h.1
        exact hs (isHeaderValue_iff.mpr h)

/-- What a private key reads of what was encrypted to its public half. -/
theorem decrypt_of_encrypt (hk : k.IsPair) (hseed : seed.length = 64) (hc : encrypt k.toPublic seed t = .ok c) :
    Rsa.Oaep.decrypt k label c = .ok t := by
  obtain ⟨hsize, -⟩ | ⟨-, what, herror⟩ := encrypt_cases k.toPublic seed t
  · obtain ⟨c', hencrypt, hdecrypt⟩ := Rsa.Oaep.decrypt_encrypt hk label hseed hsize
    simp only [encrypt, hencrypt, Except.ok.injEq] at hc
    rwa [hc] at hdecrypt
  · rw [herror] at hc
    cases hc

/-! ### The rule -/

/-- The rule for the bytes `t`, encrypted under a seed to the public half of a key. -/
structure Carries (k : Rsa.PrivateKey) (seed t : Bytes) : Prop where
  /-- They can be encrypted just if they are at least 130 bytes fewer than the modulus has. -/
  fits : (∃ c, encrypt k.toPublic seed t = .ok c) ↔ t.length + 130 ≤ k.toPublic.size
  /-- Otherwise the encryption fails. -/
  tooLong : ¬ t.length + 130 ≤ k.toPublic.size → ∃ what, encrypt k.toPublic seed t = .error (.crypto what)
  /-- The ciphertext has as many bytes as the modulus. -/
  size : ∀ c, encrypt k.toPublic seed t = .ok c → c.length = k.toPublic.size
  /-- The private key reads a token just if the bytes are one, and then this one. -/
  reads : ∀ c s, encrypt k.toPublic seed t = .ok c → (decrypt k c = .ok ⟨s⟩ ↔ IsCredential t s)
  /-- Otherwise it refuses to read one. -/
  refuses : ∀ c, encrypt k.toPublic seed t = .ok c → (∀ s, ¬ IsCredential t s) →
    ∃ what, decrypt k c = .error (.tokenDecrypt what)

theorem carries_of_isPair (hk : k.IsPair) (hseed : seed.length = 64) (t : Bytes) : Carries k seed t := by
  have hreads : ∀ c s, encrypt k.toPublic seed t = .ok c → (decrypt k c = .ok ⟨s⟩ ↔ IsCredential t s) := by
    intro c s hc
    simp only [decrypt_eq_ok_iff, decrypt_of_encrypt hk hseed hc, Except.ok.injEq, exists_eq_left']
  have hrefuses : ∀ c, encrypt k.toPublic seed t = .ok c → (∀ s, ¬ IsCredential t s) →
      ∃ what, decrypt k c = .error (.tokenDecrypt what) := by
    intro c hc hnone
    cases hd : decrypt k c with
    | ok token => exact absurd ((hreads c token.text hc).mp hd) (hnone token.text)
    | error e =>
      obtain ⟨what, rfl⟩ := tokenDecrypt_of_decrypt hd
      exact ⟨what, rfl⟩
  obtain ⟨hsize, c, hc, hlength⟩ | ⟨hsize, what, hc⟩ := encrypt_cases k.toPublic seed t
  · refine ⟨⟨fun _ => hsize, fun _ => ⟨c, hc⟩⟩, fun h => absurd hsize h, fun c' hc' => ?_, hreads, hrefuses⟩
    rw [hc] at hc'
    cases hc'
    exact hlength
  · refine ⟨⟨?_, fun h => absurd h (Nat.not_le.mpr hsize)⟩, fun _ => ⟨what, hc⟩, fun c' hc' => ?_, hreads, hrefuses⟩
    · rintro ⟨c, hok⟩
      rw [hc] at hok
      cases hok
    · rw [hc] at hc'
      cases hc'

/-- Whatever is read as a token can stand in a header: it has a byte, and none that is a control code of ASCII. -/
theorem header_of_decrypt (h : decrypt k c = .ok token) :
    utf8 token.text ≠ [] ∧ ∀ b ∈ utf8 token.text, 0x20 ≤ b ∧ b ≠ 0x7F := by
  obtain ⟨plain, -, hcredential⟩ := decrypt_eq_ok_iff.mp h
  obtain rfl := hcredential.1
  exact ⟨hcredential.2.1, hcredential.legal⟩

/-- **The codec is exact**: under every pair of keys, every seed and for all bytes the rule holds; and under any key and from any
ciphertext nothing is read that cannot stand in a header. -/
theorem codec_exact :
    (∀ (k : Rsa.PrivateKey) (seed t : Bytes), k.IsPair → seed.length = 64 → Carries k seed t) ∧
      ∀ (k : Rsa.PrivateKey) (c : Bytes) (token : BearerToken), decrypt k c = .ok token →
        utf8 token.text ≠ [] ∧ ∀ b ∈ utf8 token.text, 0x20 ≤ b ∧ b ≠ 0x7F :=
  ⟨fun _ _ t hk hseed => carries_of_isPair hk hseed t, fun _ _ _ h => header_of_decrypt h⟩

/-- The number of the key of two Mersenne primes is 168 bytes long: a short token is carried, and what is read is legal. -/
theorem codec_exact_mersenneKey :
    mersenneKey.IsPair ∧ (List.replicate 64 (7 : UInt8)).length = 64 ∧
      Carries mersenneKey (List.replicate 64 7) (utf8 "tok-123") ∧
      ∃ c, encrypt mersenneKey.toPublic (List.replicate 64 7) (utf8 "tok-123") = .ok c ∧ c.length = 168 ∧
        decrypt mersenneKey c = .ok ⟨"tok-123"⟩ ∧
        utf8 "tok-123" ≠ [] ∧ ∀ b ∈ utf8 "tok-123", 0x20 ≤ b ∧ b ≠ 0x7F := by
  have hpair : mersenneKey.IsPair := isGenuine_mersenneKey.isPair
  have hseed : (List.replicate 64 (7 : UInt8)).length = 64 := List.length_replicate
  have hcarries := codec_exact.1 mersenneKey (List.replicate 64 7) (utf8 "tok-123") hpair hseed
  have hsize : mersenneKey.toPublic.size = 168 := by decide +kernel
  obtain ⟨c, hc⟩ := hcarries.fits.mpr (by rw [hsize]; decide)
  have hread : decrypt mersenneKey c = .ok ⟨"tok-123"⟩ :=
    (hcarries.reads c "tok-123" hc).mpr (isHeaderValue_iff.mp ⟨by decide, by decide⟩)
  exact ⟨hpair, hseed, hcarries, c, hc, (hcarries.size c hc).trans hsize, hread, codec_exact.2 mersenneKey c ⟨"tok-123"⟩ hread⟩

end SealedDrop.BearerToken
