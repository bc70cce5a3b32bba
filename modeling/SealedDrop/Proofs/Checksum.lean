import SealedDrop.Proofs.Reference
import Mathlib.Data.Nat.Digits.Defs

/-!
# Checksums and digests

There are as many checksum texts as there are digests: each digest is spelled in one way, and nothing else is read as a checksum.

## The model

* The spelling of bytes in base64 is stated here without the encoder: the bits of the bytes, cut into groups of six (`Sextets`),
  each as the symbol of its number, and padding up to a multiple of four (`Base64.Spells`).
* `Checksum.Canonical` is the rule for a text that is read as a checksum.

## What is proved

* `Base64.spells_iff` — the encoder writes this spelling, and there is no other.
* `Checksum.parse_bijective` — the texts that are read as checksums correspond to the digests one to one, and comparing texts is
  comparing digests.
-/

namespace SealedDrop

/-! ### Spelling -/

namespace Base64

variable {a : Alphabet} {b b' : Bytes} {numbers numbers' : List Nat} {s : String}

/-- The numbers that the bits of bytes make in groups of six, from the first bit on. The last group is filled up with zeros. -/
structure Sextets (b : Bytes) (numbers : List Nat) : Prop where
  /-- A group has six bits. -/
  small : ∀ n ∈ numbers, n < 64
  /-- There are as many groups as needed. -/
  count : numbers.length = (8 * b.length + 5) / 6
  /-- The groups have the bits of the bytes, with zeros behind them. -/
  value : Nat.ofDigits 64 numbers.reverse = b.toNat * 2 ^ (6 * numbers.length - 8 * b.length)

/-- There is one way to cut bytes into groups of six bits. -/
theorem Sextets.unique (h : Sextets b numbers) (h' : Sextets b numbers') : numbers = numbers' := by
  have hlength : numbers.length = numbers'.length := h.count.trans h'.count.symm
  have hvalue : Nat.ofDigits 64 numbers.reverse = Nat.ofDigits 64 numbers'.reverse := by
    rw [h.value, h'.value, hlength]
  refine List.reverse_injective (Nat.ofDigits_inj_of_len_eq (b := 64) (by decide) ?_ ?_ ?_ hvalue)
  · rw [List.length_reverse, List.length_reverse, hlength]
  · exact fun n hn => h.small n (List.mem_reverse.mp hn)
  · exact fun n hn => h'.small n (List.mem_reverse.mp hn)

/-- Three bytes more in front are four groups more. -/
theorem Sextets.cons (h : Sextets b numbers) (x y z : UInt8) :
    let n := (x.toNat * 256 + y.toNat) * 256 + z.toNat
    Sextets (x :: y :: z :: b) (n / 262144 :: n / 4096 % 64 :: n / 64 % 64 :: n % 64 :: numbers) := by
  intro n
  have hx := x.toNat_lt
  have hy := y.toNat_lt
  have hz := z.toNat_lt
  have hn : n = (x.toNat * 256 + y.toNat) * 256 + z.toNat := rfl
  have hcount := h.count
  refine ⟨?_, ?_, ?_⟩
  · simp only [List.forall_mem_cons]
    exact ⟨by omega, by omega, by omega, by omega, h.small⟩
  · simp only [List.length_cons]
    omega
  · have hbytes : Bytes.toNat (x :: y :: z :: b) = n * 256 ^ b.length + b.toNat := by
      rw [Bytes.toNat_cons, Bytes.toNat_cons, Bytes.toNat_cons, List.length_cons, List.length_cons, hn]
      ring
    have hgroups : n % 64 + 64 * (n / 64 % 64) + 64 ^ 2 * (n / 4096 % 64) + 64 ^ 3 * (n / 262144) = n := by omega
    have hshift : (64 : Nat) ^ numbers.length = 256 ^ b.length * 2 ^ (6 * numbers.length - 8 * b.length) := by
      rw [show (64 : Nat) = 2 ^ 6 from rfl, show (256 : Nat) = 2 ^ 8 from rfl, ← pow_mul, ← pow_mul, ← pow_add]
      congr 1
      omega
    have hexponent : 6 * (numbers.length + 1 + 1 + 1 + 1) - 8 * (b.length + 1 + 1 + 1) = 6 * numbers.length - 8 * b.length := by
      omega
    simp only [Nat.ofDigits_reverse_cons, List.length_cons, hexponent]
    rw [h.value, hbytes, add_mul, mul_assoc n, ← hshift]
    calc _ = b.toNat * 2 ^ (6 * numbers.length - 8 * b.length) + 64 ^ numbers.length *
          (n % 64 + 64 * (n / 64 % 64) + 64 ^ 2 * (n / 4096 % 64) + 64 ^ 3 * (n / 262144)) := by ring
      _ = _ := by rw [hgroups]; ring

/-- The encoder writes the groups, and padding. -/
theorem exists_sextets (a : Alphabet) (b : Bytes) :
    ∃ numbers, Sextets b numbers ∧
      encode a b = numbers.map a.symbol ++ List.replicate ((4 - numbers.length % 4) % 4) pad := by
  fun_induction encode a b with
  | case1 => exact ⟨[], ⟨by simp, rfl, rfl⟩, rfl⟩
  | case2 x n =>
    have hx := x.toNat_lt
    refine ⟨[n / 64, n % 64], ⟨?_, by simp, ?_⟩, rfl⟩
    · simp only [List.forall_mem_cons, List.not_mem_nil, false_implies, implies_true, and_true]
      omega
    · change n % 64 + 64 * (n / 64 + 64 * 0) = Bytes.toNat [x] * 2 ^ 4
      rw [Bytes.toNat_singleton]
      omega
  | case3 x y n =>
    have hx := x.toNat_lt
    have hy := y.toNat_lt
    refine ⟨[n / 4096, n / 64 % 64, n % 64], ⟨?_, by simp, ?_⟩, rfl⟩
    · simp only [List.forall_mem_cons, List.not_mem_nil, false_implies, implies_true, and_true]
      omega
    · change n % 64 + 64 * (n / 64 % 64 + 64 * (n / 4096 + 64 * 0)) = Bytes.toNat [x, y] * 2 ^ 2
      rw [Bytes.toNat_cons, Bytes.toNat_singleton, List.length_singleton]
      omega
  | case4 x y z rest n ih =>
    obtain ⟨numbers, hsextets, hencode⟩ := ih
    refine ⟨_, hsextets.cons x y z, ?_⟩
    rw [hencode]
    simp only [List.map_cons, List.cons_append, List.length_cons]
    congr 6
    omega

/-- The symbol of a number below 64 in the alphabet for URLs. -/
def urlSymbol (n : Nat) : Char :=
  "ABCDEFGHIJKLMNOPQRSTUVWXYZabcdefghijklmnopqrstuvwxyz0123456789-_".toList.getD n '='

/-- The text is the spelling of the bytes for URLs: a symbol for each group of six bits, and then padding up to the next multiple
of four. -/
def Spells (s : String) (b : Bytes) : Prop :=
  ∃ numbers, Sextets b numbers ∧
    s.toList = numbers.map urlSymbol ++ List.replicate ((4 - numbers.length % 4) % 4) '='

/-- **Spelling**: the encoder writes the spelling of bytes, and bytes have no other. -/
theorem spells_iff : Spells s b ↔ s = encodeText .urlSafe b := by
  have hsymbol : ∀ n < 64, Char.ofNat (Alphabet.urlSafe.symbol n).toNat = urlSymbol n := by decide +kernel
  obtain ⟨numbers, hsextets, hencode⟩ := exists_sextets .urlSafe b
  have htext : (encodeText .urlSafe b).toList =
      numbers.map urlSymbol ++ List.replicate ((4 - numbers.length % 4) % 4) '=' := by
    rw [encodeText, String.toList_ofList, hencode, List.map_append, List.map_map, List.map_replicate]
    congr 1
    exact List.map_congr_left fun n hn => hsymbol n (hsextets.small n hn)
  rw [← String.toList_inj, htext]
  constructor
  · rintro ⟨numbers', hsextets', hs⟩
    rw [hs, hsextets'.unique hsextets]
  · exact fun hs => ⟨numbers, hsextets, hs⟩

/-- No two byte strings have the same spelling. -/
theorem Spells.unique (h : Spells s b) (h' : Spells s b') : b = b' := by
  rw [spells_iff] at h h'
  have hdecode : decode .urlSafe (utf8 s) = .ok b := decode_utf8_eq_ok_iff.mpr h
  rw [decode_utf8_eq_ok_iff.mpr h'] at hdecode
  cases hdecode
  rfl

end Base64

/-! ### Checksums -/

namespace Checksum

variable {s : String} {c : Checksum} {digest : Bytes}

/-- The shape of a checksum text: 43 symbols of the alphabet for URLs and one padding character. The last symbol has two bits that
are not of the digest, and they are zero. -/
def Shaped (s : String) : Prop :=
  ∃ numbers last, numbers.length = 42 ∧ (∀ n ∈ numbers, n < 64) ∧ last < 16 ∧
    s.toList = (numbers ++ [4 * last]).map Base64.urlSymbol ++ ['=']

/-- A text that is read as a checksum stands for one digest. -/
structure Canonical (s : String) (c : Checksum) : Prop where
  /-- The checksum is written as it was read. -/
  text : toString c = s
  /-- The text is the spelling of one digest. -/
  spells : ∃! digest : Bytes, digest.length = 32 ∧ Base64.Spells s digest
  /-- It is the checksum of the bytes that have this digest. -/
  isOf : ∀ digest, Base64.Spells s digest → ∀ b, c.isOf b = true ↔ Hash.sha256 b = digest

theorem isParsed_iff : (∃ c, parse s = .ok c) ↔ ∃ digest : Bytes, digest.length = 32 ∧ Base64.Spells s digest := by
  simp only [parse_eq_ok_iff, Base64.spells_iff]
  exact ⟨fun ⟨_, _, h⟩ => h, fun h => ⟨⟨s⟩, rfl, h⟩⟩

theorem existsUnique_spells (h : ∃ digest : Bytes, digest.length = 32 ∧ Base64.Spells s digest) :
    ∃! digest : Bytes, digest.length = 32 ∧ Base64.Spells s digest := by
  obtain ⟨digest, hlength, hspells⟩ := h
  exact ⟨digest, ⟨hlength, hspells⟩, fun _ h' => h'.2.unique hspells⟩

/-- The bits of 32 bytes are 42 whole groups and four bits. -/
theorem sextets_iff {numbers : List Nat} {n : Nat} (hlength : numbers.length = 42) :
    (∃ digest : Bytes, digest.length = 32 ∧ Base64.Sextets digest (numbers ++ [n])) ↔
      (∀ n ∈ numbers, n < 64) ∧ ∃ last < 16, n = 4 * last := by
  have hcount : (numbers ++ [n]).length = 43 := by rw [List.length_append, hlength, List.length_singleton]
  have hreverse : Nat.ofDigits 64 (numbers ++ [n]).reverse = n + 64 * Nat.ofDigits 64 numbers.reverse := by
    rw [List.reverse_append, List.reverse_singleton, List.singleton_append, Nat.ofDigits_cons]
  constructor
  · rintro ⟨digest, hdigest, hsextets⟩
    have hvalue := hsextets.value
    rw [hreverse, hcount, hdigest] at hvalue
    have hlast := hsextets.small n (by simp)
    exact ⟨fun m hm => hsextets.small m (List.mem_append_left _ hm), n / 4, by omega, by omega⟩
  · rintro ⟨hsmall, last, hlast, rfl⟩
    -- The digest is the number that all bits but the last two make.
    have hlt : Nat.ofDigits 64 numbers.reverse < 64 ^ 42 := by
      have h := Nat.ofDigits_lt_base_pow_length (b := 64) (l := numbers.reverse) (by decide)
        fun m hm => hsmall m (List.mem_reverse.mp hm)
      rwa [List.length_reverse, hlength] at h
    refine ⟨Bytes.ofNatWidth 32 (last + 16 * Nat.ofDigits 64 numbers.reverse), Bytes.length_ofNatWidth _ _, ?_, ?_, ?_⟩
    · simp only [List.forall_mem_append, List.forall_mem_singleton]
      exact ⟨hsmall, by omega⟩
    · rw [hcount, Bytes.length_ofNatWidth]
    · rw [hreverse, Bytes.toNat_ofNatWidth, hcount, Bytes.length_ofNatWidth, Nat.mod_eq_of_lt (by omega)]
      omega

/-- The texts of digests are those of the right shape. -/
theorem shaped_iff : Shaped s ↔ ∃ digest : Bytes, digest.length = 32 ∧ Base64.Spells s digest := by
  constructor
  · rintro ⟨numbers, last, hlength, hsmall, hlast, hs⟩
    obtain ⟨digest, hdigest, hsextets⟩ := (sextets_iff hlength).mpr ⟨hsmall, last, hlast, rfl⟩
    refine ⟨digest, hdigest, _, hsextets, ?_⟩
    rw [hs, List.length_append, hlength, List.length_singleton]
    rfl
  · rintro ⟨digest, hdigest, numbers, hsextets, hs⟩
    have hcount := hsextets.count
    rw [hdigest] at hcount
    obtain ⟨numbers, n, rfl⟩ := (List.eq_nil_or_concat' numbers).resolve_left fun h => by simp [h] at hcount
    have hlength : numbers.length = 42 := by simpa using hcount
    obtain ⟨hsmall, last, hlast, rfl⟩ := (sextets_iff hlength).mp ⟨digest, hdigest, hsextets⟩
    refine ⟨numbers, last, hlength, hsmall, hlast, ?_⟩
    rw [hs, List.length_append, hlength, List.length_singleton]
    rfl

/-- **Bijection**: the texts that are read as checksums are the spellings of digests, one for each digest, and have one shape.
Any other text is malformed. A checksum is that of the bytes with its digest, so a reference verifies the bytes that have the
digest of the bytes that were transmitted. -/
theorem parse_bijective :
    (∀ s, (∃ c, parse s = .ok c) ↔ ∃! digest : Bytes, digest.length = 32 ∧ Base64.Spells s digest) ∧
    (∀ digest : Bytes, digest.length = 32 → ∃! s, (∃ c, parse s = .ok c) ∧ Base64.Spells s digest) ∧
    (∀ s, (∃ c, parse s = .ok c) ↔ Shaped s) ∧
    (∀ s, (∀ c, parse s ≠ .ok c) → ∃ what, parse s = .error (.format what)) ∧
    (∀ s c, parse s = .ok c → Canonical s c) ∧
    ∀ id b b', (Reference.ofTransmitted id b).verify b' = true ↔ Hash.sha256 b = Hash.sha256 b' := by
  have hisOf : ∀ digest b, (⟨Base64.encodeText .urlSafe digest⟩ : Checksum).isOf b = true ↔ Hash.sha256 b = digest := by
    intro digest b
    rw [isOf, beq_iff_eq, ofBytes, Checksum.mk.injEq]
    constructor
    · exact fun h => (Base64.spells_iff.mpr h).unique (Base64.spells_iff.mpr rfl)
    · exact fun h => by rw [h]
  refine ⟨fun s => ?_, fun digest hdigest => ?_, fun s => ?_, fun s hrefused => ?_, fun s c hc => ?_, fun id b b' => ?_⟩
  · exact isParsed_iff.trans ⟨existsUnique_spells, fun h => h.exists⟩
  · refine ⟨Base64.encodeText .urlSafe digest, ⟨?_, Base64.spells_iff.mpr rfl⟩, fun s h => Base64.spells_iff.mp h.2⟩
    exact isParsed_iff.mpr ⟨digest, hdigest, Base64.spells_iff.mpr rfl⟩
  · rw [isParsed_iff, shaped_iff]
  · cases hparse : parse s with
    | ok c => exact absurd hparse (hrefused c)
    | error e =>
      obtain ⟨what, rfl⟩ := parse_eq_error hparse
      exact ⟨what, rfl⟩
  · obtain ⟨rfl, -⟩ := parse_eq_ok_iff.mp hc
    refine ⟨rfl, existsUnique_spells (isParsed_iff.mp ⟨_, hc⟩), fun digest hspells b => ?_⟩
    rw [Base64.spells_iff.mp hspells]
    exact hisOf digest b
  · exact (hisOf (Hash.sha256 b) b').trans eq_comm

/-- The checksum of no bytes is read, and is of no bytes. With a last symbol that has another bit it is malformed. -/
theorem parse_bijective_nil :
    let s := "47DEQpj8HBSa-_TImW-5JCeuQeRkm5NMpJWZG3hSuFU="
    parse s = .ok ⟨s⟩ ∧ Canonical s ⟨s⟩ ∧ (⟨s⟩ : Checksum).isOf [] = true ∧
      (∃! s, (∃ c, parse s = .ok c) ∧ Base64.Spells s (Hash.sha256 [])) ∧
      ∃ what, parse "47DEQpj8HBSa-_TImW-5JCeuQeRkm5NMpJWZG3hSuFV=" = .error (.format what) := by
  obtain ⟨-, honly, -, hrefused, hread, -⟩ := parse_bijective
  have htext : Base64.encodeText .urlSafe (Hash.sha256 []) = "47DEQpj8HBSa-_TImW-5JCeuQeRkm5NMpJWZG3hSuFU=" := by
    decide +kernel
  have hparse := parse_ofBytes []
  rw [ofBytes, htext] at hparse
  have hcanonical := hread _ _ hparse
  refine ⟨hparse, hcanonical, (hcanonical.isOf _ (Base64.spells_iff.mpr htext.symm) _).mpr rfl,
    honly _ (Hash.length_sha256 _), hrefused _ fun c hc => ?_⟩
  have hbad : (parse "47DEQpj8HBSa-_TImW-5JCeuQeRkm5NMpJWZG3hSuFV=").toOption = none := by decide +kernel
  rw [hc] at hbad
  cases hbad

end Checksum

end SealedDrop
