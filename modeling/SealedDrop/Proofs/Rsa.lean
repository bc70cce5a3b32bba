import SealedDrop.Rsa.Key
import SealedDrop.Proofs.Bytes
import Mathlib.FieldTheory.Finite.Basic
import Mathlib.Data.Nat.ChineseRemainder

/-!
# The private operation undoes the public one

For a pair of exponents that undo each other modulo one less than either of two different odd primes, every number below the
modulus is recovered from what the public operation makes of it.

## The model

The private operation works modulo each factor with the exponent reduced (`pow_reduced`), where Fermat's theorem gives back
the number (`atFactor_eq`), and puts the two residues together (`combine_modEq`).
-/

namespace SealedDrop.Rsa

/-! ### Modulo a factor -/

section Factor

variable {p : Nat} [hp : Fact p.Prime]

/-- An exponent may be reduced modulo one less than a prime, if something is left of it. -/
theorem pow_reduced (c : ZMod p) {d : Nat} (hd : d % (p - 1) ≠ 0) : c ^ (d % (p - 1)) = c ^ d := by
  by_cases hc : c = 0
  · have hpos : d ≠ 0 := by
      rintro rfl
      exact hd (Nat.zero_mod _)
    rw [hc, zero_pow hd, zero_pow hpos]
  · conv_rhs => rw [← Nat.mod_add_div d (p - 1), pow_add, pow_mul, ZMod.pow_card_sub_one_eq_one hc, one_pow, mul_one]

/-- Exponents whose product is one modulo one less than a prime undo each other. -/
theorem pow_pow_eq_self (m : ZMod p) {e d : Nat} (hde : 0 < d * e) (h : (d * e - 1) % (p - 1) = 0) : (m ^ e) ^ d = m := by
  obtain ⟨k, hk⟩ := Nat.dvd_of_mod_eq_zero h
  rw [← pow_mul, Nat.mul_comm e d]
  by_cases hm : m = 0
  · rw [hm, zero_pow hde.ne']
  · rw [show d * e = (p - 1) * k + 1 by omega, pow_succ, pow_mul, ZMod.pow_card_sub_one_eq_one hm, one_pow, one_mul]

/-- The private operation modulo an odd prime factor finds the residue of the number. -/
theorem atFactor_eq {c m e d : Nat} (hp2 : p ≠ 2) (hde : 0 < d * e) (h : (d * e - 1) % (p - 1) = 0)
    (hc : (c : ZMod p) = (m : ZMod p) ^ e) : modPow c (d % (p - 1)) p = m % p := by
  have hreduced : d % (p - 1) ≠ 0 := by
    intro hd
    -- otherwise `p - 1` would divide both the product of the exponents and one less than it
    have h₁ : p - 1 ∣ d * e := Dvd.dvd.mul_right (Nat.dvd_of_mod_eq_zero hd) e
    have h₂ : p - 1 ∣ d * e - 1 := Nat.dvd_of_mod_eq_zero h
    have h₃ : p - 1 ∣ 1 := by
      have := Nat.dvd_sub h₁ h₂
      rwa [show d * e - (d * e - 1) = 1 by omega] at this
    have := Nat.dvd_one.mp h₃
    have := hp.out.two_le
    omega
  have hmod : ((c ^ (d % (p - 1)) : Nat) : ZMod p) = (m : Nat) := by
    rw [Nat.cast_pow, pow_reduced _ hreduced, hc, pow_pow_eq_self _ hde h]
  rw [modPow_eq]
  exact (ZMod.natCast_eq_natCast_iff _ _ _).mp hmod

end Factor

/-! ### Putting residues together -/

/-- The inverse that is found is one. -/
theorem mul_inverse?_modEq {a n c : Nat} (hn : 0 < n) (h : inverse? a n = some c) : c * a ≡ 1 [MOD n] := by
  unfold inverse? at h
  split at h
  · next hgcd =>
    cases h
    have hbezout := bezout_eq a n
    rw [hgcd, Nat.cast_one] at hbezout
    rw [← Int.natCast_modEq_iff]
    have hpos : 0 ≤ (bezout a n).1 % (n : Int) := Int.emod_nonneg _ (by omega)
    push_cast
    rw [Int.toNat_of_nonneg hpos]
    calc (bezout a n).1 % (n : Int) * a ≡ (bezout a n).1 * a [ZMOD n] := (Int.mod_modEq _ _).mul_right _
      _ = 1 - n * (bezout a n).2 := by linarith
      _ ≡ 1 [ZMOD n] := by
        refine (Int.modEq_iff_dvd.mpr ⟨(bezout a n).2, ?_⟩)
        ring
  · cases h

/-- The two residues of a number below the product of coprime factors give the number. -/
theorem combine_eq {p q c m : Nat} (hp : 0 < p) (hq : 0 < q) (hpq : Nat.Coprime p q) (hc : c * q ≡ 1 [MOD p])
    (hm : m < p * q) : m % q + (m % p + (p - m % q % p)) * c % p * q = m := by
  set x := m % q + (m % p + (p - m % q % p)) * c % p * q with hx
  have hlt : x < p * q := by
    have h₁ : m % q < q := Nat.mod_lt _ hq
    have h₂ : (m % p + (p - m % q % p)) * c % p < p := Nat.mod_lt _ hp
    calc x < q + (m % p + (p - m % q % p)) * c % p * q := by omega
      _ = ((m % p + (p - m % q % p)) * c % p + 1) * q := by ring
      _ ≤ p * q := Nat.mul_le_mul_right q h₂
  have hmodq : x ≡ m [MOD q] := by
    rw [hx]
    exact (Nat.ModEq.add_left _ (Nat.modEq_zero_iff_dvd.mpr (Nat.dvd_mul_left _ _))).trans (Nat.mod_modEq m q)
  have hmodp : x ≡ m [MOD p] := by
    have hle : m % q % p ≤ p := (Nat.mod_lt _ hp).le
    calc x ≡ m % q + (m % p + (p - m % q % p)) * c * q [MOD p] :=
          Nat.ModEq.add_left _ ((Nat.mod_modEq _ _).mul_right q)
      _ = m % q + (m % p + (p - m % q % p)) * (c * q) := by ring
      _ ≡ m % q + (m % p + (p - m % q % p)) * 1 [MOD p] := Nat.ModEq.add_left _ (hc.mul_left _)
      _ ≡ m % q % p + (m % p + (p - m % q % p)) * 1 [MOD p] := (Nat.mod_modEq _ _).symm.add_right _
      _ = m % p + p := by omega
      _ ≡ m [MOD p] := by
        rw [Nat.ModEq, Nat.add_mod_right, Nat.mod_mod]
  have hmod : x ≡ m [MOD p * q] := (Nat.modEq_and_modEq_iff_modEq_mul hpq).mp ⟨hmodp, hmodq⟩
  exact Nat.ModEq.eq_of_lt_of_lt hmod hlt hm

/-- The numbers of a key make a pair: the modulus is the product of two different primes and odd, and the exponents undo each
other modulo one less than either prime. -/
structure PrivateKey.IsPair (k : PrivateKey) : Prop where
  /-- The first factor is prime. -/
  prime_p : k.p.Prime
  /-- The second factor is prime. -/
  prime_q : k.q.Prime
  /-- They are different. -/
  ne : k.p ≠ k.q
  /-- The factors give the modulus. -/
  modulus : k.p * k.q = k.toPublic.modulus
  /-- It is odd, as two has no place among the factors. -/
  odd : k.toPublic.modulus % 2 = 1
  /-- The exponents undo each other modulo one less than the first factor. -/
  inverse_p : k.toPublic.exponent * k.exponent ≡ 1 [MOD k.p - 1]
  /-- They do so modulo one less than the second factor. -/
  inverse_q : k.toPublic.exponent * k.exponent ≡ 1 [MOD k.q - 1]

/-- The numbers of a key fit together, and its factors are different primes. -/
structure PrivateKey.IsGenuine (k : PrivateKey) : Prop where
  /-- The numbers fit together. -/
  usable : k.IsUsable
  /-- The first factor is prime. -/
  prime_p : k.p.Prime
  /-- The second factor is prime. -/
  prime_q : k.q.Prime
  /-- They are different. -/
  ne : k.p ≠ k.q

/-- A genuine key is a pair, with exponents of a limited size. -/
theorem PrivateKey.IsGenuine.isPair {k : PrivateKey} (hk : k.IsGenuine) : k.IsPair := by
  obtain ⟨⟨⟨-, hodd, -, he, -⟩, -, -, hmodulus, hd, hdp, hdq⟩, hp, hq, hpq⟩ := hk
  have hpos : 1 ≤ k.exponent * k.toPublic.exponent := Nat.mul_pos hd (by omega)
  have hinverse : ∀ {r}, (k.exponent * k.toPublic.exponent - 1) % r = 0 → k.toPublic.exponent * k.exponent ≡ 1 [MOD r] := by
    intro r hr
    rw [Nat.mul_comm]
    exact ((Nat.modEq_iff_dvd' hpos).mpr (Nat.dvd_of_mod_eq_zero hr)).symm
  exact ⟨hp, hq, hpq, hmodulus, hodd, hinverse hdp, hinverse hdq⟩

/-- What is congruent to one modulo one less than an odd prime is not zero, and exceeds one by a multiple. -/
theorem pos_and_mod_of_modEq_one {p n : Nat} (hp : p.Prime) (hp2 : p ≠ 2) (h : n ≡ 1 [MOD p - 1]) :
    0 < n ∧ (n - 1) % (p - 1) = 0 := by
  have htwo := hp.two_le
  have hpos : 0 < n := by
    refine Nat.pos_of_ne_zero ?_
    rintro rfl
    have hone : p - 1 = 1 := Nat.dvd_one.mp ((Nat.modEq_zero_iff_dvd).mp h.symm)
    omega
  exact ⟨hpos, Nat.mod_eq_zero_of_dvd ((Nat.modEq_iff_dvd' hpos).mp h.symm)⟩

/-- **Recovery**: the private operation undoes the public one on every number below the modulus. -/
theorem PrivateKey.recover?_apply {k : PrivateKey} (hk : k.IsPair) {m : Nat} (hm : m < k.toPublic.modulus) :
    k.recover? (k.toPublic.apply m) = some m := by
  obtain ⟨hp, hq, hpq, hmodulus, hodd, hinverseP, hinverseQ⟩ := hk
  have : Fact k.p.Prime := ⟨hp⟩
  have : Fact k.q.Prime := ⟨hq⟩
  have hp2 : k.p ≠ 2 := by
    intro h
    rw [← hmodulus, h] at hodd
    omega
  have hq2 : k.q ≠ 2 := by
    intro h
    rw [← hmodulus, h] at hodd
    omega
  rw [Nat.mul_comm] at hinverseP hinverseQ
  obtain ⟨hde, hdp⟩ := pos_and_mod_of_modEq_one hp hp2 hinverseP
  obtain ⟨-, hdq⟩ := pos_and_mod_of_modEq_one hq hq2 hinverseQ
  have hcoprime : Nat.Coprime k.p k.q := (Nat.coprime_primes hp hq).mpr hpq
  have happly : ∀ {r}, r ∣ k.toPublic.modulus →
      ((k.toPublic.apply m : Nat) : ZMod r) = (m : ZMod r) ^ k.toPublic.exponent := by
    intro r hr
    rw [PublicKey.apply, modPow_eq, ← Nat.cast_pow, ZMod.natCast_eq_natCast_iff]
    exact (Nat.mod_modEq _ _).of_dvd hr
  obtain ⟨c, hc⟩ : ∃ c, inverse? k.q k.p = some c := ⟨_, if_pos hcoprime.symm⟩
  have hatP : modPow (k.toPublic.apply m) (k.exponent % (k.p - 1)) k.p = m % k.p :=
    atFactor_eq hp2 hde hdp (happly ⟨k.q, hmodulus.symm⟩)
  have hatQ : modPow (k.toPublic.apply m) (k.exponent % (k.q - 1)) k.q = m % k.q :=
    atFactor_eq hq2 hde hdq (happly ⟨k.p, by rw [Nat.mul_comm]; exact hmodulus.symm⟩)
  have hinvert : k.invert (k.toPublic.apply m) = m := by
    rw [PrivateKey.invert, hc]
    simp only [hatP, hatQ]
    exact combine_eq hp.pos hq.pos hcoprime (mul_inverse?_modEq hp.pos hc) (hmodulus ▸ hm)
  rw [PrivateKey.recover?, hinvert]
  exact if_pos rfl

end SealedDrop.Rsa
