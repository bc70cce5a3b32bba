import SealedDrop.Proofs.Bytes
import SealedDrop.Proofs.Envelope

/-!
# Tampering with envelopes

Whoever changes an envelope without the shared key is found out, unless the change hits upon a collision of the authentication code.

## The model

* An envelope is changed in its tag, or in front of it, where it may also become shorter or longer. A flipped bit is the one or the
  other.
* A `Collision` is two different messages with the same authentication code under the key that tags are made with. `Resists` is
  the rule for an envelope.

## What is proved

* `accepts_iff` — an envelope is accepted exactly if it has the length of one and its tag is that of what stands in front of it.
* `resists_of_decrypt` — every envelope that is accepted obeys the rule, and the exception in it is needed: what collides is
  accepted.
-/

namespace SealedDrop.Envelope

variable {key envelope changed plaintext b b' : Bytes}

/-! ### Acceptance -/

/-- The key of tags that is derived from a shared key. -/
def tagKey (key : Bytes) : Bytes :=
  Hash.derive key tagLabel 32

theorem SubKeys.tagOf_of_derive {keys : SubKeys} (h : SubKeys.derive key = .ok keys) (b : Bytes) :
    keys.tagOf b = Hash.hmac (tagKey key) b := by
  unfold SubKeys.derive at h
  split at h
  · cases h
  · cases h
    rfl

/-- **Acceptance**: an envelope is accepted exactly if it has the length of one and ends in the tag of what stands before. -/
theorem accepts_iff (hk : key ≠ []) :
    (∃ plaintext, decrypt key envelope = .ok plaintext) ↔
      ivSize + tagSize ≤ envelope.length ∧ Hash.hmac (tagKey key) (body envelope) = trailer envelope := by
  obtain ⟨keys, hkeys⟩ := SubKeys.exists_derive hk
  by_cases h : ivSize + tagSize ≤ envelope.length
  · rw [decrypt_of_derive hkeys h, keys.tagOf_of_derive hkeys]
    split
    · next ht => simp [h, ht]
    · next ht => simp [ht]
  · rw [decrypt_of_short key (by omega)]
    simp [h]

/-- What is not accepted is refused as not authentic. -/
theorem accepted_or_refused (hk : key ≠ []) (envelope : Bytes) :
    (∃ plaintext, decrypt key envelope = .ok plaintext) ∨ ∃ what, decrypt key envelope = .error (.integrity what) := by
  by_cases h : ∃ plaintext, decrypt key envelope = .ok plaintext
  · exact .inl h
  · exact .inr (decrypt_eq_integrity hk (not_exists.mp h))

/-- An envelope is told by what stands before its tag and by the tag. -/
theorem eq_of_parts (hbody : body changed = body envelope) (htrailer : trailer changed = trailer envelope) :
    changed = envelope := by
  rw [← body_append_trailer changed, hbody, htrailer, body_append_trailer]

/-! ### A single bit -/

/-- The parts of an envelope in which one bit is flipped: the bit belongs to one of them, and the other is as it was. -/
theorem part_of_oneBitApart (h : envelope.OneBitApart changed) :
    body changed = body envelope ∨ trailer changed = trailer envelope := by
  obtain ⟨hlength, ⟨place, weight⟩, -, hunique⟩ := h
  have hother : ∀ i, i ≠ place → changed[i]? = envelope[i]? := by
    intro i hi
    refine Bytes.getElem?_eq_of_bit? fun w => ?_
    by_contra hbit
    exact hi (congrArg Prod.fst (hunique (i, w) hbit))
  unfold body trailer
  rw [hlength]
  by_cases hplace : place < envelope.length - tagSize
  · right
    refine List.ext_getElem? fun i => ?_
    rw [List.getElem?_drop, List.getElem?_drop]
    exact hother _ (by omega)
  · left
    refine List.ext_getElem? fun i => ?_
    rw [List.getElem?_take, List.getElem?_take]
    split
    · exact hother i (by omega)
    · rfl

/-! ### The rule -/

/-- Two messages that no tag under a shared key tells apart. -/
structure Collision (key b b' : Bytes) : Prop where
  /-- The messages differ. -/
  distinct : b ≠ b'
  /-- They have the same authentication code. -/
  code : Hash.hmac (tagKey key) b = Hash.hmac (tagKey key) b'

/-- The rule for an envelope that is accepted under a shared key. -/
structure Resists (key envelope : Bytes) : Prop where
  /-- With another tag it is refused. -/
  otherTag : ∀ changed, changed ≠ envelope → body changed = body envelope →
    ∃ what, decrypt key changed = .error (.integrity what)
  /-- With anything else in front of its tag it is refused, unless that makes a collision. -/
  otherBody : ∀ changed, changed ≠ envelope → trailer changed = trailer envelope →
    (∃ what, decrypt key changed = .error (.integrity what)) ∨ Collision key (body changed) (body envelope)
  /-- With one bit flipped it is refused, unless the bit is none of the tag and makes a collision. -/
  flippedBit : ∀ changed, envelope.OneBitApart changed →
    (∃ what, decrypt key changed = .error (.integrity what)) ∨
      trailer changed = trailer envelope ∧ Collision key (body changed) (body envelope)
  /-- What makes a collision is accepted with this tag behind it, if it is not too short. -/
  forged : ∀ changed, ivSize + tagSize ≤ changed.length → trailer changed = trailer envelope →
    Collision key (body changed) (body envelope) → ∃ plaintext, decrypt key changed = .ok plaintext

/-- **Tampering is found out**: every envelope that is accepted obeys the rule. -/
theorem resists_of_decrypt (hk : key ≠ []) (h : decrypt key envelope = .ok plaintext) : Resists key envelope := by
  obtain ⟨-, hcode⟩ := (accepts_iff hk).mp ⟨plaintext, h⟩
  have htag : ∀ changed, changed ≠ envelope → body changed = body envelope →
      ∃ what, decrypt key changed = .error (.integrity what) := by
    intro changed hne hbody
    refine (accepted_or_refused hk changed).resolve_left fun haccepted => hne (eq_of_parts hbody ?_)
    rw [← ((accepts_iff hk).mp haccepted).2, hbody, hcode]
  have hbody : ∀ changed, changed ≠ envelope → trailer changed = trailer envelope →
      (∃ what, decrypt key changed = .error (.integrity what)) ∨ Collision key (body changed) (body envelope) := by
    intro changed hne htrailer
    refine (accepted_or_refused hk changed).symm.imp_right fun haccepted => ?_
    refine ⟨fun hsame => hne (eq_of_parts hsame htrailer), ?_⟩
    rw [((accepts_iff hk).mp haccepted).2, htrailer, hcode]
  refine ⟨htag, hbody, fun changed hflip => ?_, fun changed hlength htrailer hcollision => ?_⟩
  · -- the bit is one of the tag or one in front of it
    rcases part_of_oneBitApart hflip with hsame | htrailer
    · exact .inl (htag changed hflip.ne.symm hsame)
    · exact (hbody changed hflip.ne.symm htrailer).imp_right fun hcollision => ⟨htrailer, hcollision⟩
  · rw [accepts_iff hk, hcollision.code, htrailer]
    exact ⟨hlength, hcode⟩

/-- The envelope of three bytes under a short key resists, and is refused when one is added to every byte of its tag. -/
theorem resists_of_decrypt_short :
    ∃ envelope, ([7] : Bytes) ≠ [] ∧ decrypt [7] envelope = .ok [1, 2, 3] ∧ Resists [7] envelope ∧
      ∃ what, decrypt [7] (body envelope ++ (trailer envelope).map (· + 1)) = .error (.integrity what) := by
  have hkey : ([7] : Bytes) ≠ [] := by decide
  have hiv : (List.replicate 16 (255 : UInt8)).length = ivSize := rfl
  obtain ⟨envelope, -, hlength, -, hdecrypt⟩ := exists_encrypt_decrypt hkey hiv [1, 2, 3]
  have hresists : Resists [7] envelope := resists_of_decrypt hkey hdecrypt
  have htrailer : (trailer envelope).length = tagSize := by
    rw [trailer, List.length_drop, hlength]
    rfl
  refine ⟨envelope, hkey, hdecrypt, hresists, hresists.otherTag _ ?_ (body_append (by rw [List.length_map, htrailer]))⟩
  intro hsame
  have htag : (trailer envelope).map (· + 1) = trailer envelope := by
    rwa [← List.append_right_inj (body envelope), body_append_trailer]
  obtain ⟨x, rest, hrest⟩ := List.exists_cons_of_length_eq_add_one htrailer
  rw [hrest, List.map_cons, List.cons.injEq] at htag
  have hne : x + 1 ≠ x := by simp
  exact hne htag.1

end SealedDrop.Envelope
