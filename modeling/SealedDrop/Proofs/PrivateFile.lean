import SealedDrop.Proofs.RoundTrip

/-!
# The file of a private key

A private key that was loaded is written to a file from which the same key is loaded, and written to the same file again, whatever
the file looked like that it came from first. Such a file is never taken for that of a public key.

## The model

* `IsFixed` is the rule for the file that a key is written to, on every machine that can load it.

## What is proved

* `isFixed_of_privateText` — the file of every usable key obeys the rule.
* `privateFile_exact` — so does that of every key which was loaded, and no file holds keys of both kinds.
-/

namespace SealedDrop.KeyFile

open Rsa Exchange

variable {k : PrivateKey} {contents file : Bytes} {m : Machine} {path : String}

/-! ### Loading -/

/-- Only usable keys are loaded. -/
theorem usable_of_loadPrivate (h : (loadPrivate path).outcome m = .ok k) : k.IsUsable := by
  obtain ⟨contents, -, hread⟩ := outcome_loadPrivate_eq_ok_iff.mp h
  exact usable_of_readPrivate hread

/-! ### The rule -/

/-- The rule for the file that a private key is written to. -/
structure IsFixed (k : PrivateKey) (file : Bytes) : Prop where
  /-- The file holds the key: the modulus, both exponents, and the factors in their order. -/
  holds : readPrivate file = .ok k
  /-- Every machine that can load the file loads the key. -/
  loaded : ∀ (m : Machine) (path : String), m.Loads path file → (loadPrivate path).outcome m = .ok k
  /-- What is loaded from it is written to the same file, byte for byte. -/
  rewritten : ∀ (m : Machine) (path : String) (k' : PrivateKey), m.Loads path file → (loadPrivate path).outcome m = .ok k' →
    privateText k' = .ok file

theorem isFixed_of_privateText (hk : k.IsUsable) (h : privateText k = .ok file) : IsFixed k file := by
  have hread : readPrivate file = .ok k := readPrivate_privateText hk h
  have hloaded : ∀ (m : Machine) (path : String), m.Loads path file → (loadPrivate path).outcome m = .ok k :=
    fun m path hloads => outcome_loadPrivate_eq_ok_iff.mpr ⟨file, hloads, hread⟩
  refine ⟨hread, hloaded, fun m path k' hloads hk' => ?_⟩
  rw [hloaded m path hloads] at hk'
  cases hk'
  exact h

/-- **The file of a private key**: whatever file a key was loaded from, if it can be written then its file obeys the rule; and no
bytes are accepted both as the file of a private key and as that of a public one. -/
theorem privateFile_exact :
    (∀ (m : Machine) (path : String) (k : PrivateKey) (file : Bytes), (loadPrivate path).outcome m = .ok k →
      privateText k = .ok file → IsFixed k file) ∧
    ∀ contents : Bytes, (∀ key, readPublic contents = .ok key → ∀ (m : Machine) (path : String), m.Loads path contents →
        ∀ k, (loadPrivate path).outcome m ≠ .ok k) ∧
      ¬ ((∃ k, readPrivate contents = .ok k) ∧ ∃ key, readPublic contents = .ok key) := by
  refine ⟨fun m path k file hload hfile => isFixed_of_privateText (usable_of_loadPrivate hload) hfile, fun contents => ⟨?_, ?_⟩⟩
  · intro key hpublic m path hloads k hload
    obtain ⟨contents', hloads', hprivate⟩ := outcome_loadPrivate_eq_ok_iff.mp hload
    obtain rfl := hloads'.unique hloads
    exact readPublic_ne_of_readPrivate hprivate key hpublic
  · rintro ⟨⟨k, hprivate⟩, key, hpublic⟩
    exact readPublic_ne_of_readPrivate hprivate key hpublic

/-- The key of the laptop can be written, and not to the file it is in, as the three numbers that readers ignore are zeros there. -/
theorem exists_privateText_mersenneKey : ∃ file, privateText mersenneKey = .ok file ∧
    file ≠ Pem.encode privateLabel (Der.sequence mersenneIntegers) := by
  have hintegers : ((privateIntegers? mersenneKey).any fun l =>
      decide (l.length = 9 ∧ (∀ n ∈ l, Bytes.widthOf n ≤ 512) ∧ l ≠ mersenneIntegers)) = true := by
    decide +kernel
  obtain ⟨l, hl, hchecks⟩ := (Option.any_eq_true _ _).mp hintegers
  obtain ⟨hcount, hwidth, hnew⟩ := of_decide_eq_true hchecks
  have hsize := Der.length_flatMap_integer_le hwidth
  rw [hcount] at hsize
  have hshort : (Der.sequence l).length < Der.lengthLimit := (Der.length_value_le hsize).trans_lt (by decide)
  refine ⟨Pem.encode privateLabel (Der.sequence l), ?_, fun hsame => hnew ?_⟩
  · simp only [privateText, hl, if_neg (Nat.not_le.mpr hshort)]
  · have hdecoded := Pem.decode?_encode privateLabel (Der.sequence_ne_nil l)
    rw [hsame, Pem.decode?_encode privateLabel (Der.sequence_ne_nil _)] at hdecoded
    exact Der.eq_of_sequence_eq (Option.some.inj hdecoded).symm hcount length_mersenneIntegers_lt

/-- The laptop with these bytes in the file of its private key. -/
def laptopHolding (file : Bytes) : Machine :=
  { laptop with tree := laptop.tree.put ["private"] (.file 0o600 file) }

theorem loads_laptopHolding (file : Bytes) : (laptopHolding file).Loads "private" file := by
  have hreliable : (laptopHolding file).IsReliable := equipped_laptop.reliable
  have hnode := FileTree.node?_put_self laptop.tree (.file 0o600 file) (List.cons_ne_nil "private" [])
  exact hreliable.loads (provides_of_name rfl rfl (by decide) (by decide) rfl hnode)

/-- The key of the laptop is loaded, written to another file, loaded from there, and written to the same file again. -/
theorem privateFile_exact_laptop : ∃ file : Bytes,
    (loadPrivate "private").outcome laptop = .ok mersenneKey ∧ privateText mersenneKey = .ok file ∧
      file ≠ Pem.encode privateLabel (Der.sequence mersenneIntegers) ∧
      (loadPrivate "private").outcome (laptopHolding file) = .ok mersenneKey ∧
      ∀ key, readPublic file ≠ .ok key := by
  obtain ⟨file, hfile, hnew⟩ := exists_privateText_mersenneKey
  have hload : (loadPrivate "private").outcome laptop = .ok mersenneKey :=
    outcome_loadPrivate equipped_laptop.reliable (provides_of_name rfl rfl (by decide) (by decide) rfl rfl) readPrivate_mersenneKey
  have hfixed := privateFile_exact.1 laptop "private" mersenneKey file hload hfile
  refine ⟨file, hload, hfile, hnew, hfixed.loaded _ _ (loads_laptopHolding file), fun key hkey => ?_⟩
  exact (privateFile_exact.2 file).2 ⟨⟨_, hfixed.holds⟩, key, hkey⟩

end SealedDrop.KeyFile
