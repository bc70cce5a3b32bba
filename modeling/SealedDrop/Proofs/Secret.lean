import SealedDrop.Exchange
import SealedDrop.Proofs.Reading
import SealedDrop.Proofs.Session

/-!
# Reading secrets

Loading a secret, or a private key, looks at the machine and does nothing else. What is loaded is all that the machine
delivers of the file (`Machine.Delivers`), which files can be loaded is known (`Machine.Loads`), and every failure is one of access
to a key or one of its form. A reliable machine delivers whatever file it provides (`Machine.Provides`).
-/

namespace SealedDrop

open Op

theorem observes_expandHome (path : String) : Observes (expandHome path) :=
  (Observes.ask fun _ => rfl).bind fun _ => .check _

theorem Secret.observes_load (raw : String) : Observes (Secret.load raw) :=
  (Observes.ask fun _ => rfl).bind fun _ =>
    (Observes.check _).bind fun _ =>
      (Observes.ask fun _ => rfl).bind fun _ => (Observes.access _ _).bind fun _ => .check _

theorem outcome_expandHome (path : String) (m : Machine) :
    (expandHome path).outcome m = Home.expand m.home path := rfl

theorem runs_expandHome {σ : Type} {t : Transport σ} {m : Machine} {u : σ} {raw path : String}
    (h : Home.expand m.home raw = .ok path) : Runs t (expandHome raw) m u [] (.ok path) m u := by
  have hrun := (observes_expandHome raw).runs t m u
  rwa [outcome_expandHome, h] at hrun

/-! ### What is loaded -/

/-- The bytes that reading the file of this path delivers, a leading tilde expanded. -/
def Machine.Delivers (m : Machine) (raw : String) (b : Bytes) : Prop :=
  ∃ path n, Home.expand m.home raw = .ok path ∧ m.tree.find m.workDir path = .ok n ∧
    b = ReadEvent.contents (m.source n).events

/-- The path names an entry that is read to its end without a failure, and these are its bytes. -/
def Machine.Reads (m : Machine) (path : String) (b : Bytes) : Prop :=
  ∃ n, m.tree.find m.workDir path = .ok n ∧ ReadEvent.IsFaultless (m.source n).events ∧
    b = ReadEvent.contents (m.source n).events

/-- All of an open key file can be loaded: if it is a regular file whose size is known, it is whole in this size, and otherwise no
call fails. -/
def Source.IsLoadable (source : Source) : Prop :=
  if source.isRegular = true ∧ source.size ≠ 0 then ReadEvent.IsWhole source.events source.size
  else ReadEvent.IsFaultless source.events

/-- A key file is read just if all of it can be loaded, and then as all that it delivers. -/
theorem Secret.read_eq_ok_iff {path : String} {source : Source} {secret : Secret} :
    Secret.read path source = .ok secret ↔ source.IsLoadable ∧ secret.bytes = ReadEvent.contents source.events := by
  unfold Secret.read Source.IsLoadable
  by_cases hknown : source.isRegular = true ∧ source.size ≠ 0
  · rw [if_pos hknown, if_pos hknown, ← readExact_eq_nil_iff]
    constructor
    · intro h
      split at h
      · cases h
      · next b rest hread =>
        obtain ⟨hcontents, -⟩ := contents_of_readExact hread
        split at h
        · next hend =>
          cases h
          obtain rfl : rest = [] := ReadEvent.eq_nil_of_read_data_nil Nat.one_pos (Prod.ext hend rfl)
          rw [hcontents]
          exact ⟨⟨b, hread⟩, (List.append_nil b).symm⟩
        · cases h
        · cases h
        · cases h
    · rintro ⟨⟨b, hread⟩, hbytes⟩
      have hcontents : ReadEvent.contents source.events = b := (contents_of_readExact hread).1.trans (List.append_nil b)
      rw [hcontents] at hbytes
      simp only [hread, ReadEvent.read]
      rw [← hbytes]
  · rw [if_neg hknown, if_neg hknown]
    constructor
    · intro h
      split at h
      · cases h
      · next b hread =>
        cases h
        exact readToEnd_eq_ok_iff.mp hread
    · intro h
      rw [readToEnd_eq_ok_iff.mpr h]

theorem Secret.outcome_load (raw : String) (m : Machine) :
    (Secret.load raw).outcome m =
      ((Home.expand m.home raw).mapError fun e => .keyAccess ("Cannot locate '" ++ raw ++ "': " ++ e.message)).bind
        fun path =>
          ((m.answer (.openRead path)).1.mapError fun e =>
            .keyAccess ("Cannot open '" ++ path ++ "': " ++ e.description)).bind fun source => Secret.read path source := by
  unfold Secret.load
  rw [outcome_ask_bind rfl, outcome_check_bind]
  congr 1
  funext path
  exact (outcome_ask_bind rfl _).trans (outcome_access_bind _ _ _ m)

/-- A key file, given by its path, can be loaded, and these are its bytes. -/
def Machine.Loads (m : Machine) (raw : String) (b : Bytes) : Prop :=
  ∃ path n, Home.expand m.home raw = .ok path ∧ m.tree.find m.workDir path = .ok n ∧ (m.source n).IsLoadable ∧
    b = ReadEvent.contents (m.source n).events

/-- **Loading**: what is loaded is a key file that can be loaded, and all its bytes. -/
theorem Secret.outcome_load_eq_ok_iff {raw : String} {m : Machine} {secret : Secret} :
    (Secret.load raw).outcome m = .ok secret ↔ m.Loads raw secret.bytes := by
  rw [Secret.outcome_load]
  constructor
  · intro h
    cases hp : Home.expand m.home raw with
    | error e =>
      rw [hp] at h
      cases h
    | ok path =>
      rw [hp] at h
      simp only [Except.mapError, Except.bind, Machine.answer] at h
      cases hn : m.tree.find m.workDir path with
      | error e =>
        rw [hn] at h
        cases h
      | ok n =>
        rw [hn] at h
        exact ⟨path, n, hp, hn, Secret.read_eq_ok_iff.mp h⟩
  · rintro ⟨path, n, hp, hn, hread⟩
    rw [hp]
    simp only [Except.mapError, Except.bind, Machine.answer, hn]
    exact Secret.read_eq_ok_iff.mpr hread

theorem Machine.Loads.unique {m : Machine} {raw : String} {b b' : Bytes} (h : m.Loads raw b) (h' : m.Loads raw b') : b = b' := by
  have hsame : (Secret.load raw).outcome m = .ok ⟨b⟩ := Secret.outcome_load_eq_ok_iff.mpr h
  have hsame' : (Secret.load raw).outcome m = .ok ⟨b'⟩ := Secret.outcome_load_eq_ok_iff.mpr h'
  rw [hsame] at hsame'
  cases hsame'
  rfl

theorem Machine.Loads.delivers {m : Machine} {raw : String} {b : Bytes} (h : m.Loads raw b) : m.Delivers raw b := by
  obtain ⟨path, n, hpath, hn, -, hb⟩ := h
  exact ⟨path, n, hpath, hn, hb⟩

theorem Secret.delivers_of_load {raw : String} {m : Machine} {secret : Secret}
    (h : (Secret.load raw).outcome m = .ok secret) : m.Delivers raw secret.bytes :=
  (Secret.outcome_load_eq_ok_iff.mp h).delivers

/-- A private key is loaded from a key file that can be loaded and holds it. -/
theorem KeyFile.outcome_loadPrivate_eq_ok_iff {raw : String} {m : Machine} {k : Rsa.PrivateKey} :
    (KeyFile.loadPrivate raw).outcome m = .ok k ↔ ∃ b, m.Loads raw b ∧ KeyFile.readPrivate b = .ok k := by
  unfold KeyFile.loadPrivate
  rw [(Secret.observes_load raw).outcome_bind fun _ => .check _]
  constructor
  · intro h
    cases hload : (Secret.load raw).outcome m with
    | error e =>
      rw [hload] at h
      cases h
    | ok secret =>
      rw [hload] at h
      exact ⟨secret.bytes, Secret.outcome_load_eq_ok_iff.mp hload, h⟩
  · rintro ⟨b, hloads, hread⟩
    have hload : (Secret.load raw).outcome m = .ok ⟨b⟩ := Secret.outcome_load_eq_ok_iff.mpr hloads
    rw [hload]
    exact hread

/-! ### What can be loaded -/

/-- The bytes of an entry that can be read. -/
def Node.data? : Node → Option Bytes
  | .file _ data => some data
  | .stream _ data => some data
  | _ => none

/-- A path, with a leading tilde expanded, names an entry with these bytes. -/
def Machine.Provides (m : Machine) (raw : String) (b : Bytes) : Prop :=
  ∃ path n, Home.expand m.home raw = .ok path ∧ m.tree.find m.workDir path = .ok n ∧ n.data? = some b

theorem Machine.Provides.unique {m : Machine} {raw : String} {b b' : Bytes} (h : m.Provides raw b) (h' : m.Provides raw b') :
    b = b' := by
  obtain ⟨path, n, hpath, hn, hb⟩ := h
  obtain ⟨path', n', hpath', hn', hb'⟩ := h'
  rw [hpath] at hpath'
  cases hpath'
  rw [hn] at hn'
  cases hn'
  rw [hb] at hb'
  exact Option.some.inj hb'

/-- Every file is delivered to its end without a failure or an interruption, in pieces of any size. -/
def Machine.IsReliable (m : Machine) : Prop :=
  ∀ b, ReadEvent.IsSmooth (m.delivery b) ∧ ReadEvent.contents (m.delivery b) = b

/-- A reliable machine delivers the bytes of an entry, and tells no size but theirs. -/
theorem Machine.IsReliable.source {m : Machine} (hm : m.IsReliable) {n : Node} {b : Bytes} (h : n.data? = some b) :
    ReadEvent.IsSmooth (m.source n).events ∧ ReadEvent.contents (m.source n).events = b ∧
      ((m.source n).size ≠ 0 → (m.source n).size = b.length) := by
  cases n with
  | directory => cases h
  | link target => cases h
  | file mode data =>
    cases h
    exact ⟨(hm b).1, (hm b).2, fun _ => rfl⟩
  | stream isRegular data =>
    cases h
    exact ⟨(hm b).1, (hm b).2, fun hsize => absurd rfl hsize⟩

/-- What a reliable machine provides can be loaded. -/
theorem Machine.IsReliable.loads {m : Machine} (hm : m.IsReliable) {raw : String} {b : Bytes} (h : m.Provides raw b) :
    m.Loads raw b := by
  obtain ⟨path, n, hpath, hn, hdata⟩ := h
  obtain ⟨hsmooth, hcontents, hsize⟩ := hm.source hdata
  refine ⟨path, n, hpath, hn, ?_, hcontents.symm⟩
  unfold Source.IsLoadable
  split
  · next hknown =>
    rw [hsize hknown.2, ← hcontents]
    exact hsmooth.isWhole
  · exact hsmooth.isFaultless

theorem Secret.outcome_load_of_provides {m : Machine} (hm : m.IsReliable) {raw : String} {b : Bytes}
    (h : m.Provides raw b) : (Secret.load raw).outcome m = .ok ⟨b⟩ :=
  Secret.outcome_load_eq_ok_iff.mpr (hm.loads h)

/-- So can a private key. -/
theorem KeyFile.outcome_loadPrivate {m : Machine} (hm : m.IsReliable) {raw : String} {b : Bytes} {k : Rsa.PrivateKey}
    (h : m.Provides raw b) (hk : KeyFile.readPrivate b = .ok k) : (KeyFile.loadPrivate raw).outcome m = .ok k :=
  KeyFile.outcome_loadPrivate_eq_ok_iff.mpr ⟨b, hm.loads h, hk⟩

/-! ### What goes wrong -/

/-- A failure to obtain a key: the file cannot be read, or holds no key. -/
def Error.IsKeyFault (e : Error) : Prop :=
  (∃ what, e = .keyAccess what) ∨ ∃ what, e = .crypto what

theorem Secret.failsOnlyWith_load (raw : String) :
    (Secret.load raw).FailsOnlyWith fun e => ∃ what, e = .keyAccess what := by
  refine (FailsOnlyWith.ask _).bind fun home => ?_
  refine (FailsOnlyWith.check fun e he => ?_).bind fun path => ?_
  · cases hp : Home.expand home raw with
    | ok p =>
      rw [hp] at he
      cases he
    | error e' =>
      rw [hp] at he
      cases he
      exact ⟨_, rfl⟩
  refine (FailsOnlyWith.ask _).bind fun opened => ?_
  refine (FailsOnlyWith.access fun _ => ⟨_, rfl⟩).bind fun source => ?_
  refine FailsOnlyWith.check fun e he => ?_
  unfold Secret.read at he
  repeat' split at he
  all_goals
    cases he
    try exact ⟨_, rfl⟩

/-- Reading a private key, without the early exits. -/
theorem KeyFile.readPrivate_eq (contents : Bytes) :
    KeyFile.readPrivate contents =
      if (text? contents).isNone then .error (.crypto "Failed to decode pem bytes")
      else match KeyFile.privateKey? contents with
        | none => .error (.crypto "Failed to parse private key: not a usable key")
        | some k => .ok k := by
  unfold KeyFile.readPrivate
  by_cases h : (text? contents).isNone = true
  · rw [if_pos h, if_pos h]
    rfl
  · rw [if_neg h, if_neg h]
    cases KeyFile.privateKey? contents <;> rfl

/-- Reading a public key, without the early exits. -/
theorem KeyFile.readPublic_eq (contents : Bytes) :
    KeyFile.readPublic contents =
      if (text? contents).isNone then .error (.crypto "Failed to decode pem bytes")
      else match KeyFile.publicKey? contents with
        | none => .error (.crypto "Failed to parse public key: not a usable key")
        | some k => .ok k := by
  unfold KeyFile.readPublic
  by_cases h : (text? contents).isNone = true
  · rw [if_pos h, if_pos h]
    rfl
  · rw [if_neg h, if_neg h]
    cases KeyFile.publicKey? contents <;> rfl

theorem KeyFile.crypto_of_readPrivate {contents : Bytes} {e : Error} (h : KeyFile.readPrivate contents = .error e) :
    ∃ what, e = .crypto what := by
  rw [KeyFile.readPrivate_eq] at h
  split at h
  · cases h
    exact ⟨_, rfl⟩
  · split at h
    · cases h
      exact ⟨_, rfl⟩
    · cases h

theorem KeyFile.crypto_of_readPublic {contents : Bytes} {e : Error} (h : KeyFile.readPublic contents = .error e) :
    ∃ what, e = .crypto what := by
  rw [KeyFile.readPublic_eq] at h
  split at h
  · cases h
    exact ⟨_, rfl⟩
  · split at h
    · cases h
      exact ⟨_, rfl⟩
    · cases h

theorem KeyFile.observes_loadPrivate (path : String) : Observes (KeyFile.loadPrivate path) :=
  (Secret.observes_load path).bind fun _ => .check _

theorem KeyFile.failsOnlyWith_loadPrivate (path : String) :
    (KeyFile.loadPrivate path).FailsOnlyWith Error.IsKeyFault := by
  refine FailsOnlyWith.bind ?_ fun secret => FailsOnlyWith.check fun e he => ?_
  · intro τ t m s l e m' s' hrun
    exact .inl (Secret.failsOnlyWith_load path _ _ _ _ _ _ _ _ hrun)
  · exact .inr (KeyFile.crypto_of_readPrivate he)

/-! ### Tokens -/

/-- Reading a token, without the early exits. -/
theorem BearerToken.decrypt_eq (k : Rsa.PrivateKey) (ciphertext : Bytes) :
    BearerToken.decrypt k ciphertext =
      match Rsa.Oaep.decrypt k BearerToken.label ciphertext with
      | .error e => .error (.tokenDecrypt e.message)
      | .ok plain =>
        match text? plain with
        | none => .error (.tokenDecrypt "Token is not valid UTF-8")
        | some s =>
          if BearerToken.IsHeaderValue s then .ok ⟨s⟩
          else .error (.tokenDecrypt "Token is not a valid header value") := by
  unfold BearerToken.decrypt
  cases Rsa.Oaep.decrypt k BearerToken.label ciphertext with
  | error e => rfl
  | ok plain =>
    cases hs : text? plain with
    | none => simp only [hs]; rfl
    | some s =>
      simp only [hs]
      by_cases h : BearerToken.IsHeaderValue s
      · rw [if_neg (not_not_intro h), if_pos h]
        rfl
      · rw [if_pos h, if_neg h]
        rfl

theorem BearerToken.tokenDecrypt_of_decrypt {k : Rsa.PrivateKey} {ciphertext : Bytes} {e : Error}
    (h : BearerToken.decrypt k ciphertext = .error e) : ∃ what, e = .tokenDecrypt what := by
  rw [BearerToken.decrypt_eq] at h
  split at h
  · cases h
    exact ⟨_, rfl⟩
  · split at h
    · cases h
      exact ⟨_, rfl⟩
    · split at h
      · cases h
      · cases h
        exact ⟨_, rfl⟩

end SealedDrop
