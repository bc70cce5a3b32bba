import SealedDrop.Proofs.Drop
import SealedDrop.Proofs.RoundTrip
import SealedDrop.Proofs.Serving

/-!
# An upload happens once or not at all

A drop to a remote in memory that gives a reference has added one object, to which the reference leads; a drop that fails has added
none. This holds of every client, whatever its settings and files are, whoever it is to the remote, and however many requests the
remote refuses.

## The model

* `Reachable` says of a remote that it can come about: it is created, all its objects may be given one identifier, and events
  happen to it that do not make the number of objects wrap.
* `Orderly` is the invariant: every object is held. So the identifier that is given next is free (`Orderly.object?_eq_none`).
* `UploadsOnce` is the rule for a drop, stated over its calls, its outcome and the remote before and after it.

## What is proved

* `Reachable.orderly` — the invariant holds of every remote that can come about.
* `drop_uploads_once` — every drop to such a remote obeys the rule.
-/

namespace SealedDrop

namespace Remote

variable {s s' : Remote}

/-! ### Remotes that can come about -/

/-- The remote can come about without the number of its objects wrapping. -/
inductive Reachable : Remote → Prop
  /-- A remote is created. -/
  | created (entropy : Entropy) : Reachable { entropy }
  /-- From now on all objects get one identifier. -/
  | fixed {u : Remote} (h : Reachable u) (id : String) : Reachable { u with fixedId := some id }
  /-- Something happens to it. -/
  | event {u : Remote} (h : Reachable u) (e : Event) (hcount : u.stored ≤ (u.apply e).stored) : Reachable (u.apply e)

/-- Every object is held: as long as each gets an identifier of its own, it has that of an earlier number. -/
def Orderly (s : Remote) : Prop :=
  ∀ id body, s.object? id = some body → s.Holds id body

theorem Keeps.orderly (hs : Keeps s s') (h : s.Orderly) : s'.Orderly := by
  intro id body hobject
  rw [hs.object?_eq] at hobject
  exact hs.holds (h id body hobject)

/-- Where one identifier is fixed for all objects, nothing is asked of theirs. -/
theorem orderly_of_fixedId {id : String} (h : s.fixedId = some id) : s.Orderly := by
  intro id' body hobject
  refine ⟨hobject, fun hnone => ?_⟩
  rw [h] at hnone
  cases hnone

/-- An object that is stored is held, and those that were held still are. -/
theorem Orderly.store (h : s.Orderly) (body : Bytes) (hcount : s.stored ≤ (s.store body).2.stored) : (s.store body).2.Orderly := by
  cases hfixed : s.fixedId with
  | some id =>
    have hstore : (s.store body).2.fixedId = some id := by rw [Remote.store, hfixed]
    exact orderly_of_fixedId hstore
  | none =>
    intro id body' hobject
    by_cases hid : id = numberedId (s.stored + 1).toNat
    · refine ⟨hobject, fun _ => ?_⟩
      rw [store_of_fixedId hfixed]
      exact ⟨_, le_refl _, hid⟩
    · rw [object?_store hfixed, if_neg hid] at hobject
      exact holds_store (h id body' hobject) hfixed body hcount

/-- Every event that does not make the number of objects wrap keeps the invariant. -/
theorem Orderly.apply (h : s.Orderly) (e : Event) (hcount : s.stored ≤ (s.apply e).stored) : (s.apply e).Orderly := by
  cases e with
  | request r token =>
    simp only [Remote.apply] at hcount ⊢
    rcases execute_cases s r token with hkeeps | ⟨s₁, hkeeps, heq⟩
    · exact hkeeps.orderly h
    · have h₁ := hkeeps.orderly h
      rw [heq, ← hkeeps.stored] at hcount
      rw [heq]
      rcases serve_cases s₁ r with hserve | ⟨-, -, hserve⟩ | ⟨-, -, key, name, k, -, hserve⟩
      · rw [hserve]
        exact h₁
      · rw [hserve] at hcount ⊢
        exact h₁.store r.body hcount
      · rw [hserve]
        exact fun id body hobject => ⟨hobject, (h₁ id body hobject).settled⟩
  | registerKey name k => exact fun id body hobject => ⟨hobject, (h id body hobject).settled⟩
  | rejectNext n => exact fun id body hobject => ⟨hobject, (h id body hobject).settled⟩
  | corruptDownloads enabled => exact fun id body hobject => ⟨hobject, (h id body hobject).settled⟩

theorem Reachable.orderly (h : Reachable s) : s.Orderly := by
  induction h with
  | created entropy => exact fun id body hobject => by cases hobject
  | fixed h id ih => exact orderly_of_fixedId rfl
  | event h e hcount ih => exact ih.apply e hcount

/-- The identifier that is given next is free. -/
theorem Orderly.object?_eq_none (h : s.Orderly) (hfixed : s.fixedId = none) (hcount : s.stored.toNat + 1 < UInt64.size) :
    s.object? (numberedId (s.stored + 1).toNat) = none := by
  by_contra hne
  obtain ⟨body, hbody⟩ := Option.ne_none_iff_exists'.mp hne
  obtain ⟨n, hn, hid⟩ := (h _ body hbody).settled hfixed
  have hnumber := numberedId_inj hid
  rw [UInt64.toNat_add] at hnumber
  change (s.stored.toNat + 1) % UInt64.size = n at hnumber
  rw [Nat.mod_eq_of_lt hcount] at hnumber
  omega

end Remote

namespace Exchange

open Op Remote

variable {s : Settings} {path : String} {m m' : Machine} {u : Remote} {l : List Call} {x : Except Error Reference}

/-! ### The rule -/

/-- The rule for a drop at a remote `u` with calls `l` and outcome `x`, after which the remote is `u'`. -/
structure UploadsOnce (u : Remote) (l : List Call) (x : Except Error Reference) (u' : Remote) : Prop where
  /-- A reference leads to an object that has been added under an identifier which was free, and has the checksum of the
  reference; every other object is as before. -/
  once : ∀ r, x = .ok r → u.object? r.objectId.text = none ∧ ∃ envelope, r.verify envelope = true ∧
    ∀ id, u'.object? id = if id = r.objectId.text then some envelope else u.object? id
  /-- After a failure the objects are those of before. -/
  notAtAll : ∀ e, x = .error e → u'.objects = u.objects
  /-- No key has been registered or replaced. -/
  keys : u'.keys = u.keys
  /-- A token that has been presented in a call is not live, unless a later call has issued the same text once more. -/
  spent : ∀ l₁ c l₂ t, l = l₁ ++ c :: l₂ → c.token = some t →
    (∀ y ∈ history (u.called (l₁ ++ [c])) (l₂.map Call.event), ¬ y.Issues t.text) → u'.isLive t.text = false

theorem not_asksToken_upload (envelope : Bytes) : ¬ AsksToken (upload envelope) := by
  rintro ⟨-, hpath⟩
  change objectsPath = tokenPath at hpath
  exact absurd hpath (by decide)

/-- An envelope that has been served is stored under the next number, and the drop gives a reference to it. -/
theorem stored_of_served (hfixed : u.fixedId = none) (envelope : Bytes) :
    (Credentials.conclude (Credentials.judge (upload envelope) (.ok (u.serve (upload envelope)).1))).bind (stored envelope) =
      .ok (.ofTransmitted ⟨numberedId (u.stored + 1).toNat⟩ envelope) := by
  have hserve : u.serve (upload envelope) = u.store envelope := rfl
  rw [hserve, store_of_fixedId hfixed]
  change (storedId (utf8 (numberedId (u.stored + 1).toNat))).map _ = _
  rw [(safe_numberedId _).storedId]
  rfl

/-- The ways for a drop to end obey the rule at a remote that answers. -/
theorem Dropped.uploadsOnce (h : Dropped s path m l x m') (horderly : u.Orderly) (hfixed : u.fixedId = none)
    (hcount : u.stored.toNat + 1 < UInt64.size) (hanswers : u.Answers l) : UploadsOnce u l x (u.called l) := by
  cases h with
  | unready e =>
    refine ⟨fun r hr => (by cases hr), fun e he => rfl, rfl, fun l₁ c l₂ t hl => ?_⟩
    exact absurd hl.symm (List.append_ne_nil_of_right_ne_nil l₁ (List.cons_ne_nil c l₂))
  | @sent who keyPath key plaintext envelope l answer hkeyPath hkey hfile henvelope hexchanged =>
    have hspent : ∀ l₁ c l₂ t, l = l₁ ++ c :: l₂ → c.token = some t →
        (∀ y ∈ history (u.called (l₁ ++ [c])) (l₂.map Call.event), ¬ y.Issues t.text) →
        (u.called l).isLive t.text = false := by
      rintro l₁ c l₂ t rfl htoken hnone
      have hrequest := hexchanged.request_eq (List.mem_append_right l₁ List.mem_cons_self) (by rw [htoken]; simp)
      refine not_isLive_called ?_ hnone
      rw [Call.event, hrequest, htoken]
      exact ⟨not_asksToken_upload envelope, rfl⟩
    rcases hexchanged.kept_or_served (not_asksToken_upload envelope) hanswers with
      ⟨⟨e, rfl⟩, hkeeps⟩ | ⟨v, hkeeps, hcalled, rfl⟩
    · exact ⟨fun r hr => (by cases hr), fun e he => hkeeps.objects, hkeeps.keys, hspent⟩
    · have hfixed' := hkeeps.fixedId.trans hfixed
      have hstore : (v.serve (upload envelope)).2 = (v.store envelope).2 := rfl
      have hkeys : (v.store envelope).2.keys = v.keys := by rw [store_of_fixedId hfixed']
      rw [hstore] at hcalled
      rw [stored_of_served hfixed', hkeeps.stored]
      refine ⟨fun r hr => ?_, fun e he => (by cases he), ?_, hspent⟩
      · cases hr
        refine ⟨horderly.object?_eq_none hfixed hcount, envelope, Checksum.isOf_ofBytes envelope, fun id => ?_⟩
        rw [hcalled, object?_store hfixed', hkeeps.stored, hkeeps.object?_eq]
        rfl
      · rw [hcalled, hkeys]
        exact hkeeps.keys

/-- **An upload happens once or not at all**: every drop to a remote that can come about and gives each object an identifier of its
own obeys the rule, if there is a number left. -/
theorem drop_uploads_once (s : Settings) (path : String) (m : Machine) (u : Remote) (hu : Reachable u) (hfixed : u.fixedId = none)
    (hcount : u.stored.toNat + 1 < UInt64.size) :
    UploadsOnce u (Op.calls transport (drop s path) m u) (Op.run transport (drop s path) m u).1
      (Op.run transport (drop s path) m u).2.2 := by
  obtain ⟨l, x, m', u', hrun, hdropped⟩ := runs_drop_cases transport s path m u
  obtain ⟨hanswers, rfl⟩ := hrun.answers
  rw [hrun.run_eq, hrun.calls_eq]
  exact hdropped.uploadsOnce hu.orderly hfixed hcount hanswers

/-- The office, about to refuse a request, gets the file on the laptop once. -/
theorem drop_uploads_once_office :
    Reachable (office.apply (.rejectNext 1)) ∧ (office.apply (.rejectNext 1)).fixedId = none ∧
      (office.apply (.rejectNext 1)).stored.toNat + 1 < UInt64.size ∧
      ∃ r envelope, (Op.run transport (drop laptopSettings "in") laptop (office.apply (.rejectNext 1))).1 = .ok r ∧
        r.verify envelope = true ∧
        ∀ id, (Op.run transport (drop laptopSettings "in") laptop (office.apply (.rejectNext 1))).2.2.object? id =
          if id = r.objectId.text then some envelope else none := by
  have hreachable : Reachable (office.apply (.rejectNext 1)) :=
    .event (.event (.created office.entropy) (.registerKey "laptop" mersenneKey.toPublic) (UInt64.le_refl _)) (.rejectNext 1)
      (UInt64.le_refl _)
  have hcount : (office.apply (.rejectNext 1)).stored.toNat + 1 < UInt64.size := by decide
  have honce := drop_uploads_once laptopSettings "in" laptop _ hreachable rfl hcount
  obtain ⟨l, id, envelope, m₁, u₁, hrun, -⟩ := runs_drop equipped_laptop (enrolled_office.of_key? rfl)
    (u := office.apply (.rejectNext 1)) (by decide) (by decide) (by rintro id hid; cases hid) provides_laptop
  rw [hrun.run_eq] at honce ⊢
  obtain ⟨-, envelope', hverify, hobjects⟩ := honce.once _ rfl
  exact ⟨hreachable, rfl, hcount, _, envelope', rfl, hverify, hobjects⟩

end Exchange

end SealedDrop
