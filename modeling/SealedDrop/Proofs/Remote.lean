import SealedDrop.Exchange
import SealedDrop.Proofs.FileTree
import SealedDrop.Proofs.Reference
import SealedDrop.Remote.Memory

/-!
# What a remote keeps

A remote in memory answers requests from anyone, in any order. This module says what a request may change, and proves that
an object and a registered key outlive every sequence of requests that does not aim at them.

## The model

* Issuing and presenting tokens touches neither keys nor objects (`Keeps`). `execute_cases` and `serve_cases` list all that a
  request can do beyond that: an upload stores an object, and a registration puts a key under a name.
* An `Event` is a request by anyone, or a turn of one of the switches. `Spared` says of a sequence of events that none of
  them registers a key under a name, and that objects do not overwrite each other: no upload where one identifier is fixed
  for all, and no wrap of the number of objects otherwise.
* `Holds` is the invariant: the object is there, and every identifier that is still to come is another one.
-/

namespace SealedDrop.Remote

variable {s s' s'' : Remote}

/-! ### Tables -/

section Tables

variable {α : Type}

theorem lookup_insertAt_self (name : String) (a : α) (l : List (String × α)) : (insertAt name a l).lookup name = some a := by
  rw [insertAt, List.lookup_cons, beq_self_eq_true]

theorem lookup_insertAt_of_ne {name name' : String} (h : name' ≠ name) (a : α) (l : List (String × α)) :
    (insertAt name a l).lookup name' = l.lookup name' := by
  have hfilter : l.filter (·.1 != name) = l.filter fun e => e.1 ≠ name := by
    refine List.filter_congr fun e _ => ?_
    rw [Bool.eq_iff_iff, bne_iff_ne, decide_eq_true_eq]
  rw [insertAt, List.lookup_cons, beq_eq_false_iff_ne.mpr h, hfilter, FileTree.lookup_filter_of_ne h]

end Tables

/-! ### Requests -/

/-- Two states of a remote that differ at most in tokens, counters of requests, randomness and the switch that refuses
requests. -/
structure Keeps (s s' : Remote) : Prop where
  /-- The same keys are registered. -/
  keys : s'.keys = s.keys
  /-- The same objects are stored. -/
  objects : s'.objects = s.objects
  /-- The same identifier is fixed. -/
  fixedId : s'.fixedId = s.fixedId
  /-- As many objects have been given identifiers. -/
  stored : s'.stored = s.stored
  /-- Objects are handed out in the same way. -/
  corruptDownloads : s'.corruptDownloads = s.corruptDownloads

namespace Keeps

theorem refl (s : Remote) : Keeps s s := ⟨rfl, rfl, rfl, rfl, rfl⟩

theorem symm (h : Keeps s s') : Keeps s' s :=
  ⟨h.keys.symm, h.objects.symm, h.fixedId.symm, h.stored.symm, h.corruptDownloads.symm⟩

theorem trans (h : Keeps s s') (h' : Keeps s' s'') : Keeps s s'' :=
  ⟨h'.keys.trans h.keys, h'.objects.trans h.objects, h'.fixedId.trans h.fixedId, h'.stored.trans h.stored,
    h'.corruptDownloads.trans h.corruptDownloads⟩

theorem key?_eq (h : Keeps s s') (name : String) : s'.key? name = s.key? name := by
  rw [key?, key?, h.keys]

theorem object?_eq (h : Keeps s s') (id : String) : s'.object? id = s.object? id := by
  rw [object?, object?, h.objects]

end Keeps

/-- A request for a token draws at random, may add a token, and leaves the rest of the remote alone. -/
theorem issueToken_frame (s : Remote) (body : Bytes) :
    ∃ entropy tokens, (s.issueToken body).2 = { s with tokenRequests := s.tokenRequests + 1, entropy, tokens } := by
  unfold issueToken
  simp only
  split
  · split
    · exact ⟨_, _, rfl⟩
    · split
      · exact ⟨_, _, rfl⟩
      · exact ⟨_, _, rfl⟩
  · exact ⟨_, _, rfl⟩

theorem keeps_issueToken (s : Remote) (body : Bytes) : Keeps s (s.issueToken body).2 := by
  obtain ⟨entropy, tokens, h⟩ := issueToken_frame s body
  rw [h]
  exact ⟨rfl, rfl, rfl, rfl, rfl⟩

/-- The remote after a request has presented a token, or none. A token is used up by that. -/
def present (s : Remote) (token : Option BearerToken) : Remote :=
  { s with
    authenticatedRequests := s.authenticatedRequests + 1
    tokens := s.tokens.filter fun t => token.all (t != ·.text) }

theorem keeps_present (s : Remote) (token : Option BearerToken) : Keeps s (s.present token) := ⟨rfl, rfl, rfl, rfl, rfl⟩

/-- Where requests are refused, whatever their token is, one refusal less is to come. -/
theorem authorize_eq (s : Remote) (token : Option BearerToken) :
    s.authorize token =
      if 0 < s.rejectNext then (false, { s.present token with rejectNext := s.rejectNext - 1 })
      else (token.any fun t => s.isLive t.text, s.present token) := by
  cases token with
  | none =>
    have hall : s.tokens.filter (fun t => (none : Option BearerToken).all (t != ·.text)) = s.tokens :=
      List.filter_eq_self.mpr fun _ _ => rfl
    rw [present, hall]
    rfl
  | some t => rfl

theorem keeps_authorize (s : Remote) (token : Option BearerToken) : Keeps s (s.authorize token).2 := by
  rw [authorize_eq]
  split
  · exact ⟨rfl, rfl, rfl, rfl, rfl⟩
  · exact keeps_present s token

/-- A request is served, or changes neither keys nor objects. -/
theorem execute_cases (s : Remote) (r : Request) (token : Option BearerToken) :
    Keeps s (s.execute r token).2 ∨ ∃ s₁, Keeps s s₁ ∧ s.execute r token = s₁.serve r := by
  unfold execute
  by_cases htoken : r.method = .post ∧ r.path = tokenPath
  · rw [if_pos htoken]
    exact .inl (keeps_issueToken s r.body)
  · rw [if_neg htoken]
    have hkeeps := keeps_authorize s token
    rcases hauthorize : s.authorize token with ⟨_ | _, s₁⟩
    · rw [hauthorize] at hkeeps
      exact .inl hkeeps
    · rw [hauthorize] at hkeeps
      exact .inr ⟨s₁, hkeeps, rfl⟩

/-- Registering a key takes a body with a name and a public key, or changes nothing. -/
theorem addKey_cases (s : Remote) (body : Bytes) :
    (s.addKey body).2 = s ∨ ∃ key name k, fields? ["key", "keyName"] body = some [key, name] ∧
      s.addKey body = (⟨200, []⟩, s.registerKey name k) := by
  unfold addKey
  split
  · next key name hfields =>
    split
    · exact .inl rfl
    · split
      · exact .inl rfl
      · next k _ => exact .inr ⟨key, name, k, hfields, rfl⟩
  · exact .inl rfl

/-- A request that is served stores an object, or registers a key, or changes nothing. -/
theorem serve_cases (s : Remote) (r : Request) :
    (s.serve r).2 = s ∨ (r.method = .post ∧ r.path = objectsPath ∧ s.serve r = s.store r.body) ∨
      (r.method = .post ∧ r.path = addKeyPath ∧ ∃ key name k, fields? ["key", "keyName"] r.body = some [key, name] ∧
        s.serve r = (⟨200, []⟩, s.registerKey name k)) := by
  unfold serve
  cases hmethod : r.method with
  | post =>
    simp only
    by_cases hobjects : r.path = objectsPath
    · rw [if_pos hobjects]
      exact .inr (.inl ⟨trivial, hobjects, rfl⟩)
    · rw [if_neg hobjects]
      by_cases hkey : r.path = addKeyPath
      · rw [if_pos hkey]
        rcases addKey_cases s r.body with h | ⟨key, name, k, hfields, h⟩
        · exact .inl h
        · exact .inr (.inr ⟨trivial, hkey, key, name, k, hfields, h⟩)
      · rw [if_neg hkey]
        exact .inl rfl
  | get =>
    simp only
    split
    · exact .inl rfl
    · exact .inl rfl

/-- Serving a request changes keys and objects at most, and stores one object at most. -/
theorem serve_writes (s : Remote) (r : Request) :
    ∃ keys objects stored, (stored = s.stored ∨ stored = s.stored + 1) ∧ (s.serve r).2 = { s with keys, objects, stored } := by
  rcases serve_cases s r with h | ⟨-, -, h⟩ | ⟨-, -, key, name, k, -, h⟩
  · exact ⟨s.keys, s.objects, s.stored, .inl rfl, h⟩
  · rw [h, store]
    cases s.fixedId with
    | none => exact ⟨_, _, _, .inr rfl, rfl⟩
    | some id => exact ⟨_, _, _, .inl rfl, rfl⟩
  · rw [h]
    exact ⟨_, _, _, .inl rfl, rfl⟩

/-! ### Identifiers -/

/-- The identifier of the object with this number. -/
def numberedId (n : Nat) : String :=
  "obj-" ++ toString n

theorem toList_numberedId (n : Nat) : (numberedId n).toList = "obj-".toList ++ Nat.toDigits 10 n := by
  rw [numberedId, String.toList_append]
  exact congrArg _ Nat.toList_repr

theorem numberedId_inj {n n' : Nat} (h : numberedId n = numberedId n') : n = n' := by
  have hdigits : Nat.toDigits 10 n = Nat.toDigits 10 n' := by
    have hlists : "obj-".toList ++ Nat.toDigits 10 n = "obj-".toList ++ Nat.toDigits 10 n' := by
      rw [← toList_numberedId, ← toList_numberedId, h]
    exact List.append_cancel_left hlists
  rw [← Nat.ofDigitChars_ten_toDigits (n := n), hdigits, Nat.ofDigitChars_ten_toDigits]

/-- A digit may stand in an identifier. -/
theorem isRefused_of_isDigit {c : Char} (hc : c.isDigit = true) : ObjectId.isRefused c = false := by
  have hne : ∀ d : Char, d.isDigit = false → (c == d) = false := by
    intro d hd
    rw [beq_eq_false_iff_ne]
    rintro rfl
    rw [hc] at hd
    cases hd
  have hrange : 48 ≤ c.toNat ∧ c.toNat ≤ 57 := by
    simpa [Char.isDigit, UInt32.le_iff_toNat_le] using hc
  have hblank : Text.isBlank c = false := by
    simp only [Text.isBlank, Bool.or_eq_false_iff, Bool.and_eq_false_iff, decide_eq_false_iff_not, beq_eq_false_iff_ne]
    omega
  have hcontrol : Text.isControl c = false := by
    simp only [Text.isControl, Bool.or_eq_false_iff, Bool.and_eq_false_iff, decide_eq_false_iff_not]
    omega
  rw [ObjectId.isRefused, hne ':' (by decide), hne '/' (by decide), hblank, hcontrol]
  rfl

/-- The identifiers that a remote makes up are safe. -/
theorem safe_numberedId (n : Nat) : ObjectId.Safe (numberedId n) := by
  constructor
  · intro hempty
    have hlist := toList_numberedId n
    rw [hempty] at hlist
    cases hlist
  · have hstart : "obj-".toList.any ObjectId.isRefused = false := by decide
    rw [toList_numberedId, List.any_append, hstart, Bool.false_or, List.any_eq_false]
    intro c hc
    rw [isRefused_of_isDigit (Nat.isDigit_of_mem_toDigits (b := 10) (by decide) (by decide) hc)]
    decide

/-! ### Events -/

/-- What may happen to a remote. -/
inductive Event where
  /-- Someone sends a request. -/
  | request (r : Request) (token : Option BearerToken)
  /-- A key is registered directly. -/
  | registerKey (name : String) (k : Rsa.PublicKey)
  /-- That many requests are going to be refused. -/
  | rejectNext (n : UInt32)
  /-- From now on objects are handed out damaged, or as they are. -/
  | corruptDownloads (enabled : Bool)

/-- The remote after an event. -/
def apply (s : Remote) : Event → Remote
  | .request r token => (s.execute r token).2
  | .registerKey name k => s.registerKey name k
  | .rejectNext n => { s with rejectNext := n }
  | .corruptDownloads enabled => { s with corruptDownloads := enabled }

/-- The remote after a sequence of events. -/
def after (s : Remote) (l : List Event) : Remote :=
  l.foldl apply s

/-- The event registers a key under the name. -/
def Registers (s : Remote) (name : String) : Event → Prop
  | .request r token =>
    r.method = .post ∧ r.path = addKeyPath ∧ (s.execute r token).1.isSuccess = true ∧
      ∃ key, fields? ["key", "keyName"] r.body = some [key, name]
  | .registerKey name' _ => name' = name
  | _ => False

/-- The event stores an object. -/
def Uploads (s : Remote) : Event → Prop
  | .request r token => r.method = .post ∧ r.path = objectsPath ∧ (s.execute r token).1.isSuccess = true
  | _ => False

/-- The event registers no key under the name, stores no object where one identifier is fixed for all, and does not make the
number of objects wrap. -/
structure Spares (s : Remote) (name : String) (e : Event) : Prop where
  /-- The key under the name stays. -/
  key : ¬ s.Registers name e
  /-- The only identifier is not used again. -/
  object : s.fixedId ≠ none → ¬ s.Uploads e
  /-- The number of objects does not wrap. -/
  count : s.stored ≤ (s.apply e).stored

/-- Each event of a sequence spares the name. -/
def Spared (name : String) : Remote → List Event → Prop
  | _, [] => True
  | s, e :: l => s.Spares name e ∧ Spared name (s.apply e) l

/-- An object is stored under an identifier which no object to come will get, as long as the number of objects does not wrap:
unless one identifier is fixed for all, it is the identifier of an earlier number. -/
structure Holds (s : Remote) (id : String) (body : Bytes) : Prop where
  /-- The object is there. -/
  object : s.object? id = some body
  /-- Its number has been given. -/
  settled : s.fixedId = none → ∃ n ≤ s.stored.toNat, id = numberedId n

theorem Keeps.holds {id : String} {body : Bytes} (hs : Keeps s s') (h : s.Holds id body) : s'.Holds id body := by
  refine ⟨(hs.object?_eq id).trans h.object, fun hfixed => ?_⟩
  rw [hs.fixedId] at hfixed
  rw [hs.stored]
  exact h.settled hfixed

/-- A number that does not wrap grows by one. -/
theorem toNat_succ_of_le {n : UInt64} (h : n ≤ n + 1) : (n + 1).toNat = n.toNat + 1 := by
  have hlt := n.toNat_lt
  rw [UInt64.le_iff_toNat_le, UInt64.toNat_add] at h
  rw [UInt64.toNat_add]
  change n.toNat ≤ (n.toNat + 1) % 2 ^ 64 at h
  change (n.toNat + 1) % 2 ^ 64 = n.toNat + 1
  omega

/-- Where each object gets an identifier of its own, an object that is stored gets the next number. -/
theorem store_of_fixedId (hfixed : s.fixedId = none) (body : Bytes) :
    s.store body = (reply 200 (numberedId (s.stored + 1).toNat),
      { s with stored := s.stored + 1, objects := insertAt (numberedId (s.stored + 1).toNat) body s.objects }) := by
  rw [store, hfixed]
  rfl

/-- It is found there, and the others are found where they were. -/
theorem object?_store (hfixed : s.fixedId = none) (body : Bytes) (id : String) :
    (s.store body).2.object? id = if id = numberedId (s.stored + 1).toNat then some body else s.object? id := by
  rw [store_of_fixedId hfixed, object?, object?]
  split
  · next hid =>
    subst hid
    exact lookup_insertAt_self _ _ _
  · next hid => exact lookup_insertAt_of_ne hid _ _

/-- It leaves those that are held, unless their number wraps. -/
theorem holds_store {id : String} {body : Bytes} (hid : s.Holds id body) (hfixed : s.fixedId = none) (other : Bytes)
    (hcount : s.stored ≤ (s.store other).2.stored) : (s.store other).2.Holds id body := by
  have hstored : (s.store other).2.stored = s.stored + 1 := by rw [store_of_fixedId hfixed]
  rw [hstored] at hcount
  obtain ⟨n, hn, rfl⟩ := hid.settled hfixed
  have hnext := toNat_succ_of_le hcount
  have hne : numberedId n ≠ numberedId (s.stored + 1).toNat := by
    intro heq
    have := numberedId_inj heq
    omega
  refine ⟨?_, fun _ => ⟨n, ?_, rfl⟩⟩
  · rw [object?_store hfixed, if_neg hne]
    exact hid.object
  · rw [hstored]
    omega

/-- What a request leaves as it was when it is served, unless it registers a key or stores an object. -/
theorem serve_spares {name id : String} {body : Bytes} {r : Request} (hs : Keeps s s') (hid : s.Holds id body)
    (hkey : ¬ (r.method = .post ∧ r.path = addKeyPath ∧ (s'.serve r).1.isSuccess = true ∧
      ∃ key, fields? ["key", "keyName"] r.body = some [key, name]))
    (hobject : s.fixedId ≠ none → ¬ (r.method = .post ∧ r.path = objectsPath ∧ (s'.serve r).1.isSuccess = true))
    (hcount : s.stored ≤ (s'.serve r).2.stored) :
    (s'.serve r).2.key? name = s.key? name ∧ (s'.serve r).2.Holds id body := by
  have hid' := hs.holds hid
  rcases serve_cases s' r with h | ⟨hmethod, hpath, h⟩ | ⟨hmethod, hpath, key, name', k, hfields, h⟩
  · rw [h]
    exact ⟨hs.key?_eq name, hid'⟩
  · rw [h] at hobject hcount ⊢
    have hsuccess : (s'.store r.body).1.isSuccess = true := by
      unfold store
      cases s'.fixedId <;> rfl
    have hfixed : s.fixedId = none := by
      by_contra hsome
      exact hobject hsome ⟨hmethod, hpath, hsuccess⟩
    refine ⟨?_, holds_store hid' (hs.fixedId.trans hfixed) r.body (by rwa [hs.stored])⟩
    rw [← hs.key?_eq, key?, key?, store, hs.fixedId, hfixed]
  · rw [h] at hkey ⊢
    have hne : name ≠ name' := by
      rintro rfl
      exact hkey ⟨hmethod, hpath, rfl, key, hfields⟩
    refine ⟨?_, hid'.object, hid'.settled⟩
    rw [key?, registerKey, lookup_insertAt_of_ne hne]
    exact hs.key?_eq name

/-- An event that spares a name leaves its key and every object that is held. -/
theorem apply_spares {name id : String} {body : Bytes} {e : Event} (hid : s.Holds id body) (h : s.Spares name e) :
    (s.apply e).key? name = s.key? name ∧ (s.apply e).Holds id body := by
  obtain ⟨hkey, hobject, hcount⟩ := h
  cases e with
  | request r token =>
    simp only [Registers, Uploads, apply] at hkey hobject hcount ⊢
    rcases execute_cases s r token with hkeeps | ⟨s₁, hkeeps, heq⟩
    · exact ⟨hkeeps.key?_eq name, hkeeps.holds hid⟩
    · rw [heq] at hkey hobject hcount ⊢
      exact serve_spares hkeeps hid hkey hobject hcount
  | registerKey name' k =>
    have hne : name ≠ name' := fun heq => hkey heq.symm
    refine ⟨?_, hid.object, hid.settled⟩
    rw [apply, key?, registerKey, lookup_insertAt_of_ne hne]
    rfl
  | rejectNext n => exact ⟨rfl, hid.object, hid.settled⟩
  | corruptDownloads enabled => exact ⟨rfl, hid.object, hid.settled⟩

/-- **What a remote keeps**: after any sequence of events that spare a name, the key under the name and every object that was
held are still there. -/
theorem after_spared {name id : String} {body : Bytes} {l : List Event} (hid : s.Holds id body) (h : Spared name s l) :
    (s.after l).key? name = s.key? name ∧ (s.after l).Holds id body := by
  induction l generalizing s with
  | nil => exact ⟨rfl, hid⟩
  | cons e l ih =>
    obtain ⟨he, hl⟩ := h
    obtain ⟨hkey, hid'⟩ := apply_spares hid he
    obtain ⟨hkey', hid''⟩ := ih hid' hl
    exact ⟨hkey'.trans hkey, hid''⟩

end SealedDrop.Remote
