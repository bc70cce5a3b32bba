import SealedDrop.Proofs.RoundTrip

/-!
# What a drop shows the network

Two drops with the same settings, of files of the same length, look the same to everyone who sees their calls, as far as the
bytes of the envelopes are left out: the contents of the file, the shared key and the initialisation vector decide nothing else.

## The model

* `Request.Alike` and `Call.Alike` tell when two requests, and two calls, differ in the bytes of an upload at most.
* `Op.Coupled` is a judgement about two runs of two operations side by side: their calls are alike, and they end with the same
  error, or both with values that a relation admits. It has one rule for each way to make an operation, and says nothing of how
  the transport answers but that it is `Heedless`: that it answers alike requests the same way.
* `Exchange.Twins` are two machines that differ, as far as a drop is concerned, in the contents of the file, in the shared key
  and in the randomness only.

## What is proved

* `Credentials.coupled_send` — an authenticated request and another one like it are exchanged in calls that are alike.
* `Exchange.drop_conceals` — drops on twin machines are alike, and end alike.
* `Remote.heedless` — the remote in memory is heedless.
-/

namespace SealedDrop

variable {α α' β β' σ : Type} {n : Nat}

/-! ### Requests and calls that look the same -/

/-- The two requests look the same, except that they may upload different bytes, `n` of the file and 48 of the envelope. -/
structure Request.Alike (n : Nat) (r r' : Request) : Prop where
  /-- They have the same method. -/
  method : r'.method = r.method
  /-- They go to the same path. -/
  path : r'.path = r.path
  /-- They tell the same of how to read their bodies. -/
  contentType : r'.contentType = r.contentType
  /-- Uploads have bodies of this length. -/
  upload : r.method = .post → r.path = "/d" → r.body.length = n + 48 ∧ r'.body.length = n + 48
  /-- Other requests have the same body. -/
  body : ¬ (r.method = .post ∧ r.path = "/d") → r'.body = r.body

/-- The two calls look the same, but for the bytes of an upload. -/
structure Call.Alike (n : Nat) (c c' : Call) : Prop where
  /-- The requests do. -/
  request : c.request.Alike n c'.request
  /-- They carry the same token, or none. -/
  token : c'.token = c.token
  /-- They are answered the same way. -/
  answer : c'.answer = c.answer

/-- A request that uploads nothing looks like itself. -/
theorem Request.Alike.refl {r : Request} (h : r.path ≠ "/d") : r.Alike n r :=
  ⟨rfl, rfl, rfl, fun _ hpath => absurd hpath h, fun _ => rfl⟩

/-- Messages name alike requests in the same words. -/
theorem Request.Alike.summary {r r' : Request} (h : r.Alike n r') : r'.summary = r.summary := by
  rw [Request.summary, Request.summary, h.method, h.path]

/-- The transport heeds nothing of an upload but its length: from states that `R` relates, alike requests get the same answer, and
the states after them are related again. -/
def Heedless (n : Nat) (t : Transport σ) (R : σ → σ → Prop) : Prop :=
  ∀ r r' token u u', r.method = .post → r.Alike n r' → R u u' →
    (t r' token u').1 = (t r token u).1 ∧ R (t r token u).2 (t r' token u').2

/-- A transport that looks at no body is heedless. -/
theorem heedless_of_forall_body {t : Transport σ} (h : ∀ r b token u, t { r with body := b } token u = t r token u) :
    Heedless n t Eq := by
  rintro r r' token u _ - hr rfl
  have hbody : r' = { r with body := r'.body } := by
    rw [← hr.method, ← hr.path, ← hr.contentType]
  rw [hbody, h]
  exact ⟨rfl, rfl⟩

/-! ### Runs side by side -/

namespace Op

/-- How two runs end side by side: with the same error, or both with values, which are related together with the machines. -/
inductive EndAlike (S : α → Machine → α' → Machine → Prop) :
    Except Error α → Machine → Except Error α' → Machine → Prop where
  /-- Both fail in the same way. -/
  | failed (e : Error) (m m' : Machine) : EndAlike S (.error e) m (.error e) m'
  /-- Both succeed. -/
  | done {a : α} {m : Machine} {a' : α'} {m' : Machine} (h : S a m a' m') : EndAlike S (.ok a) m (.ok a') m'

/-- The two values are the same, and the machines are these ones. -/
def Unmoved (m m' : Machine) (a : α) (m₁ : Machine) (a' : α) (m₁' : Machine) : Prop :=
  a = a' ∧ m = m₁ ∧ m' = m₁'

theorem EndAlike.refl (x : Except Error α) (m m' : Machine) : EndAlike (Unmoved m m') x m x m' := by
  cases x with
  | error e => exact .failed e m m'
  | ok a => exact .done ⟨rfl, rfl, rfl⟩

/-- Run from two machines, and from states of the transport that `R` relates, the operations make calls that are alike one by one, and
end alike. -/
def Coupled (n : Nat) (t : Transport σ) (R : σ → σ → Prop) (op : Op α) (m : Machine) (op' : Op α') (m' : Machine)
    (S : α → Machine → α' → Machine → Prop) : Prop :=
  ∀ u u', R u u' → ∃ l x m₁ u₁ l' x' m₁' u₁', Runs t op m u l x m₁ u₁ ∧ Runs t op' m' u' l' x' m₁' u₁' ∧
    List.Forall₂ (Call.Alike n) l l' ∧ EndAlike S x m₁ x' m₁' ∧ R u₁ u₁'

namespace Coupled

variable {t : Transport σ} {R : σ → σ → Prop} {op : Op α} {op' : Op α'} {m m₁ m' m₁' : Machine}
  {S : α → Machine → α' → Machine → Prop}

/-- Operations that call nobody need only end alike. -/
theorem of_silent {x : Except Error α} {x' : Except Error α'} (h : ∀ u, Runs t op m u [] x m₁ u)
    (h' : ∀ u, Runs t op' m' u [] x' m₁' u) (hend : EndAlike S x m₁ x' m₁') : Coupled n t R op m op' m' S :=
  fun u u' hu => ⟨_, _, _, _, _, _, _, _, h u, h' u', .nil, hend, hu⟩

theorem pure {a : α} {a' : α'} (h : S a m a' m') : Coupled n t R (Pure.pure a : Op α) m (Pure.pure a' : Op α') m' S :=
  of_silent (fun _ => Runs.pure a) (fun _ => Runs.pure a') (.done h)

theorem throw (e : Error) : Coupled n t R (throw e : Op α) m (throw e : Op α') m' S :=
  of_silent (fun _ => Runs.throw e) (fun _ => Runs.throw e) (.failed e m m')

/-- What is checked is the same. -/
theorem check (x : Except Error α) :
    Coupled n t R (Op.check x) m (Op.check x) m' fun a m₁ a' m₁' => x = .ok a ∧ Unmoved m m' a m₁ a' m₁' := by
  refine of_silent (fun _ => Runs.check x) (fun _ => Runs.check x) ?_
  cases x with
  | error e => exact .failed e m m'
  | ok a => exact .done ⟨rfl, rfl, rfl, rfl⟩

/-- What is looked at is the same on both machines. -/
theorem observe {op : Op α} (h : Observes op) (hout : op.outcome m' = op.outcome m) :
    Coupled n t R op m op m' fun a m₁ a' m₁' => op.outcome m = .ok a ∧ Unmoved m m' a m₁ a' m₁' := by
  refine of_silent (fun u => h.runs t m u) (fun u => h.runs t m' u) ?_
  rw [hout]
  cases op.outcome m with
  | error e => exact .failed e m m'
  | ok a => exact .done ⟨rfl, rfl, rfl, rfl⟩

/-- What is looked at may differ, if there is something to see on both machines. -/
theorem observe_ok {a : α} {a' : α'} (h : Observes op) (h' : Observes op') (hout : op.outcome m = .ok a)
    (hout' : op'.outcome m' = .ok a') (hS : S a m a' m') : Coupled n t R op m op' m' S :=
  of_silent (fun u => h.runs t m u) (fun u => h'.runs t m' u) (hout ▸ hout' ▸ .done hS)

/-- Operations that make one call, with requests that are alike, are answered the same way. It is enough that they make the same of
the answer. -/
theorem of_call (ht : Heedless n t R) {r r' : Request} {token : Option BearerToken} {op op' : Op α}
    {f : Except Error Response → Except Error α} (hpost : r.method = .post) (hr : r.Alike n r')
    (h : ∀ {u answer u₁}, t r token u = (answer, u₁) → Runs t op m u [⟨r, token, answer⟩] (f answer) m u₁)
    (h' : ∀ {u answer u₁}, t r' token u = (answer, u₁) → Runs t op' m' u [⟨r', token, answer⟩] (f answer) m' u₁) :
    Coupled n t R op m op' m' (Unmoved m m') := by
  intro u u' hu
  obtain ⟨hanswer, hstate⟩ := ht r r' token u u' hpost hr hu
  have hcall : t r token u = ((t r token u).1, (t r token u).2) := rfl
  have hcall' : t r' token u' = ((t r token u).1, (t r' token u').2) := Prod.ext hanswer rfl
  have hrun := h hcall
  have hrun' := h' hcall'
  exact ⟨_, _, _, _, _, _, _, _, hrun, hrun', .cons ⟨hr, rfl, rfl⟩ .nil, .refl _ m m', hstate⟩

/-- Coupled operations may be followed by coupled ones. -/
theorem bind {f : α → Op β} {f' : α' → Op β'} {T : β → Machine → β' → Machine → Prop} (h : Coupled n t R op m op' m' S)
    (hf : ∀ a m₁ a' m₁', S a m₁ a' m₁' → Coupled n t R (f a) m₁ (f' a') m₁' T) :
    Coupled n t R (op >>= f) m (op' >>= f') m' T := by
  intro u u' hu
  obtain ⟨l, x, m₁, u₁, l', x', m₁', u₁', hrun, hrun', hcalls, hend, hu₁⟩ := h u u' hu
  cases hend with
  | failed e => exact ⟨_, _, _, _, _, _, _, _, hrun.bind_error f, hrun'.bind_error f', hcalls, .failed e _ _, hu₁⟩
  | done hS =>
    obtain ⟨l₂, y, m₂, u₂, l₂', y', m₂', u₂', hrest, hrest', hcalls₂, hend₂, hu₂⟩ := hf _ _ _ _ hS u₁ u₁' hu₁
    exact ⟨_, _, _, _, _, _, _, _, hrun.bind hrest, hrun'.bind hrest', List.rel_append hcalls hcalls₂, hend₂, hu₂⟩

/-- What two coupled operations show. -/
theorem calls_and_outcome (h : Coupled n t R op m op' m' S) {u u' : σ} (hu : R u u') :
    List.Forall₂ (Call.Alike n) (Op.calls t op m u) (Op.calls t op' m' u') ∧
      EndAlike S (Op.run t op m u).1 (Op.run t op m u).2.1 (Op.run t op' m' u').1 (Op.run t op' m' u').2.1 := by
  obtain ⟨l, x, m₁, u₁, l', x', m₁', u₁', hrun, hrun', hcalls, hend, -⟩ := h u u' hu
  rw [hrun.calls_eq, hrun'.calls_eq, hrun.run_eq, hrun'.run_eq]
  exact ⟨hcalls, hend⟩

end Coupled

end Op

/-! ### The exchange of a request -/

namespace Credentials

open Op

variable {t : Transport σ} {R : σ → σ → Prop} {a : Credentials} {m m' : Machine} {r r' : Request}

/-- A token is asked for in the same way wherever the private key is the same. -/
theorem coupled_requestToken (ht : Heedless n t R) (hkey : a.keyOn m' = a.keyOn m) :
    Coupled n t R a.requestToken m a.requestToken m' (Unmoved m m') := by
  have hpath : tokenPath ≠ "/d" := by decide
  refine Coupled.of_call ht rfl (.refl hpath) (fun h => runs_requestToken a m h) fun h => ?_
  rw [← hkey]
  exact runs_requestToken a m' h

/-- What an answer to a request means does not depend on its body. -/
theorem judge_congr (h : r.Alike n r') : judge r' = judge r := by
  funext answer
  unfold judge
  rw [h.summary]

/-- An attempt is the same with another request like it. -/
theorem coupled_attempt (ht : Heedless n t R) (hkey : a.keyOn m' = a.keyOn m) (hpost : r.method = .post) (hr : r.Alike n r') :
    Coupled n t R (a.attempt r) m (a.attempt r') m' (Unmoved m m') := by
  refine (coupled_requestToken ht hkey).bind ?_
  rintro token _ _ _ ⟨rfl, rfl, rfl⟩
  refine Coupled.of_call ht hpost hr (fun h => runs_judge r _ h) fun h => ?_
  rw [← judge_congr hr]
  exact runs_judge r' _ h

/-- So is the whole exchange. -/
theorem coupled_send (ht : Heedless n t R) (hkey : a.keyOn m' = a.keyOn m) (hpost : r.method = .post) (hr : r.Alike n r') :
    Coupled n t R (a.send r) m (a.send r') m' (Unmoved m m') := by
  have hattempt := coupled_attempt ht hkey hpost hr
  refine hattempt.bind ?_
  rintro (_ | response) _ _ _ ⟨rfl, rfl, rfl⟩
  · refine hattempt.bind ?_
    rintro (_ | response) _ _ _ ⟨rfl, rfl, rfl⟩
    · exact .throw _
    · exact .pure ⟨rfl, rfl, rfl⟩
  · exact .pure ⟨rfl, rfl, rfl⟩

end Credentials

/-! ### The whole drop -/

namespace Exchange

open Op

variable {t : Transport σ} {R : σ → σ → Prop} {s : Settings} {path : String} {m m' : Machine}

/-- The machine has a file of `n` bytes at the path, and a shared key that is not empty where the settings look for one. -/
structure HasFile (s : Settings) (path : String) (n : Nat) (m : Machine) : Prop where
  /-- The file can be read. -/
  file : ∀ expanded, Home.expand m.home path = .ok expanded → ∃ b, m.Reads expanded b ∧ b.length = n
  /-- The shared key can be loaded. -/
  sharedKey : ∀ keyPath, s.encryptionKeyPath = .ok keyPath → ∃ key, m.Loads keyPath key ∧ key ≠ []

/-- The two machines differ, as far as dropping the file of this path is concerned, in what it contains, in the shared key, and in what
is drawn at random. -/
structure Twins (s : Settings) (path : String) (n : Nat) (m m' : Machine) : Prop where
  /-- One has such a file. -/
  left : HasFile s path n m
  /-- The other one has a file of the same length. -/
  right : HasFile s path n m'
  /-- Paths are expanded in the same way. -/
  home : m'.home = m.home
  /-- The private key is the same, or cannot be loaded for the same reason. -/
  privateKey : ∀ who, credentials s = .ok who →
    (KeyFile.loadPrivate who.privateKey).outcome m' = (KeyFile.loadPrivate who.privateKey).outcome m

/-- What has been drawn at random makes no difference to the private key. -/
theorem keyOn_entropy (who : Credentials) (m : Machine) (e : Entropy) : who.keyOn { m with entropy := e } = who.keyOn m := by
  unfold Credentials.keyOn KeyFile.loadPrivate
  rw [(Secret.observes_load who.privateKey).outcome_bind fun _ => .check _,
    (Secret.observes_load who.privateKey).outcome_bind fun _ => .check _, Secret.outcome_load, Secret.outcome_load]
  rfl

/-- Sealing under a key that is not empty gives an envelope 48 bytes longer than the file. -/
theorem exists_runs_encryptFile {keyPath : String} {key : Bytes} (hkey : m.Loads keyPath key) (hne : key ≠ []) (plaintext : Bytes) :
    ∃ envelope : Bytes, envelope.length = plaintext.length + 48 ∧ ∀ u, Runs t (encryptFile keyPath plaintext) m u [] (.ok envelope)
      { m with entropy := m.entropy.skip Envelope.ivSize } u := by
  obtain ⟨keys, hkeys⟩ := Envelope.SubKeys.exists_derive hne
  have hsecret : (Secret.load keyPath).outcome m = .ok ⟨key⟩ := Secret.outcome_load_eq_ok_iff.mpr hkey
  refine ⟨_, ?_, fun u => runs_encryptFile_of_derive t hsecret hkeys plaintext u⟩
  rw [keys.length_encrypt plaintext (m.entropy.length_peek Envelope.ivSize), Envelope.ivSize, Envelope.tagSize]
  omega

/-- Uploads of the same length are alike. -/
theorem alike_upload {envelope envelope' : Bytes} (h : envelope.length = n + 48) (h' : envelope'.length = n + 48) :
    (upload envelope).Alike n (upload envelope') :=
  ⟨rfl, rfl, rfl, fun _ _ => ⟨h, h'⟩, fun hne => absurd ⟨rfl, rfl⟩ hne⟩

/-- Sealing files of the same length gives envelopes of the same length, and uses up randomness. -/
theorem coupled_encryptFile {keyPath : String} {key key' plaintext plaintext' : Bytes} (hkey : m.Loads keyPath key) (hne : key ≠ [])
    (hkey' : m'.Loads keyPath key') (hne' : key' ≠ []) (hlength : plaintext.length = n) (hlength' : plaintext'.length = n) :
    Coupled n t R (encryptFile keyPath plaintext) m (encryptFile keyPath plaintext') m' fun envelope m₁ envelope' m₁' =>
      (upload envelope).Alike n (upload envelope') ∧ m₁ = { m with entropy := m.entropy.skip Envelope.ivSize } ∧
        m₁' = { m' with entropy := m'.entropy.skip Envelope.ivSize } := by
  obtain ⟨envelope, henvelope, hrun⟩ := exists_runs_encryptFile (t := t) hkey hne plaintext
  obtain ⟨envelope', henvelope', hrun'⟩ := exists_runs_encryptFile (t := t) hkey' hne' plaintext'
  rw [hlength] at henvelope
  rw [hlength'] at henvelope'
  exact .of_silent hrun hrun' (.done ⟨alike_upload henvelope henvelope', rfl, rfl⟩)

/-- Drops on twin machines are coupled, and their references name the same object. -/
theorem coupled_drop (ht : Heedless n t R) (hm : Twins s path n m m') :
    Coupled n t R (drop s path) m (drop s path) m' fun r _ r' _ => r'.objectId = r.objectId := by
  unfold drop
  refine (Coupled.check s.encryptionKeyPath).bind ?_
  rintro keyPath _ _ _ ⟨hkeyPath, rfl, rfl, rfl⟩
  refine (Coupled.check (credentials s)).bind ?_
  rintro who _ _ _ ⟨hwho, rfl, rfl, rfl⟩
  have hexpand : (expandHome path).outcome m' = (expandHome path).outcome m := congrArg (Home.expand · path) hm.home
  refine (Coupled.observe (observes_expandHome path) hexpand).bind ?_
  rintro expanded _ _ _ ⟨hexpanded, rfl, rfl, rfl⟩
  obtain ⟨b, hb, hlength⟩ := hm.left.file expanded hexpanded
  obtain ⟨b', hb', hlength'⟩ := hm.right.file expanded (hexpand.trans hexpanded)
  obtain ⟨key, hkey, hne⟩ := hm.left.sharedKey keyPath hkeyPath
  obtain ⟨key', hkey', hne'⟩ := hm.right.sharedKey keyPath hkeyPath
  have hread := observes_readFile expanded
  refine (Coupled.observe_ok (S := fun c m₁ c' m₁' => c = b ∧ c' = b' ∧ m = m₁ ∧ m' = m₁') hread hread
    (outcome_readFile_eq_ok_iff.mpr hb) (outcome_readFile_eq_ok_iff.mpr hb') ⟨rfl, rfl, rfl, rfl⟩).bind ?_
  rintro _ _ _ _ ⟨rfl, rfl, rfl, rfl⟩
  refine (coupled_encryptFile hkey hne hkey' hne' hlength hlength').bind ?_
  rintro envelope _ envelope' _ ⟨halike, rfl, rfl⟩
  have hprivate : who.keyOn { m' with entropy := m'.entropy.skip Envelope.ivSize } =
      who.keyOn { m with entropy := m.entropy.skip Envelope.ivSize } :=
    (keyOn_entropy who m' _).trans ((hm.privateKey who hwho).trans (keyOn_entropy who m _).symm)
  refine (Credentials.coupled_send ht hprivate rfl halike).bind ?_
  rintro response _ _ _ ⟨rfl, rfl, rfl⟩
  refine (Coupled.check (storedId response.body)).bind ?_
  rintro id _ _ _ ⟨-, rfl, rfl, rfl⟩
  exact .pure rfl

/-- A client with a shared key and a file has what it takes. -/
theorem Equipped.hasFile {key : Bytes} {name : KeyName} {k : Rsa.PrivateKey} {b : Bytes} (h : Equipped s m key name k)
    (hne : key ≠ []) (hb : m.Provides path b) : HasFile s path b.length m where
  file expanded hexpanded := by
    obtain ⟨expanded', node, hexpanded', hnode, hdata⟩ := hb
    obtain rfl := Except.ok.inj (hexpanded.symm.trans hexpanded')
    obtain ⟨hsmooth, hcontents, -⟩ := h.reliable.source hdata
    exact ⟨b, ⟨node, hnode, hsmooth.isFaultless, hcontents.symm⟩, rfl⟩
  sharedKey keyPath hkeyPath := by
    obtain ⟨keyPath', hkeyPath', hkey⟩ := h.sharedKey
    obtain rfl := Except.ok.inj (hkeyPath.symm.trans hkeyPath')
    exact ⟨key, h.reliable.loads hkey, hne⟩

/-- Two clients have the same private key wherever it is found under the same name. -/
theorem Equipped.privateKey_eq {key key' : Bytes} {name : KeyName} {k : Rsa.PrivateKey} (h : Equipped s m key name k)
    (h' : Equipped s m' key' name k) {who : Credentials} (hwho : credentials s = .ok who) : who.keyOn m' = who.keyOn m := by
  obtain ⟨_, who₁, -, hwho₁, -, hkeys⟩ := h.exists_credentials
  obtain ⟨_, who₂, -, hwho₂, -, hkeys'⟩ := h'.exists_credentials
  obtain rfl := Except.ok.inj (hwho.symm.trans hwho₁)
  obtain rfl := Except.ok.inj (hwho.symm.trans hwho₂)
  exact (hkeys' m'.entropy).1.trans (hkeys m.entropy).1.symm

/-- **What a drop shows the network**: drops with the same settings on twin machines, over a transport that heeds nothing of an upload
but its length, make calls that are alike one by one, and end with the same error, or with references to the same object. -/
theorem drop_conceals (ht : Heedless n t R) (hm : Twins s path n m m') {u u' : σ} (hu : R u u') :
    List.Forall₂ (Call.Alike n) (Op.calls t (drop s path) m u) (Op.calls t (drop s path) m' u') ∧
      ((∃ e, (Op.run t (drop s path) m u).1 = .error e ∧ (Op.run t (drop s path) m' u').1 = .error e) ∨
        ∃ r r', (Op.run t (drop s path) m u).1 = .ok r ∧ (Op.run t (drop s path) m' u').1 = .ok r' ∧
          r'.objectId = r.objectId) := by
  obtain ⟨hcalls, hend⟩ := (coupled_drop ht hm).calls_and_outcome hu
  refine ⟨hcalls, ?_⟩
  generalize (Op.run t (drop s path) m u).1 = x, (Op.run t (drop s path) m' u').1 = x' at hend ⊢
  cases hend with
  | failed e => exact .inl ⟨e, rfl, rfl⟩
  | @done r _ r' _ h => exact .inr ⟨r, r', rfl, rfl, h⟩

end Exchange

/-! ### The remote in memory -/

namespace Remote

/-- The two remotes differ in the objects that they store at most. -/
def AlikeButObjects (u u' : Remote) : Prop :=
  ∃ objects, u' = { u with objects := objects }

theorem issueToken_objects (u : Remote) (objects : List (String × Bytes)) (body : Bytes) :
    ({ u with objects := objects } : Remote).issueToken body =
      ((u.issueToken body).1, { (u.issueToken body).2 with objects := objects }) := by
  unfold issueToken
  simp only [key?]
  split
  · split
    · rfl
    · split <;> rfl
  · rfl

theorem authorize_objects (u : Remote) (objects : List (String × Bytes)) (token : Option BearerToken) :
    ({ u with objects := objects } : Remote).authorize token =
      ((u.authorize token).1, { (u.authorize token).2 with objects := objects }) := by
  simp only [authorize_eq]
  split <;> rfl

theorem addKey_objects (u : Remote) (objects : List (String × Bytes)) (body : Bytes) :
    ({ u with objects := objects } : Remote).addKey body =
      ((u.addKey body).1, { (u.addKey body).2 with objects := objects }) := by
  unfold addKey
  split
  · split
    · rfl
    · split <;> rfl
  · rfl

/-- What is stored under the next identifier does not show. -/
theorem store_objects (u : Remote) (objects : List (String × Bytes)) (body body' : Bytes) :
    (({ u with objects := objects } : Remote).store body').1 = (u.store body).1 ∧
      AlikeButObjects (u.store body).2 (({ u with objects := objects } : Remote).store body').2 := by
  unfold store
  cases u.fixedId with
  | none => exact ⟨rfl, _, rfl⟩
  | some id => exact ⟨rfl, _, rfl⟩

/-- A request that posts is served without regard to the objects. -/
theorem serve_objects (u : Remote) (objects : List (String × Bytes)) {r r' : Request} (hpost : r.method = .post) (hr : r.Alike n r') :
    (({ u with objects := objects } : Remote).serve r').1 = (u.serve r).1 ∧
      AlikeButObjects (u.serve r).2 (({ u with objects := objects } : Remote).serve r').2 := by
  unfold serve
  rw [hr.method, hpost, hr.path]
  by_cases hobjects : r.path = objectsPath
  · simp only [if_pos hobjects]
    exact store_objects u objects r.body r'.body
  · have hbody : r'.body = r.body := hr.body fun h => hobjects h.2
    simp only [if_neg hobjects, hbody]
    split
    · rw [addKey_objects]
      exact ⟨rfl, objects, rfl⟩
    · exact ⟨rfl, objects, rfl⟩

/-- The remote in memory heeds nothing of an upload, not even its length. -/
theorem heedless : Heedless n transport AlikeButObjects := by
  rintro r r' token u _ hpost hr ⟨objects, rfl⟩
  unfold transport execute
  rw [hr.method, hr.path]
  by_cases htoken : r.method = .post ∧ r.path = tokenPath
  · have hbody : r'.body = r.body := hr.body fun h => absurd (htoken.2.symm.trans h.2) (by decide)
    simp only [if_pos htoken, hbody, issueToken_objects]
    exact ⟨trivial, objects, rfl⟩
  · simp only [if_neg htoken, authorize_objects]
    rcases u.authorize token with ⟨_ | _, u₁⟩
    · exact ⟨rfl, objects, rfl⟩
    · obtain ⟨hanswer, hstate⟩ := serve_objects u₁ objects hpost hr
      exact ⟨congrArg Except.ok hanswer, hstate⟩

end Remote

/-! ### Two laptops -/

namespace Exchange

open Remote

/-- A laptop with the same private key as the first one, another shared key, another file, and another supply of randomness. -/
def secondLaptop : Machine where
  tree := ⟨[(["shared"], .file 0o600 [2, 3]),
    (["private"], .file 0o600 (Pem.encode KeyFile.privateLabel (Der.sequence mersenneIntegers))),
    (["in"], .file 0o644 [110, 111])]⟩
  entropy := ⟨fun n => UInt8.ofNat n, 0⟩

theorem equipped_secondLaptop : Equipped laptopSettings secondLaptop [2, 3] laptopName mersenneKey where
  reliable := equipped_laptop.reliable
  keyName := by decide
  sharedKey := ⟨"shared", rfl, provides_of_name rfl rfl (by decide) (by decide) rfl rfl⟩
  privateKey := ⟨"private", _, rfl, provides_of_name rfl rfl (by decide) (by decide) rfl rfl, readPrivate_mersenneKey⟩

theorem provides_secondLaptop : secondLaptop.Provides "in" [110, 111] :=
  provides_of_name rfl rfl (by decide) (by decide) rfl rfl

theorem twins_laptops : Twins laptopSettings "in" 2 laptop secondLaptop where
  left := equipped_laptop.hasFile (List.cons_ne_nil 1 []) provides_laptop
  right := equipped_secondLaptop.hasFile (List.cons_ne_nil 2 [3]) provides_secondLaptop
  home := rfl
  privateKey _ hwho := equipped_laptop.privateKey_eq equipped_secondLaptop hwho

/-- At the office two files of the same length are dropped in the same way. Both drops succeed, with references to the same object. -/
theorem drop_conceals_laptops :
    Heedless 2 transport AlikeButObjects ∧ Twins laptopSettings "in" 2 laptop secondLaptop ∧ AlikeButObjects office office ∧
      List.Forall₂ (Call.Alike 2) (Op.calls transport (drop laptopSettings "in") laptop office)
        (Op.calls transport (drop laptopSettings "in") secondLaptop office) ∧
      ∃ r r', (Op.run transport (drop laptopSettings "in") laptop office).1 = .ok r ∧
        (Op.run transport (drop laptopSettings "in") secondLaptop office).1 = .ok r' ∧ r'.objectId = r.objectId := by
  have hoffice : AlikeButObjects office office := ⟨[], rfl⟩
  obtain ⟨hcalls, hend⟩ := drop_conceals heedless twins_laptops hoffice
  refine ⟨heedless, twins_laptops, hoffice, hcalls, hend.resolve_left ?_⟩
  rintro ⟨e, he, -⟩
  obtain ⟨l, id, envelope, m₁, u₁, hrun, -⟩ :=
    runs_drop equipped_laptop enrolled_office (List.cons_ne_nil 1 []) (by decide) fixedId_office provides_laptop
  rw [hrun.run_eq] at he
  cases he

end Exchange

end SealedDrop
