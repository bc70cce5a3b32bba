import SealedDrop.Proofs.Concurrency.Confinement
import SealedDrop.Proofs.Concurrency.World

/-!
# What an operation can rely on

Between two steps of an operation anything may happen that others do. This module says what stays nevertheless, and proves of an
authenticated request that it then comes to an end that is explained by its own calls.

## The model

* Others may issue, present and use up tokens, do the refusals that are to come and store objects. A remote still `Upholds` the
  registered keys and the objects that were held before.
* An `Outlook` is what an operation knows: its machine as it would be if it ran alone, the calls that it has made, and the token
  that was issued to it last, unless it has presented it.
* An operation is `Assured` of what comes of it (`Q`) if it comes to that whatever the remote is at each of its calls, as long as
  the remote upholds what is in its `Scope` and the token of its outlook is still live. In return, the operation presents no other
  token and registers no key, and its effects are confined to the routes in its scope.

## What is proved

* `Upholds.execute` — a request that registers no key leaves all that is upheld.
* `assured_send` — an authenticated request is served, or two of its calls were refused.
-/

namespace SealedDrop

open Remote

/-! ### The remote -/

namespace Remote

variable {u v : Remote} {keys : List (String × Rsa.PublicKey)} {objects : List (String × Bytes)} {r : Request}
  {token : Option BearerToken}

/-- The request registers a key. -/
abbrev AddsKey (r : Request) : Prop :=
  r.method = .post ∧ r.path = addKeyPath

/-- The remote has these keys and holds these objects, gives each object an identifier of its own, and hands objects out as they
are. -/
structure Upholds (keys : List (String × Rsa.PublicKey)) (objects : List (String × Bytes)) (u : Remote) : Prop where
  /-- The keys are registered. -/
  keys_eq : u.keys = keys
  /-- No identifier is fixed. -/
  fixedId : u.fixedId = none
  /-- No object is damaged. -/
  corruptDownloads : u.corruptDownloads = false
  /-- The objects are held. -/
  holds : ∀ x ∈ objects, u.Holds x.1 x.2

theorem Upholds.of_keeps (h : u.Upholds keys objects) (hs : Keeps u v) : v.Upholds keys objects where
  keys_eq := hs.keys.trans h.keys_eq
  fixedId := hs.fixedId.trans h.fixedId
  corruptDownloads := hs.corruptDownloads.trans h.corruptDownloads
  holds x hx := hs.holds (h.holds x hx)

/-- **What a request leaves**: all that is upheld, unless it registers a key or the number of objects wraps. -/
theorem Upholds.execute (h : u.Upholds keys objects) (hr : ¬ AddsKey r) (hcount : u.stored ≤ (u.execute r token).2.stored) :
    (u.execute r token).2.Upholds keys objects := by
  rcases execute_cases u r token with hkeeps | ⟨v, hkeeps, heq⟩
  · exact h.of_keeps hkeeps
  have hv := h.of_keeps hkeeps
  rw [heq] at hcount ⊢
  rcases serve_cases v r with hsame | ⟨-, -, hstore⟩ | ⟨hmethod, hpath, -⟩
  · rw [hsame]
    exact hv
  · rw [hstore] at hcount ⊢
    rw [← hkeeps.stored] at hcount
    refine ⟨?_, ?_, ?_, fun x hx => holds_store (hv.holds x hx) hv.fixedId _ hcount⟩
    · rw [store_of_fixedId hv.fixedId]
      exact hv.keys_eq
    · rw [store_of_fixedId hv.fixedId]
      exact hv.fixedId
    · rw [store_of_fixedId hv.fixedId]
      exact hv.corruptDownloads
  · exact absurd ⟨hmethod, hpath⟩ hr

/-- An upload that is accepted stores its object under the next number. -/
theorem holds_of_stores (hfixed : u.fixedId = none) {id : String} {body : Bytes}
    (h : Turn.stores? ⟨u, .request r token⟩ = some (id, body)) :
    id = numberedId (u.stored + 1).toNat ∧ (u.execute r token).2.stored = u.stored + 1 ∧
      (u.execute r token).2.Holds id body := by
  simp only [Turn.stores?, Option.ite_none_right_eq_some, Option.map_eq_some_iff, Prod.mk.injEq] at h
  obtain ⟨⟨hmethod, hpath, hsuccess⟩, text, htext, rfl, rfl⟩ := h
  have hr : ¬ AsksToken r := by
    rintro ⟨-, htoken⟩
    rw [hpath] at htoken
    exact absurd htoken (by decide)
  have hserve : ∀ v : Remote, v.serve r = v.store r.body := by
    intro v
    rw [serve, hmethod]
    exact if_pos hpath
  rw [execute_of_not_asksToken hr] at hsuccess htext ⊢
  split at hsuccess
  · cases hsuccess
  · next hreject =>
    rw [if_neg hreject] at htext ⊢
    split at hsuccess
    · next hlive =>
      rw [if_pos hlive, hserve, store_of_fixedId (s := u.present token) hfixed] at htext ⊢
      have hid : text? (utf8 (numberedId (u.stored + 1).toNat)) = some text := htext
      rw [text?_utf8] at hid
      cases hid
      exact ⟨rfl, rfl, lookup_insertAt_self _ _ _, fun _ => ⟨_, le_refl _, rfl⟩⟩
    · cases hsuccess

end Remote

/-! ### Assured sessions -/

/-- What an operation relies on. -/
structure Scope where
  /-- The routes that it looks at. -/
  seen : List Route
  /-- The routes that it changes. -/
  written : List Route
  /-- The keys that are registered. -/
  keys : List (String × Rsa.PublicKey)
  /-- The objects that the remote holds. -/
  objects : List (String × Bytes)

/-- What an operation knows. -/
structure Outlook where
  /-- The machine as it would be if the operation ran alone. -/
  machine : Machine
  /-- The calls that the operation has made. -/
  turns : List Turn := []
  /-- The token that its last call has issued. -/
  token : Option String := none

namespace Outlook

/-- What the operation knows after a call. -/
def called (o : Outlook) (u : Remote) (r : Request) (token : Option BearerToken) : Outlook where
  machine := o.machine
  turns := o.turns ++ [⟨u, .request r token⟩]
  token := Turn.issued? ⟨u, .request r token⟩

/-- A request for a token that is answered 200 issues the identifier that the remote draws. -/
theorem token_called {u : Remote} {r : Request} {token : Option BearerToken} (o : Outlook) (hr : AsksToken r)
    (hstatus : (u.execute r token).1.status = 200) :
    (o.called u r token).token = some (Uuid.hyphenated (u.entropy.peek 16)) :=
  if_pos ⟨hr, hstatus⟩

/-- A call registers no key, and presents the token of the outlook unless it asks for one. -/
def Permits (o : Outlook) (r : Request) (token : Option BearerToken) : Prop :=
  ¬ AddsKey r ∧ (AsksToken r ∨ ∃ t, token = some t ∧ o.token = some t.text)

end Outlook

variable {α β : Type} {c : Scope} {o : Outlook}

/-- The session comes to a value and an outlook with `Q`, whatever others do between its steps. -/
def Session.Assured (c : Scope) (Q : α → Outlook → Prop) : Session α → Outlook → Prop
  | .done a, o => Q a o
  | .perform e next, o =>
    o.machine.Confines c.seen c.written e ∧
      (next (o.machine.answer e).1).Assured c Q { o with machine := (o.machine.answer e).2 }
  | .call r token next, o =>
    o.Permits r token ∧ ∀ u, u.Upholds c.keys c.objects → (∀ t, o.token = some t → u.isLive t = true) →
      (next (.ok (u.execute r token).1)).Assured c Q (o.called u r token)

namespace Session

variable {x : Session α} {Q : α → Outlook → Prop}

theorem Assured.mono {Q' : α → Outlook → Prop} (h : x.Assured c Q o) (hQ : ∀ a o, Q a o → Q' a o) : x.Assured c Q' o := by
  induction x generalizing o with
  | done a => exact hQ a o h
  | perform e next ih => exact ⟨h.1, ih _ h.2⟩
  | call r token next ih => exact ⟨h.1, fun u hu hlive => ih _ (h.2 u hu hlive)⟩

/-- A session is assured of what comes of the rest if the rest is assured of it wherever the first part ends. -/
theorem Assured.bind {f : α → Session β} {Q : β → Outlook → Prop} (h : x.Assured c (fun a o => (f a).Assured c Q o) o) :
    (x >>= f).Assured c Q o := by
  change (x.bind f).Assured c Q o
  induction x generalizing o with
  | done a => exact h
  | perform e next ih => exact ⟨h.1, ih _ h.2⟩
  | call r token next ih => exact ⟨h.1, fun u hu hlive => ih _ (h.2 u hu hlive)⟩

/-- A session that is confined comes to what it comes to by itself. -/
theorem Assured.of_confined (hx : x.Confined c.seen c.written o.machine)
    (hQ : Q (x.run Op.silent o.machine ()).1 { o with machine := (x.run Op.silent o.machine ()).2.1 }) : x.Assured c Q o := by
  induction x generalizing o with
  | done a => exact hQ
  | perform e next ih => exact ⟨hx.1, ih _ hx.2 hQ⟩
  | call r token next => exact hx.elim

end Session

namespace Op

/-- The operation comes to an outcome and an outlook with `Q`, whatever others do between its steps. -/
def Assured (c : Scope) (Q : Except Error α → Outlook → Prop) (op : Op α) (o : Outlook) : Prop :=
  Session.Assured c Q (ExceptT.run op) o

namespace Assured

variable {op : Op α} {f : α → Op β} {Q : Except Error α → Outlook → Prop} {R : Except Error β → Outlook → Prop}

theorem pure {a : α} (h : Q (.ok a) o) : Assured c Q (Pure.pure a) o := h

theorem throw {e : Error} (h : Q (.error e) o) : Assured c Q (throw e) o := h

theorem check {x : Except Error α} (h : Q x o) : Assured c Q (check x) o := h

theorem mono {Q' : Except Error α → Outlook → Prop} (h : op.Assured c Q o) (hQ : ∀ x o, Q x o → Q' x o) :
    op.Assured c Q' o := Session.Assured.mono h hQ

/-- An operation that succeeds is followed by the rest, and a failure ends the whole. -/
theorem bind (h : op.Assured c (fun x o => (∀ a, x = .ok a → (f a).Assured c R o) ∧ ∀ e, x = .error e → R (.error e) o) o) :
    (op >>= f).Assured c R o := by
  refine Session.Assured.bind (Session.Assured.mono h fun x o hx => ?_)
  cases x with
  | ok a => exact hx.1 a rfl
  | error e => exact hx.2 e rfl

theorem check_bind {x : Except Error α} {a : α} (hx : x = .ok a) (h : (f a).Assured c R o) :
    (Op.check x >>= f).Assured c R o := by
  subst hx
  exact h

/-! What fails ends the whole. -/

theorem check_error_bind {e : Error} (h : R (.error e) o) (f : α → Op β) :
    (Op.check (.error e) >>= f).Assured c R o := h

theorem throw_bind {e : Error} (h : R (.error e) o) (f : α → Op β) :
    ((MonadExcept.throw e : Op α) >>= f).Assured c R o := h

/-- A call is followed by the rest, whatever the remote is by then. -/
theorem call_bind {r : Request} {token : Option BearerToken} {f : Response → Op β} (hpermits : o.Permits r token)
    (h : ∀ u, u.Upholds c.keys c.objects → (∀ t, o.token = some t → u.isLive t = true) →
      (f (u.execute r token).1).Assured c R (o.called u r token)) : (Op.call r token >>= f).Assured c R o :=
  ⟨hpermits, h⟩

theorem of_confined {m : Machine} {x : Except Error α} (hop : op.Confined c.seen c.written o.machine)
    (hrun : Runs silent op o.machine () [] x m ()) (h : Q x { o with machine := m }) : op.Assured c Q o := by
  have heq : Session.run silent (ExceptT.run op) o.machine () = (x, m, ()) := hrun.run_eq
  exact Session.Assured.of_confined hop (by rw [heq]; exact h)

theorem confined_bind {m : Machine} {a : α} (hop : op.Confined c.seen c.written o.machine)
    (hrun : Runs silent op o.machine () [] (.ok a) m ()) (h : (f a).Assured c R { o with machine := m }) :
    (op >>= f).Assured c R o := by
  refine bind (of_confined hop hrun ⟨fun a' ha => ?_, fun e he => ?_⟩)
  · cases ha
    exact h
  · cases he

/-- An operation that only looks is followed by the rest on the same machine. -/
theorem looks_bind {a : α} (hlooks : Observes op) (hop : op.Confined c.seen c.written o.machine)
    (ha : op.outcome o.machine = .ok a) (h : (f a).Assured c R o) : (op >>= f).Assured c R o := by
  have hrun := hlooks.runs silent o.machine ()
  rw [ha] at hrun
  exact confined_bind hop hrun h

end Assured

theorem session_assured {op : Op α} {Q : Except Error α → Outlook → Prop} (h : op.Assured c Q o) :
    Session.Assured c Q (ExceptT.run op) o := h

-- the rules above are all that is needed of it; tactics that look at a goal would otherwise run the operation in it
attribute [irreducible] Assured

end Op

/-! ### Authenticated requests -/

namespace Credentials

open Op

variable {a : Credentials} {k : Rsa.PrivateKey} {r : Request}

/-- The private key is found on the machine, and every remote with the registered keys can issue a token that it opens. -/
structure Ready (c : Scope) (a : Credentials) (k : Rsa.PrivateKey) (m : Machine) : Prop where
  /-- The key can be loaded. -/
  key : a.keyOn m = .ok k
  /-- Only routes that are seen are looked at for that. -/
  confined : (KeyFile.loadPrivate a.privateKey).Confined c.seen c.written m
  /-- The key is registered. -/
  enrolled : ∀ u : Remote, u.Upholds c.keys c.objects → u.Enrolled a.keyName k

/-- The request for a token registers no key. -/
theorem not_addsKey_tokenRequest (name : KeyName) : ¬ AddsKey (tokenRequest name) := by
  rintro ⟨-, hpath⟩
  change tokenPath = addKeyPath at hpath
  exact absurd hpath (by decide)

/-- A token is issued, and the operation has it. -/
theorem assured_requestToken (h : Ready c a k o.machine) {Q : Except Error BearerToken → Outlook → Prop}
    (hQ : ∀ u token, (o.called u (tokenRequest a.keyName) none).token = some token.text →
      Q (.ok token) (o.called u (tokenRequest a.keyName) none)) :
    a.requestToken.Assured c Q o := by
  unfold requestToken
  refine .call_bind ⟨not_addsKey_tokenRequest _, .inl ⟨rfl, rfl⟩⟩ fun u hu _ => ?_
  obtain ⟨ciphertext, hexecute, hdecrypt⟩ := execute_tokenRequest (h.enrolled u hu)
  have htoken := o.token_called (u := u) (r := tokenRequest a.keyName) ⟨rfl, rfl⟩ (congrArg (·.1.status) hexecute)
  have hsuccess : Response.isSuccess ⟨200, ciphertext⟩ = true := rfl
  rw [hexecute]
  dsimp only
  rw [if_neg (not_not_intro hsuccess)]
  refine .looks_bind (KeyFile.observes_loadPrivate _) h.confined h.key ?_
  rw [hdecrypt]
  exact .check (hQ u u.nextToken htoken)

/-- The request is sent with the token that was issued just before. -/
theorem assured_attempt (h : Ready c a k o.machine) (hr : ¬ AddsKey r)
    {Q : Except Error (Option Response) → Outlook → Prop}
    (hQ : ∀ u v token, v.Upholds c.keys c.objects → v.isLive token.text = true →
      Q (judge r (.ok (v.execute r (some token)).1)) ((o.called u (tokenRequest a.keyName) none).called v r (some token))) :
    (a.attempt r).Assured c Q o := by
  unfold attempt
  refine .bind (assured_requestToken h fun u token htoken => ⟨fun token' htoken' => ?_, fun e he => ?_⟩)
  · cases htoken'
    refine .call_bind ⟨hr, .inr ⟨token, rfl, htoken⟩⟩ fun v hv hlive => ?_
    have hjudge := hQ u v token hv (hlive _ htoken)
    rw [judge_ok] at hjudge
    split
    · next hs =>
      rw [if_pos hs] at hjudge
      exact .pure hjudge
    · next hs =>
      rw [if_neg hs] at hjudge
      split
      · next hu =>
        rw [if_pos hu] at hjudge
        exact .pure hjudge
      · next hu =>
        rw [if_neg hu] at hjudge
        exact .throw hjudge
  · cases he

/-- A remote has served the request in one of the calls of the operation. -/
structure Served (c : Scope) (r : Request) (v : Remote) (l : List Turn) : Prop where
  /-- The remote upholds what it should. -/
  upholds : v.Upholds c.keys c.objects
  /-- The call is among these. -/
  turn : ∃ u token, ⟨u, .request r token⟩ ∈ l ∧ u.execute r token = v.serve r

/-- An attempt meets a refusal or has its request served. -/
theorem assured_attempt_cases (h : Ready c a k o.machine) (hr : ¬ AsksToken r) (hr' : ¬ AddsKey r)
    {Q : Except Error (Option Response) → Outlook → Prop}
    (hrefused : ∀ o', o'.machine = o.machine → o.turns.countP Turn.isRefused + 1 ≤ o'.turns.countP Turn.isRefused →
      Q (.ok none) o')
    (hserved : ∀ v o', o'.machine = o.machine → Served c r v o'.turns → Q (judge r (.ok (v.serve r).1)) o') :
    (a.attempt r).Assured c Q o := by
  refine assured_attempt h hr' fun u v token hv _ => ?_
  rcases refused_or_served hr (some token) with ⟨hstatus, -⟩ | ⟨w, hkeeps, hserve⟩
  · rw [judge_eq_none_iff.mpr ⟨_, rfl, hstatus⟩]
    refine hrefused _ rfl ?_
    have hturn : Turn.isRefused ⟨v, .request r (some token)⟩ = true := decide_eq_true hstatus
    change _ ≤ ((o.turns ++ [_]) ++ [_]).countP _
    rw [List.countP_append, List.countP_append, List.countP_cons_of_pos hturn]
    omega
  · rw [hserve]
    exact hserved w _ rfl ⟨hv.of_keeps hkeeps, v, some token, List.mem_append_right _ List.mem_cons_self, hserve⟩

/-- **An authenticated request beside others** is served, or two of its calls were refused. -/
theorem assured_send (h : Ready c a k o.machine) (hr : ¬ AsksToken r) (hr' : ¬ AddsKey r)
    {Q : Except Error Response → Outlook → Prop}
    (hexhausted : ∀ o', o'.machine = o.machine → 2 ≤ o'.turns.countP Turn.isRefused → Q (.error (.authExhausted 2)) o')
    (hserved : ∀ v o', o'.machine = o.machine → Served c r v o'.turns → Q (conclude (judge r (.ok (v.serve r).1))) o') :
    (a.send r).Assured c Q o := by
  -- a request that is served is never told that its token was refused
  have hended : ∀ v o', o'.machine = o.machine → Served c r v o'.turns →
      (∀ x, judge r (.ok (v.serve r).1) = .ok x → ∃ response, x = some response ∧ Q (.ok response) o') ∧
        ∀ e, judge r (.ok (v.serve r).1) = .error e → Q (.error e) o' := by
    intro v o' hm hv
    have hq := hserved v o' hm hv
    refine ⟨fun x hx => ?_, fun e he => by rwa [he] at hq⟩
    rw [hx] at hq
    cases x with
    | none =>
      obtain ⟨response, hresponse, hstatus⟩ := judge_eq_none_iff.mp hx
      cases hresponse
      exact absurd hstatus (status_serve_ne v r)
    | some response => exact ⟨response, rfl, hq⟩
  unfold send
  refine .bind (assured_attempt_cases h hr hr' (fun o₁ hm₁ hcount₁ => ⟨fun x hx => ?_, fun e he => ?_⟩)
    fun v o' hm hv => ⟨fun x hx => ?_, (hended v o' hm hv).2⟩)
  · cases hx
    have h₁ : Ready c a k o₁.machine := by rwa [hm₁]
    refine .bind (assured_attempt_cases h₁ hr hr' (fun o₂ hm₂ hcount₂ => ⟨fun x hx => ?_, fun e he => ?_⟩)
      fun v o' hm hv => ⟨fun x hx => ?_, (hended v o' (hm.trans hm₁) hv).2⟩)
    · cases hx
      exact .throw (hexhausted o₂ (hm₂.trans hm₁) (by omega))
    · cases he
    · obtain ⟨response, rfl, hq⟩ := (hended v o' (hm.trans hm₁) hv).1 x hx
      exact .pure hq
  · cases he
  · obtain ⟨response, rfl, hq⟩ := (hended v o' hm hv).1 x hx
    exact .pure hq

end Credentials

end SealedDrop
