import SealedDrop.Proofs.BearerToken
import SealedDrop.Proofs.Serving

/-!
# A rotation of the token secret is absorbed

A remote that is about to refuse one token makes no difference to a client but a second attempt: the outcome of the request, and the
keys and objects at the remote, are the same. Two refusals in a row end the exchange. A client to whom no token can be issued does not
get as far as sending its request.

## The model

* `Spends` says of calls that no token which they are issued is live after them. It holds of one attempt (`spends_attempt`), and of
  calls one after another (`Spends.append`).
* `Absorbs` is the rule for an enrolled client, and `Barred` the one for a client to whom no token can be issued.

## What is proved

* `run_send_of_le`, `run_send_of_one` and `run_send_of_two_le` — what a send comes to, by the number of refusals that are due.
* `send_absorbs` — every authenticated request that is sent to a remote obeys these rules, whatever state the remote is in.
-/

namespace SealedDrop.Remote

open Op Credentials

variable {s s' : Remote} {name : KeyName} {k : Rsa.PrivateKey} {a : Credentials} {m : Machine} {r : Request} {l₁ l₂ : List Call}

/-! ### Tokens -/

/-- None of the tokens that are issued during the calls is live after them. -/
def Spends (s : Remote) (l : List Call) : Prop :=
  ∀ y ∈ history s (l.map Call.event), ∀ t, y.Issues t → (s.called l).isLive t = false

/-- Calls spend their tokens if the first of them do and the others do. -/
theorem Spends.append (h₁ : s.Spends l₁) (hs : s.called l₁ = s') (h₂ : s'.Spends l₂) : s.Spends (l₁ ++ l₂) := by
  subst hs
  intro y hy t ht
  rw [called_append]
  rw [List.map_append, history_append, List.mem_append] at hy
  by_cases hagain : ∃ y ∈ history (s.called l₁) (l₂.map Call.event), y.Issues t
  · obtain ⟨y', hy', ht'⟩ := hagain
    exact h₂ y' hy' t ht'
  · rcases hy with hy | hy
    · exact not_isLive_after (h₁ y hy t ht) fun y' hy' ht' => hagain ⟨y', hy', ht'⟩
    · exact absurd ⟨y, hy, ht⟩ hagain

/-- An attempt presents the token that it is issued. -/
theorem spends_attempt (s : Remote) (name : KeyName) (hr : ¬ AsksToken r) (ciphertext : Bytes) :
    s.Spends (s.attemptCalls name r ciphertext) := by
  intro y hy t ht
  obtain rfl : t = s.nextToken.text := by
    simp only [attemptCalls, List.map_cons, List.map_nil, history, List.mem_cons, List.not_mem_nil, or_false] at hy
    obtain ⟨r', token, -, -, -, -, hevent, hasks, -, -, rfl, -⟩ := ht
    rcases hy with rfl | rfl
    · rfl
    · cases hevent
      exact absurd hasks hr
  have hpresented : Event.Presents (.request r (some s.nextToken)) s.nextToken.text := ⟨hr, rfl⟩
  have hcalls : s.attemptCalls name r ciphertext = [⟨tokenRequest name, none, .ok ⟨200, ciphertext⟩⟩] ++
      ⟨r, some s.nextToken, .ok (s.reaction r).1⟩ :: [] := rfl
  rw [hcalls]
  exact not_isLive_called hpresented fun y hy => absurd hy List.not_mem_nil

/-! ### Attempts -/

/-- The remote after an attempt of an enrolled client. -/
theorem called_attempt (h : s.Enrolled name k) (hr : ¬ AsksToken r) (ciphertext : Bytes) :
    s.called (s.attemptCalls name r ciphertext) = (s.reaction r).2 := by
  obtain ⟨_, hexecute, -⟩ := execute_tokenRequest h
  rw [attemptCalls, called_cons, called_cons, called_nil, hexecute, execute_nextToken hr]

/-- An attempt is counted once as a request for a token and once as a request with one. -/
theorem counts_reaction (s : Remote) (r : Request) :
    (s.reaction r).2.tokenRequests = s.tokenRequests + 1 ∧ (s.reaction r).2.authenticatedRequests = s.authenticatedRequests + 1 := by
  unfold reaction
  split
  · exact ⟨rfl, rfl⟩
  · obtain ⟨keys, objects, stored, -, hserve⟩ := serve_writes s.tokenSpent r
    rw [hserve]
    exact ⟨rfl, rfl⟩

/-- Each refusal that is due takes one attempt. -/
theorem rejectNext_reaction (s : Remote) (r : Request) :
    (s.reaction r).2.rejectNext = if 0 < s.rejectNext then s.rejectNext - 1 else s.rejectNext := by
  unfold reaction
  split
  · rfl
  · exact (serve_frame _ r).2

/-! ### The rules -/

/-- The number of attempts that a request takes: two where a refusal is due. -/
def attempts (s : Remote) : Nat :=
  if s.rejectNext = 0 then 1 else 2

/-- The rule for a request of an enrolled client: the calls `l` that are made, their outcome `x`, and the remote `s'` after them. -/
structure Absorbs (a : Credentials) (m : Machine) (s : Remote) (r : Request) (l : List Call) (x : Except Error Response)
    (s' : Remote) : Prop where
  /-- Each attempt is a request for a token, without one, and the request with a token. -/
  calls : l.map (fun c => (c.request, c.token.isSome)) =
    (List.replicate s.attempts [(tokenRequest a.keyName, false), (r, true)]).flatten
  /-- The remote counts that many requests for tokens. -/
  tokenRequests : s'.tokenRequests = s.tokenRequests + UInt32.ofNat s.attempts
  /-- It counts as many that need a token. -/
  authenticatedRequests : s'.authenticatedRequests = s.authenticatedRequests + UInt32.ofNat s.attempts
  /-- Where no more than one refusal is due, what is answered and what becomes of objects and keys is what serving the request at
  once gives, and no refusal remains. -/
  served : s.rejectNext ≤ 1 → x = conclude (judge r (.ok (s.serve r).1)) ∧ s'.objects = (s.serve r).2.objects ∧
    s'.keys = (s.serve r).2.keys ∧ s'.rejectNext = 0
  /-- So one refusal makes no difference to what the same request comes to at a remote that is about to refuse none. -/
  absorbed : s.rejectNext = 1 → x = (Op.run transport (a.send r) m { s with rejectNext := 0 }).1 ∧
    s'.objects = (Op.run transport (a.send r) m { s with rejectNext := 0 }).2.2.objects ∧
    s'.keys = (Op.run transport (a.send r) m { s with rejectNext := 0 }).2.2.keys
  /-- Where more are due, two are used up, objects and keys stay, and the exchange is exhausted. -/
  exhausted : 2 ≤ s.rejectNext → x = .error (.authExhausted 2) ∧ s'.objects = s.objects ∧ s'.keys = s.keys ∧
    s'.rejectNext = s.rejectNext - 2
  /-- No token that was issued on the way is live any more. -/
  spent : ∀ y ∈ history s (l.map Call.event), ∀ t, y.Issues t → s'.isLive t = false

/-- The rule for a request of a client to whom no token can be issued. -/
structure Barred (name : KeyName) (s : Remote) (l : List Call) (x : Except Error Response) (s' : Remote) : Prop where
  /-- A token is asked for once, and that is all. -/
  calls : l.map (fun c => (c.request, c.token)) = [(tokenRequest name, none)]
  /-- The refusal is reported: the name is not known, or no token fits the key. -/
  outcome : x = .error (tokenRefusal name (if s.key? name.text = none then 404 else 500))
  /-- The remote has counted the request for a token. -/
  tokenRequests : s'.tokenRequests = s.tokenRequests + 1
  /-- It has seen none that needs one. -/
  authenticatedRequests : s'.authenticatedRequests = s.authenticatedRequests
  /-- Objects, keys, tokens and refusals to come are as before. -/
  unchanged : s'.objects = s.objects ∧ s'.keys = s.keys ∧ s'.tokens = s.tokens ∧ s'.rejectNext = s.rejectNext

/-! ### Enrolled clients -/

/-- Where no more than one refusal is due, what the send comes to is what serving the request gives, and then none is. -/
theorem run_send_of_le (h : s.Enrolled a.keyName k) (hkey : a.keyOn m = .ok k) (hr : ¬ AsksToken r) (hreject : s.rejectNext ≤ 1) :
    (Op.run transport (a.send r) m s).1 = conclude (judge r (.ok (s.serve r).1)) ∧
      Keeps (s.serve r).2 (Op.run transport (a.send r) m s).2.2 ∧ (Op.run transport (a.send r) m s).2.2.rejectNext = 0 := by
  obtain ⟨l, s', hkeeps, hzero, hrun⟩ := runs_send_of_le h hkey hr hreject
  obtain ⟨hanswer, hserved⟩ := hkeeps.serve r
  rw [hrun.run_eq, hanswer]
  exact ⟨rfl, hserved, (serve_frame s' r).2.trans hzero⟩

/-- A remote that refuses one request and one that refuses none make the same of what is sent. -/
theorem run_send_of_one (h : s.Enrolled a.keyName k) (hkey : a.keyOn m = .ok k) (hr : ¬ AsksToken r) (hone : s.rejectNext = 1) :
    (Op.run transport (a.send r) m s).1 = (Op.run transport (a.send r) m { s with rejectNext := 0 }).1 ∧
      Keeps (Op.run transport (a.send r) m { s with rejectNext := 0 }).2.2 (Op.run transport (a.send r) m s).2.2 := by
  have hcalm : Keeps { s with rejectNext := 0 } s := ⟨rfl, rfl, rfl, rfl, rfl⟩
  obtain ⟨hanswer, hkeeps, -⟩ := run_send_of_le h hkey hr (hone ▸ UInt32.le_refl _)
  obtain ⟨hanswer₀, hkeeps₀, -⟩ := run_send_of_le (h.of_keeps hcalm.symm) hkey hr (by decide : (0 : UInt32) ≤ 1)
  obtain ⟨hsame, hserve⟩ := hcalm.serve r
  rw [hanswer, hanswer₀, hsame]
  exact ⟨rfl, (hkeeps₀.symm.trans hserve).trans hkeeps⟩

/-- Two refusals are met, and end the exchange. -/
theorem run_send_of_two_le (h : s.Enrolled a.keyName k) (hkey : a.keyOn m = .ok k) (hr : ¬ AsksToken r) (htwo : 2 ≤ s.rejectNext) :
    (Op.run transport (a.send r) m s).1 = .error (.authExhausted 2) ∧ Keeps s (Op.run transport (a.send r) m s).2.2 ∧
      (Op.run transport (a.send r) m s).2.2.rejectNext = s.rejectNext - 2 := by
  have hpos : 0 < s.rejectNext := by grind
  have hrefusals : (s.reaction r).2.rejectNext = s.rejectNext - 1 := by rw [rejectNext_reaction, if_pos hpos]
  have hpos' : 0 < (s.reaction r).2.rejectNext := by
    rw [hrefusals]
    grind
  obtain ⟨ciphertext, ciphertext', hrun⟩ := runs_send_of_pos h hkey hr hpos
  rw [hrun.run_eq]
  refine ⟨?_, (keeps_reaction hpos).trans (keeps_reaction hpos'), ?_⟩
  · rw [reaction_of_pos hpos']
    rfl
  · rw [rejectNext_reaction, if_pos hpos', hrefusals]
    grind

/-- The calls of a send, as many times as there are attempts, are counted and spend their tokens. -/
theorem calls_send_of_enrolled (h : s.Enrolled a.keyName k) (hkey : a.keyOn m = .ok k) (hr : ¬ AsksToken r) :
    ∃ l x s', Runs transport (a.send r) m s l x m s' ∧ s.called l = s' ∧ s.Spends l ∧
      l.map (fun c => (c.request, c.token.isSome)) =
        (List.replicate s.attempts [(tokenRequest a.keyName, false), (r, true)]).flatten ∧
      s'.tokenRequests = s.tokenRequests + UInt32.ofNat s.attempts ∧
      s'.authenticatedRequests = s.authenticatedRequests + UInt32.ofNat s.attempts := by
  obtain ⟨htokens, hauthenticated⟩ := counts_reaction s r
  by_cases hzero : s.rejectNext = 0
  · obtain ⟨ciphertext, hrun⟩ := runs_send_of_zero h hkey hr hzero
    have hattempts : s.attempts = 1 := if_pos hzero
    rw [hattempts]
    exact ⟨_, _, _, hrun, called_attempt h hr ciphertext, spends_attempt s a.keyName hr ciphertext, rfl, htokens, hauthenticated⟩
  · have hpos := UInt32.pos_iff_ne_zero.mpr hzero
    -- the second attempt finds the client still enrolled
    have h' := h.of_keeps (keeps_reaction (r := r) hpos)
    obtain ⟨ciphertext, ciphertext', hrun⟩ := runs_send_of_pos h hkey hr hpos
    obtain ⟨htokens', hauthenticated'⟩ := counts_reaction (s.reaction r).2 r
    have hattempts : s.attempts = 2 := if_neg hzero
    have hcalled := called_attempt h hr ciphertext
    rw [hattempts]
    refine ⟨_, _, _, hrun, ?_, (spends_attempt s a.keyName hr ciphertext).append hcalled
      (spends_attempt _ a.keyName hr ciphertext'), rfl, ?_, ?_⟩
    · rw [called_append, hcalled, called_attempt h' hr]
    · rw [htokens', htokens, UInt32.add_assoc]
      rfl
    · rw [hauthenticated', hauthenticated, UInt32.add_assoc]
      rfl

theorem absorbs_of_enrolled (h : s.Enrolled a.keyName k) (hkey : a.keyOn m = .ok k) (hr : ¬ AsksToken r) :
    Absorbs a m s r (Op.calls transport (a.send r) m s) (Op.run transport (a.send r) m s).1
      (Op.run transport (a.send r) m s).2.2 := by
  obtain ⟨l, x, s', hrun, rfl, hspends, hcalls, htokens, hauthenticated⟩ := calls_send_of_enrolled h hkey hr
  have hserved := run_send_of_le (s := s) h hkey hr
  have habsorbed := run_send_of_one (s := s) h hkey hr
  have hexhausted := run_send_of_two_le (s := s) h hkey hr
  rw [hrun.run_eq] at hserved habsorbed hexhausted ⊢
  rw [hrun.calls_eq]
  exact {
    calls := hcalls
    tokenRequests := htokens
    authenticatedRequests := hauthenticated
    served := fun hle =>
      have ⟨hanswer, hkeeps, hzero⟩ := hserved hle
      ⟨hanswer, hkeeps.objects, hkeeps.keys, hzero⟩
    absorbed := fun hone =>
      have ⟨hanswer, hkeeps⟩ := habsorbed hone
      ⟨hanswer, hkeeps.objects, hkeeps.keys⟩
    exhausted := fun htwo =>
      have ⟨hanswer, hkeeps, hrefusals⟩ := hexhausted htwo
      ⟨hanswer, hkeeps.objects, hkeeps.keys, hrefusals⟩
    spent := hspends }

/-! ### Clients to whom no token can be issued -/

/-- No token is issued under a name that is not registered, or whose key is too small for one. -/
theorem execute_tokenRequest_of_barred (h : ∀ k, s.key? name.text = some k → k.size < 166) :
    ∃ response entropy, response.status = (if s.key? name.text = none then 404 else 500) ∧
      s.execute (tokenRequest name) none = (response, { s with tokenRequests := s.tokenRequests + 1, entropy }) := by
  have hkey' : Remote.key? { s with tokenRequests := s.tokenRequests + 1 } name.text = s.key? name.text := rfl
  rw [execute_of_asksToken (asksToken_tokenRequest name), issueToken]
  simp only [fields?_tokenRequest, hkey']
  cases hk : s.key? name.text with
  | none => exact ⟨_, _, rfl, rfl⟩
  | some k =>
    have hlength := Uuid.length_hyphenated (s.entropy.length_peek 16)
    have hsize := h k hk
    obtain ⟨hfits, -⟩ | ⟨-, what, herror⟩ := BearerToken.encrypt_cases k ((s.entropy.skip 16).peek BearerToken.seedSize)
      (utf8 (Uuid.hyphenated (s.entropy.peek 16)))
    · omega
    · simp only [herror]
      exact ⟨_, _, rfl, rfl⟩

theorem barred (a : Credentials) (m : Machine) (r : Request) (h : ∀ k, s.key? a.keyName.text = some k → k.size < 166) :
    Barred a.keyName s (Op.calls transport (a.send r) m s) (Op.run transport (a.send r) m s).1
      (Op.run transport (a.send r) m s).2.2 := by
  obtain ⟨response, entropy, hstatus, hexecute⟩ := execute_tokenRequest_of_barred h
  have hcall : transport (tokenRequest a.keyName) none s =
      (.ok response, { s with tokenRequests := s.tokenRequests + 1, entropy }) := by
    rw [transport, hexecute]
  have hrefused : response.isSuccess = false := by
    rw [Response.isSuccess, hstatus]
    split <;> rfl
  have htoken := runs_requestToken a m hcall
  rw [receive_of_refused hrefused, hstatus] at htoken
  have hrun := runs_send_of_attempt (htoken.bind_error _ : Runs transport (a.attempt r) m s _ _ m _) (by simp)
  rw [hrun.run_eq, hrun.calls_eq]
  exact ⟨rfl, rfl, rfl, rfl, rfl, rfl, rfl, rfl⟩

/-! ### Both kinds of clients -/

/-- **A rotation is absorbed**: whatever state a remote is in, a request that an enrolled client sends obeys the one rule, and
what is sent by a client to whom no token can be issued obeys the other. -/
theorem send_absorbs (a : Credentials) (m : Machine) (s : Remote) (r : Request) :
    (∀ k, a.keyOn m = .ok k → s.Enrolled a.keyName k → ¬ AsksToken r →
      Absorbs a m s r (Op.calls transport (a.send r) m s) (Op.run transport (a.send r) m s).1
        (Op.run transport (a.send r) m s).2.2) ∧
    ((∀ k, s.key? a.keyName.text = some k → k.size < 166) →
      Barred a.keyName s (Op.calls transport (a.send r) m s) (Op.run transport (a.send r) m s).1
        (Op.run transport (a.send r) m s).2.2) :=
  ⟨fun _ hkey h hr => absorbs_of_enrolled h hkey hr, barred a m r⟩

/-- The client on the laptop. -/
def laptopCredentials : Credentials := ⟨Exchange.laptopName, "private"⟩

/-- A request that uploads one byte. -/
def memo : Request := .post objectsPath [1]

/-- The office, about to refuse a request. -/
def rotatedOffice : Remote := { Exchange.office with rejectNext := 1 }

/-- An office where nobody is registered. -/
def emptyOffice : Remote := { Exchange.office with keys := [] }

theorem keyOn_laptop : laptopCredentials.keyOn Exchange.laptop = .ok Exchange.mersenneKey := by
  obtain ⟨path, text, hpath, htext, hread⟩ := Exchange.equipped_laptop.privateKey
  cases hpath
  exact KeyFile.outcome_loadPrivate Exchange.equipped_laptop.reliable htext hread

theorem enrolled_rotatedOffice : rotatedOffice.Enrolled laptopCredentials.keyName Exchange.mersenneKey :=
  Exchange.enrolled_office.of_key? rfl

/-- An upload is stored at the second attempt, and none is sent where the name is not known. -/
theorem send_absorbs_office :
    (laptopCredentials.keyOn Exchange.laptop = .ok Exchange.mersenneKey ∧
      rotatedOffice.Enrolled laptopCredentials.keyName Exchange.mersenneKey ∧ ¬ AsksToken memo ∧
      (Op.run transport (laptopCredentials.send memo) Exchange.laptop rotatedOffice).1 =
        .ok (reply 200 "obj-1") ∧
      (Op.run transport (laptopCredentials.send memo) Exchange.laptop rotatedOffice).2.2.objects =
        [("obj-1", [1])] ∧
      (Op.run transport (laptopCredentials.send memo) Exchange.laptop rotatedOffice).2.2.tokenRequests = 2) ∧
    (∀ k, emptyOffice.key? laptopCredentials.keyName.text = some k → k.size < 166) ∧
      (Op.run transport (laptopCredentials.send memo) Exchange.laptop emptyOffice).1 =
        .error (tokenRefusal Exchange.laptopName 404) := by
  have hr : ¬ AsksToken memo := by decide
  have hunknown : ∀ k, emptyOffice.key? laptopCredentials.keyName.text = some k → k.size < 166 := fun k hk => by cases hk
  have habsorbs := (send_absorbs laptopCredentials Exchange.laptop rotatedOffice memo).1 Exchange.mersenneKey
    keyOn_laptop enrolled_rotatedOffice hr
  have hbarred := (send_absorbs laptopCredentials Exchange.laptop emptyOffice memo).2 hunknown
  obtain ⟨hanswer, hobjects, -, -⟩ := habsorbs.served (by decide)
  exact ⟨⟨keyOn_laptop, enrolled_rotatedOffice, hr, hanswer, hobjects, habsorbs.tokenRequests⟩, hunknown, hbarred.outcome⟩

end SealedDrop.Remote
