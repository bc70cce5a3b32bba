import SealedDrop.Credentials
import SealedDrop.Proofs.Secret
import SealedDrop.Proofs.Text

/-!
# The exchange of an authenticated request

An authenticated request is a dialogue with a remote that may answer anything and may break off at any call. This
module proves that the dialogue is bounded, that no token is used twice, and how each way for it to end is reported.

## The model

* `Attempt` lists what one attempt may look like: it loses the request for a token, or is refused one, or cannot read
  the one it gets, or sends the request with it. `judge` says what the answer to the request means.
* `Bounded` is the rule for a whole exchange, stated over its calls alone: which calls there may be, where each token
  comes from, when another call follows, and which outcome belongs to which ending. `Ending` lists all of these.

## What is proved

* `runs_attempt` — an attempt is one of those that `Attempt` lists.
* `send_bounded` — every exchange obeys `Bounded`, whatever the transport does.
-/

namespace SealedDrop.Credentials

open Op

/-! ### The request for a token -/

/-- A text whose characters all stand for themselves is quoted as it is. -/
theorem quote_of_plain {s : String} (h : ∀ c ∈ s.toList, Json.escapeChar c = [c]) :
    Json.quote s = "\"" ++ s ++ "\"" := by
  have hflat : s.toList.flatMap Json.escapeChar = s.toList := by
    rw [List.flatMap_congr h, List.flatMap_singleton']
  unfold Json.quote
  rw [hflat]
  apply String.toList_inj.mp
  simp

/-- The characters of a key name stand for themselves in JSON. -/
theorem escapeChar_of_isLater {c : Char} (h : KeyName.isLater c = true) : Json.escapeChar c = [c] := by
  have hne : ∀ d : Char, KeyName.isLater d = false → c ≠ d := fun _ => KeyName.ne_of_isLater h
  have hlow : ¬ c.toNat < 0x20 := by
    have := KeyName.toNat_of_isLater h
    omega
  unfold Json.escapeChar
  rw [if_neg (hne _ (by decide)), if_neg (hne _ (by decide)), if_neg (hne _ (by decide)), if_neg (hne _ (by decide)),
    if_neg (hne _ (by decide)), if_neg (hne _ (by decide)), if_neg (hne _ (by decide)), if_neg hlow]

/-- Every character of a key name is one that may stand after the first place. -/
theorem isLater_of_mem (name : KeyName) {c : Char} (h : c ∈ name.text.toList) : KeyName.isLater c = true := by
  have hallowed := name.allowed
  cases hl : name.text.toList with
  | nil =>
    rw [hl] at hallowed
    exact hallowed.elim
  | cons d rest =>
    rw [hl] at hallowed h
    obtain ⟨hd, hrest, -⟩ := hallowed
    rcases List.mem_cons.mp h with rfl | hc
    · unfold KeyName.isLater
      rw [hd]
      rfl
    · exact List.all_eq_true.mp hrest c hc

/-- The request for a token carries the name as a JSON object with one member. -/
theorem tokenRequest_eq (name : KeyName) :
    tokenRequest name =
      ⟨.post, "/token", some .json, utf8 ("\x7b\"keyName\":\"" ++ name.text ++ "\"\x7d")⟩ := by
  have hname : Json.quote name.text = "\"" ++ name.text ++ "\"" :=
    quote_of_plain fun c hc => escapeChar_of_isLater (isLater_of_mem name hc)
  have hkey : Json.quote "keyName" = "\"keyName\"" := by decide
  unfold tokenRequest Request.postJson
  congr 2
  apply String.toList_inj.mp
  simp [Json.Value.text, Json.Value.memberTexts, hname, hkey]

/-! ### One attempt -/

/-- The private key as it is found on a machine. -/
abbrev keyOn (a : Credentials) (m : Machine) : Except Error Rsa.PrivateKey :=
  (KeyFile.loadPrivate a.privateKey).outcome m

/-- The token in the answer to a request for one, under the private key if that could be loaded. -/
def openToken (key : Except Error Rsa.PrivateKey) (body : Bytes) : Except Error BearerToken :=
  key.bind fun k => BearerToken.decrypt k body

/-- The complaint that no token was issued. -/
def tokenRefusal (name : KeyName) (status : Nat) : Error :=
  .authRequest ("Token endpoint answered status " ++ toString status ++ " for key '" ++ name.text ++ "'")

/-- What the answer to a request for a token comes to. -/
def receive (name : KeyName) (key : Except Error Rsa.PrivateKey) : Except Error Response → Except Error BearerToken
  | .error e => .error e
  | .ok response =>
    if response.isSuccess then openToken key response.body else .error (tokenRefusal name response.status)

theorem receive_of_success {name : KeyName} {key : Except Error Rsa.PrivateKey} {response : Response}
    (h : response.isSuccess = true) : receive name key (.ok response) = openToken key response.body :=
  if_pos h

theorem receive_of_refused {name : KeyName} {key : Except Error Rsa.PrivateKey} {response : Response}
    (h : response.isSuccess = false) : receive name key (.ok response) = .error (tokenRefusal name response.status) :=
  if_neg (by simp [h])

/-- What the answer to a request with a token means: a response, none because the token was refused, or a failure. -/
def judge (r : Request) : Except Error Response → Except Error (Option Response)
  | .error e => .error e
  | .ok response =>
    if response.isSuccess then .ok (some response)
    else if response.isUnauthorized then .ok none
    else .error (.requestFailed (some response.status) r.summary)

/-- The calls of one attempt and its outcome. -/
inductive Attempt (name : KeyName) (key : Except Error Rsa.PrivateKey) (r : Request) :
    List Call → Except Error (Option Response) → Prop where
  /-- No token is obtained: the transport fails, none is issued, or the one issued cannot be read. -/
  | barred {answer : Except Error Response} {e : Error} (h : receive name key answer = .error e) :
    Attempt name key r [⟨tokenRequest name, none, answer⟩] (.error e)
  /-- The request is sent with the token that was issued just before. -/
  | sent {answer : Except Error Response} {token : BearerToken} (h : receive name key answer = .ok token)
    (answer' : Except Error Response) :
    Attempt name key r [⟨tokenRequest name, none, answer⟩, ⟨r, some token, answer'⟩] (judge r answer')

section Runs

variable {σ : Type} {t : Transport σ} {s s₁ : σ} {answer : Except Error Response}

theorem runs_openToken (t : Transport σ) (a : Credentials) (body : Bytes) (m : Machine) (s : σ) :
    Runs t (KeyFile.loadPrivate a.privateKey >>= fun k => Op.check (BearerToken.decrypt k body)) m s []
      (openToken (a.keyOn m) body) m s := by
  have hload := (KeyFile.observes_loadPrivate a.privateKey).runs t m s
  unfold openToken keyOn
  cases hkey : (KeyFile.loadPrivate a.privateKey).outcome m with
  | error e =>
    rw [hkey] at hload
    exact hload.bind_error _
  | ok k =>
    rw [hkey] at hload
    exact hload.silent_bind (Runs.check _)

theorem runs_requestToken (a : Credentials) (m : Machine) (h : t (tokenRequest a.keyName) none s = (answer, s₁)) :
    Runs t a.requestToken m s [⟨tokenRequest a.keyName, none, answer⟩] (receive a.keyName (a.keyOn m) answer) m s₁ := by
  have hcall := Runs.call (m := m) h
  unfold requestToken
  cases answer with
  | error e => exact hcall.bind_error _
  | ok response =>
    refine hcall.bind_silent ?_
    by_cases hs : response.isSuccess = true
    · rw [if_neg (not_not_intro hs), receive_of_success hs]
      exact runs_openToken t a response.body m s₁
    · rw [if_pos hs, receive_of_refused (by simpa using hs)]
      exact (Runs.throw _).bind_error _

/-- What an attempt does with its token. -/
theorem runs_judge (r : Request) (m : Machine) {token : BearerToken} (h : t r (some token) s = (answer, s₁)) :
    Runs t
      (Op.call r (some token) >>= fun response =>
        if response.isSuccess then pure (some response)
        else if response.isUnauthorized then pure none
        else throw (.requestFailed (some response.status) r.summary))
      m s [⟨r, some token, answer⟩] (judge r answer) m s₁ := by
  have hcall := Runs.call (m := m) h
  unfold judge
  cases answer with
  | error e => exact hcall.bind_error _
  | ok response =>
    refine hcall.bind_silent ?_
    by_cases hs : response.isSuccess = true
    · simp only [hs, if_true]
      exact Runs.pure _
    · by_cases hu : response.isUnauthorized = true
      · simp only [hs, hu, if_true]
        exact Runs.pure _
      · simp only [hs, hu]
        exact Runs.throw _

/-- An attempt is one of those listed, and leaves the machine as it was. -/
theorem runs_attempt (t : Transport σ) (a : Credentials) (r : Request) (m : Machine) (s : σ) :
    ∃ l x s', Runs t (a.attempt r) m s l x m s' ∧ Attempt a.keyName (a.keyOn m) r l x := by
  rcases hanswer : t (tokenRequest a.keyName) none s with ⟨answer, s₁⟩
  have htoken := runs_requestToken a m hanswer
  unfold attempt
  cases hx : receive a.keyName (a.keyOn m) answer with
  | error e =>
    rw [hx] at htoken
    exact ⟨_, _, _, htoken.bind_error _, .barred hx⟩
  | ok token =>
    rw [hx] at htoken
    rcases hanswer' : t r (some token) s₁ with ⟨answer', s₂⟩
    exact ⟨_, _, _, htoken.bind (runs_judge r m hanswer'), .sent hx answer'⟩

end Runs

/-! ### What answers mean -/

section Answers

variable {name : KeyName} {key : Except Error Rsa.PrivateKey} {r : Request}

theorem isSuccess_iff (response : Response) :
    response.isSuccess = true ↔ 200 ≤ response.status ∧ response.status ≤ 299 := by
  unfold Response.isSuccess
  rw [Bool.and_eq_true, decide_eq_true_eq, decide_eq_true_eq]
  omega

theorem isUnauthorized_iff (response : Response) : response.isUnauthorized = true ↔ response.status = 401 :=
  beq_iff_eq

theorem judge_ok (r : Request) (response : Response) :
    judge r (.ok response) =
      if response.isSuccess then .ok (some response)
      else if response.isUnauthorized then .ok none
      else .error (.requestFailed (some response.status) r.summary) := rfl

theorem judge_eq_some_iff {answer : Except Error Response} {response : Response} :
    judge r answer = .ok (some response) ↔ answer = .ok response ∧ response.isSuccess = true := by
  cases answer with
  | error e => simp [judge]
  | ok response' =>
    rw [judge_ok]
    by_cases hs : response'.isSuccess = true
    · simp only [hs, if_true, Except.ok.injEq, Option.some.injEq]
      constructor
      · rintro rfl
        exact ⟨rfl, hs⟩
      · exact fun h => h.1
    · rw [if_neg hs, Except.ok.injEq]
      constructor
      · intro h
        by_cases hu : response'.isUnauthorized = true
        · simp [hu] at h
        · simp [hu] at h
      · rintro ⟨rfl, hs'⟩
        exact absurd hs' hs

theorem judge_eq_none_iff {answer : Except Error Response} :
    judge r answer = .ok none ↔ ∃ response, answer = .ok response ∧ response.status = 401 := by
  cases answer with
  | error e => simp [judge]
  | ok response =>
    rw [judge_ok]
    simp only [Except.ok.injEq, exists_eq_left']
    by_cases hs : response.isSuccess = true
    · have := (isSuccess_iff response).mp hs
      rw [if_pos hs, Except.ok.injEq]
      simp only [reduceCtorEq, false_iff]
      omega
    · by_cases hu : response.isUnauthorized = true
      · rw [if_neg hs, if_pos hu]
        simpa using (isUnauthorized_iff response).mp hu
      · rw [if_neg hs, if_neg hu]
        simpa using mt (isUnauthorized_iff response).mpr hu

theorem receive_eq_ok_iff {answer : Except Error Response} {token : BearerToken} :
    receive name key answer = .ok token ↔
      ∃ response k, answer = .ok response ∧ response.isSuccess = true ∧ key = .ok k ∧
        BearerToken.decrypt k response.body = .ok token := by
  cases answer with
  | error e => simp [receive]
  | ok response =>
    by_cases hs : response.isSuccess = true
    · rw [receive_of_success hs]
      cases key with
      | error e => simp [openToken, Except.bind]
      | ok k => simp [openToken, Except.bind, hs]
    · rw [receive_of_refused (by simpa using hs)]
      simp [hs]

/-- A token is obtained just if one is issued that can be read. -/
theorem exists_receive_iff {answer : Except Error Response} : (∃ token, receive name key answer = .ok token) ↔
    ∃ response k token, answer = .ok response ∧ (200 ≤ response.status ∧ response.status ≤ 299) ∧ key = .ok k ∧
      BearerToken.decrypt k response.body = .ok token := by
  constructor
  · rintro ⟨token, h⟩
    obtain ⟨response, k, ha, hs, hk, hd⟩ := receive_eq_ok_iff.mp h
    exact ⟨response, k, token, ha, (isSuccess_iff response).mp hs, hk, hd⟩
  · rintro ⟨response, k, token, ha, hs, hk, hd⟩
    exact ⟨token, receive_eq_ok_iff.mpr ⟨response, k, ha, (isSuccess_iff response).mpr hs, hk, hd⟩⟩

/-- A token that cannot be read is a fault of the key or of the token. -/
theorem openToken_eq_error {body : Bytes} {e : Error} (hkey : ∀ e, key = .error e → e.IsKeyFault)
    (h : openToken key body = .error e) :
    (∃ what, e = .keyAccess what) ∨ (∃ what, e = .crypto what) ∨ ∃ what, e = .tokenDecrypt what := by
  cases key with
  | error e' =>
    cases h
    rcases hkey e rfl with h | h
    · exact .inl h
    · exact .inr (.inl h)
  | ok k =>
    right
    right
    exact BearerToken.tokenDecrypt_of_decrypt h

end Answers

/-! ### The whole exchange -/

/-- The outcome of an exchange whose last attempt came to this. -/
def conclude : Except Error (Option Response) → Except Error Response
  | .error e => .error e
  | .ok none => .error (.authExhausted 2)
  | .ok (some response) => .ok response

/-- The calls of an exchange, by how many there are, and its outcome. -/
inductive Exchanged (name : KeyName) (key : Except Error Rsa.PrivateKey) (r : Request) :
    List Call → Except Error Response → Prop where
  /-- No token is obtained. -/
  | one {answer₁ : Except Error Response} {e : Error} (h₁ : receive name key answer₁ = .error e) :
    Exchanged name key r [⟨tokenRequest name, none, answer₁⟩] (.error e)
  /-- The request is answered otherwise than by refusing its token. -/
  | two {answer₁ answer₂ : Except Error Response} {token₁ : BearerToken}
    (h₁ : receive name key answer₁ = .ok token₁) (h₂ : judge r answer₂ ≠ .ok none) :
    Exchanged name key r [⟨tokenRequest name, none, answer₁⟩, ⟨r, some token₁, answer₂⟩]
      (conclude (judge r answer₂))
  /-- The token is refused, and no other is obtained. -/
  | three {answer₁ answer₂ answer₃ : Except Error Response} {token₁ : BearerToken} {e : Error}
    (h₁ : receive name key answer₁ = .ok token₁) (h₂ : judge r answer₂ = .ok none)
    (h₃ : receive name key answer₃ = .error e) :
    Exchanged name key r
      [⟨tokenRequest name, none, answer₁⟩, ⟨r, some token₁, answer₂⟩, ⟨tokenRequest name, none, answer₃⟩]
      (.error e)
  /-- The token is refused, and the request is sent with another one. -/
  | four {answer₁ answer₂ answer₃ : Except Error Response} {token₁ token₂ : BearerToken}
    (h₁ : receive name key answer₁ = .ok token₁) (h₂ : judge r answer₂ = .ok none)
    (h₃ : receive name key answer₃ = .ok token₂) (answer₄ : Except Error Response) :
    Exchanged name key r
      [⟨tokenRequest name, none, answer₁⟩, ⟨r, some token₁, answer₂⟩, ⟨tokenRequest name, none, answer₃⟩,
        ⟨r, some token₂, answer₄⟩]
      (conclude (judge r answer₄))

section Exchange

variable {name : KeyName} {key : Except Error Rsa.PrivateKey} {r : Request} {l l' : List Call}
  {y : Except Error (Option Response)} {x : Except Error Response} {c : Call}

/-- An attempt whose token is not refused is the whole exchange. -/
theorem Attempt.exchanged (h : Attempt name key r l y) (hy : y ≠ .ok none) : Exchanged name key r l (conclude y) := by
  cases h with
  | barred h => exact .one h
  | sent h answer => exact .two h hy

/-- After a refused token the second attempt decides. -/
theorem Attempt.exchanged_append (h : Attempt name key r l (.ok none)) (h' : Attempt name key r l' y) :
    Exchanged name key r (l ++ l') (conclude y) := by
  generalize hy : Except.ok none = y₁ at h
  cases h with
  | barred h => cases hy
  | sent h₁ answer₂ =>
    cases h' with
    | barred h₃ => exact .three h₁ hy.symm h₃
    | sent h₃ answer₄ => exact .four h₁ hy.symm h₃ answer₄

/-- An attempt whose token is not refused is all that is sent. -/
theorem runs_send_of_attempt {σ : Type} {t : Transport σ} {a : Credentials} {m : Machine} {s s₁ : σ}
    (h : Runs t (a.attempt r) m s l y m s₁) (hy : y ≠ .ok none) : Runs t (a.send r) m s l (conclude y) m s₁ := by
  unfold send
  rcases y with e | _ | response
  · exact h.bind_error _
  · exact absurd rfl hy
  · exact h.bind_silent (Runs.pure _)

/-- After a refused token a second attempt is made, and decides. -/
theorem runs_send_of_attempts {σ : Type} {t : Transport σ} {a : Credentials} {m : Machine} {s s₁ s₂ : σ}
    (h : Runs t (a.attempt r) m s l (.ok none) m s₁) (h' : Runs t (a.attempt r) m s₁ l' y m s₂) :
    Runs t (a.send r) m s (l ++ l') (conclude y) m s₂ := by
  unfold send
  rcases y with e | _ | response
  · exact h.bind (h'.bind_error _)
  · exact h.bind (h'.bind_silent (Runs.throw _))
  · exact h.bind (h'.bind_silent (Runs.pure _))

/-- An exchange makes one attempt, and another one if the token of the first is refused. -/
theorem runs_send {σ : Type} (t : Transport σ) (a : Credentials) (r : Request) (m : Machine) (s : σ) :
    ∃ l x s', Runs t (a.send r) m s l x m s' ∧ Exchanged a.keyName (a.keyOn m) r l x := by
  obtain ⟨l, y, s₁, hrun, hattempt⟩ := runs_attempt t a r m s
  by_cases hy : y = .ok none
  · subst hy
    obtain ⟨l', y', s₂, hrun', hattempt'⟩ := runs_attempt t a r m s₁
    exact ⟨_, _, _, runs_send_of_attempts hrun hrun', hattempt.exchanged_append hattempt'⟩
  · exact ⟨_, _, _, runs_send_of_attempt hrun hy, hattempt.exchanged hy⟩

/-! ### What the last call says -/

/-- What a call comes to, seen on its own: none if the exchange goes on after it or ends there without a response. -/
def verdict (name : KeyName) (key : Except Error Rsa.PrivateKey) (r : Request) (c : Call) :
    Except Error (Option Response) :=
  match c.token with
  | none => (receive name key c.answer).map fun _ => none
  | some _ => judge r c.answer

theorem verdict_of_receive (request r : Request) {answer : Except Error Response} {token : BearerToken}
    (h : receive name key answer = .ok token) : verdict name key r ⟨request, none, answer⟩ = .ok none := by
  change (receive name key answer).map _ = _
  rw [h]
  rfl

theorem verdict_of_receive_error (request r : Request) {answer : Except Error Response} {e : Error}
    (h : receive name key answer = .error e) : verdict name key r ⟨request, none, answer⟩ = .error e := by
  change (receive name key answer).map _ = _
  rw [h]
  rfl

/-- An exchange goes on after every call but the last, whose verdict decides the outcome. -/
theorem Exchanged.verdict_last (h : Exchanged name key r l x) :
    ∃ l₀ c, l = l₀ ++ [c] ∧ (∀ c' ∈ l₀, verdict name key r c' = .ok none) ∧
      x = conclude (verdict name key r c) := by
  cases h with
  | one h₁ => exact ⟨[], _, rfl, by simp, by rw [verdict_of_receive_error _ _ h₁]; rfl⟩
  | two h₁ h₂ => exact ⟨[_], _, rfl, by simp [verdict_of_receive _ _ h₁], rfl⟩
  | three h₁ h₂ h₃ =>
    refine ⟨[_, _], _, rfl, ?_, by rw [verdict_of_receive_error _ _ h₃]; rfl⟩
    simp only [List.mem_cons, List.not_mem_nil, or_false, forall_eq_or_imp, forall_eq]
    exact ⟨verdict_of_receive _ _ h₁, h₂⟩
  | four h₁ h₂ h₃ answer₄ =>
    refine ⟨[_, _, _], _, rfl, ?_, rfl⟩
    simp only [List.mem_cons, List.not_mem_nil, or_false, forall_eq_or_imp, forall_eq]
    exact ⟨verdict_of_receive _ _ h₁, h₂, verdict_of_receive _ _ h₃⟩

/-- The last call decides the outcome. -/
theorem Exchanged.eq_conclude (h : Exchanged name key r l x) (hc : l.getLast? = some c) :
    x = conclude (verdict name key r c) := by
  obtain ⟨l₀, c', rfl, -, rfl⟩ := h.verdict_last
  rw [List.getLast?_concat, Option.some.injEq] at hc
  rw [hc]

/-- A call after which the exchange does not go on is the last one. -/
theorem Exchanged.of_verdict_ne (h : Exchanged name key r l x) (hc : c ∈ l) (hv : verdict name key r c ≠ .ok none) :
    x = conclude (verdict name key r c) ∧ l.getLast? = some c := by
  obtain ⟨l₀, c', rfl, hpassed, rfl⟩ := h.verdict_last
  rcases List.mem_append.mp hc with hc | hc
  · exact absurd (hpassed c hc) hv
  · obtain rfl := List.mem_singleton.mp hc
    exact ⟨rfl, List.getLast?_concat⟩

/-! ### Tokens and their number -/

/-- The calls are a beginning of: a request for a token, the request with a token, and both once more. -/
theorem Exchanged.pattern (h : Exchanged name key r l x) :
    l ≠ [] ∧ ∃ token₁ token₂, l.map (fun c => (c.request, c.token)) <+:
      [(tokenRequest name, none), (r, some token₁), (tokenRequest name, none), (r, some token₂)] := by
  cases h with
  | one h₁ => exact ⟨by simp, ⟨""⟩, ⟨""⟩, by simp⟩
  | @two _ _ token₁ h₁ h₂ => exact ⟨by simp, token₁, ⟨""⟩, by simp⟩
  | @three _ _ _ token₁ _ h₁ h₂ h₃ => exact ⟨by simp, token₁, ⟨""⟩, by simp⟩
  | @four _ _ _ token₁ token₂ h₁ h₂ h₃ answer₄ => exact ⟨by simp, token₁, token₂, by simp⟩

/-- Each token is the one in the answer to the call before it. -/
theorem Exchanged.fresh (h : Exchanged name key r l x) {i : Nat} {token : BearerToken} (hc : l[i]? = some c)
    (ht : c.token = some token) :
    ∃ j c' response k, i = j + 1 ∧ l[j]? = some c' ∧ c'.answer = .ok response ∧ key = .ok k ∧
      BearerToken.decrypt k response.body = .ok token := by
  have hopen : ∀ {j answer}, receive name key answer = .ok token → i = j + 1 →
      l[j]? = some ⟨tokenRequest name, none, answer⟩ →
      ∃ j c' response k, i = j + 1 ∧ l[j]? = some c' ∧ c'.answer = .ok response ∧ key = .ok k ∧
        BearerToken.decrypt k response.body = .ok token := by
    intro j answer hr hi hj
    obtain ⟨response, k, ha, -, hk, hd⟩ := receive_eq_ok_iff.mp hr
    exact ⟨j, _, response, k, hi, hj, ha, hk, hd⟩
  cases h with
  | one h₁ =>
    rcases i with _ | i <;> cases hc
    cases ht
  | two h₁ h₂ =>
    rcases i with _ | _ | i <;> cases hc <;> cases ht
    exact hopen h₁ rfl rfl
  | three h₁ h₂ h₃ =>
    rcases i with _ | _ | _ | i <;> cases hc <;> cases ht
    exact hopen h₁ rfl rfl
  | four h₁ h₂ h₃ answer₄ =>
    rcases i with _ | _ | _ | _ | i <;> cases hc <;> cases ht
    · exact hopen h₁ rfl rfl
    · exact hopen h₃ rfl rfl

/-- There is a third call just if the request was answered 401 at first. -/
theorem Exchanged.three_le_iff (h : Exchanged name key r l x) :
    3 ≤ l.length ↔ ∃ c response, l[1]? = some c ∧ c.answer = .ok response ∧ response.status = 401 := by
  cases h with
  | one h₁ => simp
  | two h₁ h₂ =>
    rw [ne_eq, judge_eq_none_iff] at h₂
    simpa using h₂
  | three h₁ h₂ h₃ =>
    rw [judge_eq_none_iff] at h₂
    simpa using h₂
  | four h₁ h₂ h₃ answer₄ =>
    rw [judge_eq_none_iff] at h₂
    simpa using h₂

/-- A request for a token is followed by another call just if its answer brings a token that can be read. -/
theorem Exchanged.lt_length_iff (h : Exchanged name key r l x) {i : Nat} (hc : l[i]? = some c) (ht : c.token = none) :
    i + 1 < l.length ↔ ∃ token, receive name key c.answer = .ok token := by
  cases h with
  | one h₁ =>
    rcases i with _ | i <;> cases hc
    simp [h₁]
  | two h₁ h₂ =>
    rcases i with _ | _ | i <;> cases hc <;> cases ht
    simp [h₁]
  | three h₁ h₂ h₃ =>
    rcases i with _ | _ | _ | i <;> cases hc <;> cases ht
    · simp [h₁]
    · simp [h₃]
  | four h₁ h₂ h₃ answer₄ =>
    rcases i with _ | _ | _ | _ | i <;> cases hc <;> cases ht
    · simp [h₁]
    · simp [h₃]

/-! ### Endings -/

/-- An exchange succeeds just if its last call is the request, answered with success, and then with this answer. -/
theorem Exchanged.eq_ok_iff (h : Exchanged name key r l x) (response : Response) :
    x = .ok response ↔
      ∃ c, l.getLast? = some c ∧ c.token ≠ none ∧ c.answer = .ok response ∧ response.isSuccess = true := by
  constructor
  · rintro rfl
    obtain ⟨l₀, c, rfl, -, hx⟩ := h.verdict_last
    refine ⟨c, List.getLast?_concat, ?_⟩
    obtain ⟨request, token, answer⟩ := c
    cases token with
    | none =>
      rcases hr : receive name key answer with e | token
      · rw [verdict_of_receive_error _ _ hr] at hx
        cases hx
      · rw [verdict_of_receive _ _ hr] at hx
        cases hx
    | some token =>
      refine ⟨by simp, ?_⟩
      rw [← judge_eq_some_iff (r := r)]
      change _ = conclude (judge r answer) at hx
      rcases hj : judge r answer with e | _ | response'
      · rw [hj] at hx
        cases hx
      · rw [hj] at hx
        cases hx
      · rw [hj] at hx
        cases hx
        rfl
  · rintro ⟨⟨request, token, answer⟩, hlast, htoken, ha, hs⟩
    have hx := h.eq_conclude hlast
    cases token with
    | none => exact absurd rfl htoken
    | some token =>
      change x = conclude (judge r answer) at hx
      rw [judge_eq_some_iff.mpr ⟨ha, hs⟩] at hx
      exact hx

/-- Only the request itself is sent with a token. -/
theorem Exchanged.request_eq (h : Exchanged name key r l x) (hc : c ∈ l) (ht : c.token ≠ none) : c.request = r := by
  obtain ⟨-, token₁, token₂, hpattern⟩ := h.pattern
  have hmem := hpattern.subset (List.mem_map_of_mem hc)
  simp only [List.mem_cons, Prod.mk.injEq, List.not_mem_nil, or_false] at hmem
  rcases hmem with ⟨-, h⟩ | ⟨h, -⟩ | ⟨-, h⟩ | ⟨h, -⟩
  · exact absurd h ht
  · exact h
  · exact absurd h ht
  · exact h

/-- The answer that the request meets success with is what the exchange gives. -/
theorem Exchanged.accepted (h : Exchanged name key r l x) (hc : c ∈ l) {response : Response} (ht : c.token ≠ none)
    (ha : c.answer = .ok response) (hs : response.isSuccess = true) : x = .ok response := by
  obtain ⟨request, token, answer⟩ := c
  cases token with
  | none => exact absurd rfl ht
  | some token =>
    have hv : verdict name key r ⟨request, some token, answer⟩ = .ok (some response) :=
      judge_eq_some_iff.mpr ⟨ha, hs⟩
    have := (h.of_verdict_ne hc (by rw [hv]; simp)).1
    rwa [hv] at this

/-- A transport that fails ends the exchange, and its failure is passed on. -/
theorem Exchanged.lost (h : Exchanged name key r l x) (hc : c ∈ l) {e : Error} (ha : c.answer = .error e) :
    x = .error e ∧ l.getLast? = some c := by
  obtain ⟨request, token, answer⟩ := c
  cases ha
  have hv : verdict name key r ⟨request, token, .error e⟩ = .error e := by cases token <;> rfl
  have := h.of_verdict_ne hc (by rw [hv]; simp)
  rwa [hv] at this

/-- Any other status than success and 401 ends the exchange. -/
theorem Exchanged.rejected (h : Exchanged name key r l x) (hc : c ∈ l) {response : Response}
    (ht : c.token ≠ none) (ha : c.answer = .ok response) (hs : response.isSuccess = false)
    (hu : response.status ≠ 401) :
    x = .error (.requestFailed (some response.status) r.summary) ∧ l.getLast? = some c := by
  obtain ⟨request, token, answer⟩ := c
  cases ha
  have hv : verdict name key r ⟨request, token, .ok response⟩ =
      .error (.requestFailed (some response.status) r.summary) := by
    cases token with
    | none => exact absurd rfl ht
    | some token =>
      change judge r (.ok response) = _
      rw [judge_ok, if_neg (by simp [hs]), if_neg (mt (isUnauthorized_iff response).mp hu)]
  have := h.of_verdict_ne hc (by rw [hv]; simp)
  rwa [hv] at this

/-- A refusal to issue a token ends the exchange. -/
theorem Exchanged.unissued (h : Exchanged name key r l x) (hc : c ∈ l) {response : Response}
    (ht : c.token = none) (ha : c.answer = .ok response) (hs : response.isSuccess = false) :
    x = .error (tokenRefusal name response.status) ∧ l.getLast? = some c := by
  obtain ⟨request, token, answer⟩ := c
  cases ha
  cases ht
  have hr : receive name key (.ok response) = .error (tokenRefusal name response.status) := receive_of_refused hs
  have hv := verdict_of_receive_error request r hr
  have := h.of_verdict_ne hc (by rw [hv]; simp)
  rwa [hv] at this

/-- A token that cannot be read ends the exchange. -/
theorem Exchanged.unread (h : Exchanged name key r l x) (hc : c ∈ l) {response : Response} {e : Error}
    (ht : c.token = none) (ha : c.answer = .ok response) (hs : response.isSuccess = true)
    (ho : openToken key response.body = .error e) : x = .error e ∧ l.getLast? = some c := by
  obtain ⟨request, token, answer⟩ := c
  cases ha
  cases ht
  have hr : receive name key (.ok response) = .error e := (receive_of_success hs).trans ho
  have hv := verdict_of_receive_error request r hr
  have := h.of_verdict_ne hc (by rw [hv]; simp)
  rwa [hv] at this

/-- No answer but a failure of the transport makes a call look like an exhausted exchange. -/
theorem answer_of_verdict_exhausted {n : Nat} (hkey : ∀ e, key = .error e → e.IsKeyFault)
    (h : verdict name key r c = .error (.authExhausted n)) : c.answer = .error (.authExhausted n) := by
  obtain ⟨request, token, answer⟩ := c
  cases answer with
  | error e =>
    cases token with
    | none =>
      cases h
      rfl
    | some token =>
      cases h
      rfl
  | ok response =>
    exfalso
    cases token with
    | some token =>
      change judge r (.ok response) = _ at h
      rw [judge_ok] at h
      split at h
      · cases h
      · split at h <;> cases h
    | none =>
      by_cases hs : response.isSuccess = true
      · rcases ho : openToken key response.body with e | token
        · rw [verdict_of_receive_error _ _ ((receive_of_success hs).trans ho)] at h
          cases h
          rcases openToken_eq_error hkey ho with ⟨_, h⟩ | ⟨_, h⟩ | ⟨_, h⟩ <;> cases h
        · rw [verdict_of_receive _ _ ((receive_of_success hs).trans ho)] at h
          cases h
      · rw [verdict_of_receive_error _ _ (receive_of_refused (by simpa using hs))] at h
        cases h

/-- An exchange is exhausted just if the request was answered 401 twice, or if the transport says so itself. -/
theorem Exchanged.eq_exhausted_iff (hkey : ∀ e, key = .error e → e.IsKeyFault) (h : Exchanged name key r l x) :
    x = .error (.authExhausted 2) ↔
      (∃ c response c' response', l[1]? = some c ∧ c.answer = .ok response ∧ response.status = 401 ∧
        l[3]? = some c' ∧ c'.answer = .ok response' ∧ response'.status = 401) ∨
      ∃ c, l.getLast? = some c ∧ c.answer = .error (.authExhausted 2) := by
  constructor
  · intro hx
    -- unless the fourth call is what ends the exchange, it is the transport that claims exhaustion
    have hlost : ∀ {c}, l.getLast? = some c → verdict name key r c = .error (.authExhausted 2) →
        ∃ c, l.getLast? = some c ∧ c.answer = .error (.authExhausted 2) :=
      fun hc hv => ⟨_, hc, answer_of_verdict_exhausted hkey hv⟩
    cases h with
    | one h₁ =>
      cases hx
      exact .inr (hlost rfl (verdict_of_receive_error _ _ h₁))
    | @two _ answer₂ _ h₁ h₂ =>
      rcases hj : judge r answer₂ with e | _ | response
      · rw [hj] at hx
        cases hx
        exact .inr (hlost rfl hj)
      · exact absurd hj h₂
      · rw [hj] at hx
        cases hx
    | three h₁ h₂ h₃ =>
      cases hx
      exact .inr (hlost rfl (verdict_of_receive_error _ _ h₃))
    | four h₁ h₂ h₃ answer₄ =>
      rcases hj : judge r answer₄ with e | _ | response
      · rw [hj] at hx
        cases hx
        exact .inr (hlost rfl hj)
      · obtain ⟨response, ha, hs⟩ := judge_eq_none_iff.mp h₂
        obtain ⟨response', ha', hs'⟩ := judge_eq_none_iff.mp hj
        exact .inl ⟨_, response, _, response', rfl, ha, hs, rfl, ha', hs'⟩
      · rw [hj] at hx
        cases hx
  · rintro (⟨c, response, c', response', -, -, -, hc, ha, hs⟩ | ⟨c, hc, ha⟩)
    · cases h with
      | one h₁ => cases hc
      | two h₁ h₂ => cases hc
      | three h₁ h₂ h₃ => cases hc
      | four h₁ h₂ h₃ answer₄ =>
        cases hc
        rw [judge_eq_none_iff.mpr ⟨response', ha, hs⟩]
        rfl
    · exact (h.lost (List.mem_of_getLast? hc) ha).1

end Exchange

/-! ### The rule -/

/-- How an exchange may end with its last call: the calls are so many, the last one is `c`, and the outcome is the last argument. -/
inductive Ending (name : KeyName) (key : Except Error Rsa.PrivateKey) (r : Request) (count : Nat) (c : Call) :
    Except Error Response → Prop where
  /-- The request is answered with success. -/
  | answered {response : Response} (ht : c.token ≠ none) (ha : c.answer = .ok response)
    (hs : 200 ≤ response.status ∧ response.status ≤ 299) : Ending name key r count c (.ok response)
  /-- Its second token is refused as well. -/
  | exhausted {response : Response} (hcount : count = 4) (ht : c.token ≠ none) (ha : c.answer = .ok response)
    (hs : response.status = 401) : Ending name key r count c (.error (.authExhausted 2))
  /-- It has another status. -/
  | rejected {response : Response} (ht : c.token ≠ none) (ha : c.answer = .ok response)
    (hs : ¬ (200 ≤ response.status ∧ response.status ≤ 299)) (hu : response.status ≠ 401) :
    Ending name key r count c (.error (.requestFailed (some response.status) r.summary))
  /-- No token is issued. -/
  | unissued {response : Response} (ht : c.token = none) (ha : c.answer = .ok response)
    (hs : ¬ (200 ≤ response.status ∧ response.status ≤ 299)) : Ending name key r count c (.error (.authRequest
      ("Token endpoint answered status " ++ toString response.status ++ " for key '" ++ name.text ++ "'")))
  /-- The token that is issued cannot be read. -/
  | unread {response : Response} {e : Error} (ht : c.token = none) (ha : c.answer = .ok response)
    (hs : 200 ≤ response.status ∧ response.status ≤ 299)
    (he : (key.bind fun k => BearerToken.decrypt k response.body) = .error e) : Ending name key r count c (.error e)
  /-- The transport fails. -/
  | lost {e : Error} (ha : c.answer = .error e) : Ending name key r count c (.error e)

/-- The failure to obtain a token ends an exchange. -/
theorem ending_of_receive {name : KeyName} {key : Except Error Rsa.PrivateKey} (r : Request) (count : Nat) {request : Request}
    {answer : Except Error Response} {e : Error} (h : receive name key answer = .error e) :
    Ending name key r count ⟨request, none, answer⟩ (.error e) := by
  cases answer with
  | error e' =>
    cases h
    exact .lost rfl
  | ok response =>
    by_cases hs : response.isSuccess = true
    · rw [receive_of_success hs] at h
      exact .unread rfl rfl ((isSuccess_iff response).mp hs) h
    · rw [receive_of_refused (by simpa using hs)] at h
      cases h
      exact .unissued rfl rfl (mt (isSuccess_iff response).mpr hs)

/-- So does every answer to the request, unless its first token is refused. -/
theorem ending_of_judge {name : KeyName} {key : Except Error Rsa.PrivateKey} {r request : Request} {count : Nat}
    {token : BearerToken} {answer : Except Error Response} (h : judge r answer = .ok none → count = 4) :
    Ending name key r count ⟨request, some token, answer⟩ (conclude (judge r answer)) := by
  cases answer with
  | error e => exact .lost rfl
  | ok response =>
    have ht : (some token : Option BearerToken) ≠ none := Option.some_ne_none token
    by_cases hs : response.isSuccess = true
    · rw [judge_eq_some_iff.mpr ⟨rfl, hs⟩]
      exact .answered ht rfl ((isSuccess_iff response).mp hs)
    · by_cases hu : response.status = 401
      · have hnone : judge r (.ok response) = .ok none := judge_eq_none_iff.mpr ⟨response, rfl, hu⟩
        rw [hnone]
        exact .exhausted (h hnone) ht rfl hu
      · rw [judge_ok, if_neg hs, if_neg (mt (isUnauthorized_iff response).mp hu)]
        exact .rejected ht rfl (mt (isSuccess_iff response).mpr hs) hu

/-- Every exchange ends in one of these ways. -/
theorem Exchanged.ended {name : KeyName} {key : Except Error Rsa.PrivateKey} {r : Request} {l : List Call}
    {x : Except Error Response} (h : Exchanged name key r l x) : ∃ c, l.getLast? = some c ∧ Ending name key r l.length c x := by
  cases h with
  | one h₁ => exact ⟨_, rfl, ending_of_receive r _ h₁⟩
  | two h₁ h₂ => exact ⟨_, rfl, ending_of_judge fun hnone => absurd hnone h₂⟩
  | three h₁ h₂ h₃ => exact ⟨_, rfl, ending_of_receive r _ h₃⟩
  | four h₁ h₂ h₃ answer₄ => exact ⟨_, rfl, ending_of_judge fun _ => rfl⟩

/-- The rule for an exchange that authenticates a request under a key name: which calls `l` may be made, and which
outcome `x` they have. `key` is what became of loading the private key. -/
structure Bounded (name : KeyName) (key : Except Error Rsa.PrivateKey) (r : Request) (l : List Call)
    (x : Except Error Response) : Prop where
  /-- A token is asked for with a JSON body that names the key. -/
  asking : tokenRequest name =
    ⟨.post, "/token", some .json, utf8 ("\x7b\"keyName\":\"" ++ name.text ++ "\"\x7d")⟩
  /-- The calls are a beginning of: a request for a token, without a token, the request with a token, and both once
  more. -/
  pattern : l ≠ [] ∧ ∃ token₁ token₂, l.map (fun c => (c.request, c.token)) <+:
    [(tokenRequest name, none), (r, some token₁), (tokenRequest name, none), (r, some token₂)]
  /-- Each token is the one in the answer to the call just before it. -/
  fresh : ∀ i c token, l[i]? = some c → c.token = some token →
    ∃ j c' response k, i = j + 1 ∧ l[j]? = some c' ∧ c'.answer = .ok response ∧ key = .ok k ∧
      BearerToken.decrypt k response.body = .ok token
  /-- A request for a token is followed by another call, which is the request, just if a token is issued that can be read. -/
  sent : ∀ i c, l[i]? = some c → c.token = none → (i + 1 < l.length ↔
    ∃ response k token, c.answer = .ok response ∧ (200 ≤ response.status ∧ response.status ≤ 299) ∧ key = .ok k ∧
      BearerToken.decrypt k response.body = .ok token)
  /-- There is a third call just if the request was answered 401 at first. -/
  third : 3 ≤ l.length ↔ ∃ c response, l[1]? = some c ∧ c.answer = .ok response ∧ response.status = 401
  /-- The exchange succeeds just if the last call is the request, answered with success, and then with this answer. -/
  success : ∀ response, x = .ok response ↔
    ∃ c, l.getLast? = some c ∧ c.token ≠ none ∧ c.answer = .ok response ∧
      200 ≤ response.status ∧ response.status ≤ 299
  /-- It is exhausted just if the request was answered 401 both times, or if the transport fails in these words. -/
  exhausted : x = .error (.authExhausted 2) ↔
    (∃ c response c' response', l[1]? = some c ∧ c.answer = .ok response ∧ response.status = 401 ∧
      l[3]? = some c' ∧ c'.answer = .ok response' ∧ response'.status = 401) ∨
    ∃ c, l.getLast? = some c ∧ c.answer = .error (.authExhausted 2)
  /-- Another status of the request is reported, and nothing is called after it. -/
  rejected : ∀ c ∈ l, ∀ response, c.token ≠ none → c.answer = .ok response →
    ¬ (200 ≤ response.status ∧ response.status ≤ 299) → response.status ≠ 401 →
    x = .error (.requestFailed (some response.status) r.summary) ∧ l.getLast? = some c
  /-- A refusal to issue a token is reported, whatever its status, and nothing is called after it. -/
  unissued : ∀ c ∈ l, ∀ response, c.token = none → c.answer = .ok response →
    ¬ (200 ≤ response.status ∧ response.status ≤ 299) →
    x = .error (.authRequest ("Token endpoint answered status " ++ toString response.status ++ " for key '" ++
      name.text ++ "'")) ∧ l.getLast? = some c
  /-- A failure of the transport is passed on, and nothing is called after it. -/
  lost : ∀ c ∈ l, ∀ e, c.answer = .error e → x = .error e ∧ l.getLast? = some c
  /-- A token that cannot be read, for want of the private key or for its form, is reported as such, and nothing is
  called after it. -/
  unread : ∀ c ∈ l, ∀ response e, c.token = none → c.answer = .ok response →
    200 ≤ response.status ∧ response.status ≤ 299 →
    (key.bind fun k => BearerToken.decrypt k response.body) = .error e →
    x = .error e ∧ l.getLast? = some c ∧
      ((∃ what, e = .keyAccess what) ∨ (∃ what, e = .crypto what) ∨ ∃ what, e = .tokenDecrypt what)
  /-- There is no other ending. -/
  ended : ∃ c, l.getLast? = some c ∧ Ending name key r l.length c x

/-- **The bounded exchange**: whatever the transport does, an authenticated request obeys the rule, and leaves the
machine as it was. -/
theorem send_bounded {σ : Type} (t : Transport σ) (a : Credentials) (r : Request) (m : Machine) (s : σ) :
    Bounded a.keyName ((KeyFile.loadPrivate a.privateKey).outcome m) r (Op.calls t (a.send r) m s)
        (Op.run t (a.send r) m s).1 ∧
      (Op.run t (a.send r) m s).2.1 = m := by
  obtain ⟨l, x, s', hrun, h⟩ := runs_send t a r m s
  have hkey : ∀ e, a.keyOn m = .error e → e.IsKeyFault :=
    fun e he => (KeyFile.failsOnlyWith_loadPrivate a.privateKey).outcome he
  rw [hrun.run_eq, hrun.calls_eq]
  refine ⟨?_, rfl⟩
  exact {
    asking := tokenRequest_eq a.keyName
    pattern := h.pattern
    fresh := fun i c token hc ht => h.fresh hc ht
    sent := fun i c hc ht => (h.lt_length_iff hc ht).trans exists_receive_iff
    third := h.three_le_iff
    success := fun response => by simpa only [isSuccess_iff] using h.eq_ok_iff response
    exhausted := h.eq_exhausted_iff hkey
    rejected := fun c hc response ht ha hs hu =>
      h.rejected hc ht ha (Bool.eq_false_iff.mpr (mt (isSuccess_iff response).mp hs)) hu
    unissued := fun c hc response ht ha hs =>
      h.unissued hc ht ha (Bool.eq_false_iff.mpr (mt (isSuccess_iff response).mp hs))
    lost := fun c hc e ha => h.lost hc ha
    unread := fun c hc response e ht ha hs ho =>
      have h := h.unread hc ht ha ((isSuccess_iff response).mpr hs) ho
      ⟨h.1, h.2, openToken_eq_error hkey ho⟩
    ended := h.ended }

end SealedDrop.Credentials
