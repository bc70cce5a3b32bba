import SealedDrop.Proofs.Remote
import Mathlib.Data.List.Induction

/-!
# Tokens over whole runs

A remote in memory, from its creation on, authorises exactly the requests that present a token which was issued and has not
been presented since, as long as it is not told to refuse requests.

## The model

* A `Turn` is an event of a run together with the remote before it, and `history` lists the turns of a run.
* `Turn.Issues` says that a turn is a request for a token that is answered with success and with this token. A token is
  `Unspent` after a run if nobody has presented it since it was issued last.
* `RefusalPending` says of a run that of the refusals that were asked for last some are still to come.

## What is proved

* `isLive_apply`, `rejectNext_apply` and `spent_apply` — what one event does to the tokens and to the refusals that are to
  come, whatever the request is and however it is answered.
* `authorization_exact` — every run from the start obeys the rule `Authorizes`.
-/

namespace SealedDrop.Remote

variable {s s' : Remote} {r : Request} {token : Option BearerToken} {t : String}

/-! ### Requests for tokens and other requests -/

/-- The request asks for a token. It is the only kind of request that needs none. -/
abbrev AsksToken (r : Request) : Prop :=
  r.method = .post ∧ r.path = tokenPath

theorem execute_of_asksToken (h : AsksToken r) (token : Option BearerToken) : s.execute r token = s.issueToken r.body :=
  if_pos h

/-- What becomes of a request that needs a token: it is refused, or not authorised, or served. -/
theorem execute_of_not_asksToken (h : ¬ AsksToken r) (token : Option BearerToken) :
    s.execute r token =
      if 0 < s.rejectNext then (reply 401 "unauthorized", { s.present token with rejectNext := s.rejectNext - 1 })
      else if token.any (fun t => s.isLive t.text) then (s.present token).serve r
      else (reply 401 "unauthorized", s.present token) := by
  rw [execute, if_neg h, authorize_eq]
  by_cases hreject : 0 < s.rejectNext
  · rw [if_pos hreject, if_pos hreject]
  · rw [if_neg hreject, if_neg hreject]
    cases token.any fun t => s.isLive t.text <;> rfl

/-- Serving a request neither issues a token nor takes one out of use, nor does it change what is to be refused. -/
theorem serve_frame (s : Remote) (r : Request) :
    (s.serve r).2.tokens = s.tokens ∧ (s.serve r).2.rejectNext = s.rejectNext := by
  obtain ⟨keys, objects, stored, -, h⟩ := serve_writes s r
  rw [h]
  exact ⟨rfl, rfl⟩

/-- A request that is served is never answered 401. -/
theorem status_serve_ne (s : Remote) (r : Request) : (s.serve r).1.status ≠ 401 := by
  have hstore : ∀ body, (s.store body).1.status ≠ 401 := by
    intro body
    unfold store
    cases s.fixedId <;> exact Nat.ne_of_beq_eq_false rfl
  have hadd : ∀ body, (s.addKey body).1.status ≠ 401 := by
    intro body
    unfold addKey
    split
    · split
      · exact Nat.ne_of_beq_eq_false rfl
      · split <;> exact Nat.ne_of_beq_eq_false rfl
    · exact Nat.ne_of_beq_eq_false rfl
  have hfetch : ∀ segment, (s.fetch segment).status ≠ 401 := by
    intro segment
    unfold fetch
    split <;> exact Nat.ne_of_beq_eq_false rfl
  unfold serve
  split
  · split
    · exact hstore _
    · split
      · exact hadd _
      · exact Nat.ne_of_beq_eq_false rfl
  · split
    · exact hfetch _
    · exact Nat.ne_of_beq_eq_false rfl

/-- A request that needs a token is answered 401 just if a refusal is due or it presents no token that is good. -/
theorem status_execute_iff (h : ¬ AsksToken r) (token : Option BearerToken) :
    (s.execute r token).1.status = 401 ↔ 0 < s.rejectNext ∨ ∀ t, token = some t → s.isLive t.text = false := by
  have hlive : token.any (fun t => s.isLive t.text) = true ↔ ¬ ∀ t, token = some t → s.isLive t.text = false := by
    cases token with
    | none => simp
    | some t => simp
  rw [execute_of_not_asksToken h]
  by_cases hreject : 0 < s.rejectNext
  · rw [if_pos hreject]
    exact ⟨fun _ => .inl hreject, fun _ => rfl⟩
  · rw [if_neg hreject]
    by_cases hany : token.any (fun t => s.isLive t.text) = true
    · rw [if_pos hany]
      refine ⟨fun hstatus => absurd hstatus (status_serve_ne _ r), ?_⟩
      rintro (hpos | hnone)
      · exact absurd hpos hreject
      · exact absurd hnone (hlive.mp hany)
    · rw [if_neg hany]
      exact ⟨fun _ => .inr (not_not.mp (mt hlive.mpr hany)), fun _ => rfl⟩

/-! ### Turns of a run -/

/-- An event of a run, and the remote before it. -/
structure Turn where
  /-- The remote before the event. -/
  before : Remote
  /-- The event. -/
  event : Event

/-- The turns of a run, in order. -/
def history : Remote → List Event → List Turn
  | _, [] => []
  | s, e :: l => ⟨s, e⟩ :: history (s.apply e) l

theorem after_concat (s : Remote) (l : List Event) (e : Event) : s.after (l ++ [e]) = (s.after l).apply e :=
  List.foldl_concat _ _ _ _

theorem history_append (s : Remote) (l₁ l₂ : List Event) : history s (l₁ ++ l₂) = history s l₁ ++ history (s.after l₁) l₂ := by
  induction l₁ generalizing s with
  | nil => rfl
  | cons e l₁ ih => exact congrArg (List.cons _) (ih (s.apply e))

theorem history_concat (s : Remote) (l : List Event) (e : Event) : history s (l ++ [e]) = history s l ++ [⟨s.after l, e⟩] :=
  history_append s l [e]

/-- The event presents the token with a request that needs one. -/
def Event.Presents : Event → String → Prop
  | .request r (some token), t => ¬ AsksToken r ∧ token.text = t
  | _, _ => False

namespace Turn

/-- The token that a turn issues: the identifier that is drawn for a request that asks for one and is answered 200. -/
def issued? (x : Turn) : Option String :=
  match x.event with
  | .request r token =>
    if AsksToken r ∧ (x.before.execute r token).1.status = 200 then some (Uuid.hyphenated (x.before.entropy.peek 16)) else none
  | _ => none

/-- The turn is a request that needs a token and is answered otherwise than with 401. -/
def isAdmitted (x : Turn) : Bool :=
  match x.event with
  | .request r token => ¬ AsksToken r ∧ (x.before.execute r token).1.status ≠ 401
  | _ => false

/-- The turn is a request that is answered 200 with the token: the token is the identifier drawn for it, and the body of the
answer is an encryption of the token to the key that is registered under the name in the request. -/
def Issues (x : Turn) (t : String) : Prop :=
  ∃ r token name k seed ciphertext, x.event = .request r token ∧ AsksToken r ∧ fields? ["keyName"] r.body = some [name] ∧
    x.before.key? name = some k ∧ t = Uuid.hyphenated (x.before.entropy.peek 16) ∧
    BearerToken.encrypt k seed (utf8 t) = .ok ciphertext ∧ (x.before.execute r token).1 = ⟨200, ciphertext⟩

end Turn

/-- Issuing a token succeeds with the next identifier, encrypted to a registered key, or leaves the tokens as they were. -/
theorem issueToken_cases (s : Remote) (body : Bytes) :
    (∃ name k seed ciphertext, fields? ["keyName"] body = some [name] ∧ s.key? name = some k ∧
      BearerToken.encrypt k seed (utf8 (Uuid.hyphenated (s.entropy.peek 16))) = .ok ciphertext ∧
      (s.issueToken body).1 = ⟨200, ciphertext⟩ ∧
      (s.issueToken body).2.tokens = Uuid.hyphenated (s.entropy.peek 16) ::
        s.tokens.filter (· != Uuid.hyphenated (s.entropy.peek 16))) ∨
    (s.issueToken body).1.status ≠ 200 ∧ (s.issueToken body).2.tokens = s.tokens := by
  have hkey : ∀ name, Remote.key? { s with tokenRequests := s.tokenRequests + 1 } name = s.key? name := fun _ => rfl
  unfold issueToken
  simp only [hkey]
  split
  · next name hfields =>
    cases hk : s.key? name with
    | none => exact .inr ⟨Nat.ne_of_beq_eq_false rfl, rfl⟩
    | some k =>
      simp only
      cases hencrypt : BearerToken.encrypt k ((s.entropy.skip 16).peek BearerToken.seedSize)
          (utf8 (Uuid.hyphenated (s.entropy.peek 16))) with
      | error e => exact .inr ⟨Nat.ne_of_beq_eq_false rfl, rfl⟩
      | ok ciphertext => exact .inl ⟨name, k, _, ciphertext, hfields, hk, hencrypt, rfl, rfl⟩
  · exact .inr ⟨Nat.ne_of_beq_eq_false rfl, rfl⟩

/-- The token that a turn issues is the one that its answer hands out. -/
theorem Turn.issued?_eq_some_iff {x : Turn} : x.issued? = some t ↔ x.Issues t := by
  obtain ⟨s, e⟩ := x
  constructor
  · intro h
    cases e with
    | request r token =>
      simp only [issued?, Option.ite_none_right_eq_some, Option.some.injEq] at h
      obtain ⟨⟨hr, hstatus⟩, rfl⟩ := h
      rw [execute_of_asksToken hr] at hstatus
      rcases issueToken_cases s r.body with ⟨name, k, seed, ciphertext, hfields, hk, hencrypt, hanswer, -⟩ | ⟨hne, -⟩
      · exact ⟨r, token, name, k, seed, ciphertext, rfl, hr, hfields, hk, rfl, hencrypt,
          by rw [execute_of_asksToken hr, hanswer]⟩
      · exact absurd hstatus hne
    | registerKey name k => cases h
    | rejectNext n => cases h
    | corruptDownloads enabled => cases h
  · rintro ⟨r, token, name, k, seed, ciphertext, rfl, hr, -, -, rfl, -, hanswer⟩
    simp only [issued?]
    rw [if_pos ⟨hr, by rw [hanswer]⟩]

/-! ### What an event does to the tokens -/

/-- A request for a token adds the token that it issues, if it issues one. -/
theorem tokens_of_asksToken (h : AsksToken r) (token : Option BearerToken) :
    (∃ u, Turn.issued? ⟨s, .request r token⟩ = some u ∧
      (s.execute r token).2.tokens = u :: s.tokens.filter (· != u)) ∨
    Turn.issued? ⟨s, .request r token⟩ = none ∧ (s.execute r token).2.tokens = s.tokens := by
  simp only [Turn.issued?, execute_of_asksToken h]
  rcases issueToken_cases s r.body with ⟨name, k, seed, ciphertext, -, -, -, hanswer, htokens⟩ | ⟨hne, htokens⟩
  · exact .inl ⟨_, if_pos ⟨h, by rw [hanswer]⟩, htokens⟩
  · exact .inr ⟨if_neg fun hboth => hne hboth.2, htokens⟩

theorem issued?_of_not_asksToken (h : ¬ AsksToken r) (token : Option BearerToken) :
    Turn.issued? ⟨s, .request r token⟩ = none :=
  if_neg fun hboth => h hboth.1

/-- A request that needs a token uses up the one that it presents, and no other, however it is answered. -/
theorem tokens_execute (h : ¬ AsksToken r) (token : Option BearerToken) :
    (s.execute r token).2.tokens = s.tokens.filter fun t => token.all (t != ·.text) := by
  rw [execute_of_not_asksToken h]
  split
  · rfl
  · split
    · exact (serve_frame _ r).1
    · rfl

/-- A token is live after an event just if the event has issued it, or has not presented it and it was live before. -/
theorem isLive_apply (s : Remote) (e : Event) (t : String) :
    (s.apply e).isLive t = true ↔ Turn.Issues ⟨s, e⟩ t ∨ s.isLive t = true ∧ ¬ e.Presents t := by
  rw [← Turn.issued?_eq_some_iff, isLive, isLive, List.contains_iff_mem, List.contains_iff_mem]
  cases e with
  | request r token =>
    by_cases hr : AsksToken r
    · have hpresents : ¬ Event.Presents (.request r token) t := by
        cases token with
        | none => exact id
        | some b => exact fun h => h.1 hr
      rw [apply]
      rcases tokens_of_asksToken (s := s) hr token with ⟨u, hissued, htokens⟩ | ⟨hissued, htokens⟩
      · rw [hissued, htokens, List.mem_cons, List.mem_filter, bne_iff_ne, Option.some.injEq, eq_comm]
        by_cases hu : u = t
        · simp [hu]
        · simp [hu, hpresents, Ne.symm hu]
      · simp [hissued, htokens, hpresents]
    · rw [issued?_of_not_asksToken hr, apply, tokens_execute hr, List.mem_filter]
      cases token with
      | none => simp [Event.Presents]
      | some b => simp [Event.Presents, hr, eq_comm (a := b.text)]
  | registerKey name k => simp [apply, registerKey, Turn.issued?, Event.Presents]
  | rejectNext n => simp [apply, Turn.issued?, Event.Presents]
  | corruptDownloads enabled => simp [apply, Turn.issued?, Event.Presents]

/-- The turns of a run have issued the token, and after the last that did nobody has presented it. -/
def Unspent (turns : List Turn) (t : String) : Prop :=
  ∃ l₁ x l₂, turns = l₁ ++ x :: l₂ ∧ x.Issues t ∧ ∀ y ∈ l₂, ¬ y.Issues t ∧ ¬ y.event.Presents t

/-- One more turn issues the token, or it is unspent before that turn and not presented in it. -/
theorem unspent_concat_iff {turns : List Turn} {x : Turn} :
    Unspent (turns ++ [x]) t ↔ x.Issues t ∨ Unspent turns t ∧ ¬ x.event.Presents t := by
  constructor
  · rintro ⟨l₁, y, l₂, heq, hy, hl₂⟩
    rcases List.eq_nil_or_concat l₂ with rfl | ⟨l₂, z, rfl⟩
    · obtain ⟨rfl, rfl⟩ := List.append_inj' heq rfl |>.imp_right List.singleton_inj.mp
      exact .inl hy
    · rw [List.concat_eq_append, ← List.cons_append, ← List.append_assoc] at heq
      obtain ⟨rfl, rfl⟩ := List.append_inj' heq rfl |>.imp_right List.singleton_inj.mp
      rw [List.concat_eq_append] at hl₂
      exact .inr ⟨⟨l₁, y, l₂, rfl, hy, fun z hz => hl₂ z (List.mem_append_left _ hz)⟩,
        (hl₂ x (List.mem_append_right _ List.mem_cons_self)).2⟩
  · by_cases hx : x.Issues t
    · exact fun _ => ⟨turns, x, [], rfl, hx, fun y hy => absurd hy List.not_mem_nil⟩
    · rintro (h | ⟨⟨l₁, y, l₂, rfl, hy, hl₂⟩, hpresents⟩)
      · exact absurd h hx
      · refine ⟨l₁, y, l₂ ++ [x], by rw [List.append_assoc, List.cons_append], hy, fun z hz => ?_⟩
        rcases List.mem_append.mp hz with hz | hz
        · exact hl₂ z hz
        · rw [List.mem_singleton.mp hz]
          exact ⟨hx, hpresents⟩

/-- Where no token is live at the start, the live ones are those that are unspent. -/
theorem isLive_after_iff (h : s.tokens = []) (l : List Event) (t : String) :
    (s.after l).isLive t = true ↔ Unspent (history s l) t := by
  induction l using List.reverseRecOn with
  | nil =>
    rw [after, List.foldl_nil, isLive, h]
    exact ⟨fun hlive => (Bool.false_ne_true hlive).elim, fun ⟨l₁, x, l₂, heq, _⟩ =>
      (List.append_ne_nil_of_right_ne_nil l₁ (List.cons_ne_nil x l₂) heq.symm).elim⟩
  | append_singleton l e ih => rw [after_concat, history_concat, isLive_apply, unspent_concat_iff, ih]

/-! ### What an event does to the refusals that are to come -/

/-- The event is a request that needs a token. -/
def Event.needsToken : Event → Bool
  | .request r _ => ¬ AsksToken r
  | _ => false

/-- The event tells how many requests are going to be refused. -/
def Event.SetsRefusals (e : Event) : Prop :=
  ∃ n, e = .rejectNext n

/-- Of the refusals that the run asked for last some are still to come: fewer requests that need a token have followed. -/
def RefusalPending (l : List Event) : Prop :=
  ∃ l₁ n l₂, l = l₁ ++ .rejectNext n :: l₂ ∧ (∀ e ∈ l₂, ¬ e.SetsRefusals) ∧ l₂.countP Event.needsToken < n.toNat

/-- A request that needs a token does one of the refusals that are to come; other requests leave them. -/
theorem rejectNext_apply {e : Event} (h : ¬ e.SetsRefusals) :
    (s.apply e).rejectNext.toNat = s.rejectNext.toNat - if e.needsToken then 1 else 0 := by
  cases e with
  | request r token =>
    by_cases hr : AsksToken r
    · obtain ⟨entropy, tokens, hissue⟩ := issueToken_frame s r.body
      have hneeds : Event.needsToken (.request r token) = false := by simp [Event.needsToken, hr]
      rw [apply, execute_of_asksToken hr, hissue, hneeds]
      rfl
    · have hneeds : Event.needsToken (.request r token) = true := by simp [Event.needsToken, hr]
      rw [apply, execute_of_not_asksToken hr, hneeds, if_pos rfl]
      by_cases hreject : 0 < s.rejectNext
      · have hone : 1 ≤ s.rejectNext := by
          rw [UInt32.le_iff_toNat_le]
          exact UInt32.lt_iff_toNat_lt.mp hreject
        rw [if_pos hreject]
        exact UInt32.toNat_sub_of_le _ _ hone
      · have hzero : s.rejectNext.toNat = 0 := by
          rw [UInt32.lt_iff_toNat_lt] at hreject
          exact Nat.eq_zero_of_not_pos hreject
        rw [if_neg hreject, hzero]
        split
        · rw [(serve_frame _ r).2]
          exact hzero
        · exact hzero
  | registerKey name k => rfl
  | rejectNext n => exact absurd ⟨n, rfl⟩ h
  | corruptDownloads enabled => rfl

/-- Where no event sets them anew, the refusals that are to come are those of the start, less one for each such request. -/
theorem rejectNext_after {l : List Event} (h : ∀ e ∈ l, ¬ e.SetsRefusals) :
    (s.after l).rejectNext.toNat = s.rejectNext.toNat - l.countP Event.needsToken := by
  induction l generalizing s with
  | nil => rfl
  | cons e l ih =>
    obtain ⟨he, hl⟩ := List.forall_mem_cons.mp h
    change ((s.apply e).after l).rejectNext.toNat = _
    rw [ih hl, rejectNext_apply he, List.countP_cons]
    omega

/-- A run has a last event that sets the refusals, if it has any. -/
theorem exists_last_setsRefusals (l : List Event) :
    (∀ e ∈ l, ¬ e.SetsRefusals) ∨ ∃ l₁ n l₂, l = l₁ ++ .rejectNext n :: l₂ ∧ ∀ e ∈ l₂, ¬ e.SetsRefusals := by
  induction l with
  | nil => exact .inl fun e he => absurd he List.not_mem_nil
  | cons e l ih =>
    rcases ih with hnone | ⟨l₁, n, l₂, rfl, hl₂⟩
    · by_cases he : e.SetsRefusals
      · obtain ⟨n, rfl⟩ := he
        exact .inr ⟨[], n, l, rfl, hnone⟩
      · exact .inl (List.forall_mem_cons.mpr ⟨he, hnone⟩)
    · exact .inr ⟨e :: l₁, n, l₂, rfl, hl₂⟩

/-- Where none is to come at the start, a refusal is due after a run just if one is pending. -/
theorem rejectNext_after_pos_iff (h : s.rejectNext = 0) (l : List Event) :
    0 < (s.after l).rejectNext ↔ RefusalPending l := by
  have hset : ∀ {l₁ n l₂}, (∀ e ∈ l₂, ¬ Event.SetsRefusals e) →
      (s.after (l₁ ++ .rejectNext n :: l₂)).rejectNext.toNat = n.toNat - l₂.countP Event.needsToken := by
    intro l₁ n l₂ hl₂
    rw [after, List.foldl_append]
    exact rejectNext_after hl₂
  have hpos : 0 < (s.after l).rejectNext ↔ 0 < (s.after l).rejectNext.toNat := UInt32.lt_iff_toNat_lt
  rw [hpos]
  constructor
  · intro hlt
    rcases exists_last_setsRefusals l with hnone | ⟨l₁, n, l₂, rfl, hl₂⟩
    · rw [rejectNext_after hnone, h, UInt32.toNat_zero, Nat.zero_sub] at hlt
      exact absurd hlt (Nat.lt_irrefl 0)
    · rw [hset hl₂] at hlt
      exact ⟨l₁, n, l₂, rfl, hl₂, Nat.lt_of_sub_pos hlt⟩
  · rintro ⟨l₁, n, l₂, rfl, hl₂, hcount⟩
    rw [hset hl₂]
    exact Nat.sub_pos_of_lt hcount

/-! ### What an event does to keys and objects -/

/-- A request that is answered 401 changes neither. -/
theorem keeps_of_status (h : (s.execute r token).1.status = 401) : Keeps s (s.execute r token).2 := by
  by_cases hr : AsksToken r
  · rw [execute_of_asksToken hr]
    exact keeps_issueToken s r.body
  · rw [execute_of_not_asksToken hr] at h ⊢
    split
    · exact ⟨rfl, rfl, rfl, rfl, rfl⟩
    · next hreject =>
      rw [if_neg hreject] at h
      split
      · next hlive =>
        rw [if_pos hlive] at h
        exact absurd h (status_serve_ne _ r)
      · exact keeps_present s token

/-- A request that needs a token is answered 401 and leaves keys and objects, or it is served. -/
theorem refused_or_served (hr : ¬ AsksToken r) (token : Option BearerToken) :
    (s.execute r token).1.status = 401 ∧ Keeps s (s.execute r token).2 ∨ ∃ s₁, Keeps s s₁ ∧ s.execute r token = s₁.serve r := by
  by_cases hstatus : (s.execute r token).1.status = 401
  · exact .inl ⟨hstatus, keeps_of_status hstatus⟩
  · rw [execute_of_not_asksToken hr] at hstatus ⊢
    split at hstatus
    · exact absurd rfl hstatus
    · next hreject =>
      rw [if_neg hreject]
      split at hstatus
      · next hlive =>
        rw [if_pos hlive]
        exact .inr ⟨_, keeps_present s token, rfl⟩
      · exact absurd rfl hstatus

/-- A request that is admitted presents a live token and uses it up. -/
theorem exists_token_of_admitted (hr : ¬ AsksToken r) (h : (s.execute r token).1.status ≠ 401) :
    ∃ t, token = some t ∧ s.isLive t.text = true ∧ (s.execute r token).2.isLive t.text = false := by
  have hlive : ¬ ∀ t, token = some t → s.isLive t.text = false :=
    fun hnone => h ((status_execute_iff hr token).mpr (.inr hnone))
  push Not at hlive
  obtain ⟨t, rfl, ht⟩ := hlive
  refine ⟨t, rfl, by simpa using ht, Bool.eq_false_iff.mpr fun hlive' => ?_⟩
  rw [isLive, List.contains_iff_mem, tokens_execute hr, List.mem_filter] at hlive'
  simp at hlive'

/-- Each event that admits a request takes a token out of use, and none adds more than the one it issues. -/
theorem spent_apply (s : Remote) (e : Event) :
    (if Turn.isAdmitted ⟨s, e⟩ then 1 else 0) + (s.apply e).tokens.length ≤
      (if (Turn.issued? ⟨s, e⟩).isSome then 1 else 0) + s.tokens.length := by
  cases e with
  | request r token =>
    by_cases hr : AsksToken r
    · have hadmitted : Turn.isAdmitted ⟨s, .request r token⟩ = false := by simp [Turn.isAdmitted, hr]
      rw [hadmitted, apply]
      rcases tokens_of_asksToken (s := s) hr token with ⟨u, hissued, htokens⟩ | ⟨hissued, htokens⟩
      · have hlength := List.length_filter_le (· != u) s.tokens
        rw [hissued, htokens, List.length_cons]
        simp only [Bool.false_eq_true, if_false, Option.isSome_some, if_true]
        omega
      · simp [hissued, htokens]
    · rw [issued?_of_not_asksToken hr, apply, tokens_execute hr]
      by_cases hstatus : (s.execute r token).1.status = 401
      · have hadmitted : Turn.isAdmitted ⟨s, .request r token⟩ = false := by simp [Turn.isAdmitted, hstatus]
        rw [hadmitted]
        simpa using List.length_filter_le _ s.tokens
      · obtain ⟨t, rfl, hlive, -⟩ := exists_token_of_admitted hr hstatus
        have hlt : (s.tokens.filter fun u => (some t).all (u != ·.text)).length < s.tokens.length := by
          rw [List.length_filter_lt_length_iff_exists]
          exact ⟨t.text, List.contains_iff_mem.mp hlive, by simp⟩
        have hone : (if Turn.isAdmitted ⟨s, .request r (some t)⟩ then 1 else 0) ≤ 1 := by split <;> omega
        simp only [Option.isSome_none, Bool.false_eq_true, if_false]
        omega
  | registerKey name k => exact le_refl _
  | rejectNext n => exact le_refl _
  | corruptDownloads enabled => exact le_refl _

/-- No run admits more requests than it has issued tokens, those of the start counted. -/
theorem spent_after (s : Remote) (l : List Event) :
    (history s l).countP Turn.isAdmitted + (s.after l).tokens.length ≤
      (history s l).countP (·.issued?.isSome) + s.tokens.length := by
  induction l using List.reverseRecOn with
  | nil => exact le_refl _
  | append_singleton l e ih =>
    have hstep := spent_apply (s.after l) e
    rw [after_concat, history_concat, List.countP_append, List.countP_append, List.countP_singleton, List.countP_singleton]
    omega

/-! ### The rule -/

/-- The rule for a run from `s`, at its end: which tokens are live, what becomes of the next request, and how many requests
have been admitted. -/
structure Authorizes (s : Remote) (l : List Event) : Prop where
  /-- A token is live just if a request for a token was answered 200 with it and, since the last such answer, no request but
  one for a token has presented it, whatever that was answered. -/
  live : ∀ t, (s.after l).isLive t = true ↔ Unspent (history s l) t
  /-- A request other than for a token is answered 401 just if a refusal is pending or it presents no live token. -/
  refused : ∀ r token, ¬ AsksToken r →
    (((s.after l).execute r token).1.status = 401 ↔
      RefusalPending l ∨ ∀ t, token = some t → (s.after l).isLive t.text = false)
  /-- An answer 401 leaves objects and keys as they were. -/
  harmless : ∀ r token, ((s.after l).execute r token).1.status = 401 →
    ((s.after l).execute r token).2.objects = (s.after l).objects ∧ ((s.after l).execute r token).2.keys = (s.after l).keys
  /-- Of the requests other than for a token no more were answered otherwise than with 401 than tokens were issued. -/
  admitted : (history s l).countP Turn.isAdmitted ≤ (history s l).countP (·.issued?.isSome)
  /-- Only a request that presents a live token changes objects or keys, and the token is not live any more. -/
  consumed : ∀ r token,
    ((s.after l).execute r token).2.objects ≠ (s.after l).objects ∨ ((s.after l).execute r token).2.keys ≠ (s.after l).keys →
    ¬ AsksToken r ∧ ∃ t, token = some t ∧ (s.after l).isLive t.text = true ∧
      ((s.after l).execute r token).2.isLive t.text = false

/-- **Authorisation is exact**: every run of a remote from its creation obeys the rule, with any requests and tokens, any
registrations and any use of the switches. -/
theorem authorization_exact (entropy : Entropy) (fixedId : Option String) (l : List Event) :
    Authorizes { entropy := entropy, fixedId := fixedId } l where
  live t := isLive_after_iff rfl l t
  refused r token hr := by rw [status_execute_iff hr, rejectNext_after_pos_iff rfl]
  harmless r token h := ⟨(keeps_of_status h).objects, (keeps_of_status h).keys⟩
  admitted := (Nat.le_add_right _ _).trans (spent_after _ l)
  consumed r token h := by
    have hchanged : ¬ Keeps (Remote.after { entropy := entropy, fixedId := fixedId } l)
        ((Remote.after { entropy := entropy, fixedId := fixedId } l).execute r token).2 :=
      fun hkeeps => h.elim (absurd hkeeps.objects) (absurd hkeeps.keys)
    have hr : ¬ AsksToken r := by
      intro hr
      rw [execute_of_asksToken hr] at hchanged
      exact hchanged (keeps_issueToken _ _)
    exact ⟨hr, exists_token_of_admitted hr (mt keeps_of_status hchanged)⟩

end SealedDrop.Remote
