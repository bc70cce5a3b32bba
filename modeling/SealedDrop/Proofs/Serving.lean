import SealedDrop.Proofs.Authorization
import SealedDrop.Proofs.Credentials

/-!
# Exchanges with a remote in memory

What an operation does to a remote in memory is told by its calls alone. An authenticated request that needs a token is served at
most once, however its exchange goes: either it fails and leaves keys and objects as they were, or it is served once, and the answer
of the remote to it decides the outcome.

## The model

* `Call.event` is what a call is to the remote. `Answers` says of a list of calls that each has the answer of the remote as the
  calls before it have left it, and `called` is the remote after them. Both hold of every run (`Runs.answers`).
* What a call that lets an exchange go on does to the remote is one lemma (`keeps_of_passed`), and `keeps_called` carries it over
  the calls before the last.

## What is proved

* `Exchanged.kept_or_served` — at most one call of an exchange is served, and none before the last.
* `not_isLive_called` — a token that a call presents is not live afterwards, unless it is issued again.
-/

namespace SealedDrop

/-- What a call is to the remote. -/
def Call.event (c : Call) : Remote.Event :=
  .request c.request c.token

namespace Remote

variable {s s' s₁ : Remote} {r : Request} {c : Call} {l l₁ l₂ : List Call} {t : String}

/-! ### Serving -/

/-- What serving a request does, and what is answered, depends on keys and objects, not on tokens and counters. -/
theorem Keeps.serve (h : Keeps s s') (r : Request) : (s'.serve r).1 = (s.serve r).1 ∧ Keeps (s.serve r).2 (s'.serve r).2 := by
  have hstore : (s'.store r.body).1 = (s.store r.body).1 ∧ Keeps (s.store r.body).2 (s'.store r.body).2 := by
    unfold store
    rw [h.fixedId, h.stored, h.objects]
    cases s.fixedId with
    | none => exact ⟨rfl, h.keys, rfl, rfl, rfl, h.corruptDownloads⟩
    | some id => exact ⟨rfl, h.keys, rfl, rfl, rfl, h.corruptDownloads⟩
  have hadd : (s'.addKey r.body).1 = (s.addKey r.body).1 ∧ Keeps (s.addKey r.body).2 (s'.addKey r.body).2 := by
    unfold addKey
    split
    · next key name _ =>
      cases Base64.decode .standard (utf8 key) with
      | error e => exact ⟨rfl, h⟩
      | ok file =>
        dsimp only
        cases KeyFile.readPublic file with
        | error e => exact ⟨rfl, h⟩
        | ok k => exact ⟨rfl, congrArg (insertAt name k) h.keys, h.objects, h.fixedId, h.stored, h.corruptDownloads⟩
    · exact ⟨rfl, h⟩
  have hfetch : ∀ segment, s'.fetch segment = s.fetch segment := by
    intro segment
    rw [fetch, fetch, h.object?_eq, h.corruptDownloads]
  unfold Remote.serve
  cases r.method with
  | post =>
    simp only
    split
    · exact hstore
    · split
      · exact hadd
      · exact ⟨rfl, h⟩
  | get =>
    simp only
    split
    · exact ⟨hfetch _, h⟩
    · exact ⟨rfl, h⟩

/-! ### Calls -/

/-- Every call is answered as the remote answers it that the calls before have left. -/
def Answers : Remote → List Call → Prop
  | _, [] => True
  | s, c :: l => c.answer = .ok (s.execute c.request c.token).1 ∧ Answers (s.apply c.event) l

/-- The remote after the calls. -/
def called (s : Remote) (l : List Call) : Remote :=
  s.after (l.map Call.event)

@[simp] theorem called_nil (s : Remote) : s.called [] = s := rfl

@[simp] theorem called_cons (s : Remote) (c : Call) (l : List Call) :
    s.called (c :: l) = (s.execute c.request c.token).2.called l := rfl

theorem called_append (s : Remote) (l₁ l₂ : List Call) : s.called (l₁ ++ l₂) = (s.called l₁).called l₂ := by
  rw [called, List.map_append, after, List.foldl_append]
  rfl

theorem answers_append : s.Answers (l₁ ++ l₂) ↔ s.Answers l₁ ∧ (s.called l₁).Answers l₂ := by
  induction l₁ generalizing s with
  | nil => exact ⟨fun h => ⟨trivial, h⟩, fun h => h.2⟩
  | cons c l₁ ih => exact (and_congr_right fun _ => ih).trans and_assoc.symm

end Remote

open Remote in
/-- A session gets the answers of the remote, and leaves it as its calls do. -/
theorem Session.Runs.answers {α : Type} {x : Session α} {m m' : Machine} {s s' : Remote} {l : List Call} {a : α}
    (h : Session.Runs transport x m s l a m' s') : s.Answers l ∧ s' = s.called l := by
  obtain ⟨hrun, hcalls⟩ := h
  induction x generalizing m s l with
  | done a' =>
    simp only [run, Prod.mk.injEq] at hrun
    obtain ⟨-, -, rfl⟩ := hrun
    subst hcalls
    exact ⟨trivial, rfl⟩
  | perform e next ih => exact ih _ hrun hcalls
  | call r token next ih =>
    subst hcalls
    obtain ⟨hanswers, hstate⟩ := ih _ hrun rfl
    exact ⟨⟨rfl, hanswers⟩, hstate⟩

open Remote in
/-- So does an operation. -/
theorem Op.Runs.answers {α : Type} {op : Op α} {m m' : Machine} {s s' : Remote} {l : List Call} {x : Except Error α}
    (h : Op.Runs transport op m s l x m' s') : s.Answers l ∧ s' = s.called l :=
  Session.Runs.answers h

/-! ### Exchanges -/

namespace Credentials

open Remote

variable {s : Remote} {name : KeyName} {key : Except Error Rsa.PrivateKey} {r : Request} {l : List Call} {c : Call}
  {x : Except Error Response}

theorem asksToken_tokenRequest (name : KeyName) : AsksToken (tokenRequest name) := ⟨rfl, rfl⟩

/-- What is called without a token is the request for one. -/
theorem Exchanged.request_eq_of_none (h : Exchanged name key r l x) (hc : c ∈ l) (ht : c.token = none) :
    c.request = tokenRequest name := by
  obtain ⟨-, token₁, token₂, hpattern⟩ := h.pattern
  have hmem := hpattern.subset (List.mem_map_of_mem hc)
  simpa only [List.mem_cons, Prod.mk.injEq, List.not_mem_nil, or_false, ht, reduceCtorEq, and_true, and_false, false_or,
    or_self] using hmem

/-- A call after which an exchange goes on leaves keys and objects. -/
theorem keeps_of_passed (hnone : c.token = none → c.request = tokenRequest name)
    (hanswer : c.answer = .ok (s.execute c.request c.token).1) (hpassed : verdict name key r c = .ok none) :
    Keeps s (s.apply c.event) := by
  obtain ⟨request, token, answer⟩ := c
  cases token with
  | none =>
    obtain rfl := hnone rfl
    change Keeps s (s.execute (tokenRequest name) none).2
    rw [execute_of_asksToken (asksToken_tokenRequest name)]
    exact keeps_issueToken s _
  | some token =>
    obtain ⟨response, hok, hstatus⟩ := judge_eq_none_iff.mp (show judge r answer = .ok none from hpassed)
    cases hok.symm.trans hanswer
    exact keeps_of_status hstatus

/-- So do all the calls before the last. -/
theorem keeps_called (hnone : ∀ c ∈ l, c.token = none → c.request = tokenRequest name) (hanswers : s.Answers l)
    (hpassed : ∀ c ∈ l, verdict name key r c = .ok none) : Keeps s (s.called l) := by
  induction l generalizing s with
  | nil => exact Keeps.refl s
  | cons c l ih =>
    obtain ⟨hanswer, hrest⟩ := hanswers
    have hfirst := keeps_of_passed (hnone c List.mem_cons_self) hanswer (hpassed c List.mem_cons_self)
    exact hfirst.trans (ih (fun c' hc' => hnone c' (List.mem_cons_of_mem c hc')) hrest
      fun c' hc' => hpassed c' (List.mem_cons_of_mem c hc'))

/-- **At most once**: an exchange with a remote fails and leaves keys and objects, or its request has been served once, and the answer
to that decides the outcome. -/
theorem Exchanged.kept_or_served (h : Exchanged name key r l x) (hr : ¬ AsksToken r) (hanswers : s.Answers l) :
    (∃ e, x = .error e) ∧ Keeps s (s.called l) ∨
      ∃ s₁, Keeps s s₁ ∧ s.called l = (s₁.serve r).2 ∧ x = conclude (judge r (.ok (s₁.serve r).1)) := by
  have hnone := fun c hc => h.request_eq_of_none (c := c) hc
  have hsome := fun c hc => h.request_eq (c := c) hc
  obtain ⟨l, c, rfl, hpassed, rfl⟩ := h.verdict_last
  obtain ⟨hfirst, hlast, -⟩ := answers_append.mp hanswers
  have hkeeps : Keeps s (s.called l) := keeps_called (fun c hc => hnone c (List.mem_append_left _ hc)) hfirst hpassed
  have hcalled : s.called (l ++ [c]) = ((s.called l).execute c.request c.token).2 := called_append s l [c]
  have hmem : c ∈ l ++ [c] := List.mem_append_right _ List.mem_cons_self
  obtain ⟨request, token, answer⟩ := c
  rw [hcalled]
  simp only at hlast ⊢
  cases token with
  | none =>
    -- the exchange has ended with the request for a token, whose failure it reports
    obtain rfl : request = tokenRequest name := hnone _ hmem rfl
    refine .inl ⟨?_, ?_⟩
    · change ∃ e, conclude ((receive name key answer).map fun _ => none) = .error e
      cases receive name key answer with
      | error e => exact ⟨e, rfl⟩
      | ok token => exact ⟨_, rfl⟩
    · rw [execute_of_asksToken (asksToken_tokenRequest name)]
      exact hkeeps.trans (keeps_issueToken _ _)
  | some token =>
    obtain rfl : request = r := hsome _ hmem (by simp)
    have hverdict : verdict name key request ⟨request, some token, answer⟩ = judge request answer := rfl
    rw [hverdict, hlast]
    rcases refused_or_served hr (some token) (s := s.called l) with ⟨hstatus, hkept⟩ | ⟨s₁, hs₁, hserved⟩
    · refine .inl ⟨⟨.authExhausted 2, ?_⟩, hkeeps.trans hkept⟩
      rw [judge_eq_none_iff.mpr ⟨_, rfl, hstatus⟩]
      rfl
    · rw [hserved]
      exact .inr ⟨s₁, hkeeps.trans hs₁, rfl, rfl⟩

end Credentials

/-! ### Tokens -/

namespace Remote

variable {s : Remote} {c : Call} {l₁ l₂ : List Call} {t : String}

/-- An event that presents a token takes it out of use. -/
theorem not_isLive_apply {e : Event} (h : e.Presents t) : (s.apply e).isLive t = false := by
  rw [Bool.eq_false_iff, ne_eq, isLive_apply]
  rintro (⟨r, token, -, -, -, -, rfl, hr, -⟩ | ⟨-, hpresents⟩)
  · cases token with
    | none => exact h
    | some token => exact h.1 hr
  · exact hpresents h

/-- A token that is not live stays so as long as it is not issued. -/
theorem not_isLive_after {l : List Event} (h : s.isLive t = false) (hnone : ∀ y ∈ history s l, ¬ y.Issues t) :
    (s.after l).isLive t = false := by
  induction l generalizing s with
  | nil => exact h
  | cons e l ih =>
    obtain ⟨hfirst, hrest⟩ := List.forall_mem_cons.mp hnone
    refine ih (Bool.eq_false_iff.mpr fun hlive => ?_) hrest
    rcases (isLive_apply s e t).mp hlive with hissues | ⟨hbefore, -⟩
    · exact hfirst hissues
    · rw [h] at hbefore
      cases hbefore

/-- A token that a call presents is not live after all the calls, unless a later one has issued it again. -/
theorem not_isLive_called (h : c.event.Presents t)
    (hnone : ∀ y ∈ history (s.called (l₁ ++ [c])) (l₂.map Call.event), ¬ y.Issues t) :
    (s.called (l₁ ++ c :: l₂)).isLive t = false := by
  have hpresented : (s.called (l₁ ++ [c])).isLive t = false := by
    rw [called_append]
    exact not_isLive_apply h
  rw [← List.singleton_append, ← List.append_assoc, called_append]
  exact not_isLive_after hpresented hnone

end Remote

end SealedDrop
