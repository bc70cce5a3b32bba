import SealedDrop.Session.Machine

/-!
# Runs of sessions

How a session runs on a machine and a transport: which calls it makes, with what answers, and how the run of a sequence
of steps is put together from the runs of its parts.

## The model

* `Call` is one call of the remote together with what came of it, and `Session.calls` lists the calls of a run in order.
  The transport is any function with any state, so that its answers may depend on all that it was asked before.
* `Session.Runs` and `Op.Runs` say everything about a run: its calls, its outcome, and the machine and the transport
  after it. A run is built by one rule for each way to make a session (`Runs.bind`, `Runs.ask`, …).
* An operation that `Observes` looks at the machine and no more. Its `outcome` is then the same on every run.
* A session that `Draws` asks for random bytes and nothing else.
-/

namespace SealedDrop

/-- A call of the remote, and what came of it. -/
structure Call where
  /-- The request. -/
  request : Request
  /-- The token that went with it. -/
  token : Option BearerToken
  /-- The response, or the failure of the transport. -/
  answer : Except Error Response

variable {α β σ : Type}

namespace Session

theorem bind_done (x : Session α) : x.bind done = x := by
  induction x with
  | done a => rfl
  | perform e next ih => exact congrArg (perform e) (funext ih)
  | call r token next ih => exact congrArg (call r token) (funext ih)

theorem bind_bind {γ : Type} (x : Session α) (f : α → Session β) (g : β → Session γ) :
    (x.bind f).bind g = x.bind fun a => (f a).bind g := by
  induction x with
  | done a => rfl
  | perform e next ih => exact congrArg (perform e) (funext ih)
  | call r token next ih => exact congrArg (call r token) (funext ih)

/-- How a sequence of sessions is grouped makes no difference. -/
instance : LawfulMonad Session :=
  LawfulMonad.mk' Session bind_done (fun _ _ => rfl) bind_bind

/-- The calls of a run, in order. -/
def calls (t : Transport σ) : Session α → Machine → σ → List Call
  | done _, _, _ => []
  | perform e next, m, s =>
    let (answer, m) := m.answer e
    calls t (next answer) m s
  | call r token next, m, s =>
    let (answer, s) := t r token s
    ⟨r, token, answer⟩ :: calls t (next answer) m s

/-- A session, run from a machine and a state of the transport, makes these calls, ends with this value, and leaves
this machine and this state behind. -/
structure Runs (t : Transport σ) (x : Session α) (m : Machine) (s : σ) (l : List Call) (a : α) (m' : Machine) (s' : σ) :
    Prop where
  /-- How the run ends. -/
  run_eq : run t x m s = (a, m', s')
  /-- What it asks the remote. -/
  calls_eq : calls t x m s = l

namespace Runs

variable {t : Transport σ} {x : Session α} {m m₁ m₂ : Machine} {s s₁ s₂ : σ} {l l₁ l₂ : List Call} {a : α} {b : β}

theorem pure (a : α) : Runs t (Pure.pure a) m s [] a m s := ⟨rfl, rfl⟩

theorem ask (e : Effect) : Runs t (ask e) m s [] (m.answer e).1 (m.answer e).2 s := ⟨rfl, rfl⟩

/-- A run of two sessions in sequence is a run of the first and then one of the second. -/
theorem bind {f : α → Session β} (hx : Runs t x m s l₁ a m₁ s₁) (hf : Runs t (f a) m₁ s₁ l₂ b m₂ s₂) :
    Runs t (x >>= f) m s (l₁ ++ l₂) b m₂ s₂ := by
  obtain ⟨hrun, hcalls⟩ := hx
  change Runs t (x.bind f) m s (l₁ ++ l₂) b m₂ s₂
  induction x generalizing m s l₁ with
  | done a' =>
    simp only [run, Prod.mk.injEq] at hrun
    obtain ⟨rfl, rfl, rfl⟩ := hrun
    subst hcalls
    exact hf
  | perform e next ih =>
    obtain ⟨h₁, h₂⟩ := ih (m.answer e).1 hrun hcalls
    exact ⟨h₁, h₂⟩
  | call r token next ih =>
    subst hcalls
    obtain ⟨h₁, h₂⟩ := ih (t r token s).1 hrun rfl
    exact ⟨h₁, congrArg (List.cons _) h₂⟩

theorem map {f : α → β} (hx : Runs t x m s l a m₁ s₁) : Runs t (f <$> x) m s l (f a) m₁ s₁ := by
  have := hx.bind (f := fun a => Pure.pure (f a)) (pure (f a))
  rwa [List.append_nil] at this

end Runs

end Session

namespace Op

/-- The calls of a run, in order. -/
def calls (t : Transport σ) (op : Op α) (m : Machine) (s : σ) : List Call :=
  Session.calls t (ExceptT.run op) m s

/-- An operation, run from a machine and a state of the transport, makes these calls, has this outcome, and leaves this
machine and this state behind. -/
def Runs (t : Transport σ) (op : Op α) (m : Machine) (s : σ) (l : List Call) (x : Except Error α) (m' : Machine)
    (s' : σ) : Prop :=
  Session.Runs t (ExceptT.run op) m s l x m' s'

/-- Every operation has a run. -/
theorem exists_runs (t : Transport σ) (op : Op α) (m : Machine) (s : σ) : ∃ l x m' s', Runs t op m s l x m' s' :=
  ⟨_, _, _, _, rfl, rfl⟩

namespace Runs

variable {t : Transport σ} {op : Op α} {m m₁ m₂ : Machine} {s s₁ s₂ : σ} {l l₁ l₂ : List Call} {a : α} {e : Error}
  {x y : Except Error α} {z : Except Error β}

theorem run_eq (h : Runs t op m s l x m₁ s₁) : run t op m s = (x, m₁, s₁) := Session.Runs.run_eq h

theorem calls_eq (h : Runs t op m s l x m₁ s₁) : calls t op m s = l := Session.Runs.calls_eq h

/-- An operation runs in one way only. -/
theorem unique (h₁ : Runs t op m s l₁ x m₁ s₁) (h₂ : Runs t op m s l₂ y m₂ s₂) :
    l₁ = l₂ ∧ x = y ∧ m₁ = m₂ ∧ s₁ = s₂ := by
  have hrun := h₁.run_eq.symm.trans h₂.run_eq
  simp only [Prod.mk.injEq] at hrun
  exact ⟨h₁.calls_eq.symm.trans h₂.calls_eq, hrun⟩

theorem pure (a : α) : Runs t (Pure.pure a : Op α) m s [] (.ok a) m s := ⟨rfl, rfl⟩

theorem throw (e : Error) : Runs t (throw e : Op α) m s [] (.error e) m s := ⟨rfl, rfl⟩

theorem check (x : Except Error α) : Runs t (check x) m s [] x m s := ⟨rfl, rfl⟩

theorem check_of_eq (h : x = y) : Runs t (Op.check x) m s [] y m s := h ▸ check x

theorem ask (e : Effect) : Runs t (ask e) m s [] (.ok (m.answer e).1) (m.answer e).2 s := ⟨rfl, rfl⟩

theorem call {r : Request} {token : Option BearerToken} {answer : Except Error Response} (h : t r token s = (answer, s₁)) :
    Runs t (call r token) m s [⟨r, token, answer⟩] answer m s₁ := by
  have hself : Runs t (Op.call r token) m s [⟨r, token, (t r token s).1⟩] (t r token s).1 m (t r token s).2 := ⟨rfl, rfl⟩
  rwa [h] at hself

theorem lift {x : Session α} (h : Session.Runs t x m s l a m₁ s₁) :
    Runs t (ExceptT.lift x : Op α) m s l (.ok a) m₁ s₁ := h.map

/-- A step that succeeds is followed by the rest. -/
theorem bind {f : α → Op β} (hop : Runs t op m s l₁ (.ok a) m₁ s₁) (hf : Runs t (f a) m₁ s₁ l₂ z m₂ s₂) :
    Runs t (op >>= f) m s (l₁ ++ l₂) z m₂ s₂ :=
  Session.Runs.bind hop hf

/-- A step that fails ends the operation. -/
theorem bind_error (hop : Runs t op m s l (.error e) m₁ s₁) (f : α → Op β) :
    Runs t (op >>= f) m s l (.error e) m₁ s₁ := by
  have h := Session.Runs.bind (f := ExceptT.bindCont f) hop (Session.Runs.pure (Except.error e))
  rwa [List.append_nil] at h

/-- The first step makes no call. -/
theorem silent_bind {f : α → Op β} (hop : Runs t op m s [] (.ok a) m₁ s₁) (hf : Runs t (f a) m₁ s₁ l z m₂ s₂) :
    Runs t (op >>= f) m s l z m₂ s₂ :=
  hop.bind hf

/-- The rest makes no call. -/
theorem bind_silent {f : α → Op β} (hop : Runs t op m s l (.ok a) m₁ s₁) (hf : Runs t (f a) m₁ s₁ [] z m₂ s₂) :
    Runs t (op >>= f) m s l z m₂ s₂ := by
  have h := hop.bind hf
  rwa [List.append_nil] at h

theorem access (words : IoError → Error) (x : Except IoError α) :
    Runs t (access words x) m s [] (x.mapError words) m s := by
  cases x with
  | ok a => exact check _
  | error e => exact check _

/-- What succeeds needs no handling. -/
theorem caught (h : Runs t op m s l (.ok a) m₁ s₁) (handle : Error → Op α) :
    Runs t (tryCatch op handle) m s l (.ok a) m₁ s₁ := by
  have hrun : Runs t (ExceptT.tryCatch op handle) m s (l ++ []) (.ok a) m₁ s₁ := Session.Runs.bind h (Session.Runs.pure _)
  rwa [List.append_nil] at hrun

/-- What fails is handled. -/
theorem caught_error {handle : Error → Op α} (h : Runs t op m s l₁ (.error e) m₁ s₁)
    (hhandle : Runs t (handle e) m₁ s₁ l₂ x m₂ s₂) : Runs t (tryCatch op handle) m s (l₁ ++ l₂) x m₂ s₂ := by
  have hrun : Runs t (ExceptT.tryCatch op handle) m s (l₁ ++ l₂) x m₂ s₂ := Session.Runs.bind h hhandle
  exact hrun

/-- A run of a sequence is a run of the first operation that fails, or one that succeeds and then a run of the second. -/
theorem bind_cases {f : α → Op β} (h : Runs t (op >>= f) m s l z m₂ s₂) :
    (∃ e, z = .error e ∧ Runs t op m s l (.error e) m₂ s₂) ∨
      ∃ l₁ a m₁ s₁ l₂, l = l₁ ++ l₂ ∧ Runs t op m s l₁ (.ok a) m₁ s₁ ∧ Runs t (f a) m₁ s₁ l₂ z m₂ s₂ := by
  obtain ⟨l₁, x, m₁, s₁, hself⟩ := exists_runs t op m s
  cases x with
  | ok a =>
    obtain ⟨l₂, y, m₃, s₃, hrest⟩ := exists_runs t (f a) m₁ s₁
    obtain ⟨hl, rfl, rfl, rfl⟩ := (hself.bind hrest).unique h
    exact .inr ⟨l₁, a, m₁, s₁, l₂, hl.symm, hself, hrest⟩
  | error e =>
    obtain ⟨rfl, rfl, rfl, rfl⟩ := (hself.bind_error f).unique h
    exact .inl ⟨e, rfl, hself⟩

/-- A sequence that succeeds is a first operation that succeeds and then the second one. -/
theorem exists_of_bind_ok {b : β} {f : α → Op β} (h : Runs t (op >>= f) m s l (.ok b) m₂ s₂) :
    ∃ l₁ a m₁ s₁ l₂, Runs t op m s l₁ (.ok a) m₁ s₁ ∧ Runs t (f a) m₁ s₁ l₂ (.ok b) m₂ s₂ := by
  obtain ⟨e, he, -⟩ | ⟨l₁, a, m₁, s₁, l₂, -, hself, hrest⟩ := h.bind_cases
  · cases he
  · exact ⟨l₁, a, m₁, s₁, l₂, hself, hrest⟩

end Runs

/-! ### Operations that only look -/

/-- A transport that reaches nobody. -/
def silent : Transport Unit := fun _ _ _ => (.error (.requestFailed none "no network"), ())

/-- What becomes of an operation on a machine without a network. -/
def outcome (op : Op α) (m : Machine) : Except Error α :=
  (run silent op m ()).1

/-! Operations that begin with a question, a check or an access go on with its outcome. -/

theorem outcome_ask_bind {e : Effect} {m : Machine} (h : (m.answer e).2 = m) (f : e.Answer → Op β) :
    outcome (ask e >>= f) m = outcome (f (m.answer e).1) m := by
  change (run silent (f (m.answer e).1) (m.answer e).2 ()).1 = _
  rw [h]
  rfl

theorem outcome_check_bind (x : Except Error α) (f : α → Op β) (m : Machine) :
    outcome (check x >>= f) m = x.bind fun a => outcome (f a) m := by
  cases x with
  | ok a => rfl
  | error e => rfl

theorem outcome_access_bind (words : IoError → Error) (x : Except IoError α) (f : α → Op β) (m : Machine) :
    outcome (access words x >>= f) m = (x.mapError words).bind fun a => outcome (f a) m := by
  cases x with
  | ok a => rfl
  | error e => rfl

/-- The operation looks at the machine and does nothing else: it makes no call and changes nothing, so that its outcome
depends on the machine alone. -/
def Observes (op : Op α) : Prop :=
  ∀ (m : Machine), ∃ x, ∀ (τ : Type) (t : Transport τ) (s : τ), Runs t op m s [] x m s

namespace Observes

variable {op : Op α}

theorem runs (h : Observes op) (t : Transport σ) (m : Machine) (s : σ) : Runs t op m s [] (op.outcome m) m s := by
  obtain ⟨x, hx⟩ := h m
  have hout : op.outcome m = x := by
    unfold outcome
    rw [(hx Unit silent ()).run_eq]
  rw [hout]
  exact hx σ t s

theorem outcome_eq (h : Observes op) {t : Transport σ} {m m' : Machine} {s s' : σ} {l : List Call} {x : Except Error α}
    (hx : Runs t op m s l x m' s') : op.outcome m = x :=
  ((h.runs t m s).unique hx).2.1

theorem check (x : Except Error α) : Observes (check x) :=
  fun _ => ⟨x, fun _ _ _ => Runs.check x⟩

theorem access (words : IoError → Error) (x : Except IoError α) : Observes (access words x) :=
  fun _ => ⟨_, fun _ _ _ => Runs.access words x⟩

/-- A question that leaves the machine as it was. -/
theorem ask {e : Effect} (h : ∀ m : Machine, (m.answer e).2 = m) : Observes (ask e) := by
  intro m
  refine ⟨.ok (m.answer e).1, fun τ t s => ?_⟩
  have := Runs.ask (t := t) (m := m) (s := s) e
  rwa [h] at this

theorem bind {f : α → Op β} (hop : Observes op) (hf : ∀ a, Observes (f a)) : Observes (op >>= f) := by
  intro m
  obtain ⟨x, hx⟩ := hop m
  cases x with
  | ok a =>
    obtain ⟨y, hy⟩ := hf a m
    exact ⟨y, fun τ t s => (hx τ t s).bind (hy τ t s)⟩
  | error e => exact ⟨.error e, fun τ t s => (hx τ t s).bind_error f⟩

theorem outcome_bind {f : α → Op β} (hop : Observes op) (hf : ∀ a, Observes (f a)) (m : Machine) :
    outcome (op >>= f) m = (op.outcome m).bind fun a => (f a).outcome m := by
  have hrun := hop.runs silent m ()
  cases hx : op.outcome m with
  | ok a =>
    rw [hx] at hrun
    exact (hop.bind hf).outcome_eq (hrun.bind ((hf a).runs silent m ()))
  | error e =>
    rw [hx] at hrun
    exact (hop.bind hf).outcome_eq (hrun.bind_error f)

end Observes

/-! ### Kinds of failure -/

/-- On every run, a failure of the operation is one of these. -/
def FailsOnlyWith (op : Op α) (P : Error → Prop) : Prop :=
  ∀ (τ : Type) (t : Transport τ) (m : Machine) (s : τ) (l : List Call) (e : Error) (m' : Machine) (s' : τ),
    Runs t op m s l (.error e) m' s' → P e

namespace FailsOnlyWith

variable {op : Op α} {P : Error → Prop}

theorem outcome (h : op.FailsOnlyWith P) {m : Machine} {e : Error} (he : op.outcome m = .error e) : P e := by
  obtain ⟨l, x, m', s', hrun⟩ := exists_runs silent op m ()
  unfold Op.outcome at he
  rw [hrun.run_eq] at he
  subst he
  exact h _ _ _ _ _ _ _ _ hrun

theorem check {x : Except Error α} (h : ∀ e, x = .error e → P e) : FailsOnlyWith (check x) P := by
  intro τ t m s l e m' s' hrun
  exact h e ((Runs.check x).unique hrun).2.1

theorem access {words : IoError → Error} {x : Except IoError α} (h : ∀ e, P (words e)) :
    FailsOnlyWith (access words x) P := by
  cases x with
  | ok a => exact check fun e he => by cases he
  | error e' =>
    refine check fun e he => ?_
    cases he
    exact h e'

theorem ask (e : Effect) : FailsOnlyWith (ask e) P := by
  intro τ t m s l e' m' s' hrun
  have hx := ((Runs.ask e).unique hrun).2.1
  cases hx

theorem bind {f : α → Op β} (hop : op.FailsOnlyWith P) (hf : ∀ a, (f a).FailsOnlyWith P) :
    FailsOnlyWith (op >>= f) P := by
  intro τ t m s l e m' s' hrun
  obtain ⟨e', he, hself⟩ | ⟨l₁, a, m₁, s₁, l₂, -, -, hrest⟩ := hrun.bind_cases
  · cases he
    exact hop _ _ _ _ _ _ _ _ hself
  · exact hf a _ _ _ _ _ _ _ _ hrest

end FailsOnlyWith

/-! ### Kinds of call -/

/-- On every run, all calls of the operation are of this kind. -/
def CallsOnly (op : Op α) (P : Call → Prop) : Prop :=
  ∀ (τ : Type) (t : Transport τ) (m : Machine) (s : τ) (l : List Call) (x : Except Error α) (m' : Machine) (s' : τ),
    Runs t op m s l x m' s' → ∀ c ∈ l, P c

namespace CallsOnly

variable {op : Op α} {P : Call → Prop}

/-- An operation that makes no call makes none of another kind. -/
theorem of_silent (h : ∀ (τ : Type) (t : Transport τ) (m : Machine) (s : τ), ∃ x m', Runs t op m s [] x m' s) :
    op.CallsOnly P := by
  intro τ t m s l x m' s' hrun
  obtain ⟨x₁, m₁, hsilent⟩ := h τ t m s
  obtain ⟨rfl, -⟩ := hsilent.unique hrun
  exact List.forall_mem_nil P

theorem of_observes (h : Observes op) : op.CallsOnly P :=
  of_silent fun _ t m s => ⟨_, _, h.runs t m s⟩

theorem bind {f : α → Op β} (hop : op.CallsOnly P) (hf : ∀ a, (f a).CallsOnly P) : CallsOnly (op >>= f) P := by
  intro τ t m s l x m' s' hrun
  obtain ⟨e, -, hself⟩ | ⟨l₁, a, m₁, s₁, l₂, rfl, hself, hrest⟩ := hrun.bind_cases
  · exact hop _ _ _ _ _ _ _ _ hself
  · exact List.forall_mem_append.mpr ⟨hop _ _ _ _ _ _ _ _ hself, hf a _ _ _ _ _ _ _ _ hrest⟩

end CallsOnly

end Op

/-! ### What no run changes -/

namespace Machine

/-- The two machines differ in nothing but their files, their randomness and the faults that are planned. -/
structure Frame (m m' : Machine) : Prop where
  /-- The home directory is the same. -/
  home : m'.home = m.home
  /-- The working directory is the same. -/
  workDir : m'.workDir = m.workDir
  /-- Files are delivered in the same way. -/
  delivery : m'.delivery = m.delivery
  /-- New files do not get the same permission bits. -/
  umask : m'.umask = m.umask

namespace Frame

variable {m m₁ m₂ : Machine}

theorem refl (m : Machine) : Frame m m := ⟨rfl, rfl, rfl, rfl⟩

theorem trans (h : Frame m m₁) (h' : Frame m₁ m₂) : Frame m m₂ :=
  ⟨h'.home.trans h.home, h'.workDir.trans h.workDir, h'.delivery.trans h.delivery, h'.umask.trans h.umask⟩

theorem nextFault (m : Machine) : Frame m m.nextFault.2 := by
  unfold Machine.nextFault
  split <;> exact ⟨rfl, rfl, rfl, rfl⟩

theorem change {γ : Type} (m : Machine) (x : Except SystemError (γ × FileTree)) : Frame m (m.change x).2 := by
  cases x <;> exact ⟨rfl, rfl, rfl, rfl⟩

/-- What the accesses do that consult the plan of faults. -/
theorem of_nextFault {γ : Type} {x : γ × Machine} (h : ∀ f m', m.nextFault = (f, m') → Frame m' x.2) : Frame m x.2 :=
  (nextFault m).trans (h _ _ rfl)

/-- No effect changes more. -/
theorem answer (m : Machine) (e : Effect) : Frame m (m.answer e).2 := by
  cases e with
  | home => exact refl m
  | draw n => exact ⟨rfl, rfl, rfl, rfl⟩
  | hasEntry path => exact refl m
  | isFile path => exact refl m
  | openRead path => exact refl m
  | createNew path mode =>
    refine of_nextFault fun f m' h => ?_
    cases f with
    | none =>
      simp only [Machine.answer, h]
      exact change m' _
    | some f =>
      simp only [Machine.answer, h]
      exact refl m'
  | write h b =>
    refine of_nextFault fun f m' h => ?_
    cases f <;> simp only [Machine.answer, h] <;> exact ⟨rfl, rfl, rfl, rfl⟩
  | sync h =>
    refine of_nextFault fun f m' h => ?_
    cases f <;> simp only [Machine.answer, h] <;> exact refl m'
  | rename old new =>
    refine of_nextFault fun f m' h => ?_
    cases f with
    | none =>
      simp only [Machine.answer, h]
      exact change m' _
    | some f =>
      simp only [Machine.answer, h]
      exact refl m'
  | remove path =>
    simp only [Machine.answer]
    split
    · exact ⟨rfl, rfl, rfl, rfl⟩
    · exact refl m

end Frame

end Machine

/-- A run of a session changes no more than that. -/
theorem Session.frame_run (t : Transport σ) (x : Session α) (m : Machine) (s : σ) : m.Frame (x.run t m s).2.1 := by
  induction x generalizing m s with
  | done a => exact .refl m
  | perform e next ih => exact (Machine.Frame.answer m e).trans (ih _ _ _)
  | call r token next ih => exact ih _ _ _

theorem Op.Runs.frame {t : Transport σ} {op : Op α} {m m' : Machine} {s s' : σ} {l : List Call} {x : Except Error α}
    (h : Op.Runs t op m s l x m' s') : m.Frame m' := by
  have hframe := Session.frame_run t (ExceptT.run op) m s
  rwa [Session.Runs.run_eq h] at hframe

/-! ### Results -/

/-- Every end of the session, whatever it is answered, is of this kind. -/
def Session.EndsIn (P : α → Prop) : Session α → Prop
  | done a => P a
  | perform _ next => ∀ answer, (next answer).EndsIn P
  | call _ _ next => ∀ answer, (next answer).EndsIn P

theorem Session.EndsIn.of_forall {P : α → Prop} {x : Session α} (h : ∀ a, P a) : x.EndsIn P := by
  induction x with
  | done a => exact h a
  | perform e next ih => exact ih
  | call r token next ih => exact ih

theorem Session.EndsIn.bind {P : α → Prop} {Q : β → Prop} {x : Session α} {f : α → Session β} (hx : x.EndsIn P)
    (hf : ∀ a, P a → (f a).EndsIn Q) : (x.bind f).EndsIn Q := by
  induction x with
  | done a => exact hf a hx
  | perform e next ih => exact fun answer => ih answer (hx answer)
  | call r token next ih => exact fun answer => ih answer (hx answer)

theorem Session.EndsIn.run {P : α → Prop} {x : Session α} (hx : x.EndsIn P) (t : Transport σ) (m : Machine) (s : σ) :
    P (x.run t m s).1 := by
  induction x generalizing m s with
  | done a => exact hx
  | perform e next ih => exact ih _ (hx _) _ _
  | call r token next ih => exact ih _ (hx _) _ _

/-! ### Randomness -/

/-- All that the session asks for are random bytes. -/
def Session.Draws : Session α → Prop
  | done _ => True
  | perform e next => (∃ n, e = .draw n) ∧ ∀ answer, (next answer).Draws
  | call _ _ _ => False

theorem Session.Draws.bind {x : Session α} {f : α → Session β} (hx : x.Draws) (hf : ∀ a, (f a).Draws) : (x.bind f).Draws := by
  induction x with
  | done a => exact hf a
  | perform e next ih => exact ⟨hx.1, fun answer => ih answer (hx.2 answer)⟩
  | call r token next ih => exact hx.elim

/-- Such a session uses up randomness, and changes nothing else. -/
theorem Session.Draws.run {x : Session α} (hx : x.Draws) (t : Transport σ) (m : Machine) (s : σ) :
    ∃ entropy, (x.run t m s).2 = ({ m with entropy := entropy }, s) := by
  induction x generalizing m with
  | done a => exact ⟨m.entropy, rfl⟩
  | perform e next ih =>
    obtain ⟨⟨n, rfl⟩, hnext⟩ := hx
    exact ih _ (hnext _) { m with entropy := m.entropy.skip n }
  | call r token next ih => exact hx.elim

/-- What it finds is a matter of the randomness alone. -/
theorem Session.Draws.outcome_eq {x : Session α} (hx : x.Draws) (t : Transport σ) (s : σ) {m m₁ : Machine}
    (h : m₁.entropy = m.entropy) : (x.run t m₁ s).1 = (x.run t m s).1 := by
  induction x generalizing m m₁ with
  | done a => rfl
  | perform e next ih =>
    obtain ⟨⟨n, rfl⟩, hnext⟩ := hx
    have hpeek : (m₁.answer (.draw n)).1 = (m.answer (.draw n)).1 := Subtype.ext (by simp only [Machine.answer, h])
    have hskip : (m₁.answer (.draw n)).2.entropy = (m.answer (.draw n)).2.entropy := by simp only [Machine.answer, h]
    calc ((next (m₁.answer (.draw n)).1).run t (m₁.answer (.draw n)).2 s).1
        = ((next (m.answer (.draw n)).1).run t (m₁.answer (.draw n)).2 s).1 := by rw [hpeek]
      _ = ((next (m.answer (.draw n)).1).run t (m.answer (.draw n)).2 s).1 := ih _ (hnext _) hskip
  | call r token next ih => exact hx.elim

end SealedDrop
