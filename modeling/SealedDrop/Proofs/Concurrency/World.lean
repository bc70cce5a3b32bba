import SealedDrop.Exchange
import SealedDrop.Proofs.Authorization
import SealedDrop.Proofs.Session
import Mathlib.Algebra.BigOperators.Group.Finset.Piecewise
import Mathlib.Logic.Function.Basic

/-!
# Operations side by side

Any number of drops and pulls at one remote, with their steps in any order.

## The model

* A `Client` is one operation with the settings and the machine it runs on. The files of the machine are those of a disk, which
  other operations may use as well; its randomness, its home and its working directory are its own.
* A `World` holds the remote, the disks and what is left of every operation. In one step (`World.step`) an operation performs
  one effect on its machine or makes one call of the remote, so that everything that others do may come between any two of
  them. A run is a list of the operations whose turn it is (`World.after`), and an operation that has ended does nothing.
* The `log` of a world keeps every call with the operation that made it and the remote before it. `Turn.isRefused` and
  `Turn.stores?` say of a call what its answer was.

## What is proved

* `exists_result?` — an operation has at most as many steps as its session is deep (`Session.Within`), however it is interrupted.
* `after_replicate` — an operation that is not interrupted runs as it does alone.
-/

namespace SealedDrop

open Remote

/-! ### Clients -/

/-- What an operation is to do. -/
inductive Task where
  /-- To drop a file. -/
  | drop (path : String)
  /-- To pull an object to a destination. -/
  | pull (reference destination : String)

/-- How an operation ends: a drop with a reference, a pull without. -/
abbrev Outcome := Except Error (Option Reference)

/-- The operation that does a task. -/
def Task.operation (s : Settings) : Task → Op (Option Reference)
  | .drop path => do return some (← Exchange.drop s path)
  | .pull reference destination => do
    Exchange.pull s reference destination
    return none

/-- An operation and where it runs. -/
structure Client (δ : Type) where
  /-- What is to be done. -/
  task : Task
  /-- The settings. -/
  settings : Settings
  /-- The disk that holds the files. -/
  disk : δ
  /-- The machine, but for its files. -/
  machine : Machine

variable {ι δ : Type}

/-! ### Worlds -/

/-- The state of all operations, and of what they share. -/
structure World (ι δ : Type) where
  /-- The remote. -/
  remote : Remote
  /-- The files of each disk. -/
  disks : δ → FileTree
  /-- The disk of each operation. -/
  disk : ι → δ
  /-- The machine of each operation, but for its files. -/
  machines : ι → Machine
  /-- What is left of each operation. -/
  sessions : ι → Session Outcome
  /-- The calls of the remote, and who has made them. -/
  log : List (ι × Turn) := []

namespace World

/-- The world before the first step. -/
def start (u : Remote) (disks : δ → FileTree) (clients : ι → Client δ) : World ι δ where
  remote := u
  disks := disks
  disk i := (clients i).disk
  machines i := (clients i).machine
  sessions i := ExceptT.run ((clients i).task.operation (clients i).settings)

/-- The machine of an operation, with the files on its disk. -/
def machine (w : World ι δ) (i : ι) : Machine :=
  { w.machines i with tree := w.disks (w.disk i) }

/-- How an operation has ended, if it has. -/
def result? (w : World ι δ) (i : ι) : Option Outcome :=
  match w.sessions i with
  | .done x => some x
  | _ => none

/-- The calls that an operation has made. -/
def turnsOf [DecidableEq ι] (w : World ι δ) (i : ι) : List Turn :=
  w.log.filterMap fun x => if x.1 = i then some x.2 else none

variable [DecidableEq ι] [DecidableEq δ]

/-- One step of an operation. -/
def step (w : World ι δ) (i : ι) : World ι δ :=
  match w.sessions i with
  | .done _ => w
  | .perform e next =>
    let (answer, m) := (w.machine i).answer e
    { w with
      disks := Function.update w.disks (w.disk i) m.tree
      machines := Function.update w.machines i m
      sessions := Function.update w.sessions i (next answer) }
  | .call r token next =>
    let (answer, u) := transport r token w.remote
    { w with
      remote := u
      sessions := Function.update w.sessions i (next answer)
      log := w.log ++ [(i, ⟨w.remote, .request r token⟩)] }

/-- The world after a list of steps. -/
def after (w : World ι δ) (l : List ι) : World ι δ :=
  l.foldl step w

end World

/-! ### Calls -/

namespace Remote.Turn

/-- The turn is a request that is answered 401. -/
def isRefused (x : Turn) : Bool :=
  match x.event with
  | .request r token => (x.before.execute r token).1.status = 401
  | _ => false

/-- The object that an upload stores if it is accepted: the identifier in the answer, and the bytes that were uploaded. -/
def stores? (x : Turn) : Option (String × Bytes) :=
  match x.event with
  | .request r token =>
    if r.method = .post ∧ r.path = objectsPath ∧ (x.before.execute r token).1.isSuccess = true then
      (text? (x.before.execute r token).1.body).map (·, r.body)
    else none
  | _ => none

end Remote.Turn

/-! ### Steps -/

namespace World

variable {w : World ι δ} {i j : ι} {l l' : List ι}

theorem sessions_of_result? {x : Outcome} (h : w.result? i = some x) : w.sessions i = .done x := by
  unfold result? at h
  cases hi : w.sessions i <;> rw [hi] at h <;> cases h
  rfl

variable [DecidableEq ι]

theorem mem_turnsOf {y : Turn} : y ∈ w.turnsOf i ↔ (i, y) ∈ w.log := by
  simp only [turnsOf, List.mem_filterMap, Option.ite_none_right_eq_some, Option.some.injEq, Prod.exists,
    exists_eq_right_right, exists_eq_right]

/-- The calls of different operations are different calls of the log. -/
theorem sum_countP_turnsOf_le (w : World ι δ) (S : Finset ι) (p : Turn → Bool) :
    ∑ i ∈ S, (w.turnsOf i).countP p ≤ w.log.countP fun x => p x.2 := by
  unfold turnsOf
  induction w.log with
  | nil => simp
  | cons x l ih =>
    have hcons : ∀ i, ((x :: l).filterMap fun y => if y.1 = i then some y.2 else none).countP p =
        (l.filterMap fun y => if y.1 = i then some y.2 else none).countP p +
          if x.1 = i then if p x.2 then 1 else 0 else 0 := by
      intro i
      rw [List.filterMap_cons]
      by_cases hi : x.1 = i
      · simp only [hi, if_true, List.countP_cons]
      · simp only [hi, if_false, Nat.add_zero]
    -- the first call is one of at most one operation
    have hfirst : (∑ i ∈ S, if x.1 = i then if p x.2 then 1 else 0 else 0) ≤ if p x.2 then 1 else 0 := by
      rw [Finset.sum_ite_eq]
      split <;> omega
    rw [Finset.sum_congr rfl fun i _ => hcons i, Finset.sum_add_distrib, List.countP_cons]
    exact Nat.add_le_add ih hfirst

variable [DecidableEq δ]

theorem after_nil (w : World ι δ) : w.after [] = w := rfl

theorem after_cons (w : World ι δ) (i : ι) (l : List ι) : w.after (i :: l) = (w.step i).after l := rfl

theorem after_append (w : World ι δ) (l l' : List ι) : w.after (l ++ l') = (w.after l).after l' :=
  List.foldl_append

theorem step_done {x : Outcome} (h : w.sessions i = .done x) : w.step i = w := by
  unfold step
  rw [h]

theorem step_perform {e : Effect} {next : e.Answer → Session Outcome} (h : w.sessions i = .perform e next) :
    w.step i =
      { w with
        disks := Function.update w.disks (w.disk i) ((w.machine i).answer e).2.tree
        machines := Function.update w.machines i ((w.machine i).answer e).2
        sessions := Function.update w.sessions i (next ((w.machine i).answer e).1) } := by
  unfold step
  rw [h]

theorem step_call {r : Request} {token : Option BearerToken} {next : Except Error Response → Session Outcome}
    (h : w.sessions i = .call r token next) :
    w.step i =
      { w with
        remote := (w.remote.execute r token).2
        sessions := Function.update w.sessions i (next (.ok (w.remote.execute r token).1))
        log := w.log ++ [(i, ⟨w.remote, .request r token⟩)] } := by
  unfold step
  rw [h]
  rfl

/-- A step leaves other operations alone. -/
theorem step_of_ne (w : World ι δ) (h : j ≠ i) :
    (w.step i).sessions j = w.sessions j ∧ (w.step i).machines j = w.machines j := by
  cases hi : w.sessions i with
  | done x =>
    rw [step_done hi]
    exact ⟨rfl, rfl⟩
  | perform e next =>
    rw [step_perform hi]
    exact ⟨Function.update_of_ne h _ _, Function.update_of_ne h _ _⟩
  | call r token next =>
    rw [step_call hi]
    exact ⟨Function.update_of_ne h _ _, rfl⟩

/-- No operation changes disks. -/
@[simp] theorem disk_step (w : World ι δ) (i : ι) : (w.step i).disk = w.disk := by
  cases hi : w.sessions i with
  | done x => rw [step_done hi]
  | perform e next => rw [step_perform hi]
  | call r token next => rw [step_call hi]

@[simp] theorem disk_after (w : World ι δ) (l : List ι) : (w.after l).disk = w.disk := by
  induction l generalizing w with
  | nil => rfl
  | cons i l ih => rw [after_cons, ih, disk_step]

/-- An operation whose turn it has not been is as it was. -/
theorem after_of_not_mem (w : World ι δ) (h : j ∉ l) :
    (w.after l).sessions j = w.sessions j ∧ (w.after l).machines j = w.machines j := by
  induction l generalizing w with
  | nil => exact ⟨rfl, rfl⟩
  | cons i l ih =>
    rw [List.mem_cons, not_or] at h
    obtain ⟨hsession, hmachine⟩ := ih (w.step i) h.2
    obtain ⟨hsession', hmachine'⟩ := w.step_of_ne h.1
    exact ⟨hsession.trans hsession', hmachine.trans hmachine'⟩

/-- An operation that has ended stays as it is. -/
theorem result?_step {x : Outcome} (h : w.result? i = some x) (j : ι) : (w.step j).result? i = some x := by
  by_cases hij : i = j
  · subst hij
    rwa [step_done (sessions_of_result? h)]
  · rw [result?, (w.step_of_ne hij).1]
    exact h

theorem result?_after {x : Outcome} (h : w.result? i = some x) (l : List ι) : (w.after l).result? i = some x := by
  induction l generalizing w with
  | nil => exact h
  | cons j l ih => exact ih (result?_step h j)

theorem log_prefix_step (w : World ι δ) (i : ι) : w.log <+: (w.step i).log := by
  cases hi : w.sessions i with
  | done x => rw [step_done hi]
  | perform e next => rw [step_perform hi]
  | call r token next =>
    rw [step_call hi]
    exact List.prefix_append _ _

/-- The log only grows. -/
theorem log_prefix_after (w : World ι δ) (l : List ι) : w.log <+: (w.after l).log := by
  induction l generalizing w with
  | nil => exact List.prefix_refl _
  | cons i l ih => exact (w.log_prefix_step i).trans (ih (w.step i))

end World

/-! ### The length of a session -/

namespace Session

variable {α β : Type} {n n' k : Nat} {x : Session α}

/-- The session ends after at most this many steps, whatever it is answered. -/
def Within : Session α → Nat → Prop
  | .done _, _ => True
  | .perform _ next, n => ∃ k, n = k + 1 ∧ ∀ a, (next a).Within k
  | .call _ _ next, n => ∃ k, n = k + 1 ∧ ∀ a, (next a).Within k

theorem Within.mono (h : x.Within n) (hn : n ≤ n') : x.Within n' := by
  induction x generalizing n n' with
  | done a => exact trivial
  | perform e next ih =>
    obtain ⟨k, rfl, hnext⟩ := h
    obtain ⟨k', rfl⟩ := Nat.exists_eq_add_of_le' (Nat.le_trans (Nat.le_add_left 1 k) hn)
    exact ⟨k', rfl, fun a => ih a (hnext a) (by omega)⟩
  | call r token next ih =>
    obtain ⟨k, rfl, hnext⟩ := h
    obtain ⟨k', rfl⟩ := Nat.exists_eq_add_of_le' (Nat.le_trans (Nat.le_add_left 1 k) hn)
    exact ⟨k', rfl, fun a => ih a (hnext a) (by omega)⟩

theorem Within.exists_done (h : x.Within 0) : ∃ a, x = .done a := by
  cases x with
  | done a => exact ⟨a, rfl⟩
  | perform e next =>
    obtain ⟨k, hk, -⟩ := h
    cases hk
  | call r token next =>
    obtain ⟨k, hk, -⟩ := h
    cases hk

theorem Within.bind {f : α → Session β} (h : x.Within n) (hf : ∀ a, (f a).Within k) : (x >>= f).Within (n + k) := by
  change (x.bind f).Within (n + k)
  induction x generalizing n with
  | done a => exact (hf a).mono (Nat.le_add_left k n)
  | perform e next ih =>
    obtain ⟨n, rfl, hnext⟩ := h
    exact ⟨n + k, by omega, fun a => ih a (hnext a)⟩
  | call r token next ih =>
    obtain ⟨n, rfl, hnext⟩ := h
    exact ⟨n + k, by omega, fun a => ih a (hnext a)⟩

theorem Within.pure (a : α) : (Pure.pure a : Session α).Within 0 := trivial

theorem Within.ask (e : Effect) : (ask e).Within 1 := ⟨0, rfl, fun _ => trivial⟩

end Session

namespace Op

variable {α β : Type} {n k : Nat} {op : Op α}

/-- The operation ends after at most this many steps, whatever it is answered. -/
def Within (op : Op α) (n : Nat) : Prop :=
  Session.Within (ExceptT.run op) n

namespace Within

theorem mono {n' : Nat} (h : op.Within n) (hn : n ≤ n') : op.Within n' := Session.Within.mono h hn

theorem pure (a : α) : Op.Within (Pure.pure a) 0 := trivial

theorem throw (e : Error) : Op.Within (throw e : Op α) 0 := trivial

theorem check (x : Except Error α) : (check x).Within 0 := trivial

theorem ask (e : Effect) : (ask e).Within 1 := ⟨0, rfl, fun _ => trivial⟩

theorem call (r : Request) (token : Option BearerToken) : (call r token).Within 1 := ⟨0, rfl, fun _ => trivial⟩

theorem access (words : IoError → Error) (x : Except IoError α) : (access words x).Within 0 := by
  cases x <;> exact trivial

theorem lift {x : Session α} (h : x.Within n) : Op.Within (ExceptT.lift x) n :=
  Session.Within.bind (k := 0) (f := fun a => Pure.pure (Except.ok a)) h fun _ => trivial

theorem bind {f : α → Op β} (h : op.Within n) (hf : ∀ a, (f a).Within k) : (op >>= f).Within (n + k) :=
  Session.Within.bind h fun x => by
    cases x with
    | ok a => exact hf a
    | error e => exact trivial

end Within

end Op

/-! ### The length of an operation -/

section Length

open Op Exchange

theorem within_expandHome (path : String) : (expandHome path).Within 1 :=
  (Within.ask _).bind fun _ => .check _

theorem Secret.within_load (raw : String) : (Secret.load raw).Within 2 :=
  (Within.ask _).bind fun _ => (Within.check _).bind fun _ =>
    (Within.ask _).bind fun _ => (Within.access _ _).bind fun _ => .check _

theorem KeyFile.within_loadPrivate (path : String) : (KeyFile.loadPrivate path).Within 2 :=
  (Secret.within_load path).bind fun _ => .check _

theorem Credentials.within_requestToken (a : Credentials) : a.requestToken.Within 3 := by
  unfold Credentials.requestToken
  refine (Within.call _ _).bind (k := 2) fun response => ?_
  split
  · exact (Within.throw _).bind fun _ => (KeyFile.within_loadPrivate _).bind fun _ => .check _
  · exact (KeyFile.within_loadPrivate _).bind fun _ => .check _

theorem Credentials.within_attempt (a : Credentials) (r : Request) : (a.attempt r).Within 4 := by
  unfold Credentials.attempt
  refine a.within_requestToken.bind (k := 1) fun token => (Within.call r _).bind (k := 0) fun response => ?_
  split
  · exact .pure _
  · split
    · exact .pure _
    · exact .throw _

theorem Credentials.within_send (a : Credentials) (r : Request) : (a.send r).Within 8 := by
  unfold Credentials.send
  refine (a.within_attempt r).bind (k := 4) fun response => ?_
  split
  · exact (Within.pure _).mono (Nat.zero_le 4)
  · refine (a.within_attempt r).bind (k := 0) fun response => ?_
    split
    · exact .pure _
    · exact .throw _

/-- A drop ends after thirteen steps at most. -/
theorem Exchange.within_drop (s : Settings) (path : String) : (Exchange.drop s path).Within 13 := by
  unfold Exchange.drop
  refine (Within.check _).bind fun keyPath => (Within.check _).bind (k := 13) fun who =>
    (within_expandHome path).bind (k := 12) fun path => Within.bind (n := 1) (k := 11) ?_ fun plaintext =>
      Within.bind (n := 3) (k := 8) ?_ fun envelope =>
        (who.within_send _).bind (k := 0) fun response => (Within.check _).bind (k := 0) fun id => .pure _
  · exact (Within.ask _).bind fun _ => (Within.access _ _).bind fun _ => .access _ _
  · exact (Secret.within_load _).bind (k := 1) fun _ => (Within.check _).bind fun _ => (Within.ask _).bind fun _ => .pure _

theorem FileWriter.within_writeAll (h : Handle) (b : Bytes) : (FileWriter.writeAll h b).Within 2 := by
  unfold FileWriter.writeAll
  refine (Session.Within.ask _).bind (k := 1) fun x => ?_
  split
  · exact (Session.Within.pure _).mono (Nat.zero_le 1)
  · exact .ask _

theorem FileWriter.within_writeAndMove (temporary destination : String) (b : Bytes) (mode : Nat) :
    (FileWriter.writeAndMove temporary destination b mode).Within 4 := by
  unfold FileWriter.writeAndMove
  refine (Session.Within.ask _).bind (k := 3) fun x => ?_
  split
  · exact (Session.Within.pure _).mono (Nat.zero_le 3)
  · refine (FileWriter.within_writeAll _ b).bind (k := 1) fun x => ?_
    split
    · exact (Session.Within.pure _).mono (Nat.zero_le 1)
    · exact .ask _

theorem FileWriter.within_replace (destination : String) (b : Bytes) (mode : Nat) :
    (FileWriter.replace destination b mode).Within 6 := by
  unfold FileWriter.replace
  split
  · refine (Within.ask _).bind (k := 5) fun random =>
      (Within.lift (FileWriter.within_writeAndMove _ destination b mode)).bind (k := 1) fun x => ?_
    split
    · exact (Within.pure _).mono (Nat.zero_le 1)
    · exact (Within.ask _).bind fun _ => .throw _
  · exact (Within.throw _).mono (Nat.zero_le 6)

/-- A pull ends after seventeen steps at most. -/
theorem Exchange.within_pull (s : Settings) (reference destination : String) :
    (Exchange.pull s reference destination).Within 17 := by
  refine (Within.check _).bind (k := 17) fun r => ?_
  unfold Exchange.pullReference
  refine (Within.check _).bind fun keyPath => (Within.check _).bind (k := 17) fun who =>
    (within_expandHome destination).bind (k := 16) fun path => (who.within_send _).bind (k := 8) fun response => ?_
  have haccept : Within (do
      let key ← Secret.load keyPath
      let plaintext ← Op.check (Envelope.decrypt key.bytes response.body)
      FileWriter.replace path plaintext Exchange.pulledMode) 8 :=
    (Secret.within_load keyPath).bind (k := 6) fun _ => (Within.check _).bind fun _ => FileWriter.within_replace path _ _
  split
  · exact (Within.throw _).bind fun _ => haccept
  · exact haccept

/-- The most steps that an operation takes. -/
def Task.length : Nat := 17

theorem Task.within_operation (task : Task) (s : Settings) : (task.operation s).Within length := by
  cases task with
  | drop path => exact ((Exchange.within_drop s path).bind (k := 0) fun _ => .pure _).mono (by decide)
  | pull reference destination => exact (Exchange.within_pull s reference destination).bind (k := 0) fun _ => .pure _

end Length

/-! ### Runs -/

namespace World

variable [DecidableEq ι] [DecidableEq δ] {w : World ι δ} {i : ι}

/-- A step of an operation brings it nearer to its end. -/
theorem within_step {n : Nat} (h : (w.sessions i).Within n) (j : ι) :
    ((w.step j).sessions i).Within (if j = i then n - 1 else n) := by
  by_cases hij : j = i
  · subst hij
    rw [if_pos rfl]
    cases hj : w.sessions j with
    | done x =>
      rw [step_done hj, hj]
      trivial
    | perform e next =>
      rw [hj] at h
      obtain ⟨k, rfl, hnext⟩ := h
      rw [step_perform hj]
      simpa using hnext _
    | call r token next =>
      rw [hj] at h
      obtain ⟨k, rfl, hnext⟩ := h
      rw [step_call hj]
      simpa using hnext _
  · rw [if_neg hij, (w.step_of_ne (Ne.symm hij)).1]
    exact h

/-- An operation has ended when its turns are as many as its steps. -/
theorem exists_result?_of_within {n : Nat} (h : (w.sessions i).Within n) {l : List ι} (hl : n ≤ l.count i) :
    ∃ x, (w.after l).result? i = some x := by
  induction l generalizing w n with
  | nil =>
    rw [List.count_nil, Nat.le_zero] at hl
    subst hl
    obtain ⟨x, hx⟩ := h.exists_done
    exact ⟨x, by rw [after_nil, result?, hx]⟩
  | cons j l ih =>
    rw [after_cons]
    refine ih (within_step h j) ?_
    rw [List.count_cons] at hl
    by_cases hij : j = i
    · simp only [hij, beq_self_eq_true, if_true] at hl ⊢
      omega
    · simp only [hij, beq_iff_eq, if_false] at hl ⊢
      exact hl

/-- Every operation ends, whatever others do in between. -/
theorem exists_result? (u : Remote) (disks : δ → FileTree) (clients : ι → Client δ) {l : List ι}
    (hl : Task.length ≤ l.count i) : ∃ x, ((start u disks clients).after l).result? i = some x := by
  have hwithin : ((start u disks clients).sessions i).Within Task.length :=
    (clients i).task.within_operation (clients i).settings
  exact exists_result?_of_within hwithin hl

/-- The machine of an operation after one of its effects. -/
theorem machine_step_perform {e : Effect} {next : e.Answer → Session Outcome} (h : w.sessions i = .perform e next) :
    (w.step i).machine i = ((w.machine i).answer e).2 := by
  rw [step_perform h]
  simp only [machine, Function.update_self]

/-- An operation that is not interrupted runs as it does alone. -/
theorem after_replicate {n : Nat} (h : (w.sessions i).Within n) {x : Outcome} {m : Machine} {u : Remote}
    (hrun : Session.run transport (w.sessions i) (w.machine i) w.remote = (x, m, u)) :
    (w.after (List.replicate n i)).result? i = some x ∧ (w.after (List.replicate n i)).remote = u ∧
      (w.after (List.replicate n i)).disks = Function.update w.disks (w.disk i) m.tree := by
  induction n generalizing w with
  | zero =>
    obtain ⟨x', hx⟩ := h.exists_done
    rw [hx] at hrun
    cases hrun
    exact ⟨by rw [List.replicate_zero, after_nil, result?, hx], rfl, (Function.update_eq_self _ _).symm⟩
  | succ n ih =>
    rw [List.replicate_succ, after_cons]
    have hwithin : ((w.step i).sessions i).Within n := by
      have hstep := within_step h i
      rwa [if_pos rfl] at hstep
    cases hi : w.sessions i with
    | done x' =>
      rw [step_done hi] at hwithin ⊢
      exact ih hwithin hrun
    | perform e next =>
      have hsession : (w.step i).sessions i = next ((w.machine i).answer e).1 := by
        rw [step_perform hi]
        exact Function.update_self _ _ _
      have hremote : (w.step i).remote = w.remote := by rw [step_perform hi]
      have hdisks : (w.step i).disks = Function.update w.disks (w.disk i) ((w.machine i).answer e).2.tree := by
        rw [step_perform hi]
      rw [hi] at hrun
      obtain ⟨hresult, hu, hd⟩ := ih hwithin (by rw [hsession, machine_step_perform hi, hremote]; exact hrun)
      exact ⟨hresult, hu, by rw [hd, disk_step, hdisks, Function.update_idem]⟩
    | call r token next =>
      have hsession : (w.step i).sessions i = next (.ok (w.remote.execute r token).1) := by
        rw [step_call hi]
        exact Function.update_self _ _ _
      have hmachine : (w.step i).machine i = w.machine i := by
        rw [step_call hi]
        rfl
      have hremote : (w.step i).remote = (w.remote.execute r token).2 := by rw [step_call hi]
      have hdisks : (w.step i).disks = w.disks := by rw [step_call hi]
      rw [hi] at hrun
      obtain ⟨hresult, hu, hd⟩ := ih hwithin (by rw [hsession, hmachine, hremote]; exact hrun)
      exact ⟨hresult, hu, by rw [hd, disk_step, hdisks]⟩

end World

end SealedDrop
