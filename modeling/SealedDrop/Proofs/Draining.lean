import SealedDrop.Proofs.Reading
import Mathlib.Algebra.Group.Nat.Defs

/-!
# The calls that drain a reader

A reader hands out its bytes in pieces of its own choosing and may be interrupted between them. Whatever it does, the loop with the
growing buffer asks for at least one byte each time, takes an empty answer for the end only at the end, and returns every byte.

## The model

* A call (`ReadCall`) is the length of the buffer, the length of the slice that is offered, and the answer. `Buffer.calls` lists the
  calls of the loop, in the recursion of `Buffer.drain`.
* A `Reader` is anything with a state that answers calls. It may choose its answer by how much is asked for, so it is more than a
  list of events. `Reader.Delivers` says which bytes it has; `Reader.Halts` says only that it ends or fails however it is called.
* `Reader.Answers` says that the calls in a list have been answered by the reader.

## What is proved

* `Buffer.of_step_more` — what a turn does to the buffer if another is due.
* `Buffer.fits_of_calls_eq` — by induction on the turns: every call of the loop fits (`ReadCall.Fits`), and just the last is final.
* `Reader.Halts.exists_source` — for every reader that halts, a source answers the calls of the loop as the reader does.
* `Reader.Delivers.drain_eq` — what the reader delivers is what draining gives.
* `readToEnd_reader` — reading any reader to its end: the calls, the bytes, the failure.
-/

namespace SealedDrop

open ReadEvent

/-! ### Calls -/

/-- An answer after which there is no other call: the end, or a failure. -/
def ReadEvent.Answer.IsFinal : Answer → Prop
  | .data b => b = []
  | .interrupted => False
  | .failure _ => True

/-- The bytes in an answer. -/
def ReadEvent.Answer.bytes : Answer → Bytes
  | .data b => b
  | _ => []

theorem ReadEvent.Answer.length_bytes_le {answer : Answer} {limit : Nat} (h : ∀ b, answer = .data b → b.length ≤ limit) :
    answer.bytes.length ≤ limit := by
  cases answer with
  | data b => exact h b rfl
  | interrupted => exact Nat.zero_le _
  | failure e => exact Nat.zero_le _

/-- A call of the loop. -/
structure ReadCall where
  /-- The length of the buffer. -/
  capacity : Nat
  /-- The length of the slice that is offered. -/
  offered : Nat
  /-- The answer. -/
  answer : Answer

namespace ReadCall

/-- All bytes that the calls delivered. -/
def delivered (l : List ReadCall) : Bytes :=
  l.flatMap (·.answer.bytes)

theorem delivered_cons (c : ReadCall) (l : List ReadCall) : delivered (c :: l) = c.answer.bytes ++ delivered l := rfl

/-- A call as it should be when `n` bytes have been delivered before it. -/
structure Fits (c : ReadCall) (n : Nat) : Prop where
  /-- Something is asked for. -/
  offered_pos : 0 < c.offered
  /-- All that is free behind the bytes so far is offered. -/
  capacity_eq : c.capacity = n + c.offered
  /-- The buffer has been doubled some number of times. -/
  sized : ∃ k, c.capacity = 4096 * 2 ^ k
  /-- The answer fits. -/
  length_le : c.answer.bytes.length ≤ c.offered

end ReadCall

namespace Buffer

open ReadCall

variable {b b' : Buffer} {source after : List ReadEvent} {c : ReadCall} {l l' : List ReadCall} {out : Bytes} {e : IoError}

/-- The call of a turn. -/
def call (b : Buffer) (source : List ReadEvent) : ReadCall where
  capacity := b.grow.capacity
  offered := b.grow.room
  answer := (read b.grow.room source).1

/-- The calls of all turns. -/
def calls (b : Buffer) (source : List ReadEvent) : List ReadCall :=
  match _h : b.step source with
  | .more b' after => b.call source :: calls b' after
  | .finished _ => [b.call source]
  | .failed _ => [b.call source]
termination_by ReadEvent.size source
decreasing_by exact size_lt_of_step _h

/-- The buffer has been doubled some number of times since the first call. -/
def IsSized (b : Buffer) : Prop :=
  ∃ k, b.capacity = 4096 * 2 ^ k

theorem isSized_empty : empty.IsSized :=
  ⟨0, rfl⟩

theorem IsSized.grow (h : b.IsSized) : b.grow.IsSized := by
  obtain ⟨k, hk⟩ := h
  unfold Buffer.grow
  split
  · exact ⟨k + 1, by simp only [hk, Nat.pow_succ]; omega⟩
  · exact ⟨k, hk⟩

theorem call_offered_pos (b : Buffer) (source : List ReadEvent) : 0 < (b.call source).offered :=
  b.room_grow_pos

/-- A call has all the room behind the bytes in the buffer. -/
theorem fits_call (h : b.IsSized) (source : List ReadEvent) : (b.call source).Fits b.filled.length where
  offered_pos := b.call_offered_pos source
  capacity_eq := by
    have hle := b.grow.filled_le
    rw [filled_grow] at hle
    simp only [call, room, filled_grow]
    omega
  sized := h.grow
  length_le := Answer.length_bytes_le fun _ hanswer => length_of_read_data (Prod.ext hanswer rfl)

/-- **One turn**: if another is due, the answer was not final, and its bytes are behind those in the buffer. -/
theorem of_step_more (h : b.step source = .more b' after) :
    ¬ (b.call source).answer.IsFinal ∧ (b.IsSized → b'.IsSized) ∧ b'.filled = b.filled ++ (b.call source).answer.bytes := by
  rw [step_eq] at h
  split at h
  · cases h
  · next x more after' hread =>
    cases h
    have hanswer : (b.call source).answer = .data (x :: more) := congrArg Prod.fst hread
    have hfits : (x :: more).take b.grow.room = x :: more := List.take_of_length_le (length_of_read_data hread)
    rw [hanswer, filled_push, filled_grow, hfits]
    exact ⟨List.cons_ne_nil x more, IsSized.grow, rfl⟩
  · next after' hread =>
    cases h
    have hanswer : (b.call source).answer = .interrupted := congrArg Prod.fst hread
    rw [hanswer, filled_grow]
    exact ⟨id, IsSized.grow, (List.append_nil _).symm⟩
  · cases h

theorem answer_of_step_finished (h : b.step source = .finished out) : (b.call source).answer = .data [] := by
  obtain ⟨-, rfl⟩ := of_step_finished h
  rfl

theorem answer_of_step_failed (h : b.step source = .failed e) : (b.call source).answer = .failure e := by
  rw [step_eq] at h
  split at h
  · cases h
  · cases h
  · cases h
  · next f after hread =>
    cases h
    exact congrArg Prod.fst hread

theorem calls_of_step_more (h : b.step source = .more b' after) : b.calls source = b.call source :: b'.calls after := by
  rw [calls]
  split <;> simp_all only [Turn.more.injEq, reduceCtorEq]

theorem calls_of_step_finished (h : b.step source = .finished out) : b.calls source = [b.call source] := by
  rw [calls]
  split <;> simp_all only [reduceCtorEq]

theorem calls_of_step_failed (h : b.step source = .failed e) : b.calls source = [b.call source] := by
  rw [calls]
  split <;> simp_all only [reduceCtorEq]

/-- A final answer of a reader is that of a source, after which nothing is called. -/
theorem exists_calls_of_isFinal (b : Buffer) {answer : Answer} (h : answer.IsFinal) :
    ∃ source, b.calls source = [⟨b.grow.capacity, b.grow.room, answer⟩] := by
  cases answer with
  | data more =>
    obtain rfl : more = [] := h
    exact ⟨[], calls_of_step_finished (step_eq b [])⟩
  | interrupted => exact h.elim
  | failure e => exact ⟨[.failure e], calls_of_step_failed (step_eq b [.failure e])⟩

/-- Any other answer that fits is that of an event, whatever comes after it. -/
theorem exists_calls_of_not_isFinal (b : Buffer) {answer : Answer} (h : ¬ answer.IsFinal) (hfits : answer.bytes.length ≤ b.grow.room) :
    ∃ (event : ReadEvent) (b' : Buffer), ∀ source,
      b.calls (event :: source) = ⟨b.grow.capacity, b.grow.room, answer⟩ :: b'.calls source := by
  cases answer with
  | data more =>
    cases more with
    | nil => exact absurd rfl h
    | cons x more =>
      have hfits : (x :: more).length ≤ b.grow.room := hfits
      refine ⟨.chunk x more, b.grow.push (x :: more), fun source => ?_⟩
      have hread : read b.grow.room (.chunk x more :: source) = (.data (x :: more), source) := by
        change (Answer.data ((x :: more).take _), ofBytes ((x :: more).drop _) ++ source) = _
        rw [List.take_of_length_le hfits, List.drop_of_length_le hfits]
        rfl
      have hstep := step_eq b (.chunk x more :: source)
      rw [hread] at hstep
      rw [calls_of_step_more hstep, call, hread]
  | interrupted => exact ⟨.interrupted, b.grow, fun source => calls_of_step_more (step_eq b (.interrupted :: source))⟩
  | failure e => exact absurd trivial h

theorem calls_ne_nil (b : Buffer) (source : List ReadEvent) : b.calls source ≠ [] := by
  rw [calls]
  split <;> exact List.cons_ne_nil _ _

/-- The first call fits, and it is final just if it is the only one. -/
theorem fits_of_head (hsized : b.IsSized) (hfinal : (b.call source).answer.IsFinal ↔ l' = []) :
    (b.call source).Fits (b.filled ++ delivered []).length ∧ ((b.call source).answer.IsFinal ↔ l' = []) := by
  refine ⟨?_, hfinal⟩
  rw [delivered, List.flatMap_nil, List.append_nil]
  exact fits_call hsized source

/-- **Every call fits**: it offers all the room behind the bytes delivered so far; and just the last one is final. -/
theorem fits_of_calls_eq (hsized : b.IsSized) (h : b.calls source = l ++ c :: l') :
    c.Fits (b.filled ++ delivered l).length ∧ (c.answer.IsFinal ↔ l' = []) := by
  fun_induction calls b source generalizing l with
  | case1 b source b' after hstep ih =>
    obtain ⟨hgoes, hsized', hfilled⟩ := of_step_more hstep
    cases l with
    | nil =>
      obtain ⟨rfl, rfl⟩ := List.cons.inj h
      exact fits_of_head hsized (iff_of_false hgoes (calls_ne_nil b' after))
    | cons c' l =>
      obtain ⟨rfl, hrest⟩ := List.cons.inj h
      have hfits := ih (hsized' hsized) hrest
      rwa [hfilled, List.append_assoc, ← delivered_cons] at hfits
  | case2 b source out hstep =>
    obtain ⟨rfl, hc⟩ | ⟨-, hnil⟩ := List.singleton_eq_append_iff.mp h
    · obtain ⟨rfl, rfl⟩ := List.cons.inj hc
      exact fits_of_head hsized (iff_of_true ((congrArg Answer.IsFinal (answer_of_step_finished hstep)).mpr rfl) rfl)
    · cases hnil
  | case3 b source e hstep =>
    obtain ⟨rfl, hc⟩ | ⟨-, hnil⟩ := List.singleton_eq_append_iff.mp h
    · obtain ⟨rfl, rfl⟩ := List.cons.inj hc
      exact fits_of_head hsized (iff_of_true ((congrArg Answer.IsFinal (answer_of_step_failed hstep)).mpr trivial) rfl)
    · cases hnil

/-- What draining gives is what the calls delivered, or the failure of a call. -/
theorem drain_eq_of_calls (b : Buffer) (source : List ReadEvent) :
    (∀ e, (∃ c ∈ b.calls source, c.answer = .failure e) → b.drain source = .error e) ∧
    ((∀ c ∈ b.calls source, ∀ e, c.answer ≠ .failure e) → b.drain source = .ok (b.filled ++ delivered (b.calls source))) := by
  fun_induction drain b source with
  | case1 b source b' after hstep ih =>
    obtain ⟨hgoes, -, hfilled⟩ := of_step_more hstep
    rw [calls_of_step_more hstep]
    refine ⟨?_, ?_⟩
    · rintro e ⟨c, hc, hanswer⟩
      obtain rfl | hc := List.mem_cons.mp hc
      · exact absurd ((congrArg Answer.IsFinal hanswer).mpr trivial) hgoes
      · exact ih.1 e ⟨c, hc, hanswer⟩
    · intro hnone
      rw [ih.2 fun c hc => hnone c (List.mem_cons_of_mem _ hc), hfilled, delivered_cons, List.append_assoc]
  | case2 b source out hstep =>
    obtain ⟨rfl, -⟩ := of_step_finished hstep
    have hanswer := answer_of_step_finished hstep
    rw [calls_of_step_finished hstep]
    refine ⟨?_, fun _ => ?_⟩
    · rintro e ⟨c, hc, hfailure⟩
      rw [List.mem_singleton.mp hc, hanswer] at hfailure
      cases hfailure
    · rw [delivered_cons, hanswer]
      exact congrArg Except.ok (List.append_nil _).symm
  | case3 b source e hstep =>
    have hanswer := answer_of_step_failed hstep
    rw [calls_of_step_failed hstep]
    refine ⟨?_, fun hnone => absurd hanswer (hnone _ (List.mem_singleton.mpr rfl) e)⟩
    rintro e' ⟨c, hc, hfailure⟩
    rw [List.mem_singleton.mp hc, hanswer] at hfailure
    cases hfailure
    rfl

end Buffer

/-- The calls of reading a source to its end. -/
def readCalls (source : List ReadEvent) : List ReadCall :=
  Buffer.empty.calls source

/-! ### Readers -/

/-- A reader with a state: how it answers a call for at most so many bytes, and its state afterwards. -/
structure Reader (σ : Type) where
  /-- The answer to a call, and what comes after it. -/
  read : σ → Nat → Answer × σ
  /-- It does not deliver more than is asked for. -/
  length_le : ∀ {s limit b}, (read s limit).1 = .data b → b.length ≤ limit
  /-- What it tells as a failure is no interruption. -/
  kind_ne : ∀ {s limit e}, (read s limit).1 = .failure e → e.kind ≠ .interrupted

/-- An answer for a stream of which this is left afterwards: a piece of it, nothing only at its end, or an interruption. -/
def ReadEvent.Answer.Gives (stream left : Bytes) : Answer → Prop
  | .data b => stream = b ++ left ∧ (b = [] → stream = [])
  | .interrupted => left = stream
  | .failure _ => False

theorem ReadEvent.Answer.Gives.eq {stream left : Bytes} {answer : Answer} (h : answer.Gives stream left) :
    stream = answer.bytes ++ left := by
  cases answer with
  | data b => exact h.1
  | interrupted => exact h.symm
  | failure e => exact h.elim

namespace Reader

variable {σ : Type} {r : Reader σ} {s s' : σ} {stream : Bytes} {c : ReadCall} {l : List ReadCall}

/-- A state of the reader after a call for something that was not final. -/
def Next (r : Reader σ) (s' s : σ) : Prop :=
  ∃ limit, 0 < limit ∧ ¬ (r.read s limit).1.IsFinal ∧ s' = (r.read s limit).2

/-- The reader comes to its end, or fails, however it is called. -/
def Halts (r : Reader σ) (s : σ) : Prop :=
  Acc r.Next s

/-- The reader delivers these bytes, in pieces of its choice and with finitely many interruptions, and then nothing. -/
inductive Delivers (r : Reader σ) : σ → Bytes → Prop where
  /-- However it is called, it gives a piece and delivers what is left. -/
  | intro {s : σ} {stream : Bytes} (left : Nat → Bytes) (gives : ∀ limit, 0 < limit → (r.read s limit).1.Gives stream (left limit))
      (next : ∀ limit, 0 < limit → ¬ (r.read s limit).1.IsFinal → Delivers r (r.read s limit).2 (left limit)) : Delivers r s stream

/-- The calls are answered as the reader does, one after the other. -/
def Answers (r : Reader σ) : σ → List ReadCall → Prop
  | _, [] => True
  | s, c :: l => (r.read s c.offered).1 = c.answer ∧ r.Answers (r.read s c.offered).2 l

/-- A reader that delivers bytes comes to its end. -/
theorem Delivers.halts (h : r.Delivers s stream) : r.Halts s := by
  induction h with
  | intro left gives next ih =>
    refine Acc.intro _ ?_
    rintro s' ⟨limit, hlimit, hgoes, rfl⟩
    exact ih limit hlimit hgoes

/-- **Every reader is met**: there is a source on which the calls of the loop are answered as the reader answers them. -/
theorem Halts.exists_source (h : r.Halts s) (b : Buffer) : ∃ source, r.Answers s (b.calls source) := by
  induction h generalizing b with
  | intro s _ ih =>
    by_cases hfinal : (r.read s b.grow.room).1.IsFinal
    · obtain ⟨source, hcalls⟩ := b.exists_calls_of_isFinal hfinal
      refine ⟨source, ?_⟩
      rw [hcalls]
      exact ⟨rfl, trivial⟩
    · have hfits : (r.read s b.grow.room).1.bytes.length ≤ b.grow.room := Answer.length_bytes_le fun _ => r.length_le
      obtain ⟨event, b', hcalls⟩ := b.exists_calls_of_not_isFinal hfinal hfits
      obtain ⟨source, hanswers⟩ := ih _ ⟨_, b.room_grow_pos, hfinal, rfl⟩ b'
      refine ⟨event :: source, ?_⟩
      rw [hcalls]
      exact ⟨rfl, hanswers⟩

/-- Draining a reader that delivers a stream puts the stream behind the bytes in the buffer. -/
theorem Delivers.drain_eq {b : Buffer} {source : List ReadEvent} (h : r.Delivers s stream) (hanswers : r.Answers s (b.calls source)) :
    b.drain source = .ok (b.filled ++ stream) := by
  fun_induction Buffer.drain b source generalizing s stream with
  | case1 b source b' after hstep ih =>
    obtain ⟨hgoes, -, hfilled⟩ := Buffer.of_step_more hstep
    rw [Buffer.calls_of_step_more hstep] at hanswers
    obtain ⟨hanswer, hrest⟩ := hanswers
    obtain ⟨left, gives, next⟩ := h
    have hgives := gives _ (b.call_offered_pos source)
    rw [ih (next _ (b.call_offered_pos source) (hanswer ▸ hgoes)) hrest, hfilled, List.append_assoc, hgives.eq, ← hanswer]
  | case2 b source out hstep =>
    obtain ⟨rfl, -⟩ := Buffer.of_step_finished hstep
    rw [Buffer.calls_of_step_finished hstep] at hanswers
    obtain ⟨left, gives, -⟩ := h
    have hgives := gives _ (b.call_offered_pos source)
    rw [hanswers.1.trans (Buffer.answer_of_step_finished hstep)] at hgives
    rw [hgives.2 rfl, List.append_nil]
  | case3 b source e hstep =>
    rw [Buffer.calls_of_step_failed hstep] at hanswers
    obtain ⟨left, gives, -⟩ := h
    have hgives := gives _ (b.call_offered_pos source)
    rw [hanswers.1.trans (Buffer.answer_of_step_failed hstep)] at hgives
    exact hgives.elim

end Reader

/-- **Reading to the end**: every reader that halts is met by the loop; and whatever source answers the calls of the loop as the
reader does, each call offers all that is free in a buffer of 4096 bytes doubled some number of times, and that is something; just the
last answer is final; all that the reader delivers is returned; and so is its failure. -/
theorem readToEnd_reader {σ : Type} (r : Reader σ) (s : σ) :
    (r.Halts s → ∃ source, r.Answers s (readCalls source)) ∧
    (∀ stream, r.Delivers s stream → r.Halts s) ∧
    ∀ source, r.Answers s (readCalls source) →
      (∀ l c l', readCalls source = l ++ c :: l' → c.Fits (ReadCall.delivered l).length ∧ (c.answer.IsFinal ↔ l' = [])) ∧
      (∀ stream, r.Delivers s stream → readToEnd source = .ok stream) ∧
      (∀ c ∈ readCalls source, ∀ e, c.answer = .failure e → readToEnd source = .error e) ∧
      ((∀ c ∈ readCalls source, ∀ e, c.answer ≠ .failure e) → readToEnd source = .ok (ReadCall.delivered (readCalls source))) := by
  have hresult := Buffer.empty.drain_eq_of_calls
  refine ⟨fun h => h.exists_source Buffer.empty, fun stream => Reader.Delivers.halts, fun source hanswers => ⟨?_, ?_, ?_, ?_⟩⟩
  · intro l c l' h
    exact Buffer.fits_of_calls_eq Buffer.isSized_empty h
  · intro stream h
    exact h.drain_eq hanswers
  · intro c hc e hfailure
    exact (hresult source).1 e ⟨c, hc, hfailure⟩
  · exact (hresult source).2

/-- A reader that hands out half of what is asked for, and is interrupted before each piece. -/
def halvingReader : Reader (Bytes × Bool) where
  read
    | (left, true), _ => (.interrupted, left, false)
    | (left, false), limit => (.data (left.take (limit - limit / 2)), left.drop (limit - limit / 2), true)
  length_le := by
    rintro ⟨left, _ | _⟩ limit b h
    · cases h
      exact Nat.le_trans (List.length_take_le _ _) (Nat.sub_le _ _)
    · cases h
  kind_ne := by
    rintro ⟨left, _ | _⟩ limit e h <;> cases h

/-- It delivers all that it has. -/
theorem delivers_halvingReader (left : Bytes) : halvingReader.Delivers (left, true) left := by
  induction hn : left.length using Nat.strongRecOn generalizing left with
  | ind n ih =>
    have hhalves : halvingReader.Delivers (left, false) left := by
      refine .intro (fun limit => left.drop (limit - limit / 2)) (fun limit hlimit => ?_) fun limit hlimit hgoes => ?_
      · refine ⟨(List.take_append_drop _ _).symm, fun hnil => ?_⟩
        obtain h | h := List.take_eq_nil_iff.mp hnil
        · omega
        · exact h
      · have hne : left ≠ [] := fun h => hgoes (by rw [h]; exact List.take_nil)
        have hpos := List.length_pos_iff.mpr hne
        exact ih _ (by rw [← hn, List.length_drop]; omega) _ rfl
    exact .intro (fun _ => left) (fun _ _ => rfl) fun _ _ _ => hhalves

/-- A reader of ten thousand bytes is read through buffers that have grown. -/
theorem readToEnd_halvingReader :
    ∃ source, halvingReader.Answers (List.replicate 10000 0x41, true) (readCalls source) ∧
      readToEnd source = .ok (List.replicate 10000 0x41) ∧
      ∃ l c, readCalls source = l ++ [c] ∧ c.answer = .data [] ∧ 10000 < c.capacity := by
  obtain ⟨hmet, hhalts, hread⟩ := readToEnd_reader halvingReader (List.replicate 10000 0x41, true)
  have hdelivers := delivers_halvingReader (List.replicate 10000 0x41)
  obtain ⟨source, hanswers⟩ := hmet (hhalts _ hdelivers)
  obtain ⟨hcalls, hstream, hfailure, hall⟩ := hread source hanswers
  have hok := hstream _ hdelivers
  obtain ⟨l, c, hlast⟩ := (List.eq_nil_or_concat (readCalls source)).resolve_left (Buffer.calls_ne_nil _ _)
  rw [List.concat_eq_append] at hlast
  obtain ⟨hfits, hfinal⟩ := hcalls l c [] hlast
  have hnone : ∀ c ∈ readCalls source, ∀ e, c.answer ≠ .failure e := fun c hc e he => by
    rw [hok] at hfailure
    cases hfailure c hc e he
  have hend : c.answer = .data [] := by
    have hc : c ∈ readCalls source := by simp [hlast]
    cases hanswer : c.answer with
    | data b => rw [hanswer] at hfinal; rw [hfinal.mpr rfl]
    | interrupted => rw [hanswer] at hfinal; exact (hfinal.mpr rfl).elim
    | failure e => exact absurd hanswer (hnone c hc e)
  refine ⟨source, hanswers, hok, l, c, hlast, hend, ?_⟩
  have hlength : (ReadCall.delivered l).length = 10000 := by
    have heq := (hall hnone).symm.trans hok
    rw [hlast] at heq
    have hbytes := Except.ok.inj heq
    rw [ReadCall.delivered, List.flatMap_append, List.flatMap_singleton, hend] at hbytes
    rw [ReadCall.delivered, ← List.append_nil (List.flatMap _ l)]
    exact (congrArg List.length hbytes).trans List.length_replicate
  have hpos := hfits.offered_pos
  rw [hfits.capacity_eq, hlength]
  omega

end SealedDrop
