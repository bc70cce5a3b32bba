import SealedDrop.Reading
import Mathlib.Tactic.Common

/-!
# What reading delivers

Both ways to read a source give exactly the bytes that the source delivers, in order and all of them, or they fail.

## The model

`ReadEvent.contents` puts the chunks of a source together. A growing buffer reads a source to its end just if no call fails
(`IsFaultless`), and a buffer of known size is all that there is to read just if the source is whole (`IsWhole`). A source without
interruptions and failures (`IsSmooth`) is read in both ways.
-/

namespace SealedDrop

namespace ReadEvent

variable {limit n : Nat} {source after : List ReadEvent} {b : Bytes}

/-- The bytes of an event. -/
def bytes : ReadEvent → Bytes
  | chunk b rest => b :: rest
  | _ => []

/-- All bytes that a source delivers. -/
def contents (source : List ReadEvent) : Bytes :=
  source.flatMap bytes

/-- A source that delivers bytes and does nothing else. -/
def IsSmooth (source : List ReadEvent) : Prop :=
  ∀ e ∈ source, ∃ b rest, e = chunk b rest

theorem contents_ofBytes (b : Bytes) : contents (ofBytes b) = b := by
  cases b <;> simp [ofBytes, contents, bytes]

theorem contents_append (s s' : List ReadEvent) : contents (s ++ s') = contents s ++ contents s' := by
  simp [contents]

theorem isSmooth_ofBytes (b : Bytes) : IsSmooth (ofBytes b) := by
  cases b <;> simp [ofBytes, IsSmooth]

/-- A call takes its bytes from the front. -/
theorem contents_of_read_data (h : read limit source = (.data b, after)) : contents source = b ++ contents after := by
  cases source with
  | nil =>
    cases h
    rfl
  | cons e source =>
    cases e with
    | chunk c rest =>
      cases h
      rw [contents_append, contents_ofBytes, ← List.append_assoc, List.take_append_drop]
      rfl
    | interrupted => cases h
    | failure e => cases h

theorem contents_of_read_interrupted (h : read limit source = (.interrupted, after)) :
    contents source = contents after := by
  cases source with
  | nil => cases h
  | cons e source =>
    cases e with
    | chunk c rest => cases h
    | interrupted =>
      cases h
      rfl
    | failure e => cases h

/-- A call with room that delivers nothing is at the end. -/
theorem eq_nil_of_read_data_nil (hl : 0 < limit) (h : read limit source = (.data [], after)) : source = [] := by
  cases source with
  | nil => rfl
  | cons e source =>
    cases e with
    | chunk c rest =>
      obtain ⟨n, rfl⟩ : ∃ n, limit = n + 1 := ⟨limit - 1, by omega⟩
      cases h
    | interrupted => cases h
    | failure e => cases h

theorem length_of_read_data (h : read limit source = (.data b, after)) : b.length ≤ limit := by
  cases source with
  | nil =>
    cases h
    exact Nat.zero_le _
  | cons e source =>
    cases e with
    | chunk c rest =>
      cases h
      exact List.length_take_le _ _
    | interrupted => cases h
    | failure e => cases h

/-- A source that never fails. It may be interrupted. -/
def IsFaultless (source : List ReadEvent) : Prop :=
  ∀ e ∈ source, ∀ f, e ≠ failure f

theorem isFaultless_ofBytes (b : Bytes) : IsFaultless (ofBytes b) := by
  cases b <;> simp [ofBytes, IsFaultless]

/-- A source never fails if the next call does not fail and what is left never does. -/
theorem isFaultless_iff_of_read {answer : Answer} (h : read limit source = (answer, after)) :
    IsFaultless source ↔ (∀ f, answer ≠ .failure f) ∧ IsFaultless after := by
  cases source with
  | nil =>
    cases h
    simp [IsFaultless]
  | cons e source =>
    cases e with
    | chunk c rest =>
      cases h
      have hofBytes := isFaultless_ofBytes ((c :: rest).drop limit)
      simp only [IsFaultless, List.forall_mem_cons, List.forall_mem_append] at hofBytes ⊢
      simpa using fun _ => hofBytes
    | interrupted =>
      cases h
      simp [IsFaultless]
    | failure f =>
      cases h
      simp [IsFaultless]

/-- A source that delivers this many bytes, never fails, and is not interrupted after the last byte. -/
structure IsWhole (source : List ReadEvent) (n : Nat) : Prop where
  /-- No call fails. -/
  faultless : IsFaultless source
  /-- There are this many bytes. -/
  length : (contents source).length = n
  /-- Bytes come last. -/
  last : source.getLast? ≠ some interrupted

/-- Nothing is left of a source without bytes. -/
theorem isWhole_zero_iff : IsWhole source 0 ↔ source = [] := by
  constructor
  · rintro ⟨hfaultless, hlength, hlast⟩
    rcases List.eq_nil_or_concat source with rfl | ⟨l, e, rfl⟩
    · rfl
    · rw [List.concat_eq_append] at hfaultless hlength hlast
      exfalso
      cases e with
      | chunk c rest => simp [contents, bytes] at hlength
      | interrupted => exact hlast List.getLast?_concat
      | failure f => exact hfaultless (.failure f) (by simp) f rfl
  · rintro rfl
    exact ⟨by simp [IsFaultless], rfl, by simp⟩

/-- A call for some of the bytes leaves a source whole, and does not make it whole. -/
theorem isWhole_iff_of_read_data (h : read limit source = (.data b, after)) (hb : b.length ≤ n) :
    IsWhole source n ↔ IsWhole after (n - b.length) := by
  have hfaultless : IsFaultless source ↔ IsFaultless after := by
    rw [isFaultless_iff_of_read h]
    simp
  have hlength : (contents source).length = n ↔ (contents after).length = n - b.length := by
    rw [contents_of_read_data h, List.length_append]
    omega
  have hlast : source.getLast? = some interrupted ↔ after.getLast? = some interrupted := by
    cases source with
    | nil =>
      cases h
      rfl
    | cons e source =>
      cases e with
      | chunk c rest =>
        cases h
        cases source with
        | nil => cases (c :: rest).drop limit <;> simp [ofBytes]
        | cons e' source => simp [List.getLast?_append]
      | interrupted => cases h
      | failure f => cases h
  constructor
  · rintro ⟨h₁, h₂, h₃⟩
    exact ⟨hfaultless.mp h₁, hlength.mp h₂, mt hlast.mpr h₃⟩
  · rintro ⟨h₁, h₂, h₃⟩
    exact ⟨hfaultless.mpr h₁, hlength.mpr h₂, mt hlast.mp h₃⟩

/-- An interruption does neither, if bytes are to come. -/
theorem isWhole_iff_of_read_interrupted (h : read limit source = (.interrupted, after)) (hn : 0 < n) :
    IsWhole source n ↔ IsWhole after n := by
  cases source with
  | nil => cases h
  | cons e source =>
    cases e with
    | chunk c rest => cases h
    | failure f => cases h
    | interrupted =>
      cases h
      have hlast : (contents after).length = n → (interrupted :: after).getLast? = after.getLast? := by
        intro hlength
        cases after with
        | nil => exact absurd hlength (Nat.ne_of_lt hn)
        | cons e source => rfl
      constructor
      · rintro ⟨h₁, h₂, h₃⟩
        exact ⟨fun e he => h₁ e (List.mem_cons_of_mem _ he), h₂, hlast h₂ ▸ h₃⟩
      · rintro ⟨h₁, h₂, h₃⟩
        exact ⟨List.forall_mem_cons.mpr ⟨by simp, h₁⟩, h₂, (hlast h₂).symm ▸ h₃⟩

theorem IsSmooth.isFaultless (h : IsSmooth source) : IsFaultless source := by
  intro e he f
  obtain ⟨c, rest, rfl⟩ := h e he
  simp

/-- A smooth source is whole. -/
theorem IsSmooth.isWhole (h : IsSmooth source) : IsWhole source (contents source).length where
  faultless := h.isFaultless
  length := rfl
  last := by
    intro hlast
    obtain ⟨c, rest, heq⟩ := h interrupted (List.mem_of_getLast? hlast)
    cases heq

end ReadEvent

open ReadEvent

/-! ### A buffer of known size -/

/-- Reading exactly so many bytes takes them from the front. -/
theorem contents_of_readExact {n : Nat} {source after : List ReadEvent} {b : Bytes}
    (h : readExact n source = (.ok b, after)) : contents source = b ++ contents after ∧ b.length = n := by
  fun_induction readExact n source generalizing b with
  | case1 source =>
    cases h
    exact ⟨rfl, rfl⟩
  | case2 => cases h
  | case3 n e rest b' after' hread more after'' hmore ih =>
    cases h
    obtain ⟨hcontents, hlength⟩ := ih hmore
    have hle := length_of_read_data hread
    refine ⟨by rw [contents_of_read_data hread, hcontents, List.append_assoc], ?_⟩
    rw [List.length_append, hlength]
    omega
  | case4 n e rest b' after' hread hfail ih => exact absurd h (hfail b after)
  | case5 n e rest after' hread ih =>
    obtain ⟨hcontents, hlength⟩ := ih h
    exact ⟨by rw [contents_of_read_interrupted hread, hcontents], hlength⟩
  | case6 => cases h

/-- Reading exactly so many bytes leaves nothing of a source just if the source is whole. -/
theorem readExact_eq_nil_iff {n : Nat} {source : List ReadEvent} :
    (∃ b, readExact n source = (.ok b, [])) ↔ IsWhole source n := by
  fun_induction readExact n source with
  | case1 source =>
    rw [isWhole_zero_iff]
    simp
  | case2 n =>
    refine ⟨fun ⟨b, h⟩ => (by cases h), fun h => absurd h.length (by simp [contents])⟩
  | case3 n e rest b' after' hread more after'' hmore ih =>
    rw [isWhole_iff_of_read_data hread (length_of_read_data hread), ← ih, hmore]
    simp
  | case4 n e rest b' after' hread hfail ih =>
    rw [isWhole_iff_of_read_data hread (length_of_read_data hread)]
    exact ih
  | case5 n e rest after' hread ih =>
    rw [isWhole_iff_of_read_interrupted hread (Nat.succ_pos n)]
    exact ih
  | case6 n e rest f after' hread =>
    refine ⟨fun ⟨b, h⟩ => (by cases h), fun h => ?_⟩
    exact absurd rfl (((isFaultless_iff_of_read hread).mp h.faultless).1 f)

/-- As many bytes as a source that never fails delivers can be read, and what is left never fails either. -/
theorem exists_readExact {n : Nat} {source : List ReadEvent} (h : IsFaultless source) (hn : n ≤ (contents source).length) :
    ∃ b after, readExact n source = (.ok b, after) ∧ IsFaultless after := by
  fun_induction readExact n source with
  | case1 source => exact ⟨[], source, rfl, h⟩
  | case2 n => exact absurd hn (by simp [contents])
  | case3 n e rest b' after' hread more after'' hmore ih =>
    have hafter := ((isFaultless_iff_of_read hread).mp h).2
    rw [contents_of_read_data hread, List.length_append] at hn
    obtain ⟨b, after, heq, hfaultless⟩ := ih hafter (by omega)
    rw [hmore] at heq
    cases heq
    exact ⟨_, _, rfl, hfaultless⟩
  | case4 n e rest b' after' hread hfail ih =>
    have hafter := ((isFaultless_iff_of_read hread).mp h).2
    rw [contents_of_read_data hread, List.length_append] at hn
    obtain ⟨b, after, heq, -⟩ := ih hafter (by omega)
    exact absurd heq (hfail b after)
  | case5 n e rest after' hread ih =>
    rw [contents_of_read_interrupted hread] at hn
    exact ih ((isFaultless_iff_of_read hread).mp h).2 hn
  | case6 n e rest f after' hread => exact absurd rfl (((isFaultless_iff_of_read hread).mp h).1 f)

/-! ### A growing buffer -/

namespace Buffer

variable {b b' : Buffer} {source after : List ReadEvent} {out : Bytes} {e : IoError}

theorem filled_grow (b : Buffer) : b.grow.filled = b.filled := by
  unfold grow
  split <;> rfl

theorem filled_push (b : Buffer) (more : Bytes) : (b.push more).filled = b.filled ++ more.take b.room := rfl

/-- The outcomes of a turn, by the answer to its call. -/
theorem step_eq (b : Buffer) (source : List ReadEvent) :
    b.step source =
      match ReadEvent.read b.grow.room source with
      | (.data [], _) => .finished b.grow.filled
      | (.data (x :: more), after) => .more (b.grow.push (x :: more)) after
      | (.interrupted, after) => .more b.grow after
      | (.failure e, _) => .failed e := rfl

/-- A turn moves bytes from the source to the buffer, and loses none. -/
theorem contents_of_step_more (h : b.step source = .more b' after) :
    b.filled ++ contents source = b'.filled ++ contents after := by
  rw [step_eq] at h
  split at h
  · cases h
  · next x more after' hread =>
    cases h
    have hfits : (x :: more).take b.grow.room = x :: more := List.take_of_length_le (length_of_read_data hread)
    rw [contents_of_read_data hread, filled_push, filled_grow, hfits, List.append_assoc]
  · next after' hread =>
    cases h
    rw [contents_of_read_interrupted hread, filled_grow]
  · cases h

theorem of_step_finished (h : b.step source = .finished out) : out = b.filled ∧ source = [] := by
  rw [step_eq] at h
  split at h
  · next hread =>
    cases h
    exact ⟨filled_grow b, eq_nil_of_read_data_nil b.room_grow_pos hread⟩
  · cases h
  · cases h
  · cases h

/-- A buffer is drained of all that the source delivers. -/
theorem eq_of_drain (h : b.drain source = .ok out) : out = b.filled ++ contents source := by
  fun_induction drain b source with
  | case1 b source b' after hstep ih => rw [ih h, contents_of_step_more hstep]
  | case2 b source out' hstep =>
    cases h
    obtain ⟨rfl, rfl⟩ := of_step_finished hstep
    exact (List.append_nil _).symm
  | case3 => cases h

/-- A buffer is drained of a source just if the source never fails. -/
theorem exists_drain_iff {b : Buffer} {source : List ReadEvent} : (∃ out, b.drain source = .ok out) ↔ IsFaultless source := by
  fun_induction drain b source with
  | case1 b source b' after hstep ih =>
    rw [ih]
    rw [step_eq] at hstep
    split at hstep
    · cases hstep
    · next hread =>
      cases hstep
      rw [isFaultless_iff_of_read hread]
      simp
    · next hread =>
      cases hstep
      rw [isFaultless_iff_of_read hread]
      simp
    · cases hstep
  | case2 b source out hstep =>
    obtain ⟨-, rfl⟩ := of_step_finished hstep
    simp [IsFaultless]
  | case3 b source e hstep =>
    rw [step_eq] at hstep
    split at hstep
    · cases hstep
    · cases hstep
    · cases hstep
    · next f after hread =>
      rw [isFaultless_iff_of_read hread]
      simp

end Buffer

theorem eq_of_readToEnd {source : List ReadEvent} {out : Bytes} (h : readToEnd source = .ok out) :
    out = contents source := Buffer.eq_of_drain h

/-- **Reading to the end**: it gives all that the source delivers, just if no call fails. -/
theorem readToEnd_eq_ok_iff {source : List ReadEvent} {out : Bytes} :
    readToEnd source = .ok out ↔ IsFaultless source ∧ out = contents source := by
  constructor
  · intro h
    exact ⟨Buffer.exists_drain_iff.mp ⟨out, h⟩, eq_of_readToEnd h⟩
  · rintro ⟨hfaultless, rfl⟩
    obtain ⟨out, hout⟩ := Buffer.exists_drain_iff.mpr hfaultless
    exact hout.trans (congrArg Except.ok (eq_of_readToEnd hout))

end SealedDrop
