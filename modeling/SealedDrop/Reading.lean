import SealedDrop.Bytes
import SealedDrop.Error

/-!
# Reading from sources

What an open file delivers, call by call, and the two ways to read all of it: into a buffer of the file's size, and into one
that doubles whenever it is full.

## The model

* A source is a list of events. A call with a limit takes at most that many bytes of the next event, so that one event may
  serve several calls; a call at the end of the list delivers nothing, which is the end of the file.
* `Buffer` is the growing buffer. `Buffer.step` is one turn of its loop: grow if full, then one call. `Buffer.drain` takes
  turns until the end; it stops because every turn uses up part of the source.
-/

namespace SealedDrop

/-- What a source does next. -/
inductive ReadEvent where
  /-- It delivers these bytes, at least one. -/
  | chunk (first : UInt8) (rest : Bytes)
  /-- It is interrupted by a signal. -/
  | interrupted
  /-- It fails. -/
  | failure (e : IoError)
deriving DecidableEq, Repr

/-- The failure of a call that a signal interrupts. -/
def IoError.interrupted : IoError :=
  ⟨.interrupted, "Interrupted system call (os error 4)"⟩

/-- The failure of a source that ends too early. -/
def IoError.endOfFile : IoError :=
  ⟨.unexpectedEof, "failed to fill whole buffer"⟩

namespace ReadEvent

/-- The answer to a call. -/
inductive Answer where
  /-- These bytes; none at the end. -/
  | data (b : Bytes)
  /-- An interruption. -/
  | interrupted
  /-- A failure. -/
  | failure (e : IoError)
deriving DecidableEq, Repr

/-- The event of delivering these bytes, if there are any. -/
def ofBytes : Bytes → List ReadEvent
  | [] => []
  | b :: rest => [chunk b rest]

/-- The answer to a call for at most `limit` bytes, and what the source does afterwards. -/
def read (limit : Nat) : List ReadEvent → Answer × List ReadEvent
  | [] => (.data [], [])
  | interrupted :: source => (.interrupted, source)
  | failure e :: source => (.failure e, source)
  | chunk b rest :: source => (.data ((b :: rest).take limit), ofBytes ((b :: rest).drop limit) ++ source)

/-- How much is left in an event: its bytes, and the event itself. -/
def weight : ReadEvent → Nat
  | chunk _ rest => rest.length + 2
  | _ => 1

/-- How much is left in a source. -/
def size (source : List ReadEvent) : Nat :=
  source.foldr (fun e n => e.weight + n) 0

/-- Every call that may take a byte uses up part of a source that has not ended. -/
theorem size_read_lt {limit : Nat} {source : List ReadEvent} (hl : 0 < limit) (hs : source ≠ []) :
    size (read limit source).2 < size source := by
  cases source with
  | nil => exact absurd rfl hs
  | cons event source =>
    cases event with
    | chunk b rest =>
      obtain ⟨n, rfl⟩ : ∃ n, limit = n + 1 := ⟨limit - 1, by omega⟩
      simp only [read, List.drop_succ_cons]
      cases h : rest.drop n with
      | nil => simp [ofBytes, size, weight]
      | cons c tail =>
        have : (rest.drop n).length = tail.length + 1 := by rw [h]; rfl
        simp only [List.length_drop] at this
        simp only [ofBytes, size, weight, List.cons_append, List.nil_append, List.foldr_cons]
        omega
    | interrupted => simp [read, size, weight]
    | failure e => simp [read, size, weight]

end ReadEvent

/-! ### A buffer of known size -/

/-- Reads exactly `n` bytes, calling again after interruptions, and tells what the source does afterwards. -/
def readExact (n : Nat) (source : List ReadEvent) : Except IoError Bytes × List ReadEvent :=
  match n, source with
  | 0, source => (.ok [], source)
  | _ + 1, [] => (.error .endOfFile, [])
  | n + 1, e :: rest =>
    match _h : ReadEvent.read (n + 1) (e :: rest) with
    | (.data b, after) =>
      match readExact (n + 1 - b.length) after with
      | (.ok more, after) => (.ok (b ++ more), after)
      | failed => failed
    | (.interrupted, after) => readExact (n + 1) after
    | (.failure e, after) => (.error e, after)
termination_by ReadEvent.size source
decreasing_by
  all_goals
    have lt := ReadEvent.size_read_lt (Nat.succ_pos n) (List.cons_ne_nil e rest)
    rwa [_h] at lt

/-! ### A growing buffer -/

/-- A buffer that is filled from its start. -/
structure Buffer where
  /-- How many bytes fit. -/
  capacity : Nat
  /-- The bytes so far. -/
  filled : Bytes
  /-- A buffer is never without room. -/
  capacity_pos : 0 < capacity := by decide
  /-- The bytes fit. -/
  filled_le : filled.length ≤ capacity := by decide

namespace Buffer

/-- The buffer before the first call. -/
def empty : Buffer where
  capacity := 4096
  filled := []

/-- How many bytes fit behind those in the buffer. -/
def room (b : Buffer) : Nat :=
  b.capacity - b.filled.length

/-- A full buffer doubles. -/
def grow (b : Buffer) : Buffer :=
  if b.filled.length = b.capacity then
    { capacity := 2 * b.capacity
      filled := b.filled
      capacity_pos := by have := b.capacity_pos; omega
      filled_le := by have := b.filled_le; omega }
  else b

/-- After growing there is room. -/
theorem room_grow_pos (b : Buffer) : 0 < b.grow.room := by
  have := b.capacity_pos
  have := b.filled_le
  unfold grow room
  split
  · simp only; omega
  · omega

/-- Puts bytes behind those in the buffer, as many as fit. -/
def push (b : Buffer) (more : Bytes) : Buffer :=
  { b with
    filled := b.filled ++ more.take b.room
    filled_le := by
      have := b.filled_le
      simp only [room, List.length_append, List.length_take]
      omega }

/-- The outcome of a turn. -/
inductive Turn where
  /-- Another turn is due. -/
  | more (b : Buffer) (source : List ReadEvent)
  /-- All has been read. -/
  | finished (contents : Bytes)
  /-- A call failed. -/
  | failed (e : IoError)

/-- One turn: make room, then call. -/
def step (b : Buffer) (source : List ReadEvent) : Turn :=
  match ReadEvent.read b.grow.room source with
  | (.data [], _) => .finished b.grow.filled
  | (.data (x :: more), after) => .more (b.grow.push (x :: more)) after
  | (.interrupted, after) => .more b.grow after
  | (.failure e, _) => .failed e

/-- A turn after which another is due uses up part of the source. -/
theorem size_lt_of_step {b b' : Buffer} {source after : List ReadEvent} (h : b.step source = .more b' after) :
    ReadEvent.size after < ReadEvent.size source := by
  have hs : source ≠ [] := by
    rintro rfl
    simp [step, ReadEvent.read] at h
  have lt := ReadEvent.size_read_lt b.room_grow_pos hs
  unfold step at h
  split at h <;> simp_all

/-- Takes turns until all has been read or a call fails. -/
def drain (b : Buffer) (source : List ReadEvent) : Except IoError Bytes :=
  match _h : b.step source with
  | .more b' after => drain b' after
  | .finished contents => .ok contents
  | .failed e => .error e
termination_by ReadEvent.size source
decreasing_by exact size_lt_of_step _h

end Buffer

/-- Reads a source to its end. -/
def readToEnd (source : List ReadEvent) : Except IoError Bytes :=
  Buffer.empty.drain source

/-- An open file. -/
structure Source where
  /-- Whether it is a regular file. -/
  isRegular : Bool
  /-- The size that the file system tells. -/
  size : Nat
  /-- What reading it delivers. -/
  events : List ReadEvent

end SealedDrop
