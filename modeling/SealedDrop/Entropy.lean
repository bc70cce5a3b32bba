import SealedDrop.Bytes

/-!
# Randomness

An unlimited supply of bytes, of which each is handed out once.
-/

namespace SealedDrop

/-- A supply of bytes, and how many of them have been handed out. -/
structure Entropy where
  /-- The byte at each place of the supply. -/
  source : Nat → UInt8
  /-- The place of the next byte. -/
  position : Nat := 0

namespace Entropy

/-- The next `n` bytes. -/
def peek (e : Entropy) (n : Nat) : Bytes :=
  (List.range n).map fun i => e.source (e.position + i)

@[simp] theorem length_peek (e : Entropy) (n : Nat) : (e.peek n).length = n := by
  simp [peek]

/-- The supply after the next `n` bytes. -/
def skip (e : Entropy) (n : Nat) : Entropy :=
  { e with position := e.position + n }

end Entropy

end SealedDrop
