/-!
# Modular arithmetic

Powers and inverses modulo a number, for operands of thousands of bits.

## The model

`modPow` squares and multiplies along the binary digits of the exponent. `inverse?` comes from Bézout coefficients,
which `bezout` computes along Euclid's algorithm.
-/

namespace SealedDrop.Rsa

/-- `b ^ e` modulo `n`. -/
def modPow (b e n : Nat) : Nat :=
  if e = 0 then 1 % n
  else
    let half := modPow (b * b % n) (e / 2) n
    if e % 2 = 1 then b * half % n else half

/-- Modular exponentiation computes the power. -/
theorem modPow_eq (b e n : Nat) : modPow b e n = Nat.pow b e % n := by
  induction e using Nat.strongRecOn generalizing b with
  | ind e ih =>
    unfold modPow
    split
    · next h => subst h; rfl
    · next h =>
      have half : modPow (b * b % n) (e / 2) n = Nat.pow b (2 * (e / 2)) % n := by
        rw [ih (e / 2) (by omega), Nat.pow_eq, Nat.pow_eq, ← Nat.pow_mod, ← Nat.pow_two, ← Nat.pow_mul]
      simp only [half]
      split
      · next odd =>
        rw [Nat.mul_mod_mod, show Nat.pow b e = b * Nat.pow b (2 * (e / 2)) from ?_]
        rw [Nat.pow_eq, Nat.pow_eq, ← Nat.pow_succ']
        congr 1
        omega
      · next even =>
        congr 2
        omega

/-- Coefficients `x` and `y` for which `a * x + b * y` is the greatest common divisor. -/
def bezout (a b : Nat) : Int × Int :=
  if b = 0 then (1, 0)
  else
    let rest := bezout b (a % b)
    (rest.2, rest.1 - (a / b : Nat) * rest.2)
termination_by b
decreasing_by exact Nat.mod_lt _ (by omega)

/-- Bézout's identity. -/
theorem bezout_eq (a b : Nat) : (a : Int) * (bezout a b).1 + b * (bezout a b).2 = Nat.gcd a b := by
  induction b using Nat.strongRecOn generalizing a with
  | ind b ih =>
    unfold bezout
    split
    · next h => simp [h]
    · next h =>
      have rest := ih (a % b) (Nat.mod_lt _ (by omega)) b
      rw [show Nat.gcd a b = Nat.gcd b (a % b) by rw [Nat.gcd_comm, Nat.gcd_rec, Nat.gcd_comm], ← rest]
      have split : (a : Int) = b * (a / b : Nat) + (a % b : Nat) := by
        exact_mod_cast (Nat.div_add_mod a b).symm
      dsimp only at rest ⊢
      generalize (bezout b (a % b)).1 = x
      generalize (bezout b (a % b)).2 = y
      conv => lhs; lhs; rw [split]
      rw [Int.mul_sub, Int.add_mul, Int.mul_assoc]
      omega

/-- The number below `n` whose product with `a` is one modulo `n`, if there is one. -/
def inverse? (a n : Nat) : Option Nat :=
  if Nat.gcd a n = 1 then some ((bezout a n).1 % n).toNat else none

end SealedDrop.Rsa
