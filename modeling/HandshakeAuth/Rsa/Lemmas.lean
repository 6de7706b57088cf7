import HandshakeAuth.Rsa.Arithmetic
import Mathlib.Algebra.Group.Nat.Even

/-!
What the arithmetic of signatures computes: repeated squaring gives the power.
-/

namespace HandshakeAuth.Rsa

theorem powMod_eq (base exponent n : Nat) : powMod base exponent n = base ^ exponent % n := by
  induction exponent using Nat.strongRecOn generalizing base with
  | ind exponent ih =>
    rw [powMod]
    split
    · rename_i h
      simp [h]
    · rename_i h
      have half := ih (exponent / 2) (by omega) (base * base % n)
      have squares : (base * base % n) ^ (exponent / 2) % n = base ^ (2 * (exponent / 2)) % n := by
        rw [← Nat.pow_mod, Nat.pow_mul, Nat.pow_two]
      by_cases even : exponent % 2 = 0
      · simp only [even, if_true, half, squares]
        rw [show 2 * (exponent / 2) = exponent by omega]
      · simp only [even, if_false, half, squares]
        rw [Nat.mod_mul_mod, ← Nat.pow_succ, show (2 * (exponent / 2)).succ = exponent by omega]

end HandshakeAuth.Rsa
