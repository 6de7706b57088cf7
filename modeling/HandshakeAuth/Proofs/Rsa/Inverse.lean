import HandshakeAuth.Rsa.Arithmetic
import Mathlib.Data.Int.ModEq
import Mathlib.Data.Nat.ModEq

/-! Euclid's algorithm finds an inverse wherever there is one. Each remainder stays a known multiple
of the number modulo `n`, and two remainders in a row stay coprime. -/

namespace HandshakeAuth.Rsa

variable {a n : ℕ}

theorem modEq_step {r s : ℕ} {x y : ℤ} (hr : (r : ℤ) ≡ x * a [ZMOD n])
    (hs : (s : ℤ) ≡ y * a [ZMOD n]) :
    ((r % s : ℕ) : ℤ) ≡ (x - (r / s : ℕ) * y) * a [ZMOD n] := by
  have remainder : ((r % s : ℕ) : ℤ) = r - (r / s : ℕ) * s := by
    rw [Int.natCast_mod, Int.natCast_div, Int.emod_def, mul_comm]
  rw [remainder, sub_mul, mul_assoc]
  exact hr.sub (hs.mul_left _)

theorem inverse?.go_of_coprime (pos : 0 < n) {r s : ℕ} {x y : ℤ} (hr : (r : ℤ) ≡ x * a [ZMOD n])
    (hs : (s : ℤ) ≡ y * a [ZMOD n]) (coprime : Nat.Coprime r s) :
    ∃ b, go n r s x y = some b ∧ (b : ℤ) * a ≡ 1 [ZMOD n] := by
  induction s using Nat.strongRecOn generalizing r x y with
  | ind s ih =>
    rw [go]
    split
    · rename_i done
      have last : r = 1 := by simpa [done] using coprime
      refine ⟨(x % n).toNat, if_pos last, ?_⟩
      rw [Int.toNat_of_nonneg (Int.emod_nonneg x (by omega))]
      have one : (1 : ℤ) ≡ x * a [ZMOD n] := by simpa [last] using hr
      exact ((Int.mod_modEq x n).mul_right _).trans one.symm
    · rename_i more
      have next : Nat.Coprime s (r % s) := by
        rwa [Nat.Coprime, Nat.gcd_comm, ← Nat.gcd_rec, Nat.gcd_comm]
      exact ih (r % s) (Nat.mod_lt r (by omega)) hs (modEq_step hr hs) next

theorem inverse?_of_coprime (pos : 0 < n) (coprime : Nat.Coprime a n) :
    ∃ b, inverse? a n = some b ∧ b * a ≡ 1 [MOD n] := by
  have whole : ((n : ℕ) : ℤ) ≡ 0 * a [ZMOD n] := by
    rw [zero_mul]
    exact Int.emod_self
  have first : ((a % n : ℕ) : ℤ) ≡ 1 * a [ZMOD n] := by
    rw [one_mul, Int.natCast_mod]
    exact Int.mod_modEq _ _
  have start : Nat.Coprime n (a % n) := by
    rwa [Nat.Coprime, Nat.gcd_comm, ← Nat.gcd_rec, Nat.gcd_comm]
  obtain ⟨b, found, inverts⟩ := inverse?.go_of_coprime pos whole first start
  exact ⟨b, found, Int.natCast_modEq_iff.1 (by exact_mod_cast inverts)⟩

end HandshakeAuth.Rsa
