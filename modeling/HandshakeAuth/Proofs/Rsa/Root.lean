import HandshakeAuth.Proofs.Rsa.Inverse
import HandshakeAuth.Rsa.Lemmas
import HandshakeAuth.Rsa.Signature
import Mathlib.FieldTheory.Finite.Basic
import Mathlib.Data.Nat.ModEq

/-! The public exponent permutes the residues below the modulus of a key with two distinct prime
factors, also those that share a factor with it, and the root that signing works out is its
inverse. -/

namespace HandshakeAuth.Rsa

variable {p d e : ℕ}

theorem pow_modEq_self (prime : p.Prime) (odd : 2 < p) (one : e % (p - 1) = 1 % (p - 1)) (m : ℕ) :
    m ^ e ≡ m [MOD p] := by
  have fact : Fact p.Prime := ⟨prime⟩
  rw [← ZMod.natCast_eq_natCast_iff, Nat.cast_pow]
  have nonzero : e ≠ 0 := by
    rintro rfl
    rw [Nat.zero_mod, Nat.mod_eq_of_lt (by omega)] at one
    exact absurd one (by decide)
  -- zero is its own power, everything else obeys Fermat
  by_cases divides : (m : ZMod p) = 0
  · rw [divides, zero_pow nonzero]
  · have fermat : (m : ZMod p) ^ (p - 1) = 1 := ZMod.pow_card_sub_one_eq_one divides
    calc (m : ZMod p) ^ e = (m : ZMod p) ^ (e % (p - 1)) := pow_eq_pow_mod e fermat
      _ = (m : ZMod p) ^ (1 % (p - 1)) := by rw [one]
      _ = m := by rw [← pow_eq_pow_mod 1 fermat, pow_one]

theorem pow_mod_pow_modEq_self (prime : p.Prime) (odd : 2 < p)
    (undoes : d * e % (p - 1) = 1 % (p - 1)) (m : ℕ) :
    (m ^ (d % (p - 1))) ^ e ≡ m [MOD p] := by
  rw [← pow_mul]
  refine pow_modEq_self prime odd ?_ m
  rw [Nat.mod_mul_mod, undoes]

namespace PrivateKey

structure Proper (key : PrivateKey) : Prop where
  admissible : key.Admissible
  consistent : key.Consistent
  prime_p : key.p.Prime
  prime_q : key.q.Prime
  distinct : key.p ≠ key.q

namespace Proper

variable {key : PrivateKey} (h : key.Proper)
include h

theorem modulus_eq : key.modulus = key.p * key.q :=
  h.consistent.2.2.1

theorem coprime : Nat.Coprime key.p key.q :=
  (Nat.coprime_primes h.prime_p h.prime_q).2 h.distinct

theorem two_lt_p : 2 < key.p := by
  have odd : key.modulus % 2 = 1 := h.admissible.1
  have least := h.prime_p.two_le
  by_contra small
  rw [h.modulus_eq, show key.p = 2 by omega] at odd
  omega

theorem two_lt_q : 2 < key.q := by
  have odd : key.modulus % 2 = 1 := h.admissible.1
  have least := h.prime_q.two_le
  by_contra small
  rw [h.modulus_eq, show key.q = 2 by omega] at odd
  omega

theorem modEq_iff {x y : ℕ} :
    x ≡ y [MOD key.modulus] ↔ x ≡ y [MOD key.p] ∧ x ≡ y [MOD key.q] := by
  rw [h.modulus_eq, Nat.modEq_and_modEq_iff_modEq_mul h.coprime]

theorem pow_pow_secret (x : ℕ) : (x ^ key.exponent) ^ key.secret ≡ x [MOD key.modulus] := by
  obtain ⟨-, -, -, modP, modQ⟩ := h.consistent
  rw [← pow_mul, Nat.mul_comm, h.modEq_iff]
  exact ⟨pow_modEq_self h.prime_p h.two_lt_p modP x, pow_modEq_self h.prime_q h.two_lt_q modQ x⟩

theorem pow_injective {x y : ℕ} (hx : x < key.modulus) (hy : y < key.modulus)
    (same : x ^ key.exponent ≡ y ^ key.exponent [MOD key.modulus]) : x = y := by
  have undone : x ≡ y [MOD key.modulus] :=
    (h.pow_pow_secret x).symm.trans ((same.pow key.secret).trans (h.pow_pow_secret y))
  exact undone.eq_of_lt_of_lt hx hy

theorem root_eq (m : ℕ) :
    key.root m < key.modulus ∧
      key.root m ≡ m ^ (key.secret % (key.p - 1)) [MOD key.p] ∧
      key.root m ≡ m ^ (key.secret % (key.q - 1)) [MOD key.q] := by
  have pos_p : 0 < key.p := h.prime_p.pos
  have pos_q : 0 < key.q := h.prime_q.pos
  obtain ⟨inverse, found, inverts⟩ := inverse?_of_coprime pos_p h.coprime.symm
  rw [root, found]
  dsimp only
  rw [powMod_eq, powMod_eq]
  set modP := m ^ (key.secret % (key.p - 1)) % key.p with hP
  set modQ := m ^ (key.secret % (key.q - 1)) % key.q with hQ
  set quotient := (modP + (key.p - modQ % key.p)) * inverse % key.p with hquotient
  have small_q : modQ < key.q := Nat.mod_lt _ pos_q
  have small : quotient < key.p := Nat.mod_lt _ pos_p
  refine ⟨?_, ?_, ?_⟩
  · calc quotient * key.q + modQ < quotient * key.q + key.q := by omega
      _ = (quotient + 1) * key.q := by ring
      _ ≤ key.p * key.q := Nat.mul_le_mul_right _ small
      _ = key.modulus := h.modulus_eq.symm
  · have difference : quotient * key.q ≡ modP + (key.p - modQ % key.p) [MOD key.p] := by
      calc quotient * key.q
          ≡ (modP + (key.p - modQ % key.p)) * inverse * key.q [MOD key.p] :=
            (Nat.mod_modEq _ _).mul_right _
        _ = (modP + (key.p - modQ % key.p)) * (inverse * key.q) := by ring
        _ ≡ (modP + (key.p - modQ % key.p)) * 1 [MOD key.p] := inverts.mul_left _
        _ = modP + (key.p - modQ % key.p) := by ring
    calc quotient * key.q + modQ
        ≡ modP + (key.p - modQ % key.p) + modQ % key.p [MOD key.p] :=
          difference.add (Nat.mod_modEq _ _).symm
      _ = modP + key.p := by
          have := Nat.mod_lt modQ pos_p
          omega
      _ ≡ modP [MOD key.p] := Nat.add_modEq_right
      _ ≡ m ^ (key.secret % (key.p - 1)) [MOD key.p] := Nat.mod_modEq _ _
  · calc quotient * key.q + modQ
        ≡ modQ [MOD key.q] := by simp [Nat.ModEq]
      _ ≡ m ^ (key.secret % (key.q - 1)) [MOD key.q] := Nat.mod_modEq _ _

theorem root_pow (m : ℕ) : key.root m ^ key.exponent ≡ m [MOD key.modulus] := by
  obtain ⟨-, modP, modQ⟩ := h.root_eq m
  obtain ⟨-, -, -, undoesP, undoesQ⟩ := h.consistent
  rw [h.modEq_iff]
  constructor
  · exact (modP.pow _).trans (pow_mod_pow_modEq_self h.prime_p h.two_lt_p undoesP m)
  · exact (modQ.pow _).trans (pow_mod_pow_modEq_self h.prime_q h.two_lt_q undoesQ m)

end Proper
end PrivateKey
end HandshakeAuth.Rsa
