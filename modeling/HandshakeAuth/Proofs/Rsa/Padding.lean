import HandshakeAuth.Proofs.Octets
import HandshakeAuth.Rsa.Signature
import Mathlib.Algebra.Group.Nat.Even

/-! The padded digest has as many octets as the modulus, and as a number it is smaller, since its
first octet is zero. -/

namespace HandshakeAuth

theorem Octets.toNat_zero_cons (bs : Octets) : Octets.toNat (0 :: bs) = Octets.toNat bs := by
  simp [Octets.toNat]

namespace Rsa

variable {key : PublicKey} {size : Nat} {info text : Octets}

namespace PublicKey

theorem modulus_lt_capacity : key.modulus < Octets.capacity key.size := by
  rw [Octets.capacity_eq_two_pow]
  by_cases zero : key.modulus = 0
  · rw [zero]
    exact Nat.two_pow_pos _
  · have bits : key.bits = Nat.log2 key.modulus + 1 := if_neg zero
    calc key.modulus < 2 ^ (Nat.log2 key.modulus + 1) := Nat.lt_log2_self
      _ ≤ 2 ^ (8 * key.size) := Nat.pow_le_pow_right (by decide) (by rw [size, bits]; omega)

theorem capacity_le_modulus (pos : 0 < key.modulus) :
    Octets.capacity (key.size - 1) ≤ key.modulus := by
  have zero : key.modulus ≠ 0 := by omega
  have bits : key.bits = Nat.log2 key.modulus + 1 := if_neg zero
  rw [Octets.capacity_eq_two_pow]
  calc 2 ^ (8 * (key.size - 1)) ≤ 2 ^ Nat.log2 key.modulus :=
        Nat.pow_le_pow_right (by decide) (by rw [size, bits]; omega)
    _ ≤ key.modulus := Nat.log2_self_le zero

end PublicKey

theorem exists_padded (fits : info.length + 11 ≤ size) : ∃ text, padded? size info = some text :=
  ⟨_, if_pos fits⟩

theorem padded_eq_zero_cons (h : padded? size info = some text) :
    ∃ rest, text = 0 :: rest ∧ rest.length + 1 = size := by
  unfold padded? at h
  split at h
  · refine ⟨_, (Option.some.inj h).symm, ?_⟩
    simp
    omega
  · contradiction

theorem length_padded (h : padded? size info = some text) : text.length = size := by
  obtain ⟨rest, rfl, whole⟩ := padded_eq_zero_cons h
  exact whole

theorem toNat_padded_lt (h : padded? size info = some text) :
    Octets.toNat text < Octets.capacity (size - 1) := by
  obtain ⟨rest, rfl, whole⟩ := padded_eq_zero_cons h
  rw [Octets.toNat_zero_cons, show size - 1 = rest.length by omega]
  exact Octets.toNat_lt rest

theorem filled_inj {m n : Nat} {back back' : Octets}
    (same : List.replicate m 0xff ++ 0 :: back = List.replicate n 0xff ++ 0 :: back') :
    back = back' := by
  induction m generalizing n with
  | zero =>
    cases n with
    | zero => exact (List.cons.inj same).2
    | succ n => exact absurd (List.cons.inj same).1 (by decide)
  | succ m ih =>
    cases n with
    | zero => exact absurd (List.cons.inj same).1 (by decide)
    | succ n =>
      apply ih
      exact (List.cons.inj same).2

theorem info_of_padded {info' : Octets} (h : padded? size info = some text)
    (h' : padded? size info' = some text) : info = info' := by
  unfold padded? at h h'
  split at h
  · split at h'
    · have same := (Option.some.inj h).trans (Option.some.inj h').symm
      simp only [List.append_assoc] at same
      exact filled_inj (List.append_cancel_left same)
    · contradiction
  · contradiction

theorem PublicKey.toNat_padded_lt_modulus (pos : 0 < key.modulus)
    (h : padded? key.size info = some text) : Octets.toNat text < key.modulus :=
  Nat.lt_of_lt_of_le (toNat_padded_lt h) (capacity_le_modulus pos)

end Rsa
end HandshakeAuth
