import HandshakeAuth.Octets
import Mathlib.Algebra.Ring.Nat

/-! Octets and machine words. Shifts put octets together to a number and cut it into octets. -/

namespace HandshakeAuth.Octets

theorem capacity_eq_two_pow (width : Nat) : capacity width = 2 ^ (8 * width) := by
  induction width with
  | zero => rfl
  | succ width ih => rw [capacity, ih, Nat.mul_succ, Nat.pow_add, Nat.mul_comm]

theorem shifted_concat (bs : Octets) (b : UInt8) :
    shifted (bs ++ [b]) = shifted bs <<< 8 ||| b.toUInt64 := by
  rw [shifted, List.foldl_append]
  rfl

theorem toNat_shifted {bs : Octets} (short : bs.length ≤ 8) : (shifted bs).toNat = toNat bs := by
  induction bs using concat_induction with
  | nil => rfl
  | concat bs b ih =>
    rw [List.length_append, List.length_singleton] at short
    have fits : toNat bs < 2 ^ 56 := by
      calc toNat bs < capacity bs.length := toNat_lt bs
        _ = 2 ^ (8 * bs.length) := capacity_eq_two_pow _
        _ ≤ 2 ^ 56 := Nat.pow_le_pow_right (by decide) (by omega)
    have octet : b.toUInt64.toNat < 2 ^ 8 := b.toNat_lt
    rw [shifted_concat, UInt64.toNat_or, UInt64.toNat_shiftLeft, ih (by omega),
      toNat_append_singleton]
    change toNat bs <<< 8 % 2 ^ 64 ||| b.toUInt64.toNat = 256 * toNat bs + b.toNat
    rw [Nat.mod_eq_of_lt (by rw [Nat.shiftLeft_eq]; omega), ← Nat.shiftLeft_add_eq_or_of_lt octet,
      Nat.shiftLeft_eq, Nat.mul_comm]
    rfl

def cut : Nat → UInt64 → Octets
  | 0, _ => []
  | count + 1, n => cut count (n >>> 8) ++ [n.toUInt8]

theorem ofNat_toNat_eq_cut (count : Nat) (n : UInt64) : ofNat count n.toNat = cut count n := by
  induction count generalizing n with
  | zero => rfl
  | succ count ih =>
    have shift : (n >>> 8).toNat = n.toNat / 256 := by
      rw [UInt64.toNat_shiftRight]
      exact Nat.shiftRight_eq_div_pow _ 8
    rw [ofNat, cut, ← ih, shift]
    rfl

theorem length_cut (count : Nat) (n : UInt64) : (cut count n).length = count := by
  rw [← ofNat_toNat_eq_cut, length_ofNat]

theorem toNat_cut {count : Nat} {n : UInt64} (fits : n.toNat < 2 ^ (8 * count)) :
    toNat (cut count n) = n.toNat := by
  rw [← capacity_eq_two_pow] at fits
  rw [← ofNat_toNat_eq_cut, toNat_ofNat_of_lt fits]

theorem shifted_cut {count : Nat} {n : UInt64} (short : count ≤ 8)
    (fits : n.toNat < 2 ^ (8 * count)) : shifted (cut count n) = n := by
  rw [← UInt64.toNat_inj, toNat_shifted, toNat_cut fits]
  rwa [length_cut]

end HandshakeAuth.Octets
