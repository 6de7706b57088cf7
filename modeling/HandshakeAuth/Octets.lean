/-!
Octet strings and the numbers they spell, most significant octet first. Writing a number in a given
width keeps its last base-256 digits, so a number that fits is read back.
-/

namespace HandshakeAuth

abbrev Octets := List UInt8

namespace Octets

/-- The number spelled by the octets, most significant first. -/
def toNat (bs : Octets) : Nat :=
  bs.foldl (fun acc b => 256 * acc + b.toNat) 0

def capacity : Nat → Nat
  | 0 => 1
  | width + 1 => 256 * capacity width

/-- The last `width` base-256 digits of `n`, most significant first. -/
def ofNat : Nat → Nat → Octets
  | 0, _ => []
  | width + 1, n => ofNat width (n / 256) ++ [UInt8.ofNat n]

def ofNatReversed : Nat → Nat → Octets
  | 0, _ => []
  | width + 1, n => UInt8.ofNat n :: ofNatReversed width (n / 256)

def toNatReversed : Octets → Nat
  | [] => 0
  | b :: bs => b.toNat + 256 * toNatReversed bs

def toNatBase128 (bs : Octets) : Nat :=
  bs.foldl (fun acc b => 128 * acc + b.toNat % 128) 0

def shifted (bs : Octets) : UInt64 :=
  bs.foldl (fun n b => n <<< 8 ||| b.toUInt64) 0

def xor (xs ys : Octets) : Octets :=
  xs.zipWith (· ^^^ ·) ys

@[simp] theorem length_ofNat (width n : Nat) : (ofNat width n).length = width := by
  induction width generalizing n with
  | zero => rfl
  | succ width ih => simp [ofNat, ih]

@[simp] theorem length_ofNatReversed (width n : Nat) : (ofNatReversed width n).length = width := by
  induction width generalizing n with
  | zero => rfl
  | succ width ih => simp [ofNatReversed, ih]

@[simp] theorem toNat_nil : toNat [] = 0 := rfl

@[simp] theorem toNat_append_singleton (bs : Octets) (b : UInt8) :
    toNat (bs ++ [b]) = 256 * toNat bs + b.toNat := by
  simp [toNat]

theorem toNat_ofNat (width n : Nat) : toNat (ofNat width n) = n % capacity width := by
  induction width generalizing n with
  | zero => simp [ofNat, capacity, Nat.mod_one]
  | succ width ih =>
    rw [ofNat, toNat_append_singleton, ih, capacity, Nat.mod_mul]
    simp [Nat.add_comm]

theorem toNat_ofNat_of_lt {width n : Nat} (h : n < capacity width) :
    toNat (ofNat width n) = n := by
  rw [toNat_ofNat, Nat.mod_eq_of_lt h]

theorem concat_induction {motive : Octets → Prop} (nil : motive [])
    (concat : ∀ bs b, motive bs → motive (bs ++ [b])) (bs : Octets) : motive bs := by
  rw [← bs.reverse_reverse]
  induction bs.reverse with
  | nil => exact nil
  | cons b bs ih => rw [List.reverse_cons]; exact concat _ _ ih

theorem toNat_lt (bs : Octets) : toNat bs < capacity bs.length := by
  induction bs using concat_induction with
  | nil => simp [capacity]
  | concat bs b ih =>
    have hb := b.toNat_lt
    rw [toNat_append_singleton, List.length_append, List.length_singleton, capacity]
    omega

theorem ofNat_toNat (bs : Octets) : ofNat bs.length (toNat bs) = bs := by
  induction bs using concat_induction with
  | nil => rfl
  | concat bs b ih =>
    have hb := b.toNat_lt
    have front : (256 * toNat bs + b.toNat) / 256 = toNat bs := by omega
    rw [toNat_append_singleton, List.length_append, List.length_singleton, ofNat, front, ih]
    congr 2
    apply UInt8.toNat_inj.1
    simp

end Octets
end HandshakeAuth
