import HandshakeAuth.Octets
import Mathlib.Data.List.Infix

/-! The first octets of an endless row of blocks. How many there are and what they are does not
depend on how many blocks are written down, as long as they are enough. -/

namespace HandshakeAuth

/-- The octets are the first `length` of the blocks one behind the other. -/
structure Opening (block : Nat → Octets) (length : Nat) (octets : Octets) : Prop where
  length_eq : octets.length = length
  within : ∃ count, octets <+: (List.range count).flatMap block

variable {block : Nat → Octets} {length size : Nat}

theorem flatMap_range_isPrefix (block : Nat → Octets) {m n : Nat} (h : m ≤ n) :
    (List.range m).flatMap block <+: (List.range n).flatMap block := by
  obtain ⟨k, rfl⟩ := Nat.exists_eq_add_of_le h
  rw [List.range_add, List.flatMap_append]
  exact List.prefix_append ..

theorem length_flatMap_range (sized : ∀ i, (block i).length = size) (count : Nat) :
    ((List.range count).flatMap block).length = count * size := by
  simp [List.length_flatMap, sized]

theorem getElem?_flatMap_range (sized : ∀ i, (block i).length = size) {count place : Nat}
    (within : place < count * size) :
    ((List.range count).flatMap block)[place]? = (block (place / size))[place % size]? := by
  induction count with
  | zero =>
    rw [Nat.zero_mul] at within
    exact absurd within (Nat.not_lt_zero _)
  | succ count ih =>
    have long : ((List.range count).flatMap block).length = count * size :=
      length_flatMap_range sized count
    rw [List.range_succ, List.flatMap_append, List.flatMap_singleton]
    by_cases early : place < count * size
    · rw [List.getElem?_append_left (long ▸ early)]
      exact ih early
    · have late : count * size ≤ place := Nat.le_of_not_lt early
      have number : place / size = count := Nat.div_eq_of_lt_le late within
      rw [List.getElem?_append_right (long ▸ late), long, Nat.mod_eq_sub_mul_div, number,
        Nat.mul_comm]

namespace Opening

theorem unique {xs ys : Octets} (hx : Opening block length xs) (hy : Opening block length ys) :
    xs = ys := by
  obtain ⟨m, hm⟩ := hx.within
  obtain ⟨n, hn⟩ := hy.within
  have hx' : xs <+: (List.range (max m n)).flatMap block :=
    hm.trans (flatMap_range_isPrefix block (le_max_left m n))
  have hy' : ys <+: (List.range (max m n)).flatMap block :=
    hn.trans (flatMap_range_isPrefix block (le_max_right m n))
  have same : xs.length = ys.length := hx.length_eq.trans hy.length_eq.symm
  exact (List.prefix_of_prefix_length_le hx' hy' same.le).eq_of_length same

theorem take_flatMap_range (sized : ∀ i, (block i).length = size) {count : Nat}
    (enough : length ≤ count * size) :
    Opening block length (((List.range count).flatMap block).take length) where
  length_eq := by
    rw [List.length_take, length_flatMap_range sized, Nat.min_eq_left enough]
  within := ⟨count, List.take_prefix ..⟩

theorem eq_map {octets : Octets} (sized : ∀ i, (block i).length = size)
    (h : Opening block length octets) :
    octets = (List.range length).map fun place =>
      (block (place / size)).getD (place % size) 0 := by
  obtain ⟨count, rest, row⟩ := h.within
  have long : octets.length ≤ count * size := by
    rw [← length_flatMap_range sized, ← row, List.length_append]
    exact Nat.le_add_right ..
  apply List.ext_getElem
  · rw [h.length_eq, List.length_map, List.length_range]
  · intro place low low'
    have found := getElem?_flatMap_range sized (low.trans_le long)
    rw [← row, List.getElem?_append_left low, List.getElem?_eq_getElem low] at found
    rw [List.getElem_map, List.getElem_range, List.getD_eq_getElem?_getD, ← found,
      Option.getD_some]

end Opening
end HandshakeAuth
