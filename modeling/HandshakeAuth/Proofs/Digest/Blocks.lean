import HandshakeAuth.Digest.BlockHash

/-! Messages in whole blocks. However a message comes, the chaining value is that of its whole
blocks and the buffer holds the octets behind them; the padding fills the last block, or fills it
and one more. So a digest is that of the padded message, compressed block by block. -/

namespace HandshakeAuth.Digest.BlockHash

variable {σ : Type}

def ofBlocks (H : BlockHash σ) (blocks : List Octets) : Octets :=
  H.output (blocks.foldl H.compress H.initial)

/-- The message so far, as the blocks that were compressed and the octets in the buffer. -/
structure Behind (H : BlockHash σ) (message : Octets) (blocks : List Octets) (s : Progress σ) :
    Prop where
  whole : ∀ block ∈ blocks, block.length = H.blockSize
  joined : blocks.flatten ++ s.buffer.toList = message
  room : s.buffer.size < H.blockSize
  chain : s.chain = blocks.foldl H.compress H.initial
  count : s.count = message.length

variable {H : BlockHash σ} {message : Octets} {blocks : List Octets} {s : Progress σ}

theorem length_flatten_of_whole {size : Nat} (whole : ∀ block ∈ blocks, block.length = size) :
    blocks.flatten.length = blocks.length * size := by
  rw [List.length_flatten, List.map_congr_left whole, List.map_const', List.sum_replicate_nat]

namespace Behind

theorem start (pos : 0 < H.blockSize) : H.Behind [] [] H.start where
  whole := nofun
  joined := rfl
  room := pos
  chain := rfl
  count := rfl

theorem push (behind : H.Behind message blocks s) (b : UInt8) :
    ∃ blocks', H.Behind (message ++ [b]) blocks' (H.push s b) := by
  have joined : blocks.flatten ++ (s.buffer.push b).toList = message ++ [b] := by
    rw [Array.toList_push, ← List.append_assoc, behind.joined]
  have count : s.count + 1 = (message ++ [b]).length := by
    rw [behind.count, List.length_append]
    rfl
  dsimp only [BlockHash.push]
  by_cases full : (s.buffer.push b).size = H.blockSize
  · rw [if_pos full]
    refine ⟨blocks ++ [(s.buffer.push b).toList], ?_, ?_, ?_, ?_, count⟩
    · exact List.forall_mem_append.2 ⟨behind.whole, List.forall_mem_singleton.2 full⟩
    · rw [List.flatten_append, List.flatten_singleton, joined]
      exact List.append_nil _
    · exact Nat.lt_of_le_of_lt (Nat.zero_le _) behind.room
    · rw [List.foldl_append, ← behind.chain]
      rfl
  · rw [if_neg full]
    refine ⟨blocks, behind.whole, joined, ?_, behind.chain, count⟩
    have room := behind.room
    rw [Array.size_push] at full ⊢
    omega

theorem absorb (behind : H.Behind message blocks s) (piece : Octets) :
    ∃ blocks', H.Behind (message ++ piece) blocks' (H.absorb s piece) := by
  induction piece generalizing message blocks s with
  | nil => exact ⟨blocks, (List.append_nil message).symm ▸ behind⟩
  | cons b piece ih =>
    obtain ⟨blocks', next⟩ := behind.push b
    rw [List.append_cons]
    exact ih next

theorem flatten_eq (behind : H.Behind message blocks s) (full : H.blockSize ∣ message.length) :
    blocks.flatten = message := by
  have room := behind.room
  have lengths := congrArg List.length behind.joined
  rw [List.length_append, length_flatten_of_whole behind.whole] at lengths
  have none : s.buffer.toList.length = 0 := by
    have multiple : H.blockSize ∣ s.buffer.toList.length := by
      rw [← lengths] at full
      exact (Nat.dvd_add_right (Nat.dvd_mul_left ..)).1 full
    exact Nat.eq_zero_of_dvd_of_lt multiple room
  have joined := behind.joined
  rwa [List.eq_nil_of_length_eq_zero none, List.append_nil] at joined

end Behind

theorem add_fill_eq {size : Nat} (pos : 0 < size) (n : Nat) :
    n + 1 + (size - (n + 1) % size) % size = (n / size + 1) * size := by
  have split := Nat.div_add_mod n size
  have short := Nat.mod_lt n pos
  rw [Nat.add_mul, Nat.one_mul, Nat.mul_comm (n / size)]
  rcases Nat.lt_or_ge (n % size + 1) size with inside | last
  · have used : (n + 1) % size = n % size + 1 := by
      rw [← Nat.mod_add_mod, Nat.mod_eq_of_lt inside]
    rw [used, Nat.mod_eq_of_lt (by omega)]
    omega
  · have used : (n + 1) % size = 0 := by
      have whole : n % size + 1 = size := by omega
      rw [← Nat.mod_add_mod, whole, Nat.mod_self]
    rw [used, Nat.sub_zero, Nat.mod_self]
    omega

theorem length_padded (pos : 0 < H.blockSize) (count : Nat) :
    count + (H.padding count).length =
      ((count + (H.lengthField (8 * count)).length) / H.blockSize + 1) * H.blockSize := by
  rw [← add_fill_eq pos, padding, List.cons_append, List.length_cons, List.length_append,
    List.length_replicate, Nat.add_right_comm count]
  omega

/-- A digest is that of the padded message, block by block, however the message came. -/
theorem exists_digest_eq (pos : 0 < H.blockSize) (pieces : List Octets) :
    ∃ blocks, (∀ block ∈ blocks, block.length = H.blockSize) ∧
      blocks.flatten = pieces.flatten ++ H.padding pieces.flatten.length ∧
      H.digest pieces = H.ofBlocks blocks := by
  obtain ⟨before, read⟩ := (Behind.start pos).absorb pieces.flatten
  rw [List.nil_append] at read
  obtain ⟨blocks, closed⟩ := read.absorb (H.padding pieces.flatten.length)
  refine ⟨blocks, closed.whole, closed.flatten_eq ?_, ?_⟩
  · rw [List.length_append, length_padded pos]
    exact Nat.dvd_mul_left ..
  · rw [digest, foldl_absorb, finish, read.count, closed.chain]
    rfl

end HandshakeAuth.Digest.BlockHash
