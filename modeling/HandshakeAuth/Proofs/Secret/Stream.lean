import HandshakeAuth.Proofs.Digest.Pieces
import HandshakeAuth.Proofs.Digest.Size
import HandshakeAuth.Proofs.Secret.Blocks

/-! The pseudorandom functions of TLS, octet by octet. As the tags under one key have one size, the
octet at a place is found by division: its block, and its place in the block. Main statement: what
is computed are the octets at the first places, however many are asked for. -/

namespace HandshakeAuth

structure Provider.Tags (provider : Provider) (hash : HashAlgorithm) (key : Octets)
    (tag : List Octets → Octets) (size : Nat) : Prop where
  offered : provider.tag hash key = .ok tag
  sized : ∀ pieces, (tag pieces).length = size
  pos : 0 < size

theorem Provider.tags_standard (hash : HashAlgorithm) (key : Octets) :
    Provider.standard.Tags hash key (hash.tag key) hash.size where
  offered := rfl
  sized := hash.length_tag key
  pos := hash.size_pos

namespace PrfAlgorithm
open Answer

variable {provider : Provider} {algorithm : PrfAlgorithm} {hash : HashAlgorithm}
  {tag : List Octets → Octets} {secret front back label seed : Octets} {size : Nat}
  {octets : Nat → UInt8}

def octet (tag : List Octets → Octets) (seed : Octets) (size place : Nat) : UInt8 :=
  (tag [link tag seed (place / size + 1), seed]).getD (place % size) 0

/-- The octets that a function makes of a secret and a seed, without an end: a row of tags under the
secret, or the exclusive or of two such rows under its halves. -/
inductive Stream (provider : Provider) (secret seed : Octets) : PrfAlgorithm → (Nat → UInt8) → Prop
  | single {hash : HashAlgorithm} {tag : List Octets → Octets} {size : Nat}
    (tags : provider.Tags hash secret tag size) :
    Stream provider secret seed (.single hash) (octet tag seed size)
  | md5Sha1 {front back : Octets} {md5 sha1 : List Octets → Octets} {m n : Nat}
    (split : Halves secret front back) (first : provider.Tags .md5 front md5 m)
    (second : provider.Tags .sha1 back sha1 n) :
    Stream provider secret seed .md5Sha1 fun place =>
      octet md5 seed m place ^^^ octet sha1 seed n place

theorem stretch_eq_map (sized : ∀ pieces, (tag pieces).length = size) (pos : 0 < size)
    (seed : Octets) (length : Nat) :
    stretch tag seed length = (List.range length).map (octet tag seed size) :=
  (opening_stretch sized pos seed length).eq_map fun _ => sized _

theorem stretch_go_of_le (sized : ∀ pieces, (tag pieces).length = size) (pos : 0 < size)
    (seed : Octets) {length fuel : Nat} (enough : (length + size - 1) / size ≤ fuel) :
    stretch.go tag seed fuel seed length = stretch tag seed length := by
  have room : length ≤ fuel * size := by
    have whole := Nat.lt_mul_of_div_lt (Nat.lt_succ_of_le enough) pos
    rw [Nat.succ_mul] at whole
    omega
  have opens : Opening (block tag seed) length (stretch.go tag seed fuel seed length) := by
    have row := stretch_go_eq tag seed fuel 0 length
    simp only [Nat.zero_add] at row
    exact row ▸ .take_flatMap_range (fun _ => sized _) room
  exact opens.unique (opening_stretch sized pos seed length)

theorem hashStream_eq_map (tags : provider.Tags hash secret tag size) (seed : Octets)
    (length : Nat) :
    hashStream provider hash secret seed length =
      .ok ((List.range length).map (octet tag seed size)) := by
  by_cases wanted : length = 0
  · rw [hashStream, if_pos wanted, wanted]
    rfl
  · rw [← stretch_eq_map tags.sized tags.pos]
    exact (hashStream_eq_ok_iff wanted).2 ⟨tag, tags.offered, rfl⟩

theorem compute_eq_map (stream : Stream provider secret (label ++ seed) algorithm octets)
    (length : Nat) :
    algorithm.compute provider secret label seed length =
      .ok ((List.range length).map octets) := by
  cases stream with
  | single tags => exact hashStream_eq_map tags _ length
  | md5Sha1 split first second =>
    obtain ⟨rfl, rfl⟩ := halves_iff.1 split
    rw [compute, hashStream_eq_map first, ok_bind, hashStream_eq_map second, ok_bind]
    change Except.ok (Octets.xor _ _) = _
    rw [Octets.xor, List.zipWith_map, List.zipWith_self]

theorem halves_iff_overlap :
    Halves secret front back ↔ ∃ before middle behind,
      secret = before ++ middle ++ behind ∧ before.length = behind.length ∧
      middle.length = secret.length % 2 ∧ front = before ++ middle ∧ back = middle ++ behind := by
  constructor
  · intro h
    obtain ⟨behind, whole⟩ := h.front_prefix
    obtain ⟨before, whole'⟩ := h.back_suffix
    have long : secret.length = front.length + behind.length := by
      rw [← whole, List.length_append]
    have long' : secret.length = before.length + back.length := by
      rw [← whole', List.length_append]
    have same_front := h.length_front
    have same_back := h.length_back
    have inner : before <+: front :=
      List.prefix_of_prefix_length_le ⟨back, whole'⟩ ⟨behind, whole⟩ (by omega)
    obtain ⟨middle, rfl⟩ := inner
    have joined : before ++ back = before ++ (middle ++ behind) := by
      rw [whole', ← whole, List.append_assoc]
    have rest : back = middle ++ behind := List.append_cancel_left joined
    rw [List.length_append] at same_front long
    exact ⟨before, middle, behind, whole.symm, by omega, by omega, rfl, rest⟩
  · rintro ⟨before, middle, behind, whole, even, odd, rfl, rfl⟩
    have long : secret.length = before.length + middle.length + behind.length := by
      rw [whole, List.length_append, List.length_append]
    refine ⟨⟨behind, whole.symm⟩, ⟨before, ?_⟩, ?_, ?_⟩
    · rw [whole, List.append_assoc]
    · rw [List.length_append]
      omega
    · rw [List.length_append]
      omega

/-- What is computed are the octets of the stream at the first places. So fewer octets are the front
of more; the loop ends after as many blocks as hold the octets; each block is the tag of a link and
the seed in one piece, if the pieces do not matter; and the halves of a secret are cut without going
below its front end. -/
theorem compute_eq_stream (stream : Stream provider secret (label ++ seed) algorithm octets)
    (length : Nat) :
    algorithm.compute provider secret label seed length =
        .ok ((List.range length).map octets) ∧
      (∀ more, ∃ rest, algorithm.compute provider secret label seed (length + more) =
        .ok ((List.range length).map octets ++ rest)) ∧
      (∀ tag size, (∀ pieces, (tag pieces).length = size) → 0 < size →
        ∀ fuel, (length + size - 1) / size ≤ fuel →
          stretch.go tag (label ++ seed) fuel (label ++ seed) length =
            stretch tag (label ++ seed) length) ∧
      (∀ tag, Joins tag → ∀ size place, octet tag (label ++ seed) size place =
        (tag [link tag (label ++ seed) (place / size + 1) ++ label ++ seed]).getD
          (place % size) 0) ∧
      (secret.length + 1) / 2 ≤ secret.length ∧
      ∀ front back, Halves secret front back ↔ ∃ before middle behind,
        secret = before ++ middle ++ behind ∧ before.length = behind.length ∧
        middle.length = secret.length % 2 ∧ front = before ++ middle ∧ back = middle ++ behind := by
  refine ⟨compute_eq_map stream length, ?_, ?_, ?_, by omega, fun _ _ => halves_iff_overlap⟩
  · intro more
    refine ⟨(List.range more).map fun place => octets (length + place), ?_⟩
    rw [compute_eq_map stream, List.range_add, List.map_append, List.map_map]
    rfl
  · intro tag size sized pos fuel enough
    exact stretch_go_of_le sized pos _ enough
  · intro tag joins size place
    rw [octet, joins]
    simp only [List.flatten_cons, List.flatten_nil, List.append_nil, List.append_assoc]

theorem compute_eq_stream_odd :
    Halves [1, 2, 3] [1, 2] [2, 3] ∧
      PrfAlgorithm.md5Sha1.compute .standard [1, 2, 3] [0x6b] [5, 6] 33 =
        .ok ((List.range 33).map fun place =>
          octet (HashAlgorithm.md5.tag [1, 2]) [0x6b, 5, 6] 16 place ^^^
            octet (HashAlgorithm.sha1.tag [2, 3]) [0x6b, 5, 6] 20 place) ∧
      ∀ place, octet (HashAlgorithm.sha1.tag [2, 3]) [0x6b, 5, 6] 20 place =
        (HashAlgorithm.sha1.tag [2, 3] [link (HashAlgorithm.sha1.tag [2, 3]) [0x6b, 5, 6]
          (place / 20 + 1) ++ [0x6b] ++ [5, 6]]).getD (place % 20) 0 := by
  have split : Halves [1, 2, 3] [1, 2] [2, 3] := halves_iff.2 ⟨rfl, rfl⟩
  have stream : Stream .standard [1, 2, 3] ([0x6b] ++ [5, 6]) .md5Sha1 _ :=
    .md5Sha1 split (Provider.tags_standard .md5 [1, 2]) (Provider.tags_standard .sha1 [2, 3])
  obtain ⟨computed, -, -, joined, -⟩ := compute_eq_stream stream 33
  exact ⟨split, computed, joined _ (HashAlgorithm.joins_tag .sha1 [2, 3]) 20⟩

end PrfAlgorithm
end HandshakeAuth
