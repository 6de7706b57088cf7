import HandshakeAuth.Proofs.Digest.Algorithm
import HandshakeAuth.Proofs.Secret.Stream

/-! Digests and keyed tags of whole messages. A tag is a digest of a digest, each behind the key of
one block under a mask; as it is never empty, the pseudorandom functions of TLS get as many octets
as they ask for. -/

namespace HandshakeAuth
open Digest

namespace Digest.BlockHash

variable {σ : Type} (H : BlockHash σ)

theorem tag_eq_digest {key : Octets} (block : (H.blockKey key).length = H.blockSize)
    (pieces : List Octets) :
    H.tag key pieces =
      H.digest [Octets.xor (H.blockKey key) (List.replicate H.blockSize 0x5c) ++
        H.digest [Octets.xor (H.blockKey key) (List.replicate H.blockSize 0x36) ++
          pieces.flatten]] := by
  have masked (mask : UInt8) : (H.blockKey key).map (· ^^^ mask) =
      Octets.xor (H.blockKey key) (List.replicate H.blockSize mask) := by
    rw [Octets.xor, ← block, ← List.map_const', List.zipWith_map_right, List.zipWith_self]
  dsimp only [tag]
  rw [masked, masked, digest_cons, List.flatten_singleton, digest_cons _ _ pieces]

end Digest.BlockHash

namespace HashAlgorithm

def blockKey (algorithm : HashAlgorithm) (key : Octets) : Octets :=
  let short := if algorithm.blockSize < key.length then algorithm.digest [key] else key
  short ++ List.replicate (algorithm.blockSize - short.length) 0

theorem length_blockKey (algorithm : HashAlgorithm) (key : Octets) :
    (algorithm.blockKey key).length = algorithm.blockSize := by
  have fill (short : Octets) (fits : short.length ≤ algorithm.blockSize) :
      (short ++ List.replicate (algorithm.blockSize - short.length) 0).length =
        algorithm.blockSize := by
    rw [List.length_append, List.length_replicate]
    omega
  apply fill
  split
  next => exact algorithm.length_digest _ ▸ algorithm.size_le_blockSize
  next short => exact Nat.le_of_not_lt short

def maskedKey (algorithm : HashAlgorithm) (key : Octets) (mask : UInt8) : Octets :=
  Octets.xor (algorithm.blockKey key) (List.replicate algorithm.blockSize mask)

theorem Computes.blockKey {σ : Type} {H : BlockHash σ} {algorithm : HashAlgorithm}
    (computes : Computes H algorithm) (key : Octets) : algorithm.blockKey key = H.blockKey key := by
  rw [HashAlgorithm.blockKey, BlockHash.blockKey, computes.blockSize, computes.digest]

theorem tag_eq_digest (algorithm : HashAlgorithm) (key : Octets) (pieces : List Octets) :
    algorithm.tag key pieces =
      algorithm.digest [algorithm.maskedKey key 0x5c ++
        algorithm.digest [algorithm.maskedKey key 0x36 ++ pieces.flatten]] := by
  have block := algorithm.length_blockKey key
  obtain ⟨σ, H, computes⟩ := algorithm.exists_computes
  rw [computes.blockKey, computes.blockSize] at block
  rw [maskedKey, maskedKey, computes.blockKey, computes.blockSize, computes.digest, computes.tag]
  exact H.tag_eq_digest block pieces

end HashAlgorithm

namespace PrfAlgorithm

theorem exists_stream_standard (algorithm : PrfAlgorithm) (secret seed : Octets) :
    ∃ octets, Stream .standard secret seed algorithm octets := by
  cases algorithm with
  | md5Sha1 =>
    exact ⟨_, .md5Sha1 (halves_iff.2 ⟨rfl, rfl⟩) (Provider.tags_standard .md5 _)
      (Provider.tags_standard .sha1 _)⟩
  | single hash => exact ⟨_, .single (Provider.tags_standard hash secret)⟩

theorem exists_compute_standard (algorithm : PrfAlgorithm) (secret label seed : Octets)
    (length : Nat) :
    ∃ octets, algorithm.compute .standard secret label seed length = .ok octets ∧
      octets.length = length := by
  obtain ⟨octets, stream⟩ := algorithm.exists_stream_standard secret (label ++ seed)
  refine ⟨_, compute_eq_map stream length, ?_⟩
  rw [List.length_map, List.length_range]

end PrfAlgorithm

namespace HashAlgorithm
open PrfAlgorithm

/-- For any key, the digest and the tag are there. They are those of the message in one piece, they
have the size of the algorithm, and they are made block by block and mask by mask. So the blocks of
the pseudorandom functions are not empty, their loop ends after as many as hold the octets, and they
give what is asked for. -/
theorem digest_and_tag_of_whole (algorithm : HashAlgorithm) (key : Octets)
    (pieces : List Octets) :
    Provider.standard.hash algorithm = .ok algorithm.digest ∧
      Provider.standard.tag algorithm key = .ok (algorithm.tag key) ∧
      algorithm.digest pieces = algorithm.digest [pieces.flatten] ∧
      algorithm.tag key pieces = algorithm.tag key [pieces.flatten] ∧
      (algorithm.digest pieces).length = algorithm.size ∧
      (algorithm.tag key pieces).length = algorithm.size ∧
      (∃ blocks, (∀ block ∈ blocks, block.length = algorithm.blockSize) ∧
        blocks.flatten = pieces.flatten ++ algorithm.padding pieces.flatten.length ∧
        algorithm.digest pieces = algorithm.ofBlocks blocks) ∧
      (algorithm.blockKey key).length = algorithm.blockSize ∧
      algorithm.tag key pieces =
        algorithm.digest [algorithm.maskedKey key 0x5c ++
          algorithm.digest [algorithm.maskedKey key 0x36 ++ pieces.flatten]] ∧
      (∀ seed i, block (algorithm.tag key) seed i ≠ []) ∧
      (∀ seed length fuel, (length + algorithm.size - 1) / algorithm.size ≤ fuel →
        stretch.go (algorithm.tag key) seed fuel seed length =
          stretch (algorithm.tag key) seed length) ∧
      ∀ (prf : PrfAlgorithm) secret label seed length,
        ∃ octets, prf.compute .standard secret label seed length = .ok octets ∧
          octets.length = length := by
  have sized := algorithm.length_tag key
  have pos := algorithm.size_pos
  refine ⟨rfl, rfl, algorithm.joins_digest pieces, algorithm.joins_tag key pieces,
    algorithm.length_digest pieces, sized pieces, algorithm.exists_digest_eq_ofBlocks pieces,
    algorithm.length_blockKey key, algorithm.tag_eq_digest key pieces, ?_, ?_,
    exists_compute_standard⟩
  · intro seed i empty
    have length := sized [link (algorithm.tag key) seed (i + 1), seed]
    change (block (algorithm.tag key) seed i).length = algorithm.size at length
    rw [empty] at length
    exact pos.ne length
  · intro seed length fuel enough
    exact stretch_go_of_le sized pos seed enough

end HashAlgorithm
end HandshakeAuth
