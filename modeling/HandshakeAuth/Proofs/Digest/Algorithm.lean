import HandshakeAuth.Digest.Hmac
import HandshakeAuth.Proofs.Digest.Blocks

/-! The iterated hashes behind the algorithms. What holds of every iterated hash with digests of one
size, and of digests and tags under it, holds of each algorithm. -/

namespace HandshakeAuth.HashAlgorithm
open Digest

def ofBlocks : HashAlgorithm → List Octets → Octets
  | md5 => Md5.hash.ofBlocks
  | sha1 => Sha1.hash.ofBlocks
  | sha256 => Sha2.hash256.ofBlocks
  | sha384 => Sha2.hash384.ofBlocks

def padding : HashAlgorithm → Nat → Octets
  | md5 => Md5.hash.padding
  | sha1 => Sha1.hash.padding
  | sha256 => Sha2.hash256.padding
  | sha384 => Sha2.hash384.padding

/-- The algorithm is this iterated hash. -/
structure Computes {σ : Type} (H : BlockHash σ) (algorithm : HashAlgorithm) : Prop where
  digest : algorithm.digest = H.digest
  tag : algorithm.tag = H.tag
  ofBlocks : algorithm.ofBlocks = H.ofBlocks
  padding : algorithm.padding = H.padding
  blockSize : algorithm.blockSize = H.blockSize
  sized : ∀ s, (H.output s).length = algorithm.size

theorem computes_md5 : Computes Md5.hash md5 :=
  ⟨rfl, rfl, rfl, rfl, rfl, fun s => by simp [Md5.hash, size]⟩

theorem computes_sha1 : Computes Sha1.hash sha1 :=
  ⟨rfl, rfl, rfl, rfl, rfl, fun s => by simp [Sha1.hash, size]⟩

theorem computes_sha256 : Computes Sha2.hash256 sha256 :=
  ⟨rfl, rfl, rfl, rfl, rfl, fun s => by simp [Sha2.hash256, size]⟩

theorem computes_sha384 : Computes Sha2.hash384 sha384 :=
  ⟨rfl, rfl, rfl, rfl, rfl, fun s => by simp [Sha2.hash384, size]⟩

theorem exists_computes (algorithm : HashAlgorithm) :
    ∃ (σ : Type) (H : BlockHash σ), Computes H algorithm := by
  cases algorithm with
  | md5 => exact ⟨_, _, computes_md5⟩
  | sha1 => exact ⟨_, _, computes_sha1⟩
  | sha256 => exact ⟨_, _, computes_sha256⟩
  | sha384 => exact ⟨_, _, computes_sha384⟩

theorem blockSize_pos (algorithm : HashAlgorithm) : 0 < algorithm.blockSize :=
  Nat.lt_of_lt_of_le algorithm.size_pos algorithm.size_le_blockSize

theorem exists_digest_eq_ofBlocks (algorithm : HashAlgorithm) (pieces : List Octets) :
    ∃ blocks, (∀ block ∈ blocks, block.length = algorithm.blockSize) ∧
      blocks.flatten = pieces.flatten ++ algorithm.padding pieces.flatten.length ∧
      algorithm.digest pieces = algorithm.ofBlocks blocks := by
  have pos := algorithm.blockSize_pos
  obtain ⟨σ, H, computes⟩ := algorithm.exists_computes
  rw [computes.blockSize] at pos ⊢
  rw [computes.digest, computes.padding, computes.ofBlocks]
  exact BlockHash.exists_digest_eq pos pieces

end HandshakeAuth.HashAlgorithm
