import HandshakeAuth.Proofs.Digest.Algorithm

/-! Digests and keyed tags have the size of their algorithm, whatever the message. -/

namespace HandshakeAuth

namespace Digest.BlockHash

variable {σ : Type} {H : BlockHash σ} {size : Nat}

theorem length_digest (sized : ∀ s, (H.output s).length = size) (pieces : List Octets) :
    (H.digest pieces).length = size :=
  sized _

theorem length_tag (sized : ∀ s, (H.output s).length = size) (key : Octets)
    (pieces : List Octets) : (H.tag key pieces).length = size :=
  length_digest sized _

end Digest.BlockHash

namespace HashAlgorithm

theorem length_digest (algorithm : HashAlgorithm) (pieces : List Octets) :
    (algorithm.digest pieces).length = algorithm.size := by
  obtain ⟨σ, H, computes⟩ := algorithm.exists_computes
  rw [computes.digest]
  exact Digest.BlockHash.length_digest computes.sized pieces

theorem length_tag (algorithm : HashAlgorithm) (key : Octets) (pieces : List Octets) :
    (algorithm.tag key pieces).length = algorithm.size := by
  obtain ⟨σ, H, computes⟩ := algorithm.exists_computes
  rw [computes.tag]
  exact Digest.BlockHash.length_tag computes.sized key pieces

end HashAlgorithm
end HandshakeAuth
