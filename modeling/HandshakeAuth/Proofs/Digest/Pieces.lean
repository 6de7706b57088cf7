import HandshakeAuth.Proofs.Digest.Algorithm

/-! A message may come in pieces. For digests and tags it does not matter where it is cut. -/

namespace HandshakeAuth

def Joins (hash : List Octets → Octets) : Prop :=
  ∀ pieces, hash pieces = hash [pieces.flatten]

namespace Digest.BlockHash

variable {σ : Type} (H : BlockHash σ)

theorem digest_congr {xs ys : List Octets} (same : xs.flatten = ys.flatten) :
    H.digest xs = H.digest ys := by
  unfold digest
  rw [foldl_absorb, foldl_absorb, same]

theorem joins_digest : Joins H.digest := by
  intro pieces
  exact H.digest_congr List.flatten_singleton.symm

theorem digest_cons (front : Octets) (pieces : List Octets) :
    H.digest (front :: pieces) = H.digest [front ++ pieces.flatten] := by
  apply H.digest_congr
  rw [List.flatten_cons, List.flatten_singleton]

theorem joins_tag (key : Octets) : Joins (H.tag key) := by
  intro pieces
  have inner (mask : Octets) :
      H.digest (mask :: pieces) = H.digest [mask, pieces.flatten] := by
    rw [digest_cons, digest_cons _ mask [_], List.flatten_singleton]
  simp only [tag, inner]

end Digest.BlockHash

namespace HashAlgorithm

theorem joins_digest (algorithm : HashAlgorithm) : Joins algorithm.digest := by
  obtain ⟨σ, H, computes⟩ := algorithm.exists_computes
  rw [computes.digest]
  exact H.joins_digest

theorem joins_tag (algorithm : HashAlgorithm) (key : Octets) : Joins (algorithm.tag key) := by
  obtain ⟨σ, H, computes⟩ := algorithm.exists_computes
  rw [computes.tag]
  exact H.joins_tag key

end HashAlgorithm
end HandshakeAuth
