import HandshakeAuth.Crypto.Provider
import HandshakeAuth.Proofs.Rsa.Signature

/-! What verification under a public key comes to, for a key of any origin. The power of a signature
spells the padded digest together with the name of its hash, so a signature opens to one scheme and
one digest at most. -/

namespace HandshakeAuth.Rsa

variable {key : PublicKey} {info info' signature der digest digest' : Octets}
  {algorithm algorithm' : SignatureAlgorithm}

/-- The signature is a number of the size of the modulus and below it, and its power spells the
padded form of `info`. -/
structure PublicKey.Opens (key : PublicKey) (signature info : Octets) : Prop where
  length : signature.length = key.size
  below : Octets.toNat signature < key.modulus
  spells : padded? key.size info =
    some (Octets.ofNat key.size (Octets.toNat signature ^ key.exponent % key.modulus))

theorem PublicKey.verifies_iff_opens : key.verifies info signature ↔ key.Opens signature info := by
  simp only [PublicKey.verifies, powMod_eq, Bool.and_eq_true, decide_eq_true_eq]
  constructor
  · rintro ⟨⟨length, below⟩, spells⟩
    exact ⟨length, below, spells⟩
  · rintro ⟨length, below, spells⟩
    exact ⟨⟨length, below⟩, spells⟩

theorem PublicKey.Opens.unique (h : key.Opens signature info) (h' : key.Opens signature info') :
    info = info' :=
  info_of_padded h.spells h'.spells

theorem verify_of_readable (length : digest.length = algorithm.digestLength)
    (readable : PublicKey.ofDer? der = some key) :
    verify algorithm der digest signature =
      if key.verifies (digestInfo algorithm digest) signature then .ok ()
      else .error .signatureMismatch := by
  rw [verify, checkDigest_of_length length, Answer.ok_bind, readable]
  rfl

theorem verify_eq_ok_iff :
    verify algorithm der digest signature = .ok () ↔
      digest.length = algorithm.digestLength ∧ ∃ key, PublicKey.ofDer? der = some key ∧
        key.Opens signature (digestInfo algorithm digest) := by
  constructor
  · intro verified
    obtain ⟨_, checked, verified⟩ := Answer.bind_eq_ok_iff.1 verified
    have length : digest.length = algorithm.digestLength := by
      by_contra other
      rw [checkDigest, if_neg other] at checked
      exact nomatch checked
    refine ⟨length, ?_⟩
    rcases readable : PublicKey.ofDer? der with _ | key
    · rw [readable] at verified
      exact nomatch verified
    · rw [readable] at verified
      refine ⟨key, rfl, PublicKey.verifies_iff_opens.1 ?_⟩
      by_contra refused
      exact nomatch verified.symm.trans (if_neg refused)
  · rintro ⟨length, key, readable, opens⟩
    rw [verify_of_readable length readable, if_pos (PublicKey.verifies_iff_opens.2 opens)]

def infoLength : SignatureAlgorithm → ℕ
  | .rsaPkcs1Md5Sha1 => 36
  | .rsaPkcs1Sha256 => 51
  | .dsaSha1 => 20

theorem length_digestInfo (length : digest.length = algorithm.digestLength) :
    (digestInfo algorithm digest).length = infoLength algorithm := by
  cases algorithm with
  | rsaPkcs1Md5Sha1 => exact length
  | rsaPkcs1Sha256 =>
    have named : (sha256Info ++ digest).length = 19 + digest.length := List.length_append
    exact named.trans (congrArg (19 + ·) length)
  | dsaSha1 => exact length

theorem infoLength_injective (same : infoLength algorithm = infoLength algorithm') :
    algorithm = algorithm' := by
  revert same
  cases algorithm <;> cases algorithm' <;> decide

theorem digestInfo_inj (length : digest.length = algorithm.digestLength)
    (length' : digest'.length = algorithm'.digestLength)
    (same : digestInfo algorithm digest = digestInfo algorithm' digest') :
    algorithm = algorithm' ∧ digest = digest' := by
  have lengths : infoLength algorithm = infoLength algorithm' := by
    rw [← length_digestInfo length, same, length_digestInfo length']
  obtain rfl := infoLength_injective lengths
  refine ⟨rfl, ?_⟩
  cases algorithm with
  | rsaPkcs1Md5Sha1 => exact same
  | rsaPkcs1Sha256 => exact List.append_cancel_left same
  | dsaSha1 => exact same

theorem verify_unique (h : verify algorithm der digest signature = .ok ())
    (h' : verify algorithm' der digest' signature = .ok ()) :
    algorithm = algorithm' ∧ digest = digest' := by
  obtain ⟨length, key, readable, opens⟩ := verify_eq_ok_iff.1 h
  obtain ⟨length', key', readable', opens'⟩ := verify_eq_ok_iff.1 h'
  obtain rfl := Option.some.inj (readable.symm.trans readable')
  exact digestInfo_inj length length' (opens.unique opens')

end HandshakeAuth.Rsa
