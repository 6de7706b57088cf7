import HandshakeAuth.Proofs.Digest.Size
import HandshakeAuth.Proofs.Session.Possession

/-! The octets behind a proof of possession, from the transcript that they are a hash of. Main
statement: both ends work with the hash that the scheme is named for, except under a DSA key on
TLS 1.2, where they work with the end of a SHA-256 digest. -/

namespace HandshakeAuth
open Answer

def Version.transcriptDigest (version : Version) (transcript : Octets) : Octets :=
  match version with
  | .tls12 => HashAlgorithm.sha256.digest [transcript]
  | _ => HashAlgorithm.md5.digest [transcript] ++ HashAlgorithm.sha1.digest [transcript]

namespace SignatureAlgorithm

variable {version : Version} {key : PublicKeyAlgorithm}

def transcriptHash (algorithm : SignatureAlgorithm) (transcript : Octets) : Octets :=
  match algorithm with
  | rsaPkcs1Md5Sha1 =>
    HashAlgorithm.md5.digest [transcript] ++ HashAlgorithm.sha1.digest [transcript]
  | rsaPkcs1Sha256 => HashAlgorithm.sha256.digest [transcript]
  | dsaSha1 => HashAlgorithm.sha1.digest [transcript]

theorem signedPart_append {front back : Octets} (size : back.length = 20) :
    dsaSha1.signedPart (front ++ back) = back := by
  have cut : (front ++ back).length - 20 = front.length := by
    rw [List.length_append, size, Nat.add_sub_cancel]
  change (front ++ back).drop _ = back
  rw [cut, List.drop_left]

theorem signedPart_transcriptDigest (named : ¬ (ofKey version key = dsaSha1 ∧ version = .tls12))
    (transcript : Octets) :
    (ofKey version key).signedPart (version.transcriptDigest transcript) =
      (ofKey version key).transcriptHash transcript := by
  have sha1_half : dsaSha1.signedPart
      (HashAlgorithm.md5.digest [transcript] ++ HashAlgorithm.sha1.digest [transcript]) =
        dsaSha1.transcriptHash transcript :=
    signedPart_append (HashAlgorithm.length_digest .sha1 _)
  cases key with
  | rsa => cases version <;> rfl
  | dsa =>
    cases version with
    | ssl3 | tls10 | tls11 => exact sha1_half
    | tls12 => exact (named ⟨rfl, rfl⟩).elim

theorem signedPart_dsa_tls12 (transcript : Octets) :
    dsaSha1.signedPart (Version.tls12.transcriptDigest transcript) =
      (HashAlgorithm.sha256.digest [transcript]).drop 12 := by
  have size : (HashAlgorithm.sha256.digest [transcript]).length = 32 :=
    HashAlgorithm.length_digest .sha256 _
  change (HashAlgorithm.sha256.digest [transcript]).drop
    ((HashAlgorithm.sha256.digest [transcript]).length - 20) = _
  rw [size]

end SignatureAlgorithm

namespace Session

/-- Both ends find the same octets of the digest that the version prescribes: the one for the
selected credential, the other for a leaf with a key of that kind. They are the hash that the scheme
is named for; but a DSA key on TLS 1.2 has the last 20 octets of a SHA-256 digest instead of a SHA-1
digest. -/
theorem signs_transcript_hash {signing checking : Session} {signer checker : Provider}
    {choice : Choice} {leaf : Octets} {issuers : List Octets} {certificate : X509.Certificate}
    (selected : signing.selected = some choice) (version : checking.version = signing.version)
    (shown : checking.peerChain = leaf :: issuers) (parsed : X509.parse leaf = .ok certificate)
    (known : certificate.algorithm = some choice.credential.algorithm) (transcript : Octets) :
    ∃ part,
      signing.Signs signer choice.credential (choice.credential.scheme signing.version) part
        (signing.version.transcriptDigest transcript) ∧
      checking.Checks checker (choice.credential.scheme signing.version) certificate.publicKey part
        (signing.version.transcriptDigest transcript) ∧
      (¬ (choice.credential.scheme signing.version = .dsaSha1 ∧ signing.version = .tls12) →
        part = (choice.credential.scheme signing.version).transcriptHash transcript) ∧
      (choice.credential.scheme signing.version = .dsaSha1 ∧ signing.version = .tls12 →
        part = (HashAlgorithm.sha256.digest [transcript]).drop 12) := by
  refine ⟨choice.credential.part signing.version (signing.version.transcriptDigest transcript),
    signs_part selected, version ▸ checks_part shown parsed known, ?_, ?_⟩
  · intro named
    exact SignatureAlgorithm.signedPart_transcriptDigest named transcript
  · rintro ⟨scheme, latest⟩
    rw [Credential.part, scheme, latest]
    exact SignatureAlgorithm.signedPart_dsa_tls12 transcript

theorem signs_transcript_hash_terse :
    ∃ part,
      (holder .terse .tls11).Signs .withStandIn .terse .dsaSha1 part
        (Version.tls11.transcriptDigest [1, 2, 3]) ∧
      (viewer .terse .tls11).Checks .withStandIn .dsaSha1 [2, 1, 7] part
        (Version.tls11.transcriptDigest [1, 2, 3]) ∧
      part = HashAlgorithm.sha1.digest [[1, 2, 3]] := by
  have chosen : (holder .terse .tls11).selected = some (.held 0 .terse) := rfl
  have version : (viewer .terse .tls11).version = (holder .terse .tls11).version := rfl
  have shown : (viewer .terse .tls11).peerChain = [Credential.terse.leaf] := rfl
  obtain ⟨part, signs, checks, named, -⟩ := signs_transcript_hash chosen version shown
    Credential.terse.parse_leaf Credential.terse.algorithm_leaf [1, 2, 3]
  exact ⟨part, signs, checks, named fun ⟨_, latest⟩ => nomatch latest⟩

def echo : SignCallback := fun _ _ part => .ok part

/-- The signer of a DSA key on TLS 1.2, of an empty transcript. -/
theorem signs_sha256_end_for_dsa :
    (provePossession { holder .terse .tls12 with signer := some echo } .standard
        (Version.tls12.transcriptDigest []) []).2 =
      [.sign X509.terse .dsaSha1 ((HashAlgorithm.sha256.digest [[]]).drop 12)] ∧
    (HashAlgorithm.sha256.digest [[]]).drop 12 ≠ SignatureAlgorithm.dsaSha1.transcriptHash [] := by
  refine ⟨?_, ?_⟩
  · decide +kernel
  · decide +kernel

end Session
end HandshakeAuth
