import HandshakeAuth.Proofs.Session.Verdict

/-! What a signature by an RSA key commits to. A body that proves the possession of a leaf proves it
for one digest, and either up to TLS 1.1 or on TLS 1.2, even if the peer made up its key so that
signatures would fit. -/

namespace HandshakeAuth

variable {leaf body digest digest' key part part' signature : Octets} {version version' : Version}
  {algorithm algorithm' : SignatureAlgorithm}

theorem Provider.verify_of_verifies (h : Provider.standard.Verifies algorithm key part signature) :
    algorithm ≠ .dsaSha1 ∧ Rsa.verify algorithm key part signature = .ok () := by
  obtain ⟨scheme, provided, verified⟩ := h
  have rsa : algorithm ≠ .dsaSha1 := by
    rintro rfl
    exact nomatch provided
  obtain rfl := Rsa.scheme_of_standard provided
  exact ⟨rsa, verified⟩

theorem Provider.verifies_unique (h : Provider.standard.Verifies algorithm key part signature)
    (h' : Provider.standard.Verifies algorithm' key part' signature) :
    algorithm = algorithm' ∧ part = part' :=
  Rsa.verify_unique (verify_of_verifies h).2 (verify_of_verifies h').2

theorem SignatureAlgorithm.ofKey_rsa_eq_iff :
    ofKey version .rsa = ofKey version' .rsa ↔ (version = .tls12 ↔ version' = .tls12) := by
  cases version <;> cases version' <;> decide

namespace Session

theorem ProvesLeaf.rsa (h : ProvesLeaf .standard version leaf body digest) :
    ∃ signature certificate, CertificateVerify.decode body = .ok signature ∧
      X509.parse leaf = .ok certificate ∧
      Provider.standard.Verifies (.ofKey version .rsa) certificate.publicKey digest signature := by
  obtain ⟨signature, certificate, algorithm, decoded, parsed, -, verified⟩ := h
  cases algorithm with
  | dsa => exact absurd rfl (Provider.verify_of_verifies verified).1
  | rsa =>
    have whole : (SignatureAlgorithm.ofKey version .rsa).signedPart digest = digest := by
      cases version <;> rfl
    rw [whole] at verified
    exact ⟨signature, certificate, decoded, parsed, verified⟩

theorem ProvesLeaf.unique (h : ProvesLeaf .standard version leaf body digest)
    (h' : ProvesLeaf .standard version' leaf body digest') :
    digest = digest' ∧ (version = .tls12 ↔ version' = .tls12) := by
  obtain ⟨signature, certificate, decoded, parsed, verified⟩ := h.rsa
  obtain ⟨signature', certificate', decoded', parsed', verified'⟩ := h'.rsa
  obtain rfl := Except.ok.inj (decoded.symm.trans decoded')
  obtain rfl := Except.ok.inj (parsed.symm.trans parsed')
  obtain ⟨scheme, digests⟩ := Provider.verifies_unique verified verified'
  exact ⟨digests, SignatureAlgorithm.ofKey_rsa_eq_iff.1 scheme⟩

/-- Under any octets for a key, a signature counts for one scheme and one digest at most. So two
sessions that were shown one leaf and accept one body agree on the digest, and on whether they are
sessions of TLS 1.2. -/
theorem proof_binds_digest :
    (∀ key signature, {signed : SignatureAlgorithm × Octets |
      Provider.standard.Verifies signed.1 key signed.2 signature}.Subsingleton) ∧
    ∀ (session session' : Session) (body digest digest' : Octets),
      session.peerChain.head? = session'.peerChain.head? →
      session.checkPossession .standard body digest = .ok () →
      session'.checkPossession .standard body digest' = .ok () →
        digest = digest' ∧ (session.version = .tls12 ↔ session'.version = .tls12) := by
  constructor
  · rintro key signature ⟨algorithm, part⟩ h ⟨algorithm', part'⟩ h'
    obtain ⟨rfl, rfl⟩ := Provider.verifies_unique h h'
    rfl
  · intro session session' body digest digest' same accepted accepted'
    obtain ⟨leaf, issuers, shown, proves⟩ := checkPossession_eq_ok_iff.1 accepted
    obtain ⟨leaf', issuers', shown', proves'⟩ := checkPossession_eq_ok_iff.1 accepted'
    rw [shown, shown'] at same
    obtain rfl : leaf = leaf' := Option.some.inj same
    exact proves.unique proves'

theorem proof_binds_digest_small :
    (viewer .terseRsa .tls10).checkPossession .standard ([0, 50] ++ Rsa.smallSignature)
        (List.replicate 36 0x5a) = .ok () ∧
      (∀ algorithm part,
        Provider.standard.Verifies algorithm Rsa.smallBareDer part Rsa.smallSignature →
          algorithm = .rsaPkcs1Md5Sha1 ∧ part = List.replicate 36 0x5a) ∧
      (∀ digest, (viewer .terseRsa .ssl3).checkPossession .standard
        ([0, 50] ++ Rsa.smallSignature) digest = .ok () → digest = List.replicate 36 0x5a) ∧
      ∀ digest, (viewer .terseRsa .tls12).checkPossession .standard
        ([0, 50] ++ Rsa.smallSignature) digest ≠ .ok () := by
  have readable : Rsa.PublicKey.ofDer? Rsa.smallBareDer =
      some Rsa.PrivateKey.small.toPublicKey := by decide +kernel
  have length : (List.replicate 36 (0x5a : UInt8)).length =
      SignatureAlgorithm.rsaPkcs1Md5Sha1.digestLength := List.length_replicate
  have verified : Rsa.verify .rsaPkcs1Md5Sha1 Rsa.smallBareDer (List.replicate 36 0x5a)
      Rsa.smallSignature = .ok () :=
    Rsa.verify_eq_ok_iff.2 ⟨length, _, readable, Rsa.opens_smallSignature⟩
  have verifies : Provider.standard.Verifies .rsaPkcs1Md5Sha1 Rsa.smallBareDer
      (List.replicate 36 0x5a) Rsa.smallSignature := ⟨_, rfl, verified⟩
  have decoded : CertificateVerify.decode ([0, 50] ++ Rsa.smallSignature) =
      .ok Rsa.smallSignature := CertificateVerify.decode_encode rfl
  have accepted : (viewer .terseRsa .tls10).checkPossession .standard
      ([0, 50] ++ Rsa.smallSignature) (List.replicate 36 0x5a) = .ok () :=
    checkPossession_eq_ok_iff.2 ⟨X509.terseRsa, [], rfl, _, _, _, decoded,
      Credential.terseRsa.parse_leaf, rfl, verifies⟩
  have same (version version' : Version) : (viewer .terseRsa version).peerChain.head? =
      (viewer .terseRsa version').peerChain.head? := rfl
  obtain ⟨one, agree⟩ := proof_binds_digest
  refine ⟨accepted, ?_, ?_, ?_⟩
  · intro algorithm part h
    exact Prod.mk.inj (one _ _ h verifies)
  · intro digest h
    exact (agree _ _ _ _ _ (same .ssl3 .tls10) h accepted).1
  · intro digest h
    have versions := (agree _ _ _ _ _ (same .tls12 .tls10) h accepted).2
    exact nomatch versions.1 rfl

end Session
end HandshakeAuth
