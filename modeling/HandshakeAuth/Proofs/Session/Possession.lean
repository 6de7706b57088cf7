import HandshakeAuth.Crypto.Restriction
import HandshakeAuth.Proofs.Answer
import HandshakeAuth.Proofs.Message.CertificateVerify
import HandshakeAuth.Session.Possession

/-! A proof of possession as its two ends see it. Each finds the scheme and the part of the digest
by itself, the one from the credential and the other from the leaf. Main statement: they find the
same, and what the signing end proves the checking end accepts. -/

namespace HandshakeAuth

def Credential.scheme (credential : Credential) (version : Version) : SignatureAlgorithm :=
  .ofKey version credential.algorithm

def Credential.part (credential : Credential) (version : Version) (digest : Octets) : Octets :=
  (credential.scheme version).signedPart digest

def Provider.Verifies (provider : Provider) (algorithm : SignatureAlgorithm)
    (key part signature : Octets) : Prop :=
  ∃ scheme, provider.signature algorithm = .ok scheme ∧ scheme.verify key part signature = .ok ()

/-- A certificate of a DSA key that holds no more than its reading asks for. -/
def X509.terse : Octets :=
  [0x30, 0x44, 0x30, 0x3a, 0x02, 0x01, 0x01, 0x30, 0x02, 0x06, 0x00, 0x30, 0x00, 0x30, 0x1a, 0x17,
    0x0b, 0x32, 0x36, 0x30, 0x31, 0x30, 0x31, 0x30, 0x30, 0x30, 0x30, 0x5a, 0x17, 0x0b, 0x32, 0x36,
    0x30, 0x31, 0x30, 0x31, 0x30, 0x30, 0x30, 0x30, 0x5a, 0x30, 0x00, 0x30, 0x11, 0x30, 0x09, 0x06,
    0x07, 0x2a, 0x86, 0x48, 0xce, 0x38, 0x04, 0x01, 0x03, 0x04, 0x00, 0x02, 0x01, 0x07, 0x30, 0x02,
    0x06, 0x00, 0x03, 0x02, 0x00, 0x01]

def Credential.terse : Credential where
  leaf := X509.terse
  issuers := []
  key := ⟨[]⟩
  certificate :=
    { issuer := [0x30, 0], subject := [0x30, 0], algorithm := some .dsa, publicKey := [2, 1, 7],
      usage := none }
  algorithm := .dsa
  parse_leaf := rfl
  algorithm_leaf := rfl

def X509.rootName : Octets :=
  [0x30, 0x32, 0x31, 0x0b, 0x30, 0x09, 0x06, 0x03, 0x55, 0x04, 0x06, 0x0c, 0x02, 0x58, 0x58, 0x31,
    0x0e, 0x30, 0x0c, 0x06, 0x03, 0x55, 0x04, 0x0a, 0x0c, 0x05, 0x41, 0x6c, 0x70, 0x68, 0x61, 0x31,
    0x13, 0x30, 0x11, 0x06, 0x03, 0x55, 0x04, 0x03, 0x0c, 0x0a, 0x41, 0x6c, 0x70, 0x68, 0x61, 0x20,
    0x52, 0x6f, 0x6f, 0x74]

def X509.subjectName : Octets :=
  [0x30, 0x12, 0x31, 0x10, 0x30, 0x0e, 0x06, 0x03, 0x55, 0x04, 0x03, 0x0c, 0x07, 0x53, 0x75, 0x62,
    0x6a, 0x65, 0x63, 0x74]

def X509.dsaKey : Octets :=
  [0x02, 0x09, 0x00, 0xab, 0x54, 0xa9, 0x8c, 0xeb, 0x1f, 0x0a, 0xd2]

/-- A certificate of a DSA key for a named subject by a named issuer. -/
def X509.named : Octets :=
  [0x30, 0x81, 0xca, 0x30, 0x81, 0xa5, 0xa0, 0x03, 0x02, 0x01, 0x02, 0x02, 0x01, 0x07, 0x30, 0x0d,
    0x06, 0x09, 0x2a, 0x86, 0x48, 0x86, 0xf7, 0x0d, 0x01, 0x01, 0x0b, 0x05, 0x00] ++ rootName ++
  [0x30, 0x1e, 0x17, 0x0d, 0x32, 0x34, 0x30, 0x31, 0x30, 0x31, 0x30, 0x30, 0x30, 0x30, 0x30, 0x30,
    0x5a, 0x17, 0x0d, 0x33, 0x34, 0x30, 0x31, 0x30, 0x31, 0x30, 0x30, 0x30, 0x30, 0x30, 0x30,
    0x5a] ++ subjectName ++
  [0x30, 0x24, 0x30, 0x14, 0x06, 0x07, 0x2a, 0x86, 0x48, 0xce, 0x38, 0x04, 0x01, 0x30, 0x09, 0x02,
    0x01, 0x17, 0x02, 0x01, 0x0b, 0x02, 0x01, 0x04, 0x03, 0x0c, 0x00] ++ dsaKey ++
  [0x30, 0x0d, 0x06, 0x09, 0x2a, 0x86, 0x48, 0x86, 0xf7, 0x0d, 0x01, 0x01, 0x0b, 0x05, 0x00, 0x03,
    0x11, 0x00] ++ List.replicate 16 0

def Credential.named : Credential where
  leaf := X509.named
  issuers := []
  key := ⟨[]⟩
  certificate :=
    { issuer := X509.rootName, subject := X509.subjectName, algorithm := some .dsa,
      publicKey := X509.dsaKey, usage := none }
  algorithm := .dsa
  parse_leaf := by decide +kernel
  algorithm_leaf := rfl

def Provider.withStandIn : Provider :=
  Restriction.apply { dsaStandIn := true } .standard

namespace Session
open Answer

variable {session : Session} {provider : Provider} {credential : Credential}
  {body digest signature : Octets} {log : Log}

def Produces (session : Session) (provider : Provider) (credential : Credential)
    (algorithm : SignatureAlgorithm) (part signature : Octets) : Prop :=
  match session.signer with
  | some callback => callback credential.leaf algorithm part = .ok signature
  | none => ∃ scheme, provider.signature algorithm = .ok scheme ∧
      scheme.sign credential.key.octets part = .ok signature

/-- The body holds a signature of the digest that the key of the leaf verifies. -/
def ProvesLeaf (provider : Provider) (version : Version) (leaf body digest : Octets) : Prop :=
  ∃ signature certificate algorithm, CertificateVerify.decode body = .ok signature ∧
    X509.parse leaf = .ok certificate ∧ certificate.algorithm = some algorithm ∧
    provider.Verifies (.ofKey version algorithm) certificate.publicKey
      ((SignatureAlgorithm.ofKey version algorithm).signedPart digest) signature

/-- What is signed for a digest is `part`: the callback, or else the scheme of the stored key, is
asked for a signature of it, and the proof is what comes of the answer. -/
structure Signs (session : Session) (provider : Provider) (credential : Credential)
    (algorithm : SignatureAlgorithm) (part digest : Octets) : Prop where
  callback : ∀ callback, session.signer = some callback → ∀ log,
    session.provePossession provider digest log =
      (match callback credential.leaf algorithm part with
        | .ok signature => some <$> CertificateVerify.encode signature
        | .error text => .error (.internalError ("sign callback failed: " ++ text)),
        log ++ [.sign credential.leaf algorithm part])
  key : session.signer = none → ∀ log,
    session.provePossession provider digest log =
      (match provider.signature algorithm >>= (·.sign credential.key.octets part) with
        | .ok signature => some <$> CertificateVerify.encode signature
        | .error e => .error (.crypto e),
        log)

/-- What is checked for a digest is `part`: the scheme is asked whether the signature in the body is
one of it under the key. -/
def Checks (session : Session) (provider : Provider) (algorithm : SignatureAlgorithm)
    (key part digest : Octets) : Prop :=
  ∀ body, session.checkPossession provider body digest =
    (CertificateVerify.decode body >>= fun signature =>
      match provider.signature algorithm with
      | .ok scheme => verdict (scheme.verify key part signature)
      | .error e => .error (.crypto e))

theorem sign_eq_ok_iff {algorithm : SignatureAlgorithm} {part : Octets} :
    (session.sign provider credential algorithm part log).1 = .ok signature ↔
      session.Produces provider credential algorithm part signature := by
  unfold Session.sign Produces
  rcases session.signer with _ | callback
  · rw [← bind_eq_ok_iff]
    rcases provider.signature algorithm >>= (·.sign credential.key.octets part) with e | s <;> simp
  · rcases h : callback credential.leaf algorithm part with e | s <;> simp [h]

def proofOf (session : Session) (provider : Provider) (credential : Credential) (digest : Octets)
    (log : Log) : Except AuthError Octets :=
  (session.sign provider credential (credential.scheme session.version)
    (credential.part session.version digest) log).1 >>= CertificateVerify.encode

theorem proofOf_eq_ok_iff :
    session.proofOf provider credential digest log = .ok body ↔
      ∃ signature, session.Produces provider credential (credential.scheme session.version)
          (credential.part session.version digest) signature ∧
        CertificateVerify.encode signature = .ok body := by
  simp only [proofOf, bind_eq_ok_iff, sign_eq_ok_iff]

theorem provePossession_of_none (unselected : session.selected = none) :
    session.provePossession provider digest log = (.ok none, log) := by
  simp only [provePossession, unselected]

theorem provePossession_of_some {choice : Choice} (selected : session.selected = some choice) :
    (session.provePossession provider digest log).1 =
      some <$> session.proofOf provider choice.credential digest log := by
  simp only [provePossession, selected, proofOf, Credential.scheme, Credential.part]
  rcases (session.sign provider choice.credential _ _ log).1 with refusal | signature <;> rfl

theorem provePossession_eq_ok_iff {choice : Choice} (selected : session.selected = some choice) :
    (session.provePossession provider digest log).1 = .ok (some body) ↔
      ∃ signature, session.Produces provider choice.credential
          (choice.credential.scheme session.version)
          (choice.credential.part session.version digest) signature ∧
        CertificateVerify.encode signature = .ok body := by
  rw [provePossession_of_some selected, map_eq_ok_iff]
  simp only [Option.some.injEq, exists_eq_right, proofOf_eq_ok_iff]

theorem verdict_eq_ok_iff {answer : Except CryptoError Unit} :
    verdict answer = .ok () ↔ answer = .ok () := by
  rcases answer with e | _
  · by_cases h : e.blamesSignature <;> simp [verdict, h]
  · simp [verdict]

theorem requireAlgorithm_eq_ok_iff {certificate : X509.Certificate}
    {algorithm : PublicKeyAlgorithm} :
    certificate.requireAlgorithm = .ok algorithm ↔ certificate.algorithm = some algorithm := by
  unfold X509.Certificate.requireAlgorithm
  rcases certificate.algorithm with _ | a <;> simp

theorem checkSignature_eq_ok_iff {algorithm : SignatureAlgorithm} {key part : Octets} :
    (match provider.signature algorithm with
      | .error e => throw (AuthError.crypto e)
      | .ok scheme => verdict (scheme.verify key part signature)) = .ok () ↔
      provider.Verifies algorithm key part signature := by
  unfold Provider.Verifies
  rcases provider.signature algorithm with e | scheme
  · simp [throw, throwThe, MonadExceptOf.throw]
  · simp [verdict_eq_ok_iff]

theorem checkPossession_eq_ok_iff :
    session.checkPossession provider body digest = .ok () ↔
      ∃ leaf issuers, session.peerChain = leaf :: issuers ∧
        ProvesLeaf provider session.version leaf body digest := by
  rcases h : session.peerChain with _ | ⟨leaf, issuers⟩
  · simp [checkPossession, h]
  · simp only [checkPossession, h, bind_eq_ok_iff, requireAlgorithm_eq_ok_iff,
      List.cons.injEq]
    constructor
    · rintro ⟨signature, decoded, certificate, parsed, algorithm, known, verified⟩
      exact ⟨leaf, issuers, ⟨rfl, rfl⟩, signature, certificate, algorithm, decoded, parsed, known,
        checkSignature_eq_ok_iff.1 verified⟩
    · rintro ⟨_, _, ⟨rfl, rfl⟩, signature, certificate, algorithm, decoded, parsed, known, verified⟩
      exact ⟨signature, decoded, certificate, parsed, algorithm, known,
        checkSignature_eq_ok_iff.2 verified⟩

theorem signs_part {choice : Choice} (selected : session.selected = some choice) :
    session.Signs provider choice.credential (choice.credential.scheme session.version)
      (choice.credential.part session.version digest) digest where
  callback callback signer log := by
    simp only [provePossession, selected, Session.sign, signer, Credential.scheme, Credential.part]
    rcases callback _ _ _ with text | signature
    · rfl
    · rfl
  key signer log := by
    simp only [provePossession, selected, Session.sign, signer, Credential.scheme, Credential.part]
    rcases provider.signature _ >>= _ with e | signature
    · rfl
    · rfl

theorem checks_part {leaf : Octets} {issuers : List Octets} {certificate : X509.Certificate}
    {key : PublicKeyAlgorithm} (shown : session.peerChain = leaf :: issuers)
    (parsed : X509.parse leaf = .ok certificate) (known : certificate.algorithm = some key) :
    session.Checks provider (.ofKey session.version key) certificate.publicKey
      ((SignatureAlgorithm.ofKey session.version key).signedPart digest) digest := by
  intro body
  have required := requireAlgorithm_eq_ok_iff.2 known
  simp only [checkPossession, shown, parsed, required, ok_bind]
  rcases provider.signature _ with e | scheme
  · rfl
  · rfl

theorem proof_eq_encode {choice : Choice} (selected : session.selected = some choice)
    (produced : session.Produces provider choice.credential
      (choice.credential.scheme session.version)
      (choice.credential.part session.version digest) signature)
    (fits : signature.length ≤ 65535) :
    ∃ body, CertificateVerify.decode body = .ok signature ∧
      ∀ log, (session.provePossession provider digest log).1 = .ok (some body) := by
  have written : CertificateVerify.encode signature = .ok (Wire.framed 2 signature) :=
    CertificateVerify.encode_eq_ok_iff.2 ⟨Nat.lt_succ_of_le fits, rfl⟩
  refine ⟨Wire.framed 2 signature, CertificateVerify.decode_encode written, fun log => ?_⟩
  exact (provePossession_eq_ok_iff selected).2 ⟨signature, produced, written⟩

/-- A session of the same version that was shown the leaf of the signing credential accepts its
proof, provided that the signature verifies under the key of the leaf for the scheme and the part
of the digest that the signer was given. Whatever the providers, both ends ask theirs for that
scheme, the one by what the credential kept and the other by the leaf read anew, and hand it that
part; and every signature of up to 65535 octets gets through. -/
theorem checkPossession_of_provePossession {signing checking : Session}
    {signer checker : Provider} {choice : Choice} {issuers : List Octets}
    (selected : signing.selected = some choice)
    (version : checking.version = signing.version)
    (shown : checking.peerChain = choice.credential.leaf :: issuers)
    (verifies : ∀ signature certificate,
      signing.Produces signer choice.credential (choice.credential.scheme signing.version)
        (choice.credential.part signing.version digest) signature →
      X509.parse choice.credential.leaf = .ok certificate →
      checker.Verifies (choice.credential.scheme signing.version) certificate.publicKey
        (choice.credential.part signing.version digest) signature) :
    (∀ log body, (signing.provePossession signer digest log).1 = .ok (some body) →
      checking.checkPossession checker body digest = .ok ()) ∧
    (∃ certificate, X509.parse choice.credential.leaf = .ok certificate ∧
      SignatureAlgorithm.ofKey checking.version <$> certificate.requireAlgorithm =
        .ok (choice.credential.scheme signing.version) ∧
      ∀ provider,
        signing.Signs provider choice.credential (choice.credential.scheme signing.version)
          (choice.credential.part signing.version digest) digest ∧
        checking.Checks provider (choice.credential.scheme signing.version) certificate.publicKey
          (choice.credential.part signing.version digest) digest) ∧
    ∀ signature,
      signing.Produces signer choice.credential (choice.credential.scheme signing.version)
        (choice.credential.part signing.version digest) signature →
      signature.length ≤ 65535 →
      ∃ body, CertificateVerify.decode body = .ok signature ∧
        ∀ log, (signing.provePossession signer digest log).1 = .ok (some body) := by
  have parsed := choice.credential.parse_leaf
  have known := choice.credential.algorithm_leaf
  refine ⟨?_, ⟨choice.credential.certificate, parsed, ?_, ?_⟩,
    fun signature produced fits => proof_eq_encode selected produced fits⟩
  · intro log body proved
    obtain ⟨signature, produced, written⟩ := (provePossession_eq_ok_iff selected).1 proved
    have verified := verifies signature _ produced parsed
    rw [checkPossession_eq_ok_iff, version]
    exact ⟨choice.credential.leaf, issuers, shown, signature, choice.credential.certificate,
      choice.credential.algorithm, CertificateVerify.decode_encode written, parsed, known, verified⟩
  · rw [requireAlgorithm_eq_ok_iff.2 known, version]
    rfl
  · intro provider
    refine ⟨signs_part selected, ?_⟩
    rw [← version]
    exact checks_part shown parsed known

def holder (credential : Credential) (version : Version) : Session :=
  let store : Store :=
    { entries := [credential], trustedIssuers := [], issuerList := [], selector := .heuristic }
  { Session.start {} version .client store with selected := some (.held 0 credential) }

def viewer (credential : Credential) (version : Version) : Session :=
  let store : Store :=
    { entries := [], trustedIssuers := [], issuerList := [], selector := .heuristic }
  { Session.start {} version .server store with peerChain := credential.chain }

theorem standIn_verifies_what_it_signs {key key' part signature : Octets}
    (signed : Restriction.standIn.sign key part = .ok signature) :
    Restriction.standIn.verify key' part signature = .ok () := by
  obtain rfl := Except.ok.inj signed
  exact if_pos rfl

def twoHalves : Octets :=
  List.replicate 16 1 ++ List.replicate 20 2

theorem checkPossession_terse :
    ((holder .terse .tls11).provePossession .withStandIn twoHalves []).1 =
        .ok (some ([0, 23, 0x64, 0x73, 0x61] ++ List.replicate 20 2)) ∧
      (viewer .terse .tls11).checkPossession .withStandIn
        ([0, 23, 0x64, 0x73, 0x61] ++ List.replicate 20 2) twoHalves = .ok () ∧
      (holder .terse .tls11).Signs .withStandIn .terse .dsaSha1 (List.replicate 20 2) twoHalves ∧
      (viewer .terse .tls11).Checks .withStandIn .dsaSha1 [2, 1, 7] (List.replicate 20 2)
        twoHalves := by
  have proved : ((holder .terse .tls11).provePossession .withStandIn twoHalves []).1 =
      .ok (some ([0, 23, 0x64, 0x73, 0x61] ++ List.replicate 20 2)) := rfl
  have chosen : (holder .terse .tls11).selected = some (.held 0 .terse) := rfl
  have version : (viewer .terse .tls11).version = (holder .terse .tls11).version := rfl
  have shown : (viewer .terse .tls11).peerChain = [X509.terse] := rfl
  have verifies : ∀ signature certificate,
      (holder .terse .tls11).Produces .withStandIn .terse .dsaSha1
        (Credential.terse.part .tls11 twoHalves) signature →
      X509.parse X509.terse = .ok certificate →
      Provider.withStandIn.Verifies .dsaSha1 certificate.publicKey
        (Credential.terse.part .tls11 twoHalves) signature := by
    rintro signature certificate ⟨scheme, known, signed⟩ -
    obtain rfl := Except.ok.inj known
    exact ⟨_, rfl, standIn_verifies_what_it_signs signed⟩
  obtain ⟨accepts, ⟨certificate, parsed, -, ends⟩, -⟩ :=
    checkPossession_of_provePossession chosen version shown verifies
  obtain rfl := Except.ok.inj (parsed.symm.trans Credential.terse.parse_leaf)
  exact ⟨proved, accepts _ _ proved, ends .withStandIn⟩

end Session
end HandshakeAuth
