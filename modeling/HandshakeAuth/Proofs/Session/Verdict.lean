import HandshakeAuth.Proofs.Rsa.Verification
import HandshakeAuth.Proofs.Session.Transcript

/-! What the body of a CertificateVerify message can bring about at the end that checks it, where
the peer has shown an RSA key: the length of the body decides whether there is a signature to check,
and no signature is the fault of anyone but the peer. -/

namespace HandshakeAuth
namespace Session
open Answer CertificateVerify

variable {session : Session} {leaf : Octets} {issuers : List Octets}
  {certificate : X509.Certificate} {key : Rsa.PublicKey} {body digest : Octets}

/-- What a body comes to where the leaf holds `key` and `info` is what a signature must open to. The
rules exclude each other: the length of the body decides first. -/
inductive Judged (key : Rsa.PublicKey) (info body : Octets) : Except AuthError Unit → Prop
  | cut (short : body.length < 2 ∨ body.length < 2 + declared body) :
      Judged key info body (.error .truncatedMessage)
  | exceeding (field : 2 ≤ body.length) (long : 2 + declared body < body.length) :
      Judged key info body
        (.error (.trailing (body.length - (2 + declared body)) "CertificateVerify"))
  | proved (whole : body.length = 2 + declared body) (opens : key.Opens (body.drop 2) info) :
      Judged key info body (.ok ())
  | refused (whole : body.length = 2 + declared body) (closed : ¬ key.Opens (body.drop 2) info) :
      Judged key info body (.error .signatureInvalid)

theorem exists_judged (key : Rsa.PublicKey) (info body : Octets) :
    ∃ answer, Judged key info body answer := by
  rcases Nat.lt_trichotomy body.length (2 + declared body) with short | whole | long
  · exact ⟨_, .cut (.inr short)⟩
  · by_cases opens : key.Opens (body.drop 2) info
    · exact ⟨_, .proved whole opens⟩
    · exact ⟨_, .refused whole opens⟩
  · exact ⟨_, .exceeding (by omega) long⟩

section
variable (shown : session.peerChain = leaf :: issuers) (parsed : X509.parse leaf = .ok certificate)
  (rsa : certificate.algorithm = some .rsa)
  (readable : Rsa.PublicKey.ofDer? certificate.publicKey = some key)
  (length : digest.length = (SignatureAlgorithm.ofKey session.version .rsa).digestLength)
include shown parsed rsa

theorem checkPossession_of_rsa :
    session.checkPossession .standard body digest =
      (decode body >>= fun signature =>
        verdict (Rsa.verify (.ofKey session.version .rsa) certificate.publicKey digest
          signature)) := by
  rw [checks_part shown parsed rsa body]
  cases session.version <;> rfl

include readable length

theorem checkPossession_of_judged {answer : Except AuthError Unit}
    (h : Judged key (Rsa.digestInfo (.ofKey session.version .rsa) digest) body answer) :
    session.checkPossession .standard body digest = answer := by
  rw [checkPossession_of_rsa shown parsed rsa]
  cases h with
  | cut short =>
    have below : body.length < 2 + declared body := by omega
    rw [decode_of_short below]
    rfl
  | exceeding _ long =>
    rw [decode_of_long long]
    rfl
  | proved whole opens =>
    have verified := Rsa.verify_eq_ok_iff.2 ⟨length, key, readable, opens⟩
    rw [decode_of_whole whole, ok_bind, verified]
    rfl
  | refused whole closed =>
    have refused := (not_congr Rsa.PublicKey.verifies_iff_opens).2 closed
    rw [decode_of_whole whole, ok_bind, Rsa.verify_of_readable length readable, if_neg refused]
    rfl

theorem checkPossession_eq_iff_judged {answer : Except AuthError Unit} :
    session.checkPossession .standard body digest = answer ↔
      Judged key (Rsa.digestInfo (.ofKey session.version .rsa) digest) body answer := by
  constructor
  · intro same
    obtain ⟨answer', judged⟩ :=
      exists_judged key (Rsa.digestInfo (.ofKey session.version .rsa) digest) body
    have same' := checkPossession_of_judged shown parsed rsa readable length judged
    rwa [← same, same']
  · exact checkPossession_of_judged shown parsed rsa readable length

/-- Whatever the body holds, there are four answers to it. Its length tells whether it is cut short
or goes on for too long; if neither, then the octets behind the length are a signature, and either
open to the digest under the key of the leaf or do not. -/
theorem verdicts_of_body (body : Octets) :
    (session.checkPossession .standard body digest = .error .truncatedMessage ↔
      body.length < 2 ∨ body.length < 2 + declared body) ∧
    ((∃ reason, session.checkPossession .standard body digest = .error (.invalidMessage reason)) ↔
      2 ≤ body.length ∧ 2 + declared body < body.length) ∧
    (session.checkPossession .standard body digest = .ok () ↔
      body.length = 2 + declared body ∧
        key.Opens (body.drop 2) (Rsa.digestInfo (.ofKey session.version .rsa) digest)) ∧
    (session.checkPossession .standard body digest = .error .signatureInvalid ↔
      body.length = 2 + declared body ∧
        ¬ key.Opens (body.drop 2) (Rsa.digestInfo (.ofKey session.version .rsa) digest)) ∧
    ∀ e, session.checkPossession .standard body digest = .error e →
      e = .truncatedMessage ∨ (∃ reason, e = .invalidMessage reason) ∨ e = .signatureInvalid := by
  simp only [checkPossession_eq_iff_judged shown parsed rsa readable length]
  refine ⟨⟨?_, .cut⟩, ⟨?_, ?_⟩, ⟨?_, ?_⟩, ⟨?_, ?_⟩, ?_⟩
  · intro judged
    cases judged with
    | cut short => exact short
  · rintro ⟨reason, judged⟩
    cases judged with
    | exceeding field long => exact ⟨field, long⟩
  · rintro ⟨field, long⟩
    exact ⟨_, .exceeding field long⟩
  · intro judged
    cases judged with
    | proved whole opens => exact ⟨whole, opens⟩
  · rintro ⟨whole, opens⟩
    exact .proved whole opens
  · intro judged
    cases judged with
    | refused whole closed => exact ⟨whole, closed⟩
  · rintro ⟨whole, closed⟩
    exact .refused whole closed
  · intro e judged
    cases judged with
    | cut => exact .inl rfl
    | exceeding => exact .inr (.inl ⟨_, rfl⟩)
    | refused => exact .inr (.inr rfl)

end
end Session

def Rsa.smallBareDer : Octets :=
  [0x30, 0x37] ++ integer 50 PrivateKey.small.modulus ++ integer 1 PrivateKey.small.exponent

def X509.terseRsa : Octets :=
  [0x30, 0x7c, 0x30, 0x72] ++ (X509.terse.drop 4).take 39 ++
    [0x30, 0x49, 0x30, 0x0b, 0x06, 0x09] ++ Rsa.encryptionIdentifier ++ [0x03, 0x3a, 0x00] ++
    Rsa.smallBareDer ++ X509.terse.drop 62

def Credential.terseRsa : Credential where
  leaf := X509.terseRsa
  issuers := []
  key := ⟨Rsa.smallPrivateDer⟩
  certificate :=
    { Credential.terse.certificate with algorithm := some .rsa, publicKey := Rsa.smallBareDer }
  algorithm := .rsa
  parse_leaf := by decide +kernel
  algorithm_leaf := rfl

def Rsa.smallSignature : Octets :=
  Octets.ofNat 50 (PrivateKey.small.root (Octets.toNat
    ([0, 1] ++ List.replicate 11 0xff ++ [0] ++ List.replicate 36 0x5a)))

theorem Rsa.opens_smallSignature :
    PrivateKey.small.toPublicKey.Opens smallSignature (List.replicate 36 0x5a) := by
  rw [← PublicKey.verifies_iff_opens]
  decide +kernel

theorem Session.verdicts_of_body_small :
    let answer (body : Octets) :=
      (viewer .terseRsa .tls11).checkPossession .standard body (List.replicate 36 0x5a)
    answer [0] = .error .truncatedMessage ∧
      (∃ reason, answer [0, 0, 0] = .error (.invalidMessage reason)) ∧
      answer ([0, 50] ++ Rsa.smallSignature) = .ok () ∧
      answer ([0, 50] ++ List.replicate 50 0xff) = .error .signatureInvalid := by
  have shown : (viewer .terseRsa .tls11).peerChain = [X509.terseRsa] := rfl
  have readable : Rsa.PublicKey.ofDer? Rsa.smallBareDer =
      some Rsa.PrivateKey.small.toPublicKey := by decide +kernel
  have long_number : ¬ Rsa.PrivateKey.small.toPublicKey.Opens (List.replicate 50 0xff)
      (List.replicate 36 0x5a) := by
    rw [← Rsa.PublicKey.verifies_iff_opens]
    decide +kernel
  have length : (List.replicate 36 (0x5a : UInt8)).length =
      (SignatureAlgorithm.ofKey .tls11 .rsa).digestLength := List.length_replicate
  have verdicts := verdicts_of_body shown Credential.terseRsa.parse_leaf rfl readable length
  refine ⟨?_, ?_, ?_, ?_⟩
  · exact (verdicts _).1.2 (by decide)
  · exact (verdicts _).2.1.2 (by decide)
  · exact (verdicts _).2.2.1.2 ⟨by decide, Rsa.opens_smallSignature⟩
  · exact (verdicts _).2.2.2.1.2 ⟨by decide, long_number⟩

end HandshakeAuth
