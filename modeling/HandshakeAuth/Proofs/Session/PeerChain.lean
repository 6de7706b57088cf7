import HandshakeAuth.Proofs.Answer
import HandshakeAuth.Proofs.Message.CertificateList
import HandshakeAuth.Session.Basic

/-! What the body of a peer's Certificate message comes to: a chain to record, or the first thing
that is wrong with it, in the order of nothing sent, no list, an unreadable certificate, and a leaf
that may not be used. -/

namespace HandshakeAuth.Session
open Answer

variable {session accepted : Session} {body : Octets}

def Readable (chain : List Octets) : Prop :=
  ∀ der ∈ chain, ∃ certificate, X509.parse der = .ok certificate

theorem readable_iff_mapM {chain : List Octets} :
    Readable chain ↔ ∃ parsed, chain.mapM X509.parse = .ok parsed := by
  simp only [mapM_eq_ok_iff, Readable]
  induction chain with
  | nil => simp
  | cons der chain ih => simp [List.forall₂_cons_left_iff, ih]

theorem Readable.filled {chain : List Octets} (h : Readable chain) : ∀ der ∈ chain, der ≠ [] := by
  rintro der mem rfl
  obtain ⟨certificate, parsed⟩ := h [] mem
  exact nomatch parsed

theorem isParseError_of_usage {extensions : List X509.Extension} {e : AuthError}
    (h : X509.usage extensions = .error e) : e.isParseError := by
  unfold X509.usage at h
  split at h
  · exact nomatch h
  · split at h
    · exact nomatch h
    · exact Except.error.inj h ▸ rfl
  · exact Except.error.inj h ▸ rfl

theorem isParseError_of_parse {der : Octets} {e : AuthError} (h : X509.parse der = .error e) :
    e.isParseError := by
  unfold X509.parse at h
  split at h
  · exact Except.error.inj h ▸ rfl
  · split at h
    · rcases bind_eq_error_iff.1 h with usage | ⟨_, -, done⟩
      · exact isParseError_of_usage usage
      · exact nomatch done
    · exact Except.error.inj h ▸ rfl

/-- The uses of its peer's key that an end depends on: of a server's key, what the key exchange
makes of it; of a client's, that it signs. -/
inductive Demands (session : Session) : KeyUsage → Prop
  | ofServer {usage : KeyUsage} (client : session.role = .client)
      (exchange : session.keyExchange.serverUsage = some usage) : Demands session usage
  | ofClient (server : session.role = .server) : Demands session .digitalSignature

theorem requiredUsage_eq_some_iff {usage : KeyUsage} :
    session.requiredUsage = some usage ↔ session.Demands usage := by
  unfold requiredUsage
  rcases role : session.role with _ | _
  · constructor
    · exact .ofServer role
    · rintro (⟨-, exchange⟩ | server)
      · exact exchange
      · exact nomatch role.symm.trans server
  · constructor
    · intro same
      exact Option.some.inj same ▸ .ofClient role
    · rintro (⟨client, -⟩ | -)
      · exact nomatch role.symm.trans client
      · rfl

theorem allowsRequired_iff {leaf : X509.Certificate} :
    allowsRequired leaf session.requiredUsage ↔
      ∀ usage, session.Demands usage → leaf.allows usage := by
  simp only [← requiredUsage_eq_some_iff]
  rcases session.requiredUsage with _ | usage <;> simp [allowsRequired]

/-- What a body comes to in a session. The rules exclude each other: what is wrong with an earlier
part of the body hides what is wrong with a later one. -/
inductive Examined (session : Session) (body : Octets) : Except AuthError (List Octets) → Prop
  | nothing (empty : body = []) : Examined session body (.error .noCertificateFound)
  | emptyList (listed : CertificateList.decode body = .ok []) :
      Examined session body (.error .noCertificateFound)
  | unlisted {refusal : AuthError} (some : body ≠ [])
      (refused : CertificateList.decode body = .error refusal) :
      Examined session body (.error refusal)
  | unreadable {earlier later : List Octets} {der : Octets} {refusal : AuthError}
      (listed : CertificateList.decode body = .ok (earlier ++ der :: later))
      (readable : Readable earlier) (refused : X509.parse der = .error refusal) :
      Examined session body (.error refusal)
  | forbidden {leaf : Octets} {issuers : List Octets} {certificate : X509.Certificate}
      {usage : KeyUsage} (listed : CertificateList.decode body = .ok (leaf :: issuers))
      (read : X509.parse leaf = .ok certificate) (readable : Readable issuers)
      (demanded : session.Demands usage) (forbids : ¬ certificate.allows usage) :
      Examined session body (.error .keyUsageViolation)
  | recorded {leaf : Octets} {issuers : List Octets} {certificate : X509.Certificate}
      (listed : CertificateList.decode body = .ok (leaf :: issuers))
      (read : X509.parse leaf = .ok certificate) (readable : Readable issuers)
      (allowed : ∀ usage, session.Demands usage → certificate.allows usage) :
      Examined session body (.ok (leaf :: issuers))

theorem acceptPeerCertificate_of_some (some : body ≠ []) :
    session.acceptPeerCertificate body =
      CertificateList.decode body >>= fun chain => chain.mapM X509.parse >>= fun
        | [] => .error .noCertificateFound
        | leaf :: _ =>
          if allowsRequired leaf session.requiredUsage then
            .ok { session with peerChain := chain }
          else .error .keyUsageViolation := by
  have filled : ¬ body.isEmpty := fun empty => some (List.isEmpty_iff.1 empty)
  rw [acceptPeerCertificate, if_neg filled]
  rfl

theorem some_of_listed {chain : List Octets} (listed : CertificateList.decode body = .ok chain) :
    body ≠ [] := by
  rintro rfl
  exact nomatch listed

theorem acceptPeerCertificate_of_readable {leaf : Octets} {issuers : List Octets}
    {certificate : X509.Certificate}
    (decoded : CertificateList.decode body = .ok (leaf :: issuers))
    (read : X509.parse leaf = .ok certificate) (readable : Readable issuers) :
    session.acceptPeerCertificate body =
      if allowsRequired certificate session.requiredUsage then
        .ok { session with peerChain := leaf :: issuers }
      else .error .keyUsageViolation := by
  obtain ⟨others, rest⟩ := readable_iff_mapM.1 readable
  have parsed : (leaf :: issuers).mapM X509.parse = .ok (certificate :: others) :=
    mapM_eq_ok_iff.2 (.cons read (mapM_eq_ok_iff.1 rest))
  rw [acceptPeerCertificate_of_some (some_of_listed decoded), decoded, ok_bind, parsed, ok_bind]

theorem acceptPeerCertificate_of_examined {answer : Except AuthError (List Octets)}
    (h : session.Examined body answer) :
    session.acceptPeerCertificate body = ({ session with peerChain := · }) <$> answer := by
  cases h with
  | nothing empty =>
    subst empty
    rfl
  | emptyList listed =>
    rw [acceptPeerCertificate_of_some (some_of_listed listed), listed]
    rfl
  | unlisted some refused =>
    rw [acceptPeerCertificate_of_some some, refused]
    rfl
  | @unreadable earlier later der refusal listed readable refused =>
    have failed : (earlier ++ der :: later).mapM X509.parse = .error refusal :=
      mapM_eq_error_iff.2 ⟨_, _, _, rfl, readable_iff_mapM.1 readable, refused⟩
    rw [acceptPeerCertificate_of_some (some_of_listed listed), listed, ok_bind, failed]
    rfl
  | forbidden listed read readable demanded forbids =>
    have refused : ¬ allowsRequired _ session.requiredUsage :=
      fun allowed => forbids (allowsRequired_iff.1 allowed _ demanded)
    rw [acceptPeerCertificate_of_readable listed read readable, if_neg refused]
    rfl
  | recorded listed read readable allowed =>
    rw [acceptPeerCertificate_of_readable listed read readable,
      if_pos (allowsRequired_iff.2 allowed)]
    rfl

theorem exists_examined (session : Session) (body : Octets) :
    ∃ answer, session.Examined body answer := by
  by_cases empty : body = []
  · exact ⟨_, .nothing empty⟩
  rcases listed : CertificateList.decode body with refusal | _ | ⟨leaf, issuers⟩
  · exact ⟨_, .unlisted empty listed⟩
  · exact ⟨_, .emptyList listed⟩
  rcases parsed : (leaf :: issuers).mapM X509.parse with refusal | certificates
  · obtain ⟨earlier, der, later, split, readable, refused⟩ := mapM_eq_error_iff.1 parsed
    exact ⟨_, .unreadable (listed.trans (congrArg _ split)) (readable_iff_mapM.2 readable) refused⟩
  · rcases mapM_eq_ok_iff.1 parsed with _ | ⟨read, rest⟩
    rename_i certificate others
    have readable : Readable issuers := readable_iff_mapM.2 ⟨others, mapM_eq_ok_iff.2 rest⟩
    by_cases allowed : ∀ usage, session.Demands usage → certificate.allows usage
    · exact ⟨_, .recorded listed read readable allowed⟩
    · obtain ⟨usage, forbids⟩ := not_forall.1 allowed
      obtain ⟨demanded, forbids⟩ := Classical.not_imp.1 forbids
      exact ⟨_, .forbidden listed read readable demanded forbids⟩

theorem acceptPeerCertificate_eq_ok_iff :
    session.acceptPeerCertificate body = .ok accepted ↔
      ∃ leaf issuers certificate, CertificateList.decode body = .ok (leaf :: issuers) ∧
        X509.parse leaf = .ok certificate ∧ Readable issuers ∧
        allowsRequired certificate session.requiredUsage ∧
        accepted = { session with peerChain := leaf :: issuers } := by
  constructor
  · intro accepts
    obtain ⟨answer, examined⟩ := exists_examined session body
    have same := (acceptPeerCertificate_of_examined examined).symm.trans accepts
    cases examined with
    | recorded listed read readable allowed =>
      exact ⟨_, _, _, listed, read, readable, allowsRequired_iff.2 allowed,
        (Except.ok.inj same).symm⟩
    | _ => exact nomatch same
  · rintro ⟨leaf, issuers, certificate, decoded, read, readable, allowed, rfl⟩
    rw [acceptPeerCertificate_of_readable decoded read readable, if_pos allowed]

theorem acceptPeerCertificate_eq_noCertificateFound_iff :
    session.acceptPeerCertificate body = .error .noCertificateFound ↔
      body = [] ∨ CertificateList.decode body = .ok [] := by
  constructor
  · intro absent
    obtain ⟨answer, examined⟩ := exists_examined session body
    have same := (acceptPeerCertificate_of_examined examined).symm.trans absent
    have parse {e : AuthError} (h : e.isParseError)
        (same : ({ session with peerChain := · }) <$> (.error e : Except AuthError (List Octets)) =
          .error .noCertificateFound) : False :=
      absurd h (Except.error.inj same ▸ Bool.false_ne_true)
    cases examined with
    | nothing empty => exact .inl empty
    | emptyList listed => exact .inr listed
    | unlisted some refused =>
      exact (parse (CertificateList.isParseError_of_decode refused) same).elim
    | unreadable listed readable refused => exact (parse (isParseError_of_parse refused) same).elim
    | forbidden => exact nomatch same
    | recorded => exact nomatch same
  · rintro (empty | listed)
    · exact acceptPeerCertificate_of_examined (.nothing empty)
    · exact acceptPeerCertificate_of_examined (.emptyList listed)

theorem acceptPeerCertificate_ne_noCertificateFound {leaf : Octets} {issuers : List Octets}
    (decoded : CertificateList.decode body = .ok (leaf :: issuers)) :
    session.acceptPeerCertificate body ≠ .error .noCertificateFound := by
  rw [Ne, acceptPeerCertificate_eq_noCertificateFound_iff, not_or]
  refine ⟨some_of_listed decoded, fun empty => ?_⟩
  exact nomatch decoded.symm.trans empty

end HandshakeAuth.Session
