import HandshakeAuth.Proofs.Handshake.ClientProof
import HandshakeAuth.Proofs.Handshake.Judging

/-! What a server makes of the answer to its request for a certificate. Which answers pass for
having no certificate depends on the policy and, for an alert, on the version. -/

namespace HandshakeAuth.Server

variable {σ : Type} {session : Session} {reply : Except AuthError (Option Octets)}
  {outcome : Except AuthError (Option (List Octets))}

inductive Bare : Option Octets → Prop
  | silence : Bare none
  | noBody : Bare (some [])
  | noList {body : Octets} (listed : CertificateList.decode body = .ok []) : Bare (some body)

/-- The alert by which an SSL 3.0 client says that it has no certificate. -/
def Declines (session : Session) (refusal : AuthError) : Prop :=
  session.version = .ssl3 ∧ refusal = .alertReceived .warning .noCertificate

/-- What an answer of the record layer comes to under a policy that asks: the client is let through
without a certificate, its chain is taken up, or the exchange ends. -/
inductive Receipt (session : Session) :
    Except AuthError (Option Octets) → Except AuthError (Option (List Octets)) → Prop
  | excused {message : Option Octets} (optional : session.config.policy = .request)
      (bare : Bare message) : Receipt session (.ok message) (.ok none)
  | declined {refusal : AuthError} (optional : session.config.policy = .request)
      (declines : Declines session refusal) : Receipt session (.error refusal) (.ok none)
  | passedOn {refusal : AuthError} (optional : session.config.policy = .request)
      (other : ¬ Declines session refusal) : Receipt session (.error refusal) (.error refusal)
  | missing {message : Option Octets} (mandatory : session.config.policy = .require)
      (bare : Bare message) : Receipt session (.ok message) (.error .noCertificateFound)
  | alerted (level : AlertLevel) (description : AlertDescription)
      (mandatory : session.config.policy = .require) :
      Receipt session (.error (.alertReceived level description)) (.error .noCertificateFound)
  | failed {refusal : AuthError} (mandatory : session.config.policy = .require)
      (other : ∀ level description, refusal ≠ .alertReceived level description) :
      Receipt session (.error refusal) (.error refusal)
  | recorded {body : Octets} {chain : List Octets} (asks : session.config.policy ≠ .ignore)
      (listed : CertificateList.decode body = .ok chain)
      (accepts : session.acceptPeerCertificate body = .ok { session with peerChain := chain }) :
      Receipt session (.ok (some body)) (.ok (some chain))
  | rejected {body : Octets} {refusal : AuthError} (asks : session.config.policy ≠ .ignore)
      (filled : ¬ Bare (some body))
      (rejects : session.acceptPeerCertificate body = .error refusal) :
      Receipt session (.ok (some body)) (.error refusal)

def takeUp (session : Session) : Option (List Octets) → Session
  | none => session
  | some chain => taken session chain

theorem bare_some_iff {body : Octets} :
    Bare (some body) ↔ session.acceptPeerCertificate body = .error .noCertificateFound := by
  rw [Session.acceptPeerCertificate_eq_noCertificateFound_iff]
  constructor
  · rintro (_ | _ | listed)
    · exact .inl rfl
    · exact .inr listed
  · rintro (rfl | listed)
    · exact .noBody
    · exact .noList listed

theorem judgeRefusal_of_declines {refusal : AuthError}
    (optional : session.config.policy = .request) (declines : Declines session refusal) :
    judgeRefusal session refusal = .ok () := by
  obtain ⟨version, rfl⟩ := declines
  simp [judgeRefusal, optional, version]

theorem judgeRefusal_of_not_declines {refusal : AuthError}
    (optional : session.config.policy = .request) (other : ¬ Declines session refusal) :
    judgeRefusal session refusal = .error refusal := by
  unfold judgeRefusal
  split
  · rename_i level description
    rw [if_neg (by simp [optional]), if_neg]
    rintro ⟨version, rfl, rfl⟩
    exact other ⟨version, rfl⟩
  · rfl

theorem judgeRefusal_of_alert (level : AlertLevel) (description : AlertDescription)
    (mandatory : session.config.policy = .require) :
    judgeRefusal session (.alertReceived level description) = .error .noCertificateFound := by
  simp [judgeRefusal, mandatory]

theorem judgeRefusal_of_not_alert {refusal : AuthError}
    (other : ∀ level description, refusal ≠ .alertReceived level description) :
    judgeRefusal session refusal = .error refusal := by
  unfold judgeRefusal
  split
  · exact (other _ _ rfl).elim
  · rfl

theorem judgeCertificate_of_bare {message : Option Octets} (bare : Bare message) :
    judgeCertificate session (.ok message) = (fun _ => session) <$> judgeAbsence session := by
  rcases message with _ | body
  · rfl
  · rw [judgeCertificate, bare_some_iff.1 bare]

theorem judgeCertificate_of_rejected {body : Octets} {refusal : AuthError}
    (filled : ¬ Bare (some body)) (rejects : session.acceptPeerCertificate body = .error refusal) :
    judgeCertificate session (.ok (some body)) = .error refusal := by
  rw [judgeCertificate, rejects]
  split
  · contradiction
  · rename_i absent
    obtain rfl := Except.error.inj absent
    exact (filled (bare_some_iff.2 rejects)).elim
  · rename_i same
    exact same.symm

theorem Receipt.judged (h : Receipt session reply outcome) :
    judgeCertificate session reply = takeUp session <$> outcome := by
  cases h with
  | excused optional bare =>
    rw [judgeCertificate_of_bare bare, judgeAbsence_of_request optional]
    rfl
  | declined optional declines =>
    rw [judgeCertificate, judgeRefusal_of_declines optional declines]
    rfl
  | passedOn optional other =>
    rw [judgeCertificate, judgeRefusal_of_not_declines optional other]
    rfl
  | missing mandatory bare =>
    rw [judgeCertificate_of_bare bare, judgeAbsence_of_require mandatory]
    rfl
  | alerted level description mandatory =>
    rw [judgeCertificate, judgeRefusal_of_alert level description mandatory]
    rfl
  | failed mandatory other =>
    rw [judgeCertificate, judgeRefusal_of_not_alert other]
    rfl
  | recorded asks listed accepts =>
    rw [judgeCertificate, accepts]
    rfl
  | rejected asks filled rejects => exact judgeCertificate_of_rejected filled rejects

theorem exists_receipt_of_error (asks : session.config.policy ≠ .ignore) (refusal : AuthError) :
    ∃ outcome, Receipt session (.error refusal) outcome := by
  rcases policy : session.config.policy with _ | _ | _
  · contradiction
  · by_cases declines : Declines session refusal
    · exact ⟨_, .declined policy declines⟩
    · exact ⟨_, .passedOn policy declines⟩
  · by_cases alert : ∃ level description, refusal = .alertReceived level description
    · obtain ⟨level, description, rfl⟩ := alert
      exact ⟨_, .alerted level description policy⟩
    · exact ⟨_, .failed policy fun level description same => alert ⟨level, description, same⟩⟩

theorem exists_receipt_of_bare (asks : session.config.policy ≠ .ignore) {message : Option Octets}
    (bare : Bare message) : ∃ outcome, Receipt session (.ok message) outcome := by
  rcases policy : session.config.policy with _ | _ | _
  · contradiction
  · exact ⟨_, .excused policy bare⟩
  · exact ⟨_, .missing policy bare⟩

theorem exists_receipt (asks : session.config.policy ≠ .ignore)
    (reply : Except AuthError (Option Octets)) : ∃ outcome, Receipt session reply outcome := by
  rcases reply with refusal | message
  · exact exists_receipt_of_error asks refusal
  by_cases bare : Bare message
  · exact exists_receipt_of_bare asks bare
  rcases message with _ | body
  · exact (bare .silence).elim
  rcases accepts : session.acceptPeerCertificate body with refusal | accepted
  · exact ⟨_, .rejected asks bare accepts⟩
  · obtain ⟨leaf, issuers, -, listed, -, -, -, rfl⟩ :=
      Session.acceptPeerCertificate_eq_ok_iff.1 accepts
    exact ⟨_, .recorded asks listed accepts⟩

variable {layer : RecordLayer σ} {e : Endpoint σ}

theorem Receipt.run_of_ok {chain : Option (List Octets)} (asks : AsksClient e.session)
    (h : Receipt e.session (certificateReply layer e).1 (.ok chain)) :
    (receiveCertificate layer).run e = (.ok (),
      { e with
        session := takeUp e.session chain
        records := (certificateReply layer e).2 }) := by
  rw [run_receiveCertificate layer e asks, h.judged]
  rfl

theorem Receipt.run_of_error {refusal : AuthError} (asks : AsksClient e.session)
    (h : Receipt e.session (certificateReply layer e).1 (.error refusal)) :
    (receiveCertificate layer).run e =
      (.error refusal, { e with records := (certificateReply layer e).2 }) := by
  rw [run_receiveCertificate layer e asks, h.judged]
  rfl

/-- The receive of a client's certificate follows the policy. A server that does not ask leaves the
record layer alone. One that asks calls it once, and the rules of `Receipt` settle what becomes of
the answer; only a chain that was taken up changes the session. -/
theorem receives_by_policy {e : Endpoint σ} (uses : e.session.keyExchange.usesCertificates) :
    (e.session.config.policy = .ignore →
      ∀ layer : RecordLayer σ, (receiveCertificate layer).run e = (.ok (), e)) ∧
    (e.session.config.policy ≠ .ignore →
      ∀ (layer : RecordLayer σ) (answer : Except AuthError Unit) (after : Endpoint σ),
        (receiveCertificate layer).run e = (answer, after) ↔
          (∃ chain, Receipt e.session (certificateReply layer e).1 (.ok (some chain)) ∧
            answer = .ok () ∧
            after = { e with
              session := { e.session with peerChain := chain, certificateRequested := true }
              records := (certificateReply layer e).2 }) ∨
          after = { e with records := (certificateReply layer e).2 } ∧
            (Receipt e.session (certificateReply layer e).1 (.ok none) ∧ answer = .ok () ∨
              ∃ refusal, Receipt e.session (certificateReply layer e).1 (.error refusal) ∧
                answer = .error refusal)) := by
  constructor
  · intro ignores layer
    exact run_receiveCertificate_of_not layer e fun asks => asks.1 ignores
  · intro policy layer answer after
    have asks : AsksClient e.session := ⟨policy, uses⟩
    constructor
    · intro run
      obtain ⟨outcome, receipt⟩ := exists_receipt policy (certificateReply layer e).1
      rcases outcome with refusal | _ | chain
      · obtain ⟨rfl, rfl⟩ := Prod.mk.inj ((receipt.run_of_error asks).symm.trans run)
        exact .inr ⟨rfl, .inr ⟨refusal, receipt, rfl⟩⟩
      · obtain ⟨rfl, rfl⟩ := Prod.mk.inj ((receipt.run_of_ok asks).symm.trans run)
        exact .inr ⟨rfl, .inl ⟨receipt, rfl⟩⟩
      · obtain ⟨rfl, rfl⟩ := Prod.mk.inj ((receipt.run_of_ok asks).symm.trans run)
        exact .inl ⟨chain, receipt, rfl, rfl⟩
    · rintro (⟨chain, receipt, rfl, rfl⟩ | ⟨rfl, ⟨receipt, rfl⟩ | ⟨refusal, receipt, rfl⟩⟩)
      · exact receipt.run_of_ok asks
      · exact receipt.run_of_ok asks
      · exact receipt.run_of_error asks

def answered (policy : RequestPolicy) (version : Version) (letter : Letter) : Endpoint Mailbox :=
  let store : Store :=
    { entries := [], trustedIssuers := [], issuerList := [], selector := .heuristic }
  Session.desk (.start { policy } version .server store) [letter]

theorem receives_by_policy_declined :
    (∃ after, (receiveCertificate Mailbox.layer).run
        (answered .request .ssl3 (.alert .warning .noCertificate)) = (.ok (), after) ∧
      after.session = (answered .request .ssl3 (.alert .warning .noCertificate)).session) ∧
    (∃ after, (receiveCertificate Mailbox.layer).run
        (answered .request .tls10 (.alert .warning .noCertificate)) =
      (.error (.alertReceived .warning .noCertificate), after)) ∧
    (∃ after, (receiveCertificate Mailbox.layer).run
        (answered .require .ssl3 (.alert .warning .noCertificate)) =
      (.error .noCertificateFound, after)) ∧
    ∃ after, (receiveCertificate Mailbox.layer).run
        (answered .request .tls12
          (.handshake .certificate (Wire.framed 3 ([X509.terse].flatMap (Wire.framed 3))))) =
      (.ok (), after) ∧ after.session.peerChain = [X509.terse] := by
  have listed : CertificateList.decode (Wire.framed 3 ([X509.terse].flatMap (Wire.framed 3))) =
      .ok [X509.terse] := CertificateList.decode_encode rfl
  have follows (policy : RequestPolicy) (version : Version) (letter : Letter) :=
    (receives_by_policy (e := answered policy version letter) rfl).2
  have declined := (follows .request .ssl3 (.alert .warning .noCertificate) (by decide)
    Mailbox.layer _ _).2 (.inr ⟨rfl, .inl ⟨.declined rfl ⟨rfl, rfl⟩, rfl⟩⟩)
  have passedOn := (follows .request .tls10 (.alert .warning .noCertificate) (by decide)
    Mailbox.layer _ _).2
      (.inr ⟨rfl, .inr ⟨_, .passedOn rfl (fun declines => nomatch declines.1), rfl⟩⟩)
  have alerted := (follows .require .ssl3 (.alert .warning .noCertificate) (by decide)
    Mailbox.layer _ _).2 (.inr ⟨rfl, .inr ⟨_, .alerted _ _ rfl, rfl⟩⟩)
  have recorded := (follows .request .tls12 (.handshake .certificate _) (by decide)
    Mailbox.layer _ _).2
      (.inl ⟨[X509.terse], .recorded (by decide) listed (accept_terse rfl), rfl, rfl⟩)
  exact ⟨⟨_, declined, rfl⟩, ⟨_, passedOn⟩, ⟨_, alerted⟩, _, recorded, rfl⟩

end HandshakeAuth.Server
