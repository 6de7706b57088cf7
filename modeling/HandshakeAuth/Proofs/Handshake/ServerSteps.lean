import HandshakeAuth.Handshake.Server
import HandshakeAuth.Proofs.Session.PeerChain

/-! The steps of a server as equations: what a step makes of the session, as a function of the
session before it and of what the record layer answers. -/

namespace HandshakeAuth

variable {σ : Type} (layer : RecordLayer σ) (e : Endpoint σ)

def Step.emit (type : MessageType) :
    Except AuthError Octets → Except AuthError Unit × Endpoint σ
  | .ok body =>
    ((layer.send type body e.records).1,
      { e with records := (layer.send type body e.records).2 })
  | .error refusal => (.error refusal, e)

theorem Step.emit_session (type : MessageType) (body : Except AuthError Octets) :
    (Step.emit layer e type body).2.session = e.session := by
  rcases body with _ | _ <;> rfl

theorem Step.run_ofExcept_send (type : MessageType) (body : Except AuthError Octets) :
    Step.run (do Step.onRecords (layer.send type (← Step.ofExcept body))) e =
      Step.emit layer e type body := by
  rw [Step.run_bind, Step.run_ofExcept]
  rcases body with _ | _ <;> rfl

namespace Server

def AsksClient (session : Session) : Prop :=
  session.config.policy ≠ .ignore ∧ session.keyExchange.usesCertificates

/-- A proof is due: the policy asks for one and a client's chain was recorded. -/
def AwaitsProof (session : Session) : Prop :=
  session.config.policy ≠ .ignore ∧ session.certificateRequested

def judgeCertificate (session : Session) :
    Except AuthError (Option Octets) → Except AuthError Session
  | .error refusal => (fun _ => session) <$> judgeRefusal session refusal
  | .ok none => (fun _ => session) <$> judgeAbsence session
  | .ok (some body) =>
    match session.acceptPeerCertificate body with
    | .ok accepted => .ok { accepted with certificateRequested := true }
    | .error .noCertificateFound => (fun _ => session) <$> judgeAbsence session
    | .error e => .error e

def Excuses (session : Session) : Except AuthError (Option Octets) → Prop
  | .error refusal => judgeRefusal session refusal = .ok ()
  | .ok none => judgeAbsence session = .ok ()
  | .ok (some body) =>
    session.acceptPeerCertificate body = .error .noCertificateFound ∧
      judgeAbsence session = .ok ()

def judgeProof (session : Session) (provider : Provider) (digest : Octets) :
    Except AuthError (Option Octets) → Except AuthError Unit
  | .error e => .error e
  | .ok none => .error .noCertificateFound
  | .ok (some body) => session.checkPossession provider body digest

def certificateBody (session : Session) : Except AuthError Octets := do
  match ← session.selectedCredential with
  | none => .error .insufficientCredentials
  | some choice => CertificateList.encode choice.credential.chain

def requestBody (session : Session) : Except AuthError Octets :=
  CertificateRequest.encodeServer session.version (requestedIssuers session)

theorem run_sendCertificate_of_not (h : ¬ e.session.keyExchange.usesCertificates) :
    (sendCertificate layer).run e = (.ok (), e) :=
  Step.run_idle h

theorem run_sendCertificate (h : e.session.keyExchange.usesCertificates) :
    (sendCertificate layer).run e =
      Step.emit layer e .certificate (certificateBody e.session) := by
  unfold certificateBody
  simp only [sendCertificate, Step.run_bind, Step.run_session, if_pos h, Step.run_ofExcept]
  rcases e.session.selectedCredential with refusal | _ | choice
  · rfl
  · rfl
  · exact Step.run_ofExcept_send layer e .certificate _

theorem run_sendRequest_of_not (h : ¬ AsksClient e.session) :
    (sendRequest layer).run e = (.ok (), e) :=
  Step.run_idle fun due => h due.symm

theorem run_sendRequest (h : AsksClient e.session) :
    (sendRequest layer).run e =
      Step.emit layer e .certificateRequest (requestBody e.session) := by
  unfold sendRequest
  rw [Step.run_bind, Step.run_session]
  refine (congrArg (Step.run · e) (if_pos h.symm)).trans ?_
  exact Step.run_ofExcept_send layer e .certificateRequest _

theorem judgeAbsence_of_request {session : Session}
    (optional : session.config.policy = .request) : judgeAbsence session = .ok () := by
  simp [judgeAbsence, optional]

theorem judgeAbsence_of_require {session : Session}
    (required : session.config.policy = .require) :
    judgeAbsence session = .error .noCertificateFound := by
  simp [judgeAbsence, required]

theorem not_excuses {session : Session} (required : session.config.policy = .require)
    (answer : Except AuthError (Option Octets)) : ¬ Excuses session answer := by
  have absence := judgeAbsence_of_require required
  rcases answer with refusal | _ | body
  · cases refusal <;> simp [Excuses, judgeRefusal, required]
  · simp [Excuses, absence]
  · simp [Excuses, absence]

def certificateReply : Except AuthError (Option Octets) × σ :=
  layer.receive .certificate (e.session.config.policy = .require) e.records

def proofReply : Except AuthError (Option Octets) × σ :=
  layer.receive .certificateVerify false e.records

theorem judgeCertificate_eq_ok_iff {session after : Session}
    {answer : Except AuthError (Option Octets)} :
    judgeCertificate session answer = .ok after ↔
      (after = session ∧ Excuses session answer) ∨
      ∃ body accepted, answer = .ok (some body) ∧
        session.acceptPeerCertificate body = .ok accepted ∧
        after = { accepted with certificateRequested := true } := by
  rcases answer with refusal | _ | body
  · simp [judgeCertificate, Excuses, Answer.map_const_eq_ok_iff]
  · simp [judgeCertificate, Excuses, Answer.map_const_eq_ok_iff]
  · simp only [judgeCertificate, Excuses, Except.ok.injEq, Option.some.injEq, exists_and_left,
      exists_eq_left']
    rcases session.acceptPeerCertificate body with refusal | accepted
    · cases refusal <;> simp [Answer.map_const_eq_ok_iff]
    · simp [eq_comm]

theorem run_receiveCertificate_of_not (h : ¬ AsksClient e.session) :
    (receiveCertificate layer).run e = (.ok (), e) :=
  Step.run_idle h

theorem run_receiveCertificate (h : AsksClient e.session) :
    (receiveCertificate layer).run e =
      match judgeCertificate e.session (certificateReply layer e).1 with
      | .ok session => (.ok (), { e with session, records := (certificateReply layer e).2 })
      | .error refusal => (.error refusal, { e with records := (certificateReply layer e).2 }) := by
  unfold certificateReply
  have due : e.session.config.policy ≠ .ignore ∧ e.session.keyExchange.usesCertificates = true := h
  simp only [receiveCertificate, Step.run_bind, Step.run_session, if_pos due, Step.run_attempt,
    Step.run_onRecords]
  rcases layer.receive .certificate (decide (e.session.config.policy = .require)) e.records with
    ⟨refusal | _ | body, records⟩
  · simp only [judgeCertificate, Step.run_ofExcept]
    rcases judgeRefusal e.session refusal with _ | _ <;> rfl
  · simp only [judgeCertificate, Step.run_ofExcept]
    rcases judgeAbsence e.session with _ | _ <;> rfl
  · simp only [judgeCertificate, Step.run_bind, Step.run_attempt, Step.run_takePeerCertificate]
    rcases e.session.acceptPeerCertificate body with refusal | accepted
    · cases refusal with
      | noCertificateFound => rcases judgeAbsence e.session with _ | _ <;> rfl
      | _ => rfl
    · rfl

theorem run_receiveCertificate_of_accepted {body : Octets} {accepted : Session}
    (h : AsksClient e.session) (received : (certificateReply layer e).1 = .ok (some body))
    (accepts : e.session.acceptPeerCertificate body = .ok accepted) :
    (receiveCertificate layer).run e = (.ok (),
      { e with
        session := { accepted with certificateRequested := true }
        records := (certificateReply layer e).2 }) := by
  have judged := judgeCertificate_eq_ok_iff.2 (.inr ⟨body, accepted, rfl, accepts, rfl⟩)
  rw [run_receiveCertificate layer e h, received, judged]

theorem run_receiveCertificate_of_absent (h : AsksClient e.session)
    (judged : judgeCertificate e.session (certificateReply layer e).1 =
      (fun _ => e.session) <$> judgeAbsence e.session) :
    (receiveCertificate layer).run e =
      (judgeAbsence e.session, { e with records := (certificateReply layer e).2 }) := by
  rw [run_receiveCertificate layer e h, judged]
  rcases judgeAbsence e.session with _ | _ <;> rfl

theorem accepts_of_passed {body leaf : Octets} {issuers : List Octets} (h : AsksClient e.session)
    (received : (certificateReply layer e).1 = .ok (some body))
    (decoded : CertificateList.decode body = .ok (leaf :: issuers))
    (passed : ((receiveCertificate layer).run e).1 = .ok ()) :
    ∃ accepted, e.session.acceptPeerCertificate body = .ok accepted := by
  rw [run_receiveCertificate layer e h, received] at passed
  rcases hj : judgeCertificate e.session (.ok (some body)) with refusal | after
  · rw [hj] at passed
    exact nomatch passed
  · rcases judgeCertificate_eq_ok_iff.1 hj with ⟨-, excused, -⟩ | ⟨_, accepted, same, taken, -⟩
    · exact (Session.acceptPeerCertificate_ne_noCertificateFound decoded excused).elim
    · obtain rfl := Option.some.inj (Except.ok.inj same)
      exact ⟨accepted, taken⟩

theorem run_receiveProof (provider : Provider) (digest : Octets) :
    (receiveProof layer provider digest).run e =
      (judgeProof e.session provider digest (proofReply layer e).1,
        { e with records := (proofReply layer e).2 }) := by
  unfold receiveProof proofReply
  simp only [Step.run_bind, Step.run_session, Step.run_onRecords]
  rcases layer.receive .certificateVerify false e.records with ⟨_ | _ | body, records⟩ <;> rfl

theorem run_receiveVerify_of_not (provider : Provider) (digest : Octets)
    (h : ¬ AwaitsProof e.session) :
    (receiveVerify layer provider digest).run e = (.ok (), e) :=
  Step.run_idle h

theorem run_receiveVerify (provider : Provider) (digest : Octets) (h : AwaitsProof e.session) :
    (receiveVerify layer provider digest).run e =
      match judgeProof e.session provider digest (proofReply layer e).1 with
      | .ok () => (.ok (), { e with records := (proofReply layer e).2 })
      | .error refusal => (.error refusal,
          { e with
            session := { e.session with peerChain := [] }
            records := (proofReply layer e).2 }) := by
  have due : e.session.config.policy ≠ .ignore ∧ e.session.certificateRequested = true := h
  simp only [receiveVerify, Step.run_bind, Step.run_session, if_pos due, Step.run_attempt,
    run_receiveProof]
  rcases judgeProof e.session provider digest (proofReply layer e).1 with _ | _ <;> rfl

theorem receiveCertificate_cases :
    ((receiveCertificate layer).run e).2.session = e.session ∨
      AsksClient e.session ∧ ∃ body accepted,
        (certificateReply layer e).1 = .ok (some body) ∧
        e.session.acceptPeerCertificate body = .ok accepted ∧
        (receiveCertificate layer).run e = (.ok (),
          { e with
            session := { accepted with certificateRequested := true }
            records := (certificateReply layer e).2 }) := by
  by_cases h : AsksClient e.session
  · rcases hj : judgeCertificate e.session (certificateReply layer e).1 with refusal | session
    · rw [run_receiveCertificate layer e h, hj]
      exact .inl rfl
    · rcases judgeCertificate_eq_ok_iff.1 hj with ⟨rfl, -⟩ | ⟨body, accepted, received, taken, -⟩
      · rw [run_receiveCertificate layer e h, hj]
        exact .inl rfl
      · exact .inr ⟨h, body, accepted, received, taken,
          run_receiveCertificate_of_accepted layer e h received taken⟩
  · rw [run_receiveCertificate_of_not layer e h]
    exact .inl rfl

theorem session_receiveVerify (provider : Provider) (digest : Octets) :
    ((receiveVerify layer provider digest).run e).2.session = e.session ∨
      ((receiveVerify layer provider digest).run e).2.session =
        { e.session with peerChain := [] } := by
  by_cases h : AwaitsProof e.session
  · rw [run_receiveVerify layer e provider digest h]
    rcases judgeProof e.session provider digest (proofReply layer e).1 with refusal | _
    · exact .inr rfl
    · exact .inl rfl
  · rw [run_receiveVerify_of_not layer e provider digest h]
    exact .inl rfl

theorem session_sendCertificate :
    ((sendCertificate layer).run e).2.session = e.session := by
  by_cases h : e.session.keyExchange.usesCertificates
  · rw [run_sendCertificate layer e h, Step.emit_session]
  · rw [run_sendCertificate_of_not layer e h]

theorem session_sendRequest : ((sendRequest layer).run e).2.session = e.session := by
  by_cases h : AsksClient e.session
  · rw [run_sendRequest layer e h, Step.emit_session]
  · rw [run_sendRequest_of_not layer e h]

variable {layer e}

theorem judgeProof_eq_ok_iff {session : Session} {provider : Provider} {digest : Octets}
    {answer : Except AuthError (Option Octets)} :
    judgeProof session provider digest answer = .ok () ↔
      ∃ body, answer = .ok (some body) ∧ session.checkPossession provider body digest = .ok () := by
  rcases answer with refusal | _ | body <;> simp [judgeProof]

theorem receiveVerify_of_filled {provider : Provider} {digest : Octets}
    (h : AwaitsProof e.session)
    (filled : ((receiveVerify layer provider digest).run e).2.session.peerChain ≠ []) :
    ∃ body, (proofReply layer e).1 = .ok (some body) ∧
      e.session.checkPossession provider body digest = .ok () ∧
      (receiveVerify layer provider digest).run e =
        (.ok (), { e with records := (proofReply layer e).2 }) := by
  rw [run_receiveVerify layer e provider digest h] at filled ⊢
  rcases hj : judgeProof e.session provider digest (proofReply layer e).1 with refusal | _
  · rw [hj] at filled
    exact (filled rfl).elim
  · obtain ⟨body, received, checked⟩ := judgeProof_eq_ok_iff.1 hj
    exact ⟨body, received, checked, rfl⟩

theorem receiveVerify_eq_ok_iff {provider : Provider} {digest : Octets} {after : Endpoint σ}
    (h : AwaitsProof e.session) :
    (receiveVerify layer provider digest).run e = (.ok (), after) ↔
      ∃ body, (proofReply layer e).1 = .ok (some body) ∧
        e.session.checkPossession provider body digest = .ok () ∧
        after = { e with records := (proofReply layer e).2 } := by
  rw [run_receiveVerify layer e provider digest h]
  rcases hj : judgeProof e.session provider digest (proofReply layer e).1 with refusal | _
  · have refused : judgeProof e.session provider digest (proofReply layer e).1 ≠ .ok () := by
      simp [hj]
    rw [Ne, judgeProof_eq_ok_iff] at refused
    constructor
    · exact fun passed => nomatch (Prod.mk.inj passed).1
    · rintro ⟨body, received, checked, -⟩
      exact (refused ⟨body, received, checked⟩).elim
  · obtain ⟨body, received, checked⟩ := judgeProof_eq_ok_iff.1 hj
    constructor
    · intro passed
      exact ⟨body, received, checked, (Prod.mk.inj passed).2.symm⟩
    · rintro ⟨-, -, -, rfl⟩
      rfl

end Server
end HandshakeAuth
