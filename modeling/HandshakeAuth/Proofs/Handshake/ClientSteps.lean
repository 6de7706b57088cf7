import HandshakeAuth.Handshake.Client
import HandshakeAuth.Proofs.Handshake.ServerSteps
import HandshakeAuth.Proofs.Session.PeerChain
import HandshakeAuth.Proofs.Session.Possession
import HandshakeAuth.Proofs.Session.Selection

/-! The steps of a client as equations: what a step makes of the session and of the record layer,
case by case. -/

namespace HandshakeAuth.Client

variable {σ : Type} (layer : RecordLayer σ) (e : Endpoint σ)

def certificateReply : Except AuthError (Option Octets) × σ :=
  layer.receive .certificate true e.records

def judgeCertificate (session : Session) :
    Except AuthError (Option Octets) → Except AuthError Session
  | .error refusal => .error refusal
  | .ok none => .error .noCertificateFound
  | .ok (some body) => session.acceptPeerCertificate body

theorem judgeCertificate_eq_ok_iff {session after : Session}
    {answer : Except AuthError (Option Octets)} :
    judgeCertificate session answer = .ok after ↔
      ∃ body, answer = .ok (some body) ∧ session.acceptPeerCertificate body = .ok after := by
  rcases answer with refusal | _ | body <;> simp [judgeCertificate]

theorem run_receiveCertificate_of_not (h : ¬ e.session.keyExchange.usesCertificates) :
    (receiveCertificate layer).run e = (.ok (), e) :=
  Step.run_idle h

theorem run_receiveCertificate (uses : e.session.keyExchange.usesCertificates) :
    (receiveCertificate layer).run e =
      match judgeCertificate e.session (certificateReply layer e).1 with
      | .ok session => (.ok (), { e with session, records := (certificateReply layer e).2 })
      | .error refusal => (.error refusal, { e with records := (certificateReply layer e).2 }) := by
  unfold certificateReply
  simp only [receiveCertificate, Step.run_bind, Step.run_session, if_pos uses, Step.run_onRecords]
  rcases layer.receive .certificate true e.records with ⟨refusal | _ | body, records⟩
  · rfl
  · rfl
  · exact Step.run_takePeerCertificate body { e with records }

theorem session_receiveCertificate :
    ∃ peerChain, ((receiveCertificate layer).run e).2.session = { e.session with peerChain } := by
  by_cases uses : e.session.keyExchange.usesCertificates
  · rw [run_receiveCertificate layer e uses]
    rcases judged : judgeCertificate e.session (certificateReply layer e).1 with refusal | accepted
    · exact ⟨e.session.peerChain, rfl⟩
    · obtain ⟨body, -, taken⟩ := judgeCertificate_eq_ok_iff.1 judged
      obtain ⟨leaf, issuers, certificate, -, -, -, -, rfl⟩ :=
        Session.acceptPeerCertificate_eq_ok_iff.1 taken
      exact ⟨leaf :: issuers, rfl⟩
  · rw [run_receiveCertificate_of_not layer e uses]
    exact ⟨e.session.peerChain, rfl⟩

def requestReply : Except AuthError (Option Octets) × σ :=
  layer.receive .certificateRequest false e.records

def shownChain (session : Session) : List Octets :=
  (session.selected.map (·.credential.chain)).getD []

theorem run_receiveRequest_of_none (uses : e.session.keyExchange.usesCertificates)
    (received : (requestReply layer e).1 = .ok none) :
    (receiveRequest layer).run e = (.ok (), { e with records := (requestReply layer e).2 }) := by
  unfold requestReply at received ⊢
  simp only [receiveRequest, Step.run_bind, Step.run_session, if_pos uses, Step.run_onRecords,
    received, Step.run_pure]

theorem run_receiveRequest {body : Octets} {request : CertificateRequest} {found : Option Choice}
    (uses : e.session.keyExchange.usesCertificates)
    (received : (requestReply layer e).1 = .ok (some body))
    (decoded : CertificateRequest.decode body e.session.version = .ok request)
    (chosen : e.session.selectClient (.ofRequest request) e.log =
      (.ok found, { e.session with selected := found }, e.log)) :
    (receiveRequest layer).run e = (.ok (),
      { e with
        session := { e.session with selected := found, certificateRequested := true }
        records := (requestReply layer e).2 }) := by
  unfold requestReply at received ⊢
  simp only [receiveRequest, Step.run_bind, Step.run_session, if_pos uses, Step.run_onRecords,
    received, Step.run_ofExcept, decoded, Step.run_onLog, chosen, Step.run_setSession]

theorem receiveRequest_cases :
    ((receiveRequest layer).run e).2.session = e.session ∨
      ∃ request certificateRequested, ((receiveRequest layer).run e).2.session =
        { (e.session.selectClient (.ofRequest request) e.log).2.1 with certificateRequested } := by
  by_cases uses : e.session.keyExchange.usesCertificates
  · simp only [receiveRequest, Step.run_bind, Step.run_session, if_pos uses, Step.run_onRecords]
    rcases layer.receive .certificateRequest false e.records with ⟨refusal | _ | body, records⟩
    · exact .inl rfl
    · exact .inl rfl
    · simp only [Step.run_bind, Step.run_ofExcept]
      rcases CertificateRequest.decode body e.session.version with refusal | request
      · exact .inl rfl
      · refine .inr ⟨request, ?_⟩
        simp only [Step.run_onLog]
        generalize e.session.selectClient (.ofRequest request) e.log = outcome
        obtain ⟨answer, chosen, log⟩ := outcome
        rcases answer with refusal | found
        · exact ⟨chosen.certificateRequested, rfl⟩
        · exact ⟨true, rfl⟩
  · have same : (receiveRequest layer).run e = (.ok (), e) := Step.run_idle uses
    rw [same]
    exact .inl rfl

theorem session_receiveRequest :
    ∃ selected certificateRequested, ((receiveRequest layer).run e).2.session =
      { e.session with selected, certificateRequested } := by
  rcases receiveRequest_cases layer e with same | ⟨request, certificateRequested, after⟩
  · exact ⟨e.session.selected, e.session.certificateRequested, same⟩
  · obtain ⟨selected, frame⟩ := e.session.session_selectClient (.ofRequest request) e.log
    rw [frame] at after
    exact ⟨selected, certificateRequested, after⟩

theorem run_sendCertificate_of_not (h : ¬ e.session.certificateRequested) :
    (sendCertificate layer).run e = (.ok (), e) :=
  Step.run_idle h

theorem run_sendCertificate_of_ssl3 (requested : e.session.certificateRequested)
    (none_selected : e.session.selected = none) (version : e.session.version = .ssl3) :
    (sendCertificate layer).run e = ((layer.sendAlert .warning .noCertificate e.records).1,
      { e with records := (layer.sendAlert .warning .noCertificate e.records).2 }) := by
  simp only [sendCertificate, Step.run_bind, Step.run_session, if_pos requested, none_selected,
    version, Step.run_onRecords]

theorem run_sendCertificate (requested : e.session.certificateRequested)
    (h : e.session.selected ≠ none ∨ e.session.version ≠ .ssl3) :
    (sendCertificate layer).run e =
      Step.emit layer e .certificate (CertificateList.encode (shownChain e.session)) := by
  unfold sendCertificate shownChain
  rw [Step.run_bind, Step.run_session]
  refine (congrArg (Step.run · e) (if_pos requested)).trans ?_
  rcases selected : e.session.selected with _ | choice
  · rcases version : e.session.version with _ | _ | _ | _
    · exact (h.elim (· selected) (· version)).elim
    all_goals exact Step.run_ofExcept_send layer e .certificate _
  · exact Step.run_ofExcept_send layer e .certificate _

theorem session_sendCertificate : ((sendCertificate layer).run e).2.session = e.session := by
  by_cases requested : e.session.certificateRequested
  · by_cases h : e.session.selected ≠ none ∨ e.session.version ≠ .ssl3
    · rw [run_sendCertificate layer e requested h, Step.emit_session]
    · simp only [ne_eq, not_or, not_not] at h
      rw [run_sendCertificate_of_ssl3 layer e requested h.1 h.2]
  · rw [run_sendCertificate_of_not layer e requested]

variable (provider : Provider) (digest : Octets)

theorem run_sendVerify_of_not (h : ¬ e.session.certificateRequested) :
    (sendVerify layer provider digest).run e = (.ok (), e) :=
  Step.run_idle fun due => h due.2

theorem run_sendVerify (client : e.session.role = .client)
    (requested : e.session.certificateRequested) :
    (sendVerify layer provider digest).run e =
      match e.session.provePossession provider digest e.log with
      | (.ok none, log) => (.ok (), { e with log })
      | (.ok (some body), log) =>
        Step.emit layer { e with log } .certificateVerify (.ok body)
      | (.error refusal, log) => (.error refusal, { e with log }) := by
  have due : e.session.role = .client ∧ e.session.certificateRequested = true :=
    ⟨client, requested⟩
  simp only [sendVerify, Step.run_bind, Step.run_session, if_pos due, Step.run_onLog]
  rcases e.session.provePossession provider digest e.log with ⟨_ | _ | body, log⟩ <;> rfl

theorem session_sendVerify :
    ((sendVerify layer provider digest).run e).2.session = e.session := by
  by_cases due : e.session.role = .client ∧ e.session.certificateRequested
  · rw [run_sendVerify layer e provider digest due.1 due.2]
    rcases e.session.provePossession provider digest e.log with ⟨refusal | _ | body, log⟩
    · rfl
    · rfl
    · rw [Step.emit_session]
  · have same : (sendVerify layer provider digest).run e = (.ok (), e) := Step.run_idle due
    rw [same]

theorem run_sendVerify_of_none (client : e.session.role = .client)
    (requested : e.session.certificateRequested) (unselected : e.session.selected = none) :
    (sendVerify layer provider digest).run e = (.ok (), e) := by
  rw [run_sendVerify layer e provider digest client requested,
    Session.provePossession_of_none unselected]

theorem run_sendVerify_of_some {choice : Choice} (client : e.session.role = .client)
    (requested : e.session.certificateRequested) (selected : e.session.selected = some choice) :
    ∃ log, (sendVerify layer provider digest).run e =
      Step.emit layer { e with log } .certificateVerify
        (e.session.proofOf provider choice.credential digest e.log) := by
  rw [run_sendVerify layer e provider digest client requested]
  have proof : (e.session.provePossession provider digest e.log).1 =
      some <$> e.session.proofOf provider choice.credential digest e.log :=
    Session.provePossession_of_some selected
  generalize e.session.provePossession provider digest e.log = outcome at proof ⊢
  obtain ⟨answer, log⟩ := outcome
  dsimp only at proof
  rw [proof]
  refine ⟨log, ?_⟩
  rcases e.session.proofOf provider choice.credential digest e.log with refusal | body <;> rfl

end HandshakeAuth.Client
