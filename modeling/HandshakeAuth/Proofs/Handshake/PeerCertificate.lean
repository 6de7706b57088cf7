import HandshakeAuth.Proofs.Handshake.ClientSteps

/-! Taking up the body of a peer's Certificate message at one end. Either the whole chain is
recorded or nothing at the end is touched. -/

namespace HandshakeAuth

variable {σ : Type} {body : Octets}

namespace Session.Examined

variable {e : Endpoint σ}

theorem run_of_ok {chain : List Octets} (h : e.session.Examined body (.ok chain)) :
    (Step.takePeerCertificate body).run e =
      (.ok (), { e with session := { e.session with peerChain := chain } }) := by
  rw [Step.run_takePeerCertificate, acceptPeerCertificate_of_examined h]
  rfl

theorem run_of_error {refusal : AuthError} (h : e.session.Examined body (.error refusal)) :
    (Step.takePeerCertificate body).run e = (.error refusal, e) := by
  rw [Step.run_takePeerCertificate, acceptPeerCertificate_of_examined h]
  rfl

end Session.Examined

theorem Step.run_takePeerCertificate_eq_iff (e after : Endpoint σ)
    (answer : Except AuthError Unit) :
    (takePeerCertificate body).run e = (answer, after) ↔
      (∃ chain, e.session.Examined body (.ok chain) ∧ answer = .ok () ∧
        after = { e with session := { e.session with peerChain := chain } }) ∨
      ∃ refusal, e.session.Examined body (.error refusal) ∧ answer = .error refusal ∧
        after = e := by
  constructor
  · intro run
    obtain ⟨answer, examined⟩ := e.session.exists_examined body
    rcases answer with refusal | chain
    · obtain ⟨rfl, rfl⟩ := Prod.mk.inj (examined.run_of_error.symm.trans run)
      exact .inr ⟨refusal, examined, rfl, rfl⟩
    · obtain ⟨rfl, rfl⟩ := Prod.mk.inj (examined.run_of_ok.symm.trans run)
      exact .inl ⟨chain, examined, rfl, rfl⟩
  · rintro (⟨chain, examined, rfl, rfl⟩ | ⟨refusal, examined, rfl, rfl⟩)
    · exact examined.run_of_ok
    · exact examined.run_of_error

theorem Client.run_receiveCertificate_of_received (layer : RecordLayer σ) (e : Endpoint σ)
    (uses : e.session.keyExchange.usesCertificates)
    (received : (certificateReply layer e).1 = .ok (some body)) :
    (receiveCertificate layer).run e =
      (Step.takePeerCertificate body).run { e with records := (certificateReply layer e).2 } := by
  rw [run_receiveCertificate layer e uses, received, judgeCertificate]
  exact (Step.run_takePeerCertificate body { e with records := (certificateReply layer e).2 }).symm

theorem Server.run_receiveCertificate_of_received (layer : RecordLayer σ) (e : Endpoint σ)
    (asks : AsksClient e.session) (received : (certificateReply layer e).1 = .ok (some body)) :
    (receiveCertificate layer).run e =
      match (Step.takePeerCertificate body).run
        { e with records := (certificateReply layer e).2 } with
      | (.ok (), after) =>
        (.ok (), { after with session := { after.session with certificateRequested := true } })
      | (.error .noCertificateFound, after) => (judgeAbsence e.session, after)
      | (.error refusal, after) => (.error refusal, after) := by
  rw [run_receiveCertificate layer e asks, received, judgeCertificate, Step.run_takePeerCertificate]
  rcases e.session.acceptPeerCertificate body with refusal | accepted
  · cases refusal with
    | noCertificateFound => rcases judgeAbsence e.session with _ | _ <;> rfl
    | _ => rfl
  · rfl

/-- What becomes of a body is settled by the rules of `Session.Examined`. If they give a chain, this
chain replaces the one of the session and nothing else changes; if they give an error, the end stays
as it was. So it is when a client receives the body; a server that receives it also makes a proof
due, or lets its policy judge that there is no certificate. -/
theorem recorded_or_unchanged (body : Octets) :
    (∀ (e after : Endpoint σ) (answer : Except AuthError Unit),
      (Step.takePeerCertificate body).run e = (answer, after) ↔
        (∃ chain, e.session.Examined body (.ok chain) ∧ answer = .ok () ∧
          after = { e with session := { e.session with peerChain := chain } }) ∨
        ∃ refusal, e.session.Examined body (.error refusal) ∧ answer = .error refusal ∧
          after = e) ∧
    (∀ (layer : RecordLayer σ) (e : Endpoint σ), e.session.keyExchange.usesCertificates →
      (Client.certificateReply layer e).1 = .ok (some body) →
      (Client.receiveCertificate layer).run e =
        (Step.takePeerCertificate body).run
          { e with records := (Client.certificateReply layer e).2 }) ∧
    ∀ (layer : RecordLayer σ) (e : Endpoint σ), Server.AsksClient e.session →
      (Server.certificateReply layer e).1 = .ok (some body) →
      (Server.receiveCertificate layer).run e =
        match (Step.takePeerCertificate body).run
          { e with records := (Server.certificateReply layer e).2 } with
        | (.ok (), after) =>
          (.ok (), { after with session := { after.session with certificateRequested := true } })
        | (.error .noCertificateFound, after) => (Server.judgeAbsence e.session, after)
        | (.error refusal, after) => (.error refusal, after) :=
  ⟨Step.run_takePeerCertificate_eq_iff, Client.run_receiveCertificate_of_received,
    Server.run_receiveCertificate_of_received⟩

end HandshakeAuth
