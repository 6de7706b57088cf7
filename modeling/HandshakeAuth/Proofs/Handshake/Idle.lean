import HandshakeAuth.Handshake.Mailbox
import HandshakeAuth.Proofs.Handshake.ClientSteps
import HandshakeAuth.Proofs.Handshake.Operation
import HandshakeAuth.Proofs.Message.CertificateRequest
import HandshakeAuth.Proofs.Session.Derivation

/-! When a certificate step does nothing. Five of the steps go by the key exchange; the other three
go by the note that a certificate is under way, which a change of the key exchange leaves. -/

namespace HandshakeAuth

variable {σ : Type} {e : Endpoint σ} {session : Session}

inductive CertificateStep where
  | sendServerCertificate
  | receiveServerCertificate
  | sendRequest
  | receiveRequest
  | sendClientCertificate
  | receiveClientCertificate
  | sendVerify (provider : Provider) (digest : Octets)
  | receiveVerify (provider : Provider) (digest : Octets)

def RecordLayer.broken : RecordLayer σ where
  send _ _ records := (.error (.io "broken"), records)
  receive _ _ records := (.error (.io "broken"), records)
  sendAlert _ _ records := (.error (.io "broken"), records)

theorem Step.exists_emit_broken (e : Endpoint σ) (type : MessageType)
    (body : Except AuthError Octets) :
    ∃ refusal, (Step.emit .broken e type body).1 = .error refusal := by
  rcases body with refusal | octets
  · exact ⟨refusal, rfl⟩
  · exact ⟨.io "broken", rfl⟩

namespace CertificateStep

def on (layer : RecordLayer σ) : CertificateStep → Operation σ
  | sendServerCertificate => .sendServerCertificate layer
  | receiveServerCertificate => .receiveServerCertificate layer
  | sendRequest => .sendRequest layer
  | receiveRequest => .receiveRequest layer
  | sendClientCertificate => .sendClientCertificate layer
  | receiveClientCertificate => .receiveClientCertificate layer
  | sendVerify provider digest => .sendVerify layer provider digest
  | receiveVerify provider digest => .receiveVerify layer provider digest

def Idle (step : CertificateStep) (e : Endpoint σ) : Prop :=
  ∀ layer : RecordLayer σ, (step.on layer).step.run e = (.ok (), e)

/-- When there is something for the step to do. -/
def Due : CertificateStep → Session → Prop
  | sendServerCertificate, session => session.keyExchange.usesCertificates
  | receiveServerCertificate, session => session.keyExchange.usesCertificates
  | sendRequest, session => Server.AsksClient session
  | receiveRequest, session => session.keyExchange.usesCertificates
  | sendClientCertificate, session => session.certificateRequested
  | receiveClientCertificate, session => Server.AsksClient session
  | sendVerify _ _, session =>
    session.role = .client ∧ session.certificateRequested ∧ session.selected ≠ none
  | receiveVerify _ _, session => Server.AwaitsProof session

def GoesByNote : CertificateStep → Session → Prop
  | sendClientCertificate, _ => True
  | sendVerify _ _, session => session.role = .client ∧ session.selected ≠ none
  | receiveVerify _ _, session => session.config.policy ≠ .ignore
  | _, _ => False

variable {step : CertificateStep}

theorem idle_of_not_due (h : ¬ step.Due e.session) : step.Idle e := by
  intro layer
  cases step with
  | sendServerCertificate => exact Server.run_sendCertificate_of_not layer e h
  | receiveServerCertificate => exact Client.run_receiveCertificate_of_not layer e h
  | sendRequest => exact Server.run_sendRequest_of_not layer e h
  | receiveRequest => exact Step.run_idle h
  | sendClientCertificate => exact Client.run_sendCertificate_of_not layer e h
  | receiveClientCertificate => exact Server.run_receiveCertificate_of_not layer e h
  | sendVerify provider digest =>
    by_cases due : e.session.role = .client ∧ e.session.certificateRequested
    · have unselected : e.session.selected = none := by
        by_contra selected
        exact h ⟨due.1, due.2, selected⟩
      exact Client.run_sendVerify_of_none layer e provider digest due.1 due.2 unselected
    · exact Step.run_idle due
  | receiveVerify provider digest =>
    exact Server.run_receiveVerify_of_not layer e provider digest h

theorem fails_of_due (h : step.Due e.session) :
    ∃ refusal, ((step.on .broken).step.run e).1 = .error refusal := by
  -- what is to be done goes through the record layer, or has failed before
  cases step with
  | sendServerCertificate =>
    have run := Server.run_sendCertificate .broken e h
    obtain ⟨refusal, failed⟩ := Step.exists_emit_broken e .certificate _
    exact ⟨refusal, (congrArg Prod.fst run).trans failed⟩
  | receiveServerCertificate =>
    have run := Client.run_receiveCertificate .broken e h
    exact ⟨_, congrArg Prod.fst run⟩
  | sendRequest =>
    have run := Server.run_sendRequest .broken e h
    obtain ⟨refusal, failed⟩ := Step.exists_emit_broken e .certificateRequest _
    exact ⟨refusal, (congrArg Prod.fst run).trans failed⟩
  | receiveRequest =>
    have uses : e.session.keyExchange.usesCertificates = true := h
    simp [on, Operation.step, Client.receiveRequest, Step.run_bind, uses, RecordLayer.broken]
  | sendClientCertificate =>
    by_cases shown : e.session.selected ≠ none ∨ e.session.version ≠ .ssl3
    · have run := Client.run_sendCertificate .broken e h shown
      obtain ⟨refusal, failed⟩ := Step.exists_emit_broken e .certificate _
      exact ⟨refusal, (congrArg Prod.fst run).trans failed⟩
    · simp only [ne_eq, not_or, not_not] at shown
      have run := Client.run_sendCertificate_of_ssl3 .broken e h shown.1 shown.2
      exact ⟨_, congrArg Prod.fst run⟩
  | receiveClientCertificate =>
    have run := Server.run_receiveCertificate .broken e h
    exact ⟨_, congrArg Prod.fst run⟩
  | sendVerify provider digest =>
    obtain ⟨client, requested, selected⟩ := h
    obtain ⟨choice, chosen⟩ := Option.ne_none_iff_exists'.1 selected
    obtain ⟨log, run⟩ :=
      Client.run_sendVerify_of_some .broken e provider digest client requested chosen
    obtain ⟨refusal, failed⟩ := Step.exists_emit_broken { e with log } .certificateVerify _
    exact ⟨refusal, (congrArg Prod.fst run).trans failed⟩
  | receiveVerify provider digest =>
    have run := Server.run_receiveVerify .broken e provider digest h
    exact ⟨_, congrArg Prod.fst run⟩

theorem idle_iff_not_due : step.Idle e ↔ ¬ step.Due e.session := by
  constructor
  · intro idle due
    obtain ⟨refusal, failed⟩ := fails_of_due due
    rw [idle .broken] at failed
    contradiction
  · exact idle_of_not_due

theorem due_iff_of_anonymous (anonymous : session.keyExchange = .anonDh) :
    step.Due session ↔ session.certificateRequested ∧ step.GoesByNote session := by
  have unused : ¬ session.keyExchange.usesCertificates := by
    rw [anonymous]
    exact Bool.false_ne_true
  cases step with
  | sendServerCertificate | receiveServerCertificate | receiveRequest =>
    exact iff_of_false unused (·.2)
  | sendRequest | receiveClientCertificate =>
    exact iff_of_false (fun asks => unused asks.2) (·.2)
  | sendClientCertificate => exact (and_iff_left trivial).symm
  | sendVerify provider digest => exact and_left_comm
  | receiveVerify provider digest => exact and_comm

end CertificateStep

namespace Operation

/-- The operation sets neither a key exchange with certificates nor the note that a certificate is
under way. -/
def StaysAnonymous : Operation σ → Prop
  | .setKeyExchange keyExchange => keyExchange = .anonDh
  | .setCertificateRequested requested => requested = false
  | _ => True

end Operation

structure Session.Unmarked (session : Session) : Prop where
  anonymous : session.keyExchange = .anonDh
  unnoted : ¬ session.certificateRequested

namespace Session.Unmarked

theorem idle (h : e.session.Unmarked) (step : CertificateStep) : step.Idle e := by
  rw [CertificateStep.idle_iff_not_due, CertificateStep.due_iff_of_anonymous h.anonymous]
  exact fun due => h.unnoted due.1

theorem perform_on (h : e.session.Unmarked) (step : CertificateStep) (layer : RecordLayer σ) :
    ((step.on layer).perform e).session.Unmarked := by
  rw [Operation.perform, h.idle step layer]
  exact h

theorem perform {op : Operation σ} (stays : op.StaysAnonymous) (h : e.session.Unmarked) :
    (op.perform e).session.Unmarked := by
  cases op with
  | sendServerCertificate layer => exact h.perform_on .sendServerCertificate layer
  | receiveServerCertificate layer => exact h.perform_on .receiveServerCertificate layer
  | sendRequest layer => exact h.perform_on .sendRequest layer
  | receiveRequest layer => exact h.perform_on .receiveRequest layer
  | sendClientCertificate layer => exact h.perform_on .sendClientCertificate layer
  | receiveClientCertificate layer => exact h.perform_on .receiveClientCertificate layer
  | sendVerify layer provider digest => exact h.perform_on (.sendVerify provider digest) layer
  | receiveVerify layer provider digest =>
    exact h.perform_on (.receiveVerify provider digest) layer
  | selectClient constraints =>
    obtain ⟨selected, frame⟩ := e.session.session_selectClient constraints e.log
    rw [Operation.session_perform_selectClient, frame]
    exact ⟨h.anonymous, h.unnoted⟩
  | selectServer requested =>
    obtain ⟨selected, frame⟩ := e.session.session_selectServer requested e.log
    rw [Operation.session_perform_selectServer, frame]
    exact ⟨h.anonymous, h.unnoted⟩
  | setKeyExchange keyExchange => exact ⟨stays, h.unnoted⟩
  | setCertificateRequested requested => exact ⟨h.anonymous, ne_true_of_eq_false stays⟩
  | setPeerChain _ | setRandoms _ _ | setOpaqueInput _ | setPremaster _ | setSigner _ | resume _ =>
    exact ⟨h.anonymous, h.unnoted⟩
  | generateMaster provider keep =>
    obtain ⟨premaster, master, inner, after⟩ :=
      (e.session.generates_generateMaster provider keep).session_eq
    change Session.Unmarked (e.session.generateMaster provider keep).2
    rw [after]
    exact ⟨h.anonymous, h.unnoted⟩

theorem performAll {ops : List (Operation σ)} (stays : ∀ op ∈ ops, op.StaysAnonymous)
    (h : e.session.Unmarked) : (Operation.performAll ops e).session.Unmarked :=
  Operation.performAll_induction (P := fun e => e.session.Unmarked) (fun _ _ => perform) stays h

end Session.Unmarked

namespace CertificateStep

/-- Under an anonymous key exchange the steps that go by the key exchange do nothing, and the
others nothing unless a certificate is noted to be under way. If none is, all steps do nothing for
as long as the exchange stays anonymous and the application notes none. -/
theorem idle_under_anonymous (anonymous : e.session.keyExchange = .anonDh) :
    (∀ step : CertificateStep, step.Idle e ↔
      ¬ (e.session.certificateRequested ∧ step.GoesByNote e.session)) ∧
    (¬ e.session.certificateRequested → ∀ ops : List (Operation σ),
      (∀ op ∈ ops, op.StaysAnonymous) →
      ∀ step : CertificateStep, step.Idle (Operation.performAll ops e)) := by
  constructor
  · intro step
    rw [idle_iff_not_due, due_iff_of_anonymous anonymous]
  · intro unnoted ops stays step
    have unmarked : e.session.Unmarked := ⟨anonymous, unnoted⟩
    exact (unmarked.performAll stays).idle step

def asked : Endpoint Mailbox where
  session := .start {} .tls12 .client
    { entries := [], trustedIssuers := [], issuerList := [], selector := .heuristic }
  records := { inbox := [.handshake .certificateRequest [2, 1, 2, 0, 0, 0]] }
  log := []

def answering : Endpoint Mailbox where
  session := { asked.session with keyExchange := .anonDh, certificateRequested := true }
  records := {}
  log := []

theorem performAll_asked :
    Operation.performAll [.receiveRequest Mailbox.layer, .setKeyExchange .anonDh] asked =
      answering := by
  have written : CertificateRequest.encode (.ofNames []) .tls12 = .ok [2, 1, 2, 0, 0, 0] := rfl
  have received := Client.run_receiveRequest Mailbox.layer asked rfl rfl
    (CertificateRequest.decode_of_encode_ofNames written) rfl
  change (Operation.setKeyExchange .anonDh).perform
    ((Client.receiveRequest Mailbox.layer).run asked).2 = _
  rw [received]
  rfl

theorem idle_under_anonymous_asked :
    receiveServerCertificate.Idle answering ∧ ¬ sendClientCertificate.Idle answering ∧
    ∀ step : CertificateStep, step.Idle
      (Operation.performAll [.setKeyExchange .anonDh, .receiveRequest Mailbox.layer] asked) := by
  have late := (idle_under_anonymous (e := answering) rfl).1
  have early := (idle_under_anonymous
    (e := Operation.performAll [.setKeyExchange .anonDh] asked) rfl).2 Bool.false_ne_true
      [.receiveRequest Mailbox.layer] (by simp [Operation.StaysAnonymous])
  exact ⟨(late _).2 fun due => due.2, fun idle => (late _).1 idle ⟨rfl, trivial⟩, early⟩

/-- A client that was asked for a certificate still answers under an anonymous key exchange. -/
theorem answers_under_anonymous :
    (Operation.performAll [.receiveRequest Mailbox.layer, .setKeyExchange .anonDh]
      asked).session.keyExchange = .anonDh ∧
    (Operation.performAll [.receiveRequest Mailbox.layer, .setKeyExchange .anonDh]
      asked).records.outbox = [] ∧
    (Operation.performAll [.receiveRequest Mailbox.layer, .setKeyExchange .anonDh,
      .sendClientCertificate Mailbox.layer] asked).records.outbox =
        [.handshake .certificate [0, 0, 0]] := by
  have split : Operation.performAll [.receiveRequest Mailbox.layer, .setKeyExchange .anonDh,
      .sendClientCertificate Mailbox.layer] asked =
    (Operation.sendClientCertificate Mailbox.layer).perform
      (Operation.performAll [.receiveRequest Mailbox.layer, .setKeyExchange .anonDh] asked) := rfl
  rw [split, performAll_asked]
  exact ⟨rfl, rfl, rfl⟩

end CertificateStep
end HandshakeAuth
