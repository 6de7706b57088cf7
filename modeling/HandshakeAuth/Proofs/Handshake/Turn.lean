import HandshakeAuth.Handshake.Mailbox
import HandshakeAuth.Proofs.Handshake.ClientSteps
import HandshakeAuth.Proofs.Message.CertificateList

/-! The turns of an exchange: the steps that one end takes in a row, without a word of the other in
between. A step that fails does not keep the next ones from running. -/

namespace HandshakeAuth

def Step.runAll {σ : Type} :
    List (Step σ Unit) → Endpoint σ → List (Except AuthError Unit) × Endpoint σ
  | [], e => ([], e)
  | step :: steps, e =>
    ((step.run e).1 :: (runAll steps (step.run e).2).1, (runAll steps (step.run e).2).2)

structure Turn where
  answers : List (Except AuthError Unit)
  sent : List Letter
  session : Session

def Session.desk (session : Session) (letters : List Letter) : Endpoint Mailbox where
  session := session
  records := { inbox := letters }
  log := []

def turn (steps : List (Step Mailbox Unit)) (session : Session) (letters : List Letter) : Turn :=
  let outcome := Step.runAll steps (session.desk letters)
  { answers := outcome.1, sent := outcome.2.records.outbox, session := outcome.2.session }

def Letter.carrying (type : MessageType) : Except AuthError Octets → List Letter
  | .ok body => [.handshake type body]
  | .error _ => []

def written (body : Except AuthError Octets) : Except AuthError Unit :=
  (fun _ => ()) <$> body

def Server.asking : List (Step Mailbox Unit) :=
  [Server.sendRequest Mailbox.layer]

def Client.answering (provider : Provider) (digest : Octets) : List (Step Mailbox Unit) :=
  [Client.receiveRequest Mailbox.layer, Client.sendCertificate Mailbox.layer,
    Client.sendVerify Mailbox.layer provider digest]

def Server.judging (provider : Provider) (digest : Octets) : List (Step Mailbox Unit) :=
  [Server.receiveCertificate Mailbox.layer, Server.receiveVerify Mailbox.layer provider digest]

variable {session : Session} {letters : List Letter} {provider : Provider} {digest : Octets}

theorem Step.runAll_cons {σ : Type} {step : Step σ Unit} {steps : List (Step σ Unit)}
    {e middle after : Endpoint σ} {answer : Except AuthError Unit}
    {answers : List (Except AuthError Unit)} (first : step.run e = (answer, middle))
    (rest : runAll steps middle = (answers, after)) :
    runAll (step :: steps) e = (answer :: answers, after) := by
  rw [runAll, first, rest]

theorem turn_of_runAll {steps : List (Step Mailbox Unit)} {after : Endpoint Mailbox}
    {answers : List (Except AuthError Unit)}
    (h : Step.runAll steps (session.desk letters) = (answers, after)) :
    turn steps session letters = ⟨answers, after.records.outbox, after.session⟩ := by
  rw [turn, h]

theorem emit_mailbox {e : Endpoint Mailbox} (works : e.records.sendFailure = none)
    (type : MessageType) (body : Except AuthError Octets) :
    Step.emit Mailbox.layer e type body = (written body,
      { e with records :=
        { e.records with outbox := e.records.outbox ++ Letter.carrying type body } }) := by
  rcases e with ⟨session, ⟨inbox, outbox, failure⟩, log⟩
  obtain rfl : failure = none := works
  rcases body with refusal | body
  · simp [Step.emit, Letter.carrying, written, Functor.map, Except.map]
  · rfl

namespace Server

theorem asking_of_not (h : ¬ AsksClient session) :
    turn asking session letters = ⟨[.ok ()], [], session⟩ :=
  turn_of_runAll (Step.runAll_cons (run_sendRequest_of_not Mailbox.layer _ h) rfl)

theorem asking_of_ok {body : Octets} (h : AsksClient session)
    (request : requestBody session = .ok body) :
    turn asking session letters =
      ⟨[.ok ()], [.handshake .certificateRequest body], session⟩ := by
  have asked := run_sendRequest Mailbox.layer (session.desk letters) h
  rw [emit_mailbox rfl, show requestBody (session.desk letters).session = _ from request] at asked
  exact turn_of_runAll (Step.runAll_cons asked rfl)

theorem judging_of_not (h : ¬ AsksClient session) (idle : ¬ AwaitsProof session) :
    turn (judging provider digest) session letters = ⟨[.ok (), .ok ()], [], session⟩ :=
  turn_of_runAll (Step.runAll_cons (run_receiveCertificate_of_not Mailbox.layer _ h)
    (Step.runAll_cons (run_receiveVerify_of_not Mailbox.layer _ provider digest idle) rfl))

end Server

namespace Client

theorem answering_nothing (uses : session.keyExchange.usesCertificates)
    (fresh : session.certificateRequested = false) :
    turn (answering provider digest) session [] = ⟨[.ok (), .ok (), .ok ()], [], session⟩ := by
  have idle : ¬ session.certificateRequested := by simp [fresh]
  have received := run_receiveRequest_of_none Mailbox.layer (session.desk []) uses rfl
  have shown := run_sendCertificate_of_not Mailbox.layer (session.desk []) idle
  have proved := run_sendVerify_of_not Mailbox.layer (session.desk []) provider digest idle
  exact turn_of_runAll
    (Step.runAll_cons received (Step.runAll_cons shown (Step.runAll_cons proved rfl)))

def asked (session : Session) (found : Option Choice) : Session :=
  { session with selected := found, certificateRequested := true }

def refusal : Version → List Letter
  | .ssl3 => [.alert .warning .noCertificate]
  | _ => [.handshake .certificate [0, 0, 0]]

section Asked

variable {body : Octets} {request : CertificateRequest} {found : Option Choice}
  (uses : session.keyExchange.usesCertificates)
  (decoded : CertificateRequest.decode body session.version = .ok request)
  (chosen : session.selectClient (.ofRequest request) [] =
    (.ok found, { session with selected := found }, []))

include uses decoded chosen in
theorem run_receiveRequest_desk :
    (receiveRequest Mailbox.layer).run (session.desk [.handshake .certificateRequest body]) =
      (.ok (), (asked session found).desk []) :=
  run_receiveRequest Mailbox.layer (session.desk [.handshake .certificateRequest body]) uses rfl
    decoded chosen

theorem answering_of_none (client : session.role = .client)
    (received : (receiveRequest Mailbox.layer).run
      (session.desk [.handshake .certificateRequest body]) =
        (.ok (), (asked session none).desk [])) :
    turn (answering provider digest) session [.handshake .certificateRequest body] =
      ⟨[.ok (), .ok (), .ok ()], refusal session.version, asked session none⟩ := by
  have idle (e : Endpoint Mailbox) (same : e.session = asked session none) :
      (sendVerify Mailbox.layer provider digest).run e = (.ok (), e) := by
    refine run_sendVerify_of_none Mailbox.layer e provider digest ?_ ?_ ?_ <;> rw [same]
    · exact client
    · rfl
    · rfl
  have empty : CertificateList.encode (shownChain ((asked session none).desk []).session) =
      .ok [0, 0, 0] := CertificateList.encode_nil
  rcases version : session.version with _ | _ | _ | _
  · have shown := run_sendCertificate_of_ssl3 Mailbox.layer ((asked session none).desk []) rfl rfl
      version
    exact turn_of_runAll
      (Step.runAll_cons received (Step.runAll_cons shown (Step.runAll_cons (idle _ rfl) rfl)))
  all_goals
    have shown := run_sendCertificate Mailbox.layer ((asked session none).desk []) rfl
      (.inr (by simp [Session.desk, asked, version]))
    rw [empty, emit_mailbox rfl] at shown
    exact turn_of_runAll
      (Step.runAll_cons received (Step.runAll_cons shown (Step.runAll_cons (idle _ rfl) rfl)))

theorem answering_of_some {choice : Choice} (client : session.role = .client)
    (received : (receiveRequest Mailbox.layer).run
      (session.desk [.handshake .certificateRequest body]) =
        (.ok (), (asked session (some choice)).desk [])) :
    turn (answering provider digest) session [.handshake .certificateRequest body] =
      ⟨[.ok (), written (CertificateList.encode choice.credential.chain),
          written (session.proofOf provider choice.credential digest [])],
        Letter.carrying .certificate (CertificateList.encode choice.credential.chain) ++
          Letter.carrying .certificateVerify
            (session.proofOf provider choice.credential digest []),
        asked session (some choice)⟩ := by
  have shown := run_sendCertificate Mailbox.layer ((asked session (some choice)).desk []) rfl
    (.inl (by simp [Session.desk, asked]))
  rw [emit_mailbox rfl] at shown
  obtain ⟨log, proved⟩ := run_sendVerify_of_some Mailbox.layer
    { (asked session (some choice)).desk [] with
      records.outbox := Letter.carrying .certificate
        (CertificateList.encode choice.credential.chain) }
    provider digest client rfl rfl
  rw [emit_mailbox rfl] at proved
  exact turn_of_runAll
    (Step.runAll_cons received (Step.runAll_cons shown (Step.runAll_cons proved rfl)))

end Asked
end Client
end HandshakeAuth
