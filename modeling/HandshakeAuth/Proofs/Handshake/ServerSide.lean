import HandshakeAuth.Proofs.Handshake.Operation
import HandshakeAuth.Proofs.Handshake.ServerSteps
import HandshakeAuth.Proofs.Session.Derivation
import HandshakeAuth.Proofs.Session.Selection

/-! What the operations of a server can do to what it knows of its client: they leave it, record the
chain that was sent, or drop it. -/

namespace HandshakeAuth

variable {σ : Type}

def Operation.IsServerSide : Operation σ → Prop
  | .sendServerCertificate _ => True
  | .sendRequest _ => True
  | .receiveClientCertificate _ => True
  | .receiveVerify _ _ _ => True
  | .selectServer _ => True
  | .setKeyExchange _ => True
  | .generateMaster _ _ => True
  | _ => False

structure Session.SameClient (session after : Session) : Prop where
  config_eq : after.config = session.config
  version_eq : after.version = session.version
  requested_eq : after.certificateRequested = session.certificateRequested
  peerChain_eq : after.peerChain = session.peerChain

theorem Session.Generates.sameClient {session after : Session} {provider : Provider} {keep : Bool}
    {answer : Except AuthError Unit} (h : session.Generates provider keep answer after) :
    session.SameClient after := by
  obtain ⟨premaster, master, inner, rfl⟩ := h.session_eq
  exact ⟨rfl, rfl, rfl, rfl⟩

namespace Server

/-- The operation receives a client's certificate, and the list that arrives is taken up. -/
def RecordsChain (op : Operation σ) (e : Endpoint σ) : Prop :=
  ∃ layer body accepted, op = .receiveClientCertificate layer ∧ AsksClient e.session ∧
    (certificateReply layer e).1 = .ok (some body) ∧
    e.session.acceptPeerCertificate body = .ok accepted

theorem session_receiveCertificate (layer : RecordLayer σ) (e : Endpoint σ) :
    ((receiveCertificate layer).run e).2.session = e.session ∨
      RecordsChain (.receiveClientCertificate layer) e ∧
      ∃ leaf issuers, ((receiveCertificate layer).run e).2.session =
        { e.session with peerChain := leaf :: issuers, certificateRequested := true } := by
  rcases receiveCertificate_cases layer e with same | ⟨asks, body, accepted, received, taken, h⟩
  · exact .inl same
  · obtain ⟨leaf, issuers, certificate, -, -, -, -, rfl⟩ :=
      Session.acceptPeerCertificate_eq_ok_iff.1 taken
    exact .inr ⟨⟨layer, body, _, rfl, asks, received, taken⟩, leaf, issuers, by rw [h]⟩

end Server

open Server in
theorem Operation.IsServerSide.perform_cases {op : Operation σ} (side : op.IsServerSide)
    (e : Endpoint σ) :
    e.session.SameClient (op.perform e).session ∨
      (RecordsChain op e ∧ ∃ leaf issuers, (op.perform e).session =
        { e.session with peerChain := leaf :: issuers, certificateRequested := true }) ∨
      (op.perform e).session = { e.session with peerChain := [] } := by
  have unchanged {after : Session} (h : after = e.session) : e.session.SameClient after :=
    h ▸ ⟨rfl, rfl, rfl, rfl⟩
  cases op with
  | sendServerCertificate layer => exact .inl (unchanged (session_sendCertificate layer e))
  | sendRequest layer => exact .inl (unchanged (session_sendRequest layer e))
  | receiveClientCertificate layer =>
    exact (session_receiveCertificate layer e).imp unchanged .inl
  | receiveVerify layer provider digest =>
    exact (session_receiveVerify layer e provider digest).imp unchanged .inr
  | selectServer requested =>
    obtain ⟨selected, frame⟩ := e.session.session_selectServer requested e.log
    rw [session_perform_selectServer, frame]
    exact .inl ⟨rfl, rfl, rfl, rfl⟩
  | setKeyExchange keyExchange => exact .inl ⟨rfl, rfl, rfl, rfl⟩
  | generateMaster provider keep =>
    exact .inl (e.session.generates_generateMaster provider keep).sameClient
  | _ => exact side.elim

end HandshakeAuth
