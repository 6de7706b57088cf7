import HandshakeAuth.Handshake.Mailbox
import HandshakeAuth.Proofs.Handshake.ClientSteps
import HandshakeAuth.Proofs.Message.CertificateList

/-! What a server can serve with its certificate, a client accepts of it. The server goes by the
facts it keeps of its leaf, the client by what it reads from the wire. -/

namespace HandshakeAuth

namespace Session

variable {session : Session} {choice : Choice} {keyExchange : KeyExchange}

theorem serves_iff {certificate : X509.Certificate} {algorithm : PublicKeyAlgorithm} :
    serves certificate algorithm keyExchange ↔
      keyExchange.serverKey = some algorithm ∧
        allowsRequired certificate keyExchange.serverUsage := by
  unfold serves allowsRequired
  rcases keyExchange.serverUsage with _ | usage <;> simp

theorem mem_supportedKeyExchanges_iff (selected : session.selected = some choice) :
    keyExchange ∈ session.supportedKeyExchanges ↔
      keyExchange.serverKey = some choice.credential.algorithm ∧
        allowsRequired choice.credential.certificate keyExchange.serverUsage := by
  have listed : keyExchange ∈ KeyExchange.all := by cases keyExchange <;> decide
  simp only [supportedKeyExchanges, selected, choice.credential.parse_leaf, List.mem_filter,
    listed, true_and, serves_iff]

end Session

theorem CertificateList.exists_encode_of_readable {chain : List Octets}
    (readable : Session.Readable chain)
    (fits : (chain.map fun certificate => 3 + certificate.length).sum ≤ 2 ^ 24 - 1) :
    ∃ body, encode chain = .ok body := by
  have short : contentLength chain < Octets.capacity 3 := by
    rw [contentLength_eq_sum]
    exact Nat.lt_of_le_pred (by decide) fits
  exact ⟨_, encode_eq_ok_iff.2 ⟨readable.filled, short, rfl⟩⟩

variable {σ : Type} (layer : RecordLayer σ) {e : Endpoint σ} {choice : Choice} {body : Octets}

theorem Server.run_sendCertificate_of_none (server : e.session.role = .server)
    (uses : e.session.keyExchange.usesCertificates) (unselected : e.session.selected = none) :
    (sendCertificate layer).run e = (.error .insufficientCredentials, e) := by
  have missing : certificateBody e.session = .error .insufficientCredentials := by
    unfold certificateBody Session.selectedCredential
    rw [server, unselected]
    rfl
  rw [run_sendCertificate layer e uses, missing]
  rfl

theorem Server.run_sendCertificate_of_some (uses : e.session.keyExchange.usesCertificates)
    (selected : e.session.selected = some choice)
    (written : CertificateList.encode choice.credential.chain = .ok body) :
    (sendCertificate layer).run e =
      ((layer.send .certificate body e.records).1,
        { e with records := (layer.send .certificate body e.records).2 }) := by
  have shown : e.session.selectedCredential = .ok (some choice) := by
    unfold Session.selectedCredential
    rw [selected]
    cases e.session.role <;> rfl
  have ready : certificateBody e.session = .ok body := by
    rw [certificateBody, shown]
    exact written
  rw [run_sendCertificate layer e uses, ready]
  rfl

theorem Client.run_receiveCertificate_of_chain {credential : Credential}
    (client : e.session.role = .client) (uses : e.session.keyExchange.usesCertificates)
    (readable : Session.Readable credential.chain)
    (written : CertificateList.encode credential.chain = .ok body)
    (received : (certificateReply layer e).1 = .ok (some body)) :
    (receiveCertificate layer).run e =
      if Session.allowsRequired credential.certificate e.session.keyExchange.serverUsage then
        (.ok (),
          { e with
            session := { e.session with peerChain := credential.chain }
            records := (certificateReply layer e).2 })
      else (.error .keyUsageViolation, { e with records := (certificateReply layer e).2 }) := by
  have decoded : CertificateList.decode body = .ok (credential.leaf :: credential.issuers) :=
    CertificateList.decode_encode written
  have issuers : Session.Readable credential.issuers :=
    fun der mem => readable der (List.mem_cons_of_mem _ mem)
  have required : e.session.requiredUsage = e.session.keyExchange.serverUsage := by
    rw [Session.requiredUsage, client]
  rw [run_receiveCertificate layer e uses, received, judgeCertificate,
    Session.acceptPeerCertificate_of_readable decoded credential.parse_leaf issuers, required]
  by_cases allowed : Session.allowsRequired credential.certificate e.session.keyExchange.serverUsage
  · rw [if_pos allowed, if_pos allowed]
    rfl
  · rw [if_neg allowed, if_neg allowed]

/-- A server sends the chain it has selected, in one message, and a client of any version that
reads it takes it for exactly the key exchanges that the server can serve with it, out of those
that go by its key; the others it refuses and keeps the chain it had. Without a selected chain the
server fails and sends nothing. -/
theorem Server.client_accepts_served {keyExchange : KeyExchange}
    (server : e.session.role = .server) (exchange : e.session.keyExchange = keyExchange)
    (uses : keyExchange.usesCertificates) :
    (∀ choice, e.session.selected = some choice → Session.Readable choice.credential.chain →
      (choice.credential.chain.map fun certificate => 3 + certificate.length).sum ≤ 2 ^ 24 - 1 →
      ∃ body, CertificateList.encode choice.credential.chain = .ok body ∧
        (∀ layer : RecordLayer σ, (sendCertificate layer).run e =
          ((layer.send .certificate body e.records).1,
            { e with records := (layer.send .certificate body e.records).2 })) ∧
        ∀ (τ : Type) (layer : RecordLayer τ) (c : Endpoint τ),
          c.session.role = .client → c.session.keyExchange = keyExchange →
          (Client.certificateReply layer c).1 = .ok (some body) →
          (keyExchange ∈ e.session.supportedKeyExchanges →
            (Client.receiveCertificate layer).run c = (.ok (),
              { c with
                session := { c.session with peerChain := choice.credential.chain }
                records := (Client.certificateReply layer c).2 })) ∧
          (keyExchange.serverKey = some choice.credential.algorithm →
            keyExchange ∉ e.session.supportedKeyExchanges →
            (Client.receiveCertificate layer).run c =
              (.error .keyUsageViolation,
                { c with records := (Client.certificateReply layer c).2 }))) ∧
    (e.session.selected = none → ∀ layer : RecordLayer σ,
      (sendCertificate layer).run e = (.error .insufficientCredentials, e)) := by
  subst exchange
  refine ⟨?_, fun unselected layer => run_sendCertificate_of_none layer server uses unselected⟩
  intro choice selected readable fits
  obtain ⟨body, written⟩ := CertificateList.exists_encode_of_readable readable fits
  refine ⟨body, written, fun layer => run_sendCertificate_of_some layer uses selected written, ?_⟩
  intro τ layer c client same received
  have run := Client.run_receiveCertificate_of_chain layer client (same ▸ uses) readable written
    received
  rw [same] at run
  simp only [Session.mem_supportedKeyExchanges_iff selected]
  constructor
  · rintro ⟨-, allowed⟩
    rw [run, if_pos allowed]
  · intro key unserved
    have forbidden : ¬ Session.allowsRequired choice.credential.certificate
        e.session.keyExchange.serverUsage := fun allowed => unserved ⟨key, allowed⟩
    rw [run, if_neg forbidden]

def X509.enciphering : Octets :=
  [0x30, 0x55, 0x30, 0x4b] ++ (X509.terse.drop 4).take 58 ++
    [0xa3, 0x0f, 0x30, 0x0d, 0x30, 0x0b, 0x06, 0x03, 0x55, 0x1d, 0x0f, 0x04, 0x04, 0x03, 0x02, 0x05,
      0x20] ++ X509.terse.drop 62

def Credential.enciphering : Credential where
  leaf := X509.enciphering
  issuers := [X509.terse]
  key := ⟨[]⟩
  certificate :=
    { Credential.terse.certificate with
      usage := some { digitalSignature := false, keyEncipherment := true } }
  algorithm := .dsa
  parse_leaf := rfl
  algorithm_leaf := rfl

def Endpoint.signing (role : Role) (version : Version) (selected : Option Choice)
    (inbox : List Letter) : Endpoint Mailbox :=
  let store : Store :=
    { entries := [], trustedIssuers := [], issuerList := [], selector := .heuristic }
  { session := { Session.start { keyExchange := .dheDss } version role store with selected }
    records := { inbox }
    log := [] }

theorem Server.client_accepts_served_terse :
    (∃ body,
      ((sendCertificate Mailbox.layer).run
        (.signing .server .tls12 (some (.foreign .terse)) [])).2.records.outbox =
          [.handshake .certificate body] ∧
      ((Client.receiveCertificate Mailbox.layer).run
        (.signing .client .ssl3 none [.handshake .certificate body])).1 = .ok () ∧
      ((Client.receiveCertificate Mailbox.layer).run
        (.signing .client .ssl3 none [.handshake .certificate body])).2.session.peerChain =
          [X509.terse]) ∧
    (∃ body,
      ((sendCertificate Mailbox.layer).run
        (.signing .server .tls12 (some (.foreign .enciphering)) [])).2.records.outbox =
          [.handshake .certificate body] ∧
      (Client.receiveCertificate Mailbox.layer).run
        (.signing .client .ssl3 none [.handshake .certificate body]) =
          (.error .keyUsageViolation, .signing .client .ssl3 none [])) ∧
    (sendCertificate Mailbox.layer).run (.signing .server .tls12 none []) =
      (.error .insufficientCredentials, .signing .server .tls12 none []) := by
  have terse : Session.Readable [X509.terse] := by
    simpa [Session.Readable] using ⟨_, Credential.terse.parse_leaf⟩
  have both : Session.Readable [X509.enciphering, X509.terse] := by
    simpa [Session.Readable] using
      ⟨⟨_, Credential.enciphering.parse_leaf⟩, ⟨_, Credential.terse.parse_leaf⟩⟩
  refine ⟨?_, ?_, ?_⟩
  · obtain ⟨body, -, sent, taken⟩ := (client_accepts_served
      (e := .signing .server .tls12 (some (.foreign .terse)) []) rfl rfl rfl).1 _ rfl terse
        (by decide)
    have accepted := (taken Mailbox (Mailbox.layer)
      (.signing .client .ssl3 none [.handshake .certificate body]) rfl rfl rfl).1
        ((Session.mem_supportedKeyExchanges_iff rfl).2 ⟨rfl, rfl⟩)
    refine ⟨body, ?_, ?_, ?_⟩
    · rw [sent]
      rfl
    · rw [accepted]
    · rw [accepted]
      rfl
  · obtain ⟨body, -, sent, taken⟩ := (client_accepts_served
      (e := .signing .server .tls12 (some (.foreign .enciphering)) []) rfl rfl rfl).1 _ rfl both
        (by decide)
    have unserved : KeyExchange.dheDss ∉ (Endpoint.signing .server .tls12
        (some (.foreign .enciphering)) []).session.supportedKeyExchanges := by
      rw [Session.mem_supportedKeyExchanges_iff rfl]
      rintro ⟨-, allowed⟩
      exact Bool.false_ne_true allowed
    have refused := (taken Mailbox Mailbox.layer
      (.signing .client .ssl3 none [.handshake .certificate body]) rfl rfl rfl).2 rfl unserved
    refine ⟨body, ?_, refused⟩
    rw [sent]
    rfl
  · exact (client_accepts_served (e := .signing .server .tls12 none []) rfl rfl rfl).2 rfl _

end HandshakeAuth
