import HandshakeAuth.Proofs.Handshake.ServerCertificate

/-! What a client asks of the leaf in a server's chain. It goes by the use that the key exchange
makes of the key; that the key is of the kind which the exchange needs is only looked at by the
server. -/

namespace HandshakeAuth

variable {σ : Type} {session : Session}

theorem KeyExchange.exists_serverUsage {keyExchange : KeyExchange}
    (uses : keyExchange.usesCertificates) : ∃ usage, keyExchange.serverUsage = some usage := by
  cases keyExchange with
  | rsa => exact ⟨.keyEncipherment, rfl⟩
  | dheRsa => exact ⟨.digitalSignature, rfl⟩
  | dheDss => exact ⟨.digitalSignature, rfl⟩
  | anonDh => contradiction

theorem Session.mem_supportedKeyExchanges_of_allowed {server : Session} {choice : Choice}
    {certificate : X509.Certificate} {keyExchange : KeyExchange}
    (selected : server.selected = some choice)
    (read : X509.parse choice.credential.leaf = .ok certificate)
    (allowed : allowsRequired certificate keyExchange.serverUsage) :
    keyExchange ∈ server.supportedKeyExchanges ↔
      keyExchange.serverKey = certificate.algorithm := by
  have same : choice.credential.certificate = certificate :=
    Except.ok.inj (choice.credential.parse_leaf.symm.trans read)
  have kind : certificate.algorithm = some choice.credential.algorithm :=
    same ▸ choice.credential.algorithm_leaf
  rw [mem_supportedKeyExchanges_iff selected, same, kind]
  exact and_iff_left allowed

namespace Client

theorem acceptPeerCertificate_eq_ok_iff (client : session.role = .client)
    (uses : session.keyExchange.usesCertificates) {body : Octets} {accepted : Session} :
    session.acceptPeerCertificate body = .ok accepted ↔
      ∃ leaf issuers certificate usage, CertificateList.decode body = .ok (leaf :: issuers) ∧
        X509.parse leaf = .ok certificate ∧ Session.Readable issuers ∧
        session.keyExchange.serverUsage = some usage ∧ certificate.allows usage ∧
        accepted = { session with peerChain := leaf :: issuers } := by
  obtain ⟨usage, needed⟩ := KeyExchange.exists_serverUsage uses
  have required : session.requiredUsage = some usage := by
    rw [Session.requiredUsage, client, needed]
  rw [Session.acceptPeerCertificate_eq_ok_iff, required]
  constructor
  · rintro ⟨leaf, issuers, certificate, decoded, read, readable, allowed, taken⟩
    exact ⟨leaf, issuers, certificate, usage, decoded, read, readable, needed, allowed, taken⟩
  · rintro ⟨leaf, issuers, certificate, usage', decoded, read, readable, needed', allowed, taken⟩
    obtain rfl : usage' = usage := Option.some.inj (needed'.symm.trans needed)
    exact ⟨leaf, issuers, certificate, decoded, read, readable, allowed, taken⟩

theorem run_receiveCertificate_eq_ok_iff {layer : RecordLayer σ} {e after : Endpoint σ}
    (uses : e.session.keyExchange.usesCertificates) :
    (receiveCertificate layer).run e = (.ok (), after) ↔
      ∃ body accepted, (certificateReply layer e).1 = .ok (some body) ∧
        e.session.acceptPeerCertificate body = .ok accepted ∧
        after = { e with session := accepted, records := (certificateReply layer e).2 } := by
  rw [run_receiveCertificate layer e uses]
  rcases judged : judgeCertificate e.session (certificateReply layer e).1 with refusal | session
  · constructor
    · exact fun passed => nomatch (Prod.mk.inj passed).1
    · rintro ⟨body, accepted, received, taken, -⟩
      rw [received] at judged
      exact nomatch judged.symm.trans taken
  · obtain ⟨body, received, taken⟩ := judgeCertificate_eq_ok_iff.1 judged
    constructor
    · intro passed
      exact ⟨body, session, received, taken, (Prod.mk.inj passed).2.symm⟩
    · rintro ⟨body', accepted, received', taken', rfl⟩
      obtain rfl := Option.some.inj (Except.ok.inj (received.symm.trans received'))
      obtain rfl := Except.ok.inj (taken.symm.trans taken')
      rfl

/-- A client takes up a chain exactly if its certificates can be read and the leaf allows the use
that the key exchange makes of it, whatever kind of key is in it. A server that shows the leaf can
serve the exchange exactly if the kind is the one that the exchange needs. -/
theorem accepts_by_use (client : session.role = .client)
    (uses : session.keyExchange.usesCertificates) :
    (∀ (layer : RecordLayer σ) (e after : Endpoint σ), e.session = session →
      ((receiveCertificate layer).run e = (.ok (), after) ↔
        ∃ body accepted, (certificateReply layer e).1 = .ok (some body) ∧
          session.acceptPeerCertificate body = .ok accepted ∧
          after = { e with session := accepted, records := (certificateReply layer e).2 })) ∧
    (∀ body accepted, session.acceptPeerCertificate body = .ok accepted ↔
      ∃ leaf issuers certificate usage, CertificateList.decode body = .ok (leaf :: issuers) ∧
        X509.parse leaf = .ok certificate ∧ Session.Readable issuers ∧
        session.keyExchange.serverUsage = some usage ∧ certificate.allows usage ∧
        accepted = { session with peerChain := leaf :: issuers }) ∧
    ∀ certificate usage, session.keyExchange.serverUsage = some usage →
      certificate.allows usage → ∀ (server : Session) choice, server.selected = some choice →
        X509.parse choice.credential.leaf = .ok certificate →
        (session.keyExchange ∈ server.supportedKeyExchanges ↔
          session.keyExchange.serverKey = certificate.algorithm) := by
  refine ⟨?_, fun body accepted => acceptPeerCertificate_eq_ok_iff client uses, ?_⟩
  · rintro layer e after rfl
    exact run_receiveCertificate_eq_ok_iff uses
  · intro certificate usage needed allowed server choice selected read
    have required : Session.allowsRequired certificate session.keyExchange.serverUsage := by
      rw [needed]
      exact allowed
    exact Session.mem_supportedKeyExchanges_of_allowed selected read required

theorem accepts_by_use_terse :
    (∃ body after,
      (receiveCertificate Mailbox.layer).run
        (.signing .client .tls12 none [.handshake .certificate body]) = (.ok (), after) ∧
      after.session.peerChain = [X509.terse] ∧ after.records.inbox = []) ∧
    KeyExchange.dheDss ∈ (Endpoint.signing .server .tls12
      (some (.foreign .terse)) []).session.supportedKeyExchanges := by
  obtain ⟨body, written⟩ : ∃ body, CertificateList.encode [X509.terse] = .ok body := ⟨_, rfl⟩
  have client : (Endpoint.signing .client .tls12 none []).session.role = .client := rfl
  obtain ⟨run, accepts, serves⟩ := accepts_by_use (σ := Mailbox) client rfl
  have taken := (accepts body _).2 ⟨X509.terse, [], _, .digitalSignature,
    CertificateList.decode_encode written, Credential.terse.parse_leaf, nofun, rfl, rfl, rfl⟩
  have passed := (run Mailbox.layer
    (.signing .client .tls12 none [.handshake .certificate body]) _ rfl).2
      ⟨body, _, rfl, taken, rfl⟩
  have served := (serves _ .digitalSignature rfl rfl
    (Endpoint.signing .server .tls12 (some (.foreign .terse)) []).session (.foreign .terse) rfl
    Credential.terse.parse_leaf).2 rfl
  exact ⟨⟨body, _, passed, rfl, rfl⟩, served⟩

def enciphering (body : Octets) : Endpoint Mailbox where
  session := .start { keyExchange := .rsa } .tls12 .client
    { entries := [], trustedIssuers := [], issuerList := [], selector := .heuristic }
  records := { inbox := [.handshake .certificate body] }
  log := []

/-- A client that needs an RSA key takes up the certificate of a DSA key. -/
theorem accepts_dsa_for_rsa :
    ∃ after,
      (receiveCertificate Mailbox.layer).run
        (enciphering (Wire.framed 3 (Wire.framed 3 X509.named))) = (.ok (), after) ∧
      after.session.peerChain = [X509.named] ∧
      (∃ certificate, X509.parse X509.named = .ok certificate ∧
        certificate.algorithm = some .dsa) ∧
      KeyExchange.rsa.serverKey = some .rsa := by
  have written : CertificateList.encode Credential.named.chain =
      .ok (Wire.framed 3 (Wire.framed 3 X509.named)) := by
    decide +kernel
  have readable : Session.Readable Credential.named.chain := by
    simpa [Session.Readable, Credential.chain] using
      ⟨⟨_, Credential.named.parse_leaf⟩, fun _ mem => absurd mem List.not_mem_nil⟩
  have passed := run_receiveCertificate_of_chain Mailbox.layer
    (e := enciphering (Wire.framed 3 (Wire.framed 3 X509.named))) rfl rfl readable written rfl
  have taken := passed.trans (if_pos rfl)
  exact ⟨_, taken, rfl, ⟨_, Credential.named.parse_leaf, rfl⟩, rfl⟩

end Client
end HandshakeAuth
