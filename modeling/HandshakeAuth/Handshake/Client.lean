import HandshakeAuth.Handshake.Step

/-!
The certificate steps of a client: it receives the server's certificate and perhaps a request for
one of its own, sends that certificate or says that it has none, and proves that it holds the key.
-/

namespace HandshakeAuth.Client

variable {σ : Type}

def receiveCertificate (layer : RecordLayer σ) : Step σ Unit := do
  let session ← Step.session
  if session.keyExchange.usesCertificates then
    match ← Step.onRecords (layer.receive .certificate true) with
    | none => throw .noCertificateFound
    | some body => Step.takePeerCertificate body

/-- Receives a request, if there is one, and chooses the certificate to answer with. That none
matches is no error: the client then owes an empty list. -/
def receiveRequest (layer : RecordLayer σ) : Step σ Unit := do
  let session ← Step.session
  if session.keyExchange.usesCertificates then
    match ← Step.onRecords (layer.receive .certificateRequest false) with
    | none => return
    | some body =>
      let request ← Step.ofExcept (CertificateRequest.decode body session.version)
      let _ ← Step.onLog (·.selectClient (.ofRequest request))
      Step.setSession { ← Step.session with certificateRequested := true }

/-- Sends the selected certificates if the server asked. SSL 3.0 has no empty list: there a client
without a certificate sends an alert. -/
def sendCertificate (layer : RecordLayer σ) : Step σ Unit := do
  let session ← Step.session
  if session.certificateRequested then
    match session.selected, session.version with
    | none, .ssl3 => Step.onRecords (layer.sendAlert .warning .noCertificate)
    | selected, _ =>
      let chain := (selected.map (·.credential.chain)).getD []
      let body ← Step.ofExcept (CertificateList.encode chain)
      Step.onRecords (layer.send .certificate body)

def sendVerify (layer : RecordLayer σ) (provider : Provider) (digest : Octets) : Step σ Unit := do
  let session ← Step.session
  if session.role = .client ∧ session.certificateRequested then
    match ← Step.onLog (fun session log =>
        let (body, log) := session.provePossession provider digest log
        (body, session, log)) with
    | none => return
    | some body => Step.onRecords (layer.send .certificateVerify body)

end HandshakeAuth.Client
