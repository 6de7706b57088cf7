import HandshakeAuth.Handshake.Step

/-!
The certificate steps of a server: it sends its certificate and perhaps a request, and receives the
client's certificate and the proof of its key according to its policy. A client's chain is kept
only if the proof holds.
-/

namespace HandshakeAuth.Server

variable {σ : Type}

def sendCertificate (layer : RecordLayer σ) : Step σ Unit := do
  let session ← Step.session
  if session.keyExchange.usesCertificates then
    match ← Step.ofExcept session.selectedCredential with
    | none => throw .insufficientCredentials
    | some choice =>
      let body ← Step.ofExcept (CertificateList.encode choice.credential.chain)
      Step.onRecords (layer.send .certificate body)

def requestedIssuers (session : Session) : Octets :=
  if session.config.format = .x509 ∧ ¬ session.config.hidesIssuers then session.store.issuerList
  else []

def sendRequest (layer : RecordLayer σ) : Step σ Unit := do
  let session ← Step.session
  if session.keyExchange.usesCertificates ∧ session.config.policy ≠ .ignore then
    let body ← Step.ofExcept
      (CertificateRequest.encodeServer session.version (requestedIssuers session))
    Step.onRecords (layer.send .certificateRequest body)

/-- What it means that no certificate arrived but an error: an alert ends a mandatory exchange
without a certificate, and in an optional one the alert of SSL 3.0 says that there is none. -/
def judgeRefusal (session : Session) (refusal : AuthError) : Except AuthError Unit :=
  match refusal with
  | .alertReceived level description =>
    if session.config.policy = .require then .error .noCertificateFound
    else if session.version = .ssl3 ∧ level = .warning ∧ description = .noCertificate then .ok ()
    else .error refusal
  | _ => .error refusal

def judgeAbsence (session : Session) : Except AuthError Unit :=
  if session.config.policy = .require then .error .noCertificateFound else .ok ()

def receiveCertificate (layer : RecordLayer σ) : Step σ Unit := do
  let session ← Step.session
  if session.config.policy ≠ .ignore ∧ session.keyExchange.usesCertificates then
    let mandatory := session.config.policy = .require
    match ← Step.attempt (Step.onRecords (layer.receive .certificate mandatory)) with
    | .error refusal => Step.ofExcept (judgeRefusal session refusal)
    | .ok none => Step.ofExcept (judgeAbsence session)
    | .ok (some body) =>
      match ← Step.attempt (Step.takePeerCertificate body) with
      | .ok () => Step.setSession { ← Step.session with certificateRequested := true }
      | .error .noCertificateFound => Step.ofExcept (judgeAbsence session)
      | .error e => throw e

def receiveProof (layer : RecordLayer σ) (provider : Provider) (digest : Octets) :
    Step σ Unit := do
  let session ← Step.session
  match ← Step.onRecords (layer.receive .certificateVerify false) with
  | none => throw .noCertificateFound
  | some body => Step.ofExcept (session.checkPossession provider body digest)

/-- Receives the proof of the client's key, which is due after its certificate. If it fails in any
way, the client's chain is dropped. -/
def receiveVerify (layer : RecordLayer σ) (provider : Provider) (digest : Octets) :
    Step σ Unit := do
  let session ← Step.session
  if session.config.policy ≠ .ignore ∧ session.certificateRequested then
    match ← Step.attempt (receiveProof layer provider digest) with
    | .ok () => return
    | .error e =>
      Step.setSession { ← Step.session with peerChain := [] }
      throw e

end HandshakeAuth.Server
