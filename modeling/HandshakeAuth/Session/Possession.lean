import HandshakeAuth.Message.CertificateVerify
import HandshakeAuth.Session.Basic

/-!
Proof that a client holds the key of its certificate: a signature of the transcript digest. Both
ends work out the scheme and the part of the digest from the certificate and the version.
-/

namespace HandshakeAuth

/-- The part of the transcript digest that a scheme signs: of MD5 and SHA-1 together, DSA takes the
SHA-1 half. -/
def SignatureAlgorithm.signedPart (algorithm : SignatureAlgorithm) (digest : Octets) : Octets :=
  match algorithm with
  | .dsaSha1 => digest.drop (digest.length - 20)
  | _ => digest

namespace Session

def sign (session : Session) (provider : Provider) (credential : Credential)
    (algorithm : SignatureAlgorithm) (part : Octets) (log : Log) : Except AuthError Octets × Log :=
  match session.signer with
  | some callback =>
    let log := log ++ [.sign credential.leaf algorithm part]
    match callback credential.leaf algorithm part with
    | .ok signature => (.ok signature, log)
    | .error text => (.error (.internalError ("sign callback failed: " ++ text)), log)
  | none =>
    match provider.signature algorithm >>= (·.sign credential.key.octets part) with
    | .ok signature => (.ok signature, log)
    | .error e => (.error (.crypto e), log)

def provePossession (session : Session) (provider : Provider) (digest : Octets) (log : Log) :
    Except AuthError (Option Octets) × Log :=
  match session.selected with
  | none => (.ok none, log)
  | some choice =>
    let credential := choice.credential
    let algorithm := SignatureAlgorithm.ofKey session.version credential.algorithm
    let (signature, log) :=
      session.sign provider credential algorithm (algorithm.signedPart digest) log
    (signature >>= fun signature => some <$> CertificateVerify.encode signature, log)

/-- What a refused signature means: it does not fit, or the check itself failed. -/
def verdict : Except CryptoError Unit → Except AuthError Unit
  | .ok () => .ok ()
  | .error e => if e.blamesSignature then .error .signatureInvalid else .error (.crypto e)

def checkPossession (session : Session) (provider : Provider) (body digest : Octets) :
    Except AuthError Unit :=
  match session.peerChain with
  | [] => .error (.internalError "no peer certificate to verify against")
  | leaf :: _ => do
    let signature ← CertificateVerify.decode body
    let certificate ← X509.parse leaf
    let algorithm := SignatureAlgorithm.ofKey session.version (← certificate.requireAlgorithm)
    match provider.signature algorithm with
    | .error e => throw (.crypto e)
    | .ok scheme =>
      verdict (scheme.verify certificate.publicKey (algorithm.signedPart digest) signature)

end Session
end HandshakeAuth
