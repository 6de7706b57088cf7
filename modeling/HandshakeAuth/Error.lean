import HandshakeAuth.Crypto.Error
import HandshakeAuth.Protocol.Message

/-!
Why an authentication step fails: the causes, the text of each, and the alert that reports it to
the peer.
-/

namespace HandshakeAuth

inductive CertificateDefect where
  | malformed
  | trailing (count : Nat)
  | described (text : String)
  deriving DecidableEq, Repr

def CertificateDefect.message : CertificateDefect → String
  | malformed => "malformed certificate"
  | trailing count => toString count ++ " bytes after certificate"
  | described text => text

inductive AuthError where
  | truncatedMessage
  | unsupportedAlgorithm
  | insufficientCredentials
  | derivationFailed
  | signatureInvalid
  | noCertificateFound
  | invalidMessage (reason : String)
  | invalidRequest (reason : String)
  | certificateParse (defect : CertificateDefect)
  | keyUsageViolation
  | invalidConfig (reason : String)
  | unexpectedMessage (reason : String)
  | alertReceived (level : AlertLevel) (description : AlertDescription)
  | crypto (cause : CryptoError)
  | io (reason : String)
  | internalError (reason : String)
  deriving DecidableEq, Repr

namespace AuthError

def message : AuthError → String
  | truncatedMessage => "truncated message"
  | unsupportedAlgorithm => "peer advertised no supported algorithm"
  | insufficientCredentials => "insufficient credentials"
  | derivationFailed => "master secret derivation failed"
  | signatureInvalid => "certificate verify signature is invalid"
  | noCertificateFound => "no certificate was found"
  | invalidMessage reason => "invalid message: " ++ reason
  | invalidRequest reason => "invalid request: " ++ reason
  | certificateParse defect => "certificate parse error: " ++ defect.message
  | keyUsageViolation => "certificate key usage violation"
  | invalidConfig reason => "invalid configuration: " ++ reason
  | unexpectedMessage reason => "unexpected message: " ++ reason
  | alertReceived level description =>
    "alert received: " ++ level.diagnostic ++ " " ++ description.diagnostic
  | crypto cause => "cryptographic error: " ++ cause.message
  | io reason => "I/O error: " ++ reason
  | internalError reason => "internal error: " ++ reason

def isParseError : AuthError → Bool
  | truncatedMessage => true
  | invalidMessage _ => true
  | certificateParse _ => true
  | _ => false

def isCredentialOutcome : AuthError → Bool
  | insufficientCredentials => true
  | noCertificateFound => true
  | _ => false

def alert : AuthError → Option AlertDescription
  | truncatedMessage => some .decodeError
  | invalidMessage _ => some .decodeError
  | unsupportedAlgorithm => some .handshakeFailure
  | insufficientCredentials => some .handshakeFailure
  | noCertificateFound => some .handshakeFailure
  | signatureInvalid => some .decryptError
  | certificateParse _ => some .badCertificate
  | keyUsageViolation => some .unsupportedCertificate
  | unexpectedMessage _ => some .unexpectedMessage
  | alertReceived _ _ => none
  | derivationFailed => some .internalError
  | invalidRequest _ => some .internalError
  | invalidConfig _ => some .internalError
  | crypto _ => some .internalError
  | io _ => some .internalError
  | internalError _ => some .internalError

def trailing (count : Nat) (part : String) : AuthError :=
  invalidMessage (toString count ++ " bytes trailing " ++ part)

def lengthOverflow (length bits : Nat) : AuthError :=
  invalidMessage ("length " ++ toString length ++ " does not fit in " ++ toString bits ++ " bits")

end AuthError
end HandshakeAuth
