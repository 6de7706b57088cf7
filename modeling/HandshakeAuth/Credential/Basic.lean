import HandshakeAuth.X509.Certificate

/-!
Credentials: a chain of X.509 certificates and the private key of its leaf. The facts of the leaf
that selection needs are kept beside it, together with the proof that they are the leaf's.
-/

namespace HandshakeAuth

structure SigningKey where
  octets : Octets
  deriving DecidableEq

def SigningKey.diagnostic (_ : SigningKey) : String :=
  "SigningKey \x7b bytes: \"<redacted>\" \x7d"

structure Credential where
  leaf : Octets
  issuers : List Octets
  key : SigningKey
  certificate : X509.Certificate
  algorithm : PublicKeyAlgorithm
  parse_leaf : X509.parse leaf = .ok certificate
  algorithm_leaf : certificate.algorithm = some algorithm
  deriving DecidableEq

namespace Credential

def chain (credential : Credential) : List Octets :=
  credential.leaf :: credential.issuers

def issuer (credential : Credential) : Octets :=
  credential.certificate.issuer

def format (_ : Credential) : CertificateFormat := .x509

def ofChain (chain : List Octets) (key : SigningKey) : Except AuthError Credential :=
  match chain with
  | [] => .error (.invalidConfig "empty certificate chain")
  | leaf :: issuers =>
    match parse_leaf : X509.parse leaf with
    | .error e => .error e
    | .ok certificate =>
      match algorithm_leaf : certificate.algorithm with
      | none => .error .unsupportedAlgorithm
      | some algorithm =>
        .ok { leaf, issuers, key, certificate, algorithm, parse_leaf, algorithm_leaf }

end Credential
end HandshakeAuth
