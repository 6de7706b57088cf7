import HandshakeAuth.Error
import HandshakeAuth.Protocol.KeyExchange

/-!
The configuration of a session, and how hard a server insists on a client certificate.
-/

namespace HandshakeAuth

inductive RequestPolicy where
  | ignore
  | request
  | require
  deriving DecidableEq, Repr

structure Config where
  policy : RequestPolicy := .ignore
  hidesIssuers : Bool := false
  format : CertificateFormat := .x509
  keyExchange : KeyExchange := .rsa
  deriving DecidableEq, Repr

/-- A configuration that can be served: there are no OpenPGP credentials. -/
def Config.check (config : Config) : Except AuthError Config :=
  if config.format = .openPgp then
    .error (.invalidConfig "OpenPGP certificates are not supported")
  else .ok config

end HandshakeAuth
