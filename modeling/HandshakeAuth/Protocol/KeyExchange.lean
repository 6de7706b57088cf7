import HandshakeAuth.Protocol.Algorithm

/-!
What a certificate is needed for: key exchanges, the key and the key usage that each demands of the
server's certificate, and the certificate kinds that a server can ask a client for.
-/

namespace HandshakeAuth

inductive KeyUsage where
  | digitalSignature
  | keyEncipherment
  deriving DecidableEq, Repr

inductive CertificateFormat where
  | x509
  | openPgp
  deriving DecidableEq, Repr

def CertificateFormat.diagnostic : CertificateFormat → String
  | x509 => "X509"
  | openPgp => "OpenPgp"

inductive ClientCertificateType where
  | rsaSign
  | dssSign
  deriving DecidableEq, Repr

namespace ClientCertificateType

def wire : ClientCertificateType → UInt8
  | rsaSign => 1
  | dssSign => 2

def ofWire? (b : UInt8) : Option ClientCertificateType :=
  if b = 1 then some rsaSign else if b = 2 then some dssSign else none

def publicKey : ClientCertificateType → PublicKeyAlgorithm
  | rsaSign => .rsa
  | dssSign => .dsa

def ofPublicKey : PublicKeyAlgorithm → ClientCertificateType
  | .rsa => rsaSign
  | .dsa => dssSign

theorem ofWire?_wire (t : ClientCertificateType) : ofWire? t.wire = some t := by
  cases t <;> rfl

theorem ofWire?_eq_some_iff {b : UInt8} {t : ClientCertificateType} :
    ofWire? b = some t ↔ b = t.wire := by
  constructor
  · intro known
    unfold ofWire? at known
    split at known
    · cases known
      assumption
    · split at known
      · cases known
        assumption
      · contradiction
  · rintro rfl
    exact ofWire?_wire t

theorem wire_injective {s t : ClientCertificateType} (h : s.wire = t.wire) : s = t :=
  (Option.some.inj ((ofWire?_wire t).symm.trans (ofWire?_eq_some_iff.2 h.symm))).symm

theorem publicKey_ofPublicKey (a : PublicKeyAlgorithm) : (ofPublicKey a).publicKey = a := by
  cases a <;> rfl

end ClientCertificateType

inductive KeyExchange where
  | rsa
  | dheRsa
  | dheDss
  | anonDh
  deriving DecidableEq, Repr

namespace KeyExchange

def all : List KeyExchange := [rsa, dheRsa, dheDss, anonDh]

def name : KeyExchange → String
  | rsa => "RSA"
  | dheRsa => "DHE_RSA"
  | dheDss => "DHE_DSS"
  | anonDh => "ANON_DH"

def diagnostic : KeyExchange → String
  | rsa => "Rsa"
  | dheRsa => "DheRsa"
  | dheDss => "DheDss"
  | anonDh => "AnonDh"

def usesCertificates : KeyExchange → Bool
  | anonDh => false
  | _ => true

def serverKey : KeyExchange → Option PublicKeyAlgorithm
  | rsa => some .rsa
  | dheRsa => some .rsa
  | dheDss => some .dsa
  | anonDh => none

/-- The usage that the server's certificate must allow: the key decrypts the premaster secret in
`rsa` and signs the parameters in the ephemeral exchanges. -/
def serverUsage : KeyExchange → Option KeyUsage
  | rsa => some .keyEncipherment
  | dheRsa => some .digitalSignature
  | dheDss => some .digitalSignature
  | anonDh => none

theorem usesCertificates_eq_false_iff {kx : KeyExchange} :
    kx.usesCertificates = false ↔ kx = anonDh := by
  cases kx <;> simp [usesCertificates]

end KeyExchange
end HandshakeAuth
