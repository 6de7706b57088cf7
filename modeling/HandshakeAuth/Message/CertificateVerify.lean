import HandshakeAuth.Wire.Read
import HandshakeAuth.Wire.Length

/-!
The body of a CertificateVerify message: a signature behind a length of two octets. Its algorithm
follows from the signer's certificate and is not carried.
-/

namespace HandshakeAuth.CertificateVerify
open Wire

def encode (signature : Octets) : Except AuthError Octets :=
  vector 2 signature

def read : Read Octets := do
  let signature ← Read.vector 2
  Read.expectEnd "CertificateVerify"
  return signature

def decode (body : Octets) : Except AuthError Octets :=
  Read.eval read body

end HandshakeAuth.CertificateVerify
