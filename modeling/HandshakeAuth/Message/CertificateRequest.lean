import HandshakeAuth.Protocol.KeyExchange
import HandshakeAuth.Wire.Length
import HandshakeAuth.Wire.Vectors

/-!
The body of a CertificateRequest message: the kinds of certificate that a server accepts, on
TLS 1.2 the hashes, and the distinguished names of the issuers that it trusts.
-/

namespace HandshakeAuth

structure CertificateRequest where
  types : List ClientCertificateType
  hashes : Octets
  issuers : List Octets
  deriving DecidableEq, Repr

namespace CertificateRequest
open Wire

def encodeIssuer (name : Octets) : Except AuthError Octets :=
  if name.isEmpty then .error (.invalidMessage "empty distinguished name")
  else vector 2 name

def encodeHashes (version : Version) (hashes : Octets) : Except AuthError Octets :=
  if version.listsHashes then vector 1 hashes else .ok []

def encode (request : CertificateRequest) (version : Version) : Except AuthError Octets := do
  let names ← request.issuers.mapM encodeIssuer
  let types ← vector 1 (request.types.map ClientCertificateType.wire)
  let hashes ← encodeHashes version request.hashes
  let issuers ← vector 2 names.flatten
  return types ++ hashes ++ issuers

/-- The body of a server that accepts both kinds of certificate and whose issuer list is already
written. -/
def encodeServer (version : Version) (issuerList : Octets) : Except AuthError Octets := do
  let types ← vector 1 ([.rsaSign, .dssSign].map ClientCertificateType.wire)
  let hashes ← encodeHashes version []
  let issuers ← vector 2 issuerList
  return types ++ hashes ++ issuers

/-- The supported kinds among the octets, each once, in the order of their first occurrence. -/
def knownTypes (octets : Octets) : List ClientCertificateType :=
  (octets.filterMap ClientCertificateType.ofWire?).eraseDups

/-- The names in a written issuer list; names of no octets are dropped. -/
def decodeIssuers (content : Octets) : Except AuthError (List Octets) :=
  match splitVectors 2 (by decide) content with
  | (names, rest) =>
    if rest.isEmpty then .ok (names.filter (!·.isEmpty)) else .error .truncatedMessage

/-- Reads a request. Kinds that are not supported are skipped, but one must be left. -/
def read (version : Version) : Read CertificateRequest := do
  let types := knownTypes (← Read.vector 1)
  if types.isEmpty then
    throw .unsupportedAlgorithm
  let hashes ← if version.listsHashes then Read.vector 1 else pure []
  let content ← Read.vector 2
  let issuers ← Read.ofExcept (decodeIssuers content)
  Read.expectEnd "CertificateRequest"
  return { types, hashes, issuers }

def decode (body : Octets) (version : Version) : Except AuthError CertificateRequest :=
  Read.eval (read version) body

end CertificateRequest
end HandshakeAuth
