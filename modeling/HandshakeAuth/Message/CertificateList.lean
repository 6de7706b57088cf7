import HandshakeAuth.Wire.Length
import HandshakeAuth.Wire.Vectors

/-!
The body of a Certificate message: a list of certificates, leaf first, each behind a length of
three octets, and the whole list behind another. The empty list has two written forms.
-/

namespace HandshakeAuth.CertificateList
open Wire

def checkEntry (certificate : Octets) : Except AuthError Unit :=
  if certificate.isEmpty then .error (.invalidMessage "empty certificate in chain")
  else if certificate.length < Octets.capacity 3 then .ok ()
  else .error
    (.invalidMessage ("certificate of " ++ toString certificate.length ++ " bytes too large"))

def contentLength : List Octets → Nat
  | [] => 0
  | certificate :: certificates => 3 + certificate.length + contentLength certificates

def encode (certificates : List Octets) : Except AuthError Octets := do
  certificates.forM checkEntry
  let field ← lengthField 3 (contentLength certificates)
  return field ++ certificates.flatMap (framed 3)

def entries (content : Octets) : Except AuthError (List Octets) :=
  match splitVectors 3 (by decide) content with
  | (found, rest) =>
    if found.any List.isEmpty then .error (.invalidMessage "zero-length certificate")
    else if rest.isEmpty then .ok found
    else .error .truncatedMessage

/-- Reads a list. A declared length of three announces the old form of the empty list, whose three
octets are skipped. -/
def read : Read (List Octets) := do
  let total ← Read.number 3
  if total = 0 then return []
  else if total = 3 then
    let _ ← Read.take 3
    return []
  else if total < 3 then throw .truncatedMessage
  else
    let content ← Read.take total
    Read.expectEnd "certificate list"
    Read.ofExcept (entries content)

def decode (body : Octets) : Except AuthError (List Octets) :=
  Read.eval read body

end HandshakeAuth.CertificateList
