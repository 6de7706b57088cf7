import HandshakeAuth.Der.ObjectIdentifier
import HandshakeAuth.Error
import HandshakeAuth.Protocol.KeyExchange
import HandshakeAuth.X509.Time

/-!
The facts of an X.509 certificate that authentication needs: the DER of issuer and subject, the
public key with its algorithm, and the key usage. The reading stands for the library `x509-parser`
and follows what it accepts: any version number and serial, empty names, key bits of any kind,
unknown or repeated extensions other than the key usage. Signatures, dates and names are not judged,
and octets behind the certificate are reported last.
-/

namespace HandshakeAuth.X509
open Der

structure UsageBits where
  digitalSignature : Bool
  keyEncipherment : Bool
  deriving DecidableEq, Repr

structure Certificate where
  issuer : Octets
  subject : Octets
  algorithm : Option PublicKeyAlgorithm
  publicKey : Octets
  usage : Option UsageBits
  deriving DecidableEq, Repr

namespace Certificate

def allows (certificate : Certificate) (usage : KeyUsage) : Bool :=
  match certificate.usage, usage with
  | none, _ => true
  | some bits, .digitalSignature => bits.digitalSignature
  | some bits, .keyEncipherment => bits.keyEncipherment

def requireAlgorithm (certificate : Certificate) : Except AuthError PublicKeyAlgorithm :=
  match certificate.algorithm with
  | some algorithm => .ok algorithm
  | none => .error .unsupportedAlgorithm

end Certificate

structure Extension where
  identifier : Octets
  value : Octets
  deriving DecidableEq, Repr

def rsaArcs : List Nat := [1, 2, 840, 113549, 1, 1, 1]

def dsaArcs : List Nat := [1, 2, 840, 10040, 4, 1]

/-- The content of the identifier 2.5.29.15. -/
def keyUsageIdentifier : Octets := [0x55, 0x1d, 0x0f]

def algorithmOf? (identifier : Octets) : Option PublicKeyAlgorithm := do
  let arcs ← ObjectIdentifier.arcs? identifier
  if arcs = rsaArcs then some .rsa
  else if arcs = dsaArcs then some .dsa
  else none

/-- The content of an INTEGER is a natural number of at most 32 bits, without a needless zero in
front. -/
def isVersionNumber (content : Octets) : Bool :=
  content.toNat < Octets.capacity 4 &&
    match content with
    | [] => false
    | [b] => b < 0x80
    | b :: c :: _ => b < 0x80 && (b != 0 || 0x80 ≤ c)

def readVersion : Read Unit := do
  match ← Lenient.contextField 0 with
  | none => return
  | some content =>
    let (e, _) ← Lenient.expectPrimitive 2 content
    guard (isVersionNumber e.content)

/-- The identifier of an algorithm. Parameters are an element of any kind and are not looked at. -/
def readAlgorithm : Read Octets :=
  Lenient.sequence do
    let identifier ← Lenient.objectIdentifier
    if ← Read.more then
      let _ ← Lenient.element
    return identifier

def readAttribute : Read Unit :=
  Lenient.sequence do
    let _ ← Lenient.objectIdentifier
    let _ ← Lenient.element

def readRelativeName : Read Unit := Lenient.inside 17 readAttribute

/-- A name, which is a sequence of levels. The answer is its encoding up to the end of the last
level that can be read. -/
def readName : Read Octets := do
  let e ← Lenient.expect 16
  let (_, unread) ← Read.many readRelativeName e.content
  return e.encoding.take (e.encoding.length - unread.length)

def readValidity : Read Unit :=
  Lenient.sequence do
    readTime
    readTime

def readPublicKey : Read (Octets × Octets) :=
  Lenient.sequence do
    let identifier ← readAlgorithm
    return (identifier, ← Lenient.bitString)

def readUniqueIdentifier (number : Nat) : Read Unit := do
  guard ((← Lenient.contextField number) ≠ some [])

def readCriticalMark : Read Unit := do
  let (tag, length) ← Lenient.openHeader
  guard (tag.number = 1 ∧ length = some 1)
  let _ ← Read.octet

def readExtension : Read Extension :=
  Lenient.sequence do
    let identifier ← Lenient.objectIdentifier
    let _ ← Read.optional readCriticalMark
    return { identifier, value := (← Lenient.expectPrimitive 4).content }

/-- The extensions, which close the signed part behind a header of their own. The length in that
header is not looked at. -/
def readExtensions : Read (List Extension) := do
  if ← Read.more then
    let (tag, _) ← Lenient.header
    guard (tag.number = 3)
    let extensions ← Read.whole (Read.all readExtension) (← Lenient.expect 16).content
    guard !(← Read.more)
    return extensions
  else
    return []

structure Outline where
  issuer : Octets
  subject : Octets
  keyIdentifier : Octets
  publicKey : Octets
  extensions : List Extension
  deriving DecidableEq, Repr

def readSigned : Read Outline :=
  Lenient.sequence do
    readVersion
    Lenient.pass 2
    let _ ← readAlgorithm
    let issuer ← readName
    readValidity
    let subject ← readName
    let (keyIdentifier, publicKey) ← readPublicKey
    readUniqueIdentifier 1
    readUniqueIdentifier 2
    return { issuer, subject, keyIdentifier, publicKey, extensions := ← readExtensions }

def readOutline : Read Outline :=
  Lenient.sequence do
    let outline ← readSigned
    let _ ← readAlgorithm
    let _ ← Lenient.bitString
    return outline

/-- The bit of a bit string that stands at `place`, counted from the front of its first octet. -/
def leadingBit (data : Octets) (place : Nat) : Bool :=
  match data with
  | [] => false
  | b :: _ => b.toNat.testBit (7 - place)

/-- The bits in the value of a keyUsage extension: a BIT STRING of which fewer than eight bits are
unused. What follows it is passed over. -/
def usageBits? (value : Octets) : Option UsageBits := do
  let (e, _) ← Lenient.expectPrimitive 3 value
  match e.content with
  | [] => none
  | unused :: data =>
    guard (unused < 8 ∧ Lenient.endsInZeros unused.toNat data)
    return { digitalSignature := leadingBit data 0, keyEncipherment := leadingBit data 2 }

def usage (extensions : List Extension) : Except AuthError (Option UsageBits) :=
  match extensions.filter (·.identifier = keyUsageIdentifier) with
  | [] => .ok none
  | [e] =>
    match usageBits? e.value with
    | some bits => .ok (some bits)
    | none => .error (.certificateParse .malformed)
  | _ => .error (.certificateParse .malformed)

def parse (der : Octets) : Except AuthError Certificate :=
  match readOutline der with
  | none => .error (.certificateParse .malformed)
  | some (outline, rest) =>
    if rest.isEmpty then do
      return {
        issuer := outline.issuer
        subject := outline.subject
        algorithm := algorithmOf? outline.keyIdentifier
        publicKey := outline.publicKey
        usage := ← usage outline.extensions }
    else .error (.certificateParse (.trailing rest.length))

end HandshakeAuth.X509
