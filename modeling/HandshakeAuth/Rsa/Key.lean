import HandshakeAuth.Der.Canonical

/-!
RSA keys and their DER forms, in place of the library `rsa`: a bare PKCS#1 key, or one wrapped
together with the identifier of its algorithm, as PKCS#8 and certificates carry it. Followed is what
that library accepts: strict DER, two prime factors, odd moduli and exponents within its bounds,
and public moduli of at most 4096 bits. What cannot be a key is refused when it is read.
-/

namespace HandshakeAuth.Rsa
open Der

structure PublicKey where
  modulus : Nat
  exponent : Nat
  deriving DecidableEq, Repr

structure PrivateKey extends PublicKey where
  secret : Nat
  p : Nat
  q : Nat
  deriving DecidableEq, Repr

namespace PublicKey

def bits (key : PublicKey) : Nat :=
  if key.modulus = 0 then 0 else Nat.log2 key.modulus + 1

def size (key : PublicKey) : Nat :=
  (key.bits + 7) / 8

def Admissible (key : PublicKey) : Prop :=
  key.modulus % 2 = 1 ∧ key.exponent % 2 = 1 ∧ 3 ≤ key.exponent ∧ key.exponent < 0x200000000
    ∧ key.exponent < key.modulus

instance (key : PublicKey) : Decidable key.Admissible := by
  unfold Admissible
  infer_instance

end PublicKey

namespace PrivateKey

/-- The factors multiply to the modulus, and the secret exponent undoes the public one modulo each
factor less one. -/
def Consistent (key : PrivateKey) : Prop :=
  1 < key.p ∧ 1 < key.q ∧ key.modulus = key.p * key.q
    ∧ key.secret * key.exponent % (key.p - 1) = 1 % (key.p - 1)
    ∧ key.secret * key.exponent % (key.q - 1) = 1 % (key.q - 1)

instance (key : PrivateKey) : Decidable key.Consistent := by
  unfold Consistent
  infer_instance

end PrivateKey

/-- The content of the identifier 1.2.840.113549.1.1.1. -/
def encryptionIdentifier : Octets := [0x2a, 0x86, 0x48, 0x86, 0xf7, 0x0d, 0x01, 0x01, 0x01]

def readAlgorithm : Read Unit :=
  Canonical.sequence do
    let identifier ← Canonical.objectIdentifier
    guard (identifier = encryptionIdentifier)
    Canonical.null

def readPublicKey : Read PublicKey :=
  Canonical.sequence do
    return { modulus := ← Canonical.natural, exponent := ← Canonical.natural }

/-- A bare private key of version 0. The three numbers at its end only speed up signing and are not
kept. -/
def readPrivateKey : Read PrivateKey :=
  Canonical.sequence do
    let version ← Canonical.natural
    guard (version = 0)
    let modulus ← Canonical.natural
    let exponent ← Canonical.natural
    let secret ← Canonical.natural
    let p ← Canonical.natural
    let q ← Canonical.natural
    let _ ← Canonical.natural
    let _ ← Canonical.natural
    let _ ← Canonical.natural
    return { modulus, exponent, secret, p, q }

def readWrappedPublicKey : Read PublicKey :=
  Canonical.sequence do
    readAlgorithm
    Read.whole readPublicKey (← Canonical.bitOctets 0x03)

def readAttributes : Read Unit := do
  let e ← Canonical.element
  guard (e.identifier = 0x80 ∨ e.identifier = 0xa0)

/-- A private key in an octet string behind its version and its algorithm. Attributes may follow,
then in version 1, and only there, the octets of the public key, then further fields. Nothing but
the private key itself is looked at. -/
def readWrappedPrivateKey : Read PrivateKey :=
  Canonical.sequence do
    let version ← Canonical.natural
    guard (version < 2)
    readAlgorithm
    let content ← Canonical.octetString
    Read.many readAttributes
    guard ((← Read.peek) ≠ some 0xa1)
    let publicKey ← Read.optional (Canonical.bitOctets 0x81)
    guard (publicKey.isSome ↔ version = 1)
    Read.many Canonical.explicitField
    Read.whole readPrivateKey content

def PublicKey.ofDer? (der : Octets) : Option PublicKey := do
  let key ← Read.whole readPublicKey der <|> Read.whole readWrappedPublicKey der
  guard (key.Admissible ∧ key.bits ≤ 4096)
  return key

def PrivateKey.ofDer? (der : Octets) : Option PrivateKey := do
  let key ← Read.whole readWrappedPrivateKey der <|> Read.whole readPrivateKey der
  guard (key.Admissible ∧ key.Consistent)
  return key

end HandshakeAuth.Rsa
