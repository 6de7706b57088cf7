import HandshakeAuth.Crypto.Error
import HandshakeAuth.Protocol.Algorithm
import HandshakeAuth.Rsa.Arithmetic
import HandshakeAuth.Rsa.Key

/-!
PKCS#1 v1.5 signatures of digests, in place of the library `rsa`. The padding is deterministic: a
signature is the number whose power is the padded digest, so verification compares that power with
the one padded digest there is. Signing checks its result before it is given away, and verification
takes no signature shorter or longer than the modulus.
-/

namespace HandshakeAuth.Rsa

def sha256Info : Octets :=
  [0x30, 0x31, 0x30, 0x0d, 0x06, 0x09, 0x60, 0x86, 0x48, 0x01, 0x65, 0x03, 0x04, 0x02, 0x01, 0x05,
    0x00, 0x04, 0x20]

def digestInfo (algorithm : SignatureAlgorithm) (digest : Octets) : Octets :=
  match algorithm with
  | .rsaPkcs1Sha256 => sha256Info ++ digest
  | _ => digest

/-- The padded form of `size` octets, if at least eight octets of padding fit. -/
def padded? (size : Nat) (info : Octets) : Option Octets :=
  if info.length + 11 ≤ size then
    some ([0, 1] ++ List.replicate (size - info.length - 3) 0xff ++ [0] ++ info)
  else none

/-- The root of `m`: worked out modulo each factor and put together where the factors are coprime,
else modulo the whole. -/
def PrivateKey.root (key : PrivateKey) (m : Nat) : Nat :=
  match inverse? key.q key.p with
  | some qInverse =>
    let modP := powMod m (key.secret % (key.p - 1)) key.p
    let modQ := powMod m (key.secret % (key.q - 1)) key.q
    let h := (modP + (key.p - modQ % key.p)) * qInverse % key.p
    h * key.q + modQ
  | none => powMod m key.secret key.modulus

def checkDigest (algorithm : SignatureAlgorithm) (digest : Octets) : Except CryptoError Unit :=
  if digest.length = algorithm.digestLength then .ok ()
  else .error (.failed (algorithm.name ++ " expects a " ++ toString algorithm.digestLength
    ++ "-byte digest, got " ++ toString digest.length))

def PrivateKey.sign (key : PrivateKey) (info : Octets) : Except CryptoError Octets :=
  match padded? key.size info with
  | none => .error (.failed "RSA signing failed: message too long")
  | some text =>
    let m := Octets.toNat text
    let s := key.root m
    if powMod s key.exponent key.modulus = m then .ok (Octets.ofNat key.size s)
    else .error (.failed "RSA signing failed: internal error")

def PublicKey.verifies (key : PublicKey) (info signature : Octets) : Bool :=
  let s := Octets.toNat signature
  signature.length = key.size && s < key.modulus
    && padded? key.size info = some (Octets.ofNat key.size (powMod s key.exponent key.modulus))

def sign (algorithm : SignatureAlgorithm) (keyDer digest : Octets) :
    Except CryptoError Octets := do
  checkDigest algorithm digest
  match PrivateKey.ofDer? keyDer with
  | none => throw .invalidPrivateKey
  | some key => key.sign (digestInfo algorithm digest)

def verify (algorithm : SignatureAlgorithm) (keyDer digest signature : Octets) :
    Except CryptoError Unit := do
  checkDigest algorithm digest
  match PublicKey.ofDer? keyDer with
  | none => throw .invalidPublicKey
  | some key =>
    if key.verifies (digestInfo algorithm digest) signature then return
    else throw .signatureMismatch

end HandshakeAuth.Rsa
