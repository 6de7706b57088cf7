import HandshakeAuth.Protocol.Version

/-!
Names, sizes and registry numbers of the hash, public-key and signature algorithms, and the scheme
that a key signs with on each protocol version.
-/

namespace HandshakeAuth

inductive HashAlgorithm where
  | md5
  | sha1
  | sha256
  | sha384
  deriving DecidableEq, Repr

namespace HashAlgorithm

def all : List HashAlgorithm := [md5, sha1, sha256, sha384]

def name : HashAlgorithm → String
  | md5 => "MD5"
  | sha1 => "SHA-1"
  | sha256 => "SHA-256"
  | sha384 => "SHA-384"

def diagnostic : HashAlgorithm → String
  | md5 => "Md5"
  | sha1 => "Sha1"
  | sha256 => "Sha256"
  | sha384 => "Sha384"

def size : HashAlgorithm → Nat
  | md5 => 16
  | sha1 => 20
  | sha256 => 32
  | sha384 => 48

def blockSize : HashAlgorithm → Nat
  | sha384 => 128
  | _ => 64

def wire : HashAlgorithm → Nat
  | md5 => 1
  | sha1 => 2
  | sha256 => 4
  | sha384 => 5

def ofWire? : Nat → Option HashAlgorithm
  | 1 => some md5
  | 2 => some sha1
  | 4 => some sha256
  | 5 => some sha384
  | _ => none

theorem ofWire?_wire (h : HashAlgorithm) : ofWire? h.wire = some h := by
  cases h <;> rfl

theorem size_pos (h : HashAlgorithm) : 0 < h.size := by
  cases h <;> decide

theorem size_le_blockSize (h : HashAlgorithm) : h.size ≤ h.blockSize := by
  cases h <;> decide

end HashAlgorithm

inductive PublicKeyAlgorithm where
  | rsa
  | dsa
  deriving DecidableEq, Repr

namespace PublicKeyAlgorithm

def name : PublicKeyAlgorithm → String
  | rsa => "RSA"
  | dsa => "DSA"

end PublicKeyAlgorithm

inductive SignatureAlgorithm where
  | rsaPkcs1Md5Sha1
  | rsaPkcs1Sha256
  | dsaSha1
  deriving DecidableEq, Repr

namespace SignatureAlgorithm

def all : List SignatureAlgorithm := [rsaPkcs1Md5Sha1, rsaPkcs1Sha256, dsaSha1]

def name : SignatureAlgorithm → String
  | rsaPkcs1Md5Sha1 => "rsa_pkcs1_md5_sha1"
  | rsaPkcs1Sha256 => "rsa_pkcs1_sha256"
  | dsaSha1 => "dsa_sha1"

def digestLength : SignatureAlgorithm → Nat
  | rsaPkcs1Md5Sha1 => 36
  | rsaPkcs1Sha256 => 32
  | dsaSha1 => 20

/-- The scheme that a key of `key` signs with: TLS 1.2 alone names the hash of an RSA signature. -/
def ofKey (version : Version) (key : PublicKeyAlgorithm) : SignatureAlgorithm :=
  match key, version with
  | .rsa, .tls12 => rsaPkcs1Sha256
  | .rsa, _ => rsaPkcs1Md5Sha1
  | .dsa, _ => dsaSha1

end SignatureAlgorithm
end HandshakeAuth
