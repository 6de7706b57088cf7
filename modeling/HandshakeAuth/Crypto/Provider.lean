import HandshakeAuth.Digest.Hmac
import HandshakeAuth.Rsa.Signature

/-!
The primitives that authentication is built on, and the standard set of them, which stands for one
over the libraries `md-5`, `sha1`, `sha2`, `hmac` and `rsa`. A primitive may be missing; a hash or a
tag is taken of a message that comes in pieces.
-/

namespace HandshakeAuth

structure SignatureScheme where
  sign : (key digest : Octets) → Except CryptoError Octets
  verify : (key digest signature : Octets) → Except CryptoError Unit

structure Provider where
  hash : HashAlgorithm → Except CryptoError (List Octets → Octets)
  tag : HashAlgorithm → Octets → Except CryptoError (List Octets → Octets)
  signature : SignatureAlgorithm → Except CryptoError SignatureScheme

namespace Provider

def supportsHash (provider : Provider) (algorithm : HashAlgorithm) : Bool :=
  (provider.hash algorithm).isOk

def supportsSignature (provider : Provider) (algorithm : SignatureAlgorithm) : Bool :=
  (provider.signature algorithm).isOk

def standard : Provider where
  hash algorithm := .ok algorithm.digest
  tag algorithm key := .ok (algorithm.tag key)
  signature
    | .dsaSha1 => .error (.unsupportedAlgorithm
      (SignatureAlgorithm.dsaSha1.name ++ " is not provided by the RustCrypto backend"))
    | algorithm => .ok { sign := Rsa.sign algorithm, verify := Rsa.verify algorithm }

end Provider
end HandshakeAuth
