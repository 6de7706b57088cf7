/-!
Why a cryptographic primitive refuses, and the text of each refusal.
-/

namespace HandshakeAuth

inductive CryptoError where
  | unsupportedAlgorithm (algorithm : String)
  | invalidKeyLength
  | signatureMismatch
  | invalidSignature
  | invalidPublicKey
  | invalidPrivateKey
  | failed (reason : String)
  | internal (reason : String)
  deriving DecidableEq, Repr

namespace CryptoError

def message : CryptoError → String
  | unsupportedAlgorithm algorithm => "algorithm not supported: " ++ algorithm
  | invalidKeyLength => "invalid key length"
  | signatureMismatch => "signature verification failed"
  | invalidSignature => "invalid signature format"
  | invalidPublicKey => "invalid public key"
  | invalidPrivateKey => "invalid private key"
  | failed reason => "cryptographic error: " ++ reason
  | internal reason => "internal error: " ++ reason

def blamesSignature : CryptoError → Bool
  | signatureMismatch => true
  | invalidSignature => true
  | _ => false

end CryptoError
end HandshakeAuth
