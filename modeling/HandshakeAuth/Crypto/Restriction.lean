import HandshakeAuth.Crypto.Provider

/-!
Sets of primitives that lack some, fail on purpose, or have a stand-in for DSA: what a deployment
does without, and what a failing device looks like.
-/

namespace HandshakeAuth

structure Restriction where
  deniedHashes : List HashAlgorithm := []
  deniedTags : List HashAlgorithm := []
  deniedSignatures : List SignatureAlgorithm := []
  dsaStandIn : Bool := false
  signError : Option CryptoError := none
  verifyError : Option CryptoError := none

namespace Restriction

/-- A stand-in for DSA: a mark and the digest, under every key. -/
def standIn : SignatureScheme where
  sign _ digest := .ok (mark ++ digest)
  verify _ digest signature :=
    if signature = mark ++ digest then .ok () else .error .signatureMismatch
where
  mark : Octets := [0x64, 0x73, 0x61]

def disturb (restriction : Restriction) (scheme : SignatureScheme) : SignatureScheme where
  sign key digest :=
    match restriction.signError with
    | some e => .error e
    | none => scheme.sign key digest
  verify key digest signature :=
    match restriction.verifyError with
    | some e => .error e
    | none => scheme.verify key digest signature

def apply (restriction : Restriction) (provider : Provider) : Provider where
  hash algorithm :=
    if algorithm ∈ restriction.deniedHashes then .error (.unsupportedAlgorithm algorithm.name)
    else provider.hash algorithm
  tag algorithm key :=
    if algorithm ∈ restriction.deniedTags then .error (.unsupportedAlgorithm algorithm.name)
    else provider.tag algorithm key
  signature algorithm := do
    if algorithm ∈ restriction.deniedSignatures then
      throw (.unsupportedAlgorithm algorithm.name)
    if algorithm = .dsaSha1 ∧ restriction.dsaStandIn then
      return restriction.disturb standIn
    return restriction.disturb (← provider.signature algorithm)

end Restriction
end HandshakeAuth
