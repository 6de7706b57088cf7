import HandshakeAuth.Crypto.Provider
import HandshakeAuth.Error
import HandshakeAuth.Protocol.Version

/-!
The pseudorandom functions of TLS: a chain of tags stretched to the wanted length, under one hash,
or under MD5 and SHA-1 with a half of the secret each.
-/

namespace HandshakeAuth

inductive PrfAlgorithm where
  | md5Sha1
  | single (hash : HashAlgorithm)
  deriving DecidableEq, Repr

namespace PrfAlgorithm

def ofVersion? : Version → Option PrfAlgorithm
  | .ssl3 => none
  | .tls10 => some md5Sha1
  | .tls11 => some md5Sha1
  | .tls12 => some (single .sha256)

def diagnostic : PrfAlgorithm → String
  | md5Sha1 => "Md5Sha1"
  | single hash => "Single(" ++ hash.diagnostic ++ ")"

def instanceDiagnostic (algorithm : PrfAlgorithm) : String :=
  "Prf \x7b algorithm: " ++ algorithm.diagnostic ++ " \x7d"

/-- The next `wanted` octets, where `a` is the last link of the chain of tags. Every block is cut to
what is wanted, and at most `fuel` blocks are made. -/
def stretch.go (tag : List Octets → Octets) (seed : Octets) : Nat → Octets → Nat → Octets
  | 0, _, _ => []
  | fuel + 1, a, wanted =>
    if wanted = 0 then []
    else
      let next := tag [a]
      let block := (tag [next, seed]).take wanted
      block ++ go tag seed fuel next (wanted - block.length)

def stretch (tag : List Octets → Octets) (seed : Octets) (length : Nat) : Octets :=
  stretch.go tag seed length seed length

/-- The first `length` octets under one hash. A primitive is asked for only if octets are wanted. -/
def hashStream (provider : Provider) (hash : HashAlgorithm) (secret seed : Octets) (length : Nat) :
    Except AuthError Octets :=
  if length = 0 then .ok []
  else
    match provider.tag hash secret with
    | .ok tag => .ok (stretch tag seed length)
    | .error e => .error (.crypto e)

def frontHalf (secret : Octets) : Octets :=
  secret.take ((secret.length + 1) / 2)

def backHalf (secret : Octets) : Octets :=
  secret.drop (secret.length - (secret.length + 1) / 2)

def compute (algorithm : PrfAlgorithm) (provider : Provider) (secret label seed : Octets)
    (length : Nat) : Except AuthError Octets :=
  match algorithm with
  | single hash => hashStream provider hash secret (label ++ seed) length
  | md5Sha1 => do
    let md5 ← hashStream provider .md5 (frontHalf secret) (label ++ seed) length
    let sha1 ← hashStream provider .sha1 (backHalf secret) (label ++ seed) length
    return Octets.xor md5 sha1

end PrfAlgorithm
end HandshakeAuth
