import HandshakeAuth.Crypto.Provider
import HandshakeAuth.Error

/-!
The expansion of secrets in SSL 3.0: rounds of MD5 over SHA-1, each salted with a letter of the
alphabet. The round and the letter are single octets; the alphabet is exhausted after 26 rounds.
-/

namespace HandshakeAuth.Expansion

def limit : Nat := 416

structure Progress where
  round : UInt8
  output : Octets

def start : Progress where
  round := 0
  output := []

/-- The salt of a round: A, then BB, then CCC. -/
def salt (round : UInt8) : Octets :=
  List.replicate (round.toNat + 1) (65 + round)

def block (sha1 md5 : List Octets → Octets) (secret seed : Octets) (round : UInt8) : Octets :=
  md5 [secret, sha1 [salt round, secret, seed]]

def advance (sha1 md5 : List Octets → Octets) (secret seed : Octets) (length : Nat)
    (progress : Progress) : Progress where
  round := progress.round + 1
  output := progress.output ++
    (block sha1 md5 secret seed progress.round).take (length - progress.output.length)

def rounds (sha1 md5 : List Octets → Octets) (secret seed : Octets) (length : Nat) :
    Nat → Progress → Progress
  | 0, progress => progress
  | fuel + 1, progress =>
    if progress.output.length < length then
      rounds sha1 md5 secret seed length fuel (advance sha1 md5 secret seed length progress)
    else progress

/-- `length` octets from as many rounds as it takes. As no block is empty, as many rounds as octets
are enough. -/
def stretch (sha1 md5 : List Octets → Octets) (secret seed : Octets) (length : Nat) : Octets :=
  (rounds sha1 md5 secret seed length length start).output

def expand (provider : Provider) (secret seed : Octets) (length : Nat) :
    Except AuthError Octets :=
  if limit < length then
    .error (.invalidMessage
      ("SSL 3.0 expansion limited to 416 bytes, asked for " ++ toString length))
  else if length = 0 then .ok []
  else
    match provider.hash .sha1, provider.hash .md5 with
    | .ok sha1, .ok md5 => .ok (stretch sha1 md5 secret seed length)
    | .error e, _ => .error (.crypto e)
    | _, .error e => .error (.crypto e)

end HandshakeAuth.Expansion
