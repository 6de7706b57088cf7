import HandshakeAuth.Secret.Expansion
import HandshakeAuth.Secret.Prf

/-!
The master secret: 48 octets that both ends derive from the premaster secret and the randoms of
their hellos. On TLS both may have salted the seed with an opaque input.
-/

namespace HandshakeAuth

structure MasterSecret where
  octets : Octets
  length_octets : octets.length = 48
  deriving DecidableEq

structure OpaqueInput where
  client : Octets
  server : Octets
  deriving DecidableEq, Repr

def OpaqueInput.isComplete (input : OpaqueInput) : Bool :=
  !input.client.isEmpty && !input.server.isEmpty

namespace MasterSecret

def length : Nat := 48

def ofOctets? (octets : Octets) : Option MasterSecret :=
  if h : octets.length = 48 then some ⟨octets, h⟩ else none

def diagnostic (_ : MasterSecret) : String :=
  "MasterSecret(\"<redacted>\")"

/-- The letters of "master secret". -/
def label : Octets :=
  [0x6d, 0x61, 0x73, 0x74, 0x65, 0x72, 0x20, 0x73, 0x65, 0x63, 0x72, 0x65, 0x74]

/-- The seed on TLS: each random, followed by the opaque input of its end if both sent one. -/
def seed (clientRandom serverRandom : Octets) (input : Option OpaqueInput) : Octets :=
  match input with
  | some input =>
    if input.isComplete then clientRandom ++ input.client ++ serverRandom ++ input.server
    else clientRandom ++ serverRandom
  | none => clientRandom ++ serverRandom

def material (provider : Provider) (version : Version)
    (premaster clientRandom serverRandom : Octets) (input : Option OpaqueInput) :
    Except AuthError Octets :=
  match PrfAlgorithm.ofVersion? version with
  | none => Expansion.expand provider premaster (clientRandom ++ serverRandom) length
  | some algorithm =>
    algorithm.compute provider premaster label (seed clientRandom serverRandom input) length

def derive (provider : Provider) (version : Version)
    (premaster clientRandom serverRandom : Octets) (input : Option OpaqueInput) :
    Except AuthError MasterSecret :=
  match material provider version premaster clientRandom serverRandom input with
  | .error _ => .error .derivationFailed
  | .ok octets =>
    match ofOctets? octets with
    | some master => .ok master
    | none => .error .derivationFailed

end MasterSecret
end HandshakeAuth
