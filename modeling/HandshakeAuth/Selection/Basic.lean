import HandshakeAuth.Credential.Basic
import HandshakeAuth.Message.CertificateRequest

/-!
Choosing a credential. The standing rule takes the first match in the order of the peer's issuers
and of the store; an application may decide in its place, or replace the rule altogether.
-/

namespace HandshakeAuth

structure Holdings where
  entries : List Credential
  trustedIssuers : List Octets
  issuerList : Octets

/-- A chosen credential: one that is held, with its place, or one from elsewhere. -/
inductive Choice where
  | held (place : Nat) (credential : Credential)
  | foreign (credential : Credential)

namespace Choice

def credential : Choice → Credential
  | held _ credential => credential
  | foreign credential => credential

def place? : Choice → Option Nat
  | held place _ => some place
  | foreign _ => none

end Choice

namespace Holdings

def choices (holdings : Holdings) : List Choice :=
  holdings.entries.zipIdx.map fun (credential, place) => .held place credential

def choice? (holdings : Holdings) (place : Nat) : Option Choice :=
  (holdings.entries[place]?).map (.held place)

end Holdings

structure PeerConstraints where
  algorithms : List PublicKeyAlgorithm
  issuers : List Octets
  deriving DecidableEq, Repr

namespace PeerConstraints

def accepts (constraints : PeerConstraints) (algorithm : PublicKeyAlgorithm) : Bool :=
  constraints.algorithms.contains algorithm

def ofRequest (request : CertificateRequest) : PeerConstraints where
  algorithms := request.types.map ClientCertificateType.publicKey
  issuers := request.issuers

end PeerConstraints

inductive Consultation where
  | client (entries : Nat) (issuers : List Octets) (algorithms : List PublicKeyAlgorithm)
  | server (entries : Nat) (requested : Option PublicKeyAlgorithm)
  | sign (leaf : Octets) (algorithm : SignatureAlgorithm) (digest : Octets)
  deriving DecidableEq, Repr

abbrev Log := List Consultation

namespace Log

def clientCalls (log : Log) : Nat :=
  log.countP fun | .client .. => true | _ => false

def serverCalls (log : Log) : Nat :=
  log.countP fun | .server .. => true | _ => false

end Log

abbrev Answer := Except String (Option Choice)

/-- Picks a client credential. The first argument counts the calls before this one; then come the
holdings and the peer's issuers and algorithms. -/
abbrev ClientCallback := Nat → Holdings → List Octets → List PublicKeyAlgorithm → Answer

abbrev ServerCallback := Nat → Holdings → Option PublicKeyAlgorithm → Answer

structure Strategy where
  diagnostic : String
  client : Holdings → PeerConstraints → CertificateFormat → Except AuthError (Option Choice)
  server : Holdings → Option PublicKeyAlgorithm → CertificateFormat →
    Except AuthError (Option Choice)

inductive Selector where
  | heuristic
  | callbacks (client : Option ClientCallback) (server : Option ServerCallback)
  | custom (strategy : Strategy)

namespace Selector

def diagnostic : Selector → String
  | heuristic => "HeuristicSelector"
  | callbacks client server => "CallbackSelector \x7b client: " ++ toString client.isSome
    ++ ", server: " ++ toString server.isSome ++ " \x7d"
  | custom strategy => strategy.diagnostic

/-- The standing rule for a client: the first issuer, and for it the first entry, that match. -/
def heuristicClient (holdings : Holdings) (constraints : PeerConstraints)
    (format : CertificateFormat) : Option Choice :=
  if format = .x509 then
    constraints.issuers.findSome? fun issuer =>
      holdings.choices.find? fun choice =>
        choice.credential.issuer = issuer && constraints.accepts choice.credential.algorithm
  else none

def satisfies (credential : Credential) (requested : Option PublicKeyAlgorithm) : Bool :=
  match requested with
  | none => true
  | some algorithm => credential.algorithm = algorithm

def heuristicServer (holdings : Holdings) (requested : Option PublicKeyAlgorithm)
    (format : CertificateFormat) : Option Choice :=
  holdings.choices.find? fun choice =>
    satisfies choice.credential requested && choice.credential.format = format

/-- What becomes of an application's answer: a failure ends the handshake, and a credential must
have the negotiated format. -/
def judge (answer : Answer) (format : CertificateFormat) : Except AuthError (Option Choice) :=
  match answer with
  | .error text => .error (.internalError ("certificate selection callback failed: " ++ text))
  | .ok none => .ok none
  | .ok (some choice) =>
    if choice.credential.format = format then .ok (some choice)
    else .error (.invalidRequest ("callback returned a " ++ choice.credential.format.diagnostic
      ++ " certificate, " ++ format.diagnostic ++ " was negotiated"))

/-- The issuers that an application is shown: they mean something for X.509 only. -/
def shownIssuers (constraints : PeerConstraints) (format : CertificateFormat) : List Octets :=
  if format = .x509 then constraints.issuers else []

def selectClient (selector : Selector) (holdings : Holdings) (constraints : PeerConstraints)
    (format : CertificateFormat) (log : Log) : Except AuthError (Option Choice) × Log :=
  match selector with
  | heuristic => (.ok (heuristicClient holdings constraints format), log)
  | custom strategy => (strategy.client holdings constraints format, log)
  | callbacks none _ => (.ok (heuristicClient holdings constraints format), log)
  | callbacks (some callback) _ =>
    let issuers := shownIssuers constraints format
    let answer := callback log.clientCalls holdings issuers constraints.algorithms
    (judge answer format,
      log ++ [.client holdings.entries.length issuers constraints.algorithms])

def selectServer (selector : Selector) (holdings : Holdings)
    (requested : Option PublicKeyAlgorithm) (format : CertificateFormat) (log : Log) :
    Except AuthError (Option Choice) × Log :=
  match selector with
  | heuristic => (.ok (heuristicServer holdings requested format), log)
  | custom strategy => (strategy.server holdings requested format, log)
  | callbacks _ none => (.ok (heuristicServer holdings requested format), log)
  | callbacks _ (some callback) =>
    (judge (callback log.serverCalls holdings requested) format,
      log ++ [.server holdings.entries.length requested])

end Selector
end HandshakeAuth
