import HandshakeAuth.Selection.Basic

/-!
Credential stores and how they are assembled: key pairs and trusted issuers are collected in steps,
and only the finished collection is read and checked.
-/

namespace HandshakeAuth

structure Store extends Holdings where
  selector : Selector

inductive TrustedIssuer where
  | certificate (der : Octets)
  | name (der : Octets)
  deriving DecidableEq, Repr

/-- The name of the issuer: of a certificate, the subject's. -/
def TrustedIssuer.resolve : TrustedIssuer → Except AuthError Octets
  | certificate der => do return (← X509.parse der).subject
  | name der => .ok der

structure StoreBuilder where
  keyPairs : List (List Octets × SigningKey) := []
  trustedIssuers : List TrustedIssuer := []
  clientCallback : Option ClientCallback := none
  serverCallback : Option ServerCallback := none
  strategy : Option Strategy := none

namespace StoreBuilder

inductive Step where
  | keyPair (chain : List Octets) (key : SigningKey)
  | trustIssuer (issuer : TrustedIssuer)
  | clientCallback (callback : ClientCallback)
  | serverCallback (callback : ServerCallback)
  | strategy (strategy : Strategy)
  | clearKeyPairs
  | clearTrustedIssuers

def apply (builder : StoreBuilder) : Step → StoreBuilder
  | .keyPair chain key => { builder with keyPairs := builder.keyPairs ++ [(chain, key)] }
  | .trustIssuer issuer =>
    { builder with trustedIssuers := builder.trustedIssuers ++ [issuer] }
  | .clientCallback callback => { builder with clientCallback := some callback }
  | .serverCallback callback => { builder with serverCallback := some callback }
  | .strategy strategy => { builder with strategy := some strategy }
  | .clearKeyPairs => { builder with keyPairs := [] }
  | .clearTrustedIssuers => { builder with trustedIssuers := [] }

def ofSteps (steps : List Step) : StoreBuilder :=
  steps.foldl apply {}

def diagnostic (builder : StoreBuilder) : String :=
  "CertificateCredentialsBuilder \x7b key_pairs: " ++ toString builder.keyPairs.length
    ++ ", trusted_issuers: " ++ toString builder.trustedIssuers.length
    ++ ", client_callback: " ++ toString builder.clientCallback.isSome
    ++ ", server_callback: " ++ toString builder.serverCallback.isSome
    ++ ", selector: "
    ++ (match builder.strategy with
      | some strategy => "Some(" ++ strategy.diagnostic ++ ")"
      | none => "None")
    ++ " \x7d"

def encodeName (name : Octets) : Except AuthError Octets :=
  if name.isEmpty then .error (.invalidConfig "empty trusted issuer name")
  else Wire.vector 2 name

def encodeNames (names : List Octets) : Except AuthError Octets := do
  let written := (← names.mapM encodeName).flatten
  if written.length < Octets.capacity 2 then
    return written
  else
    throw (.invalidConfig ("trusted issuer list of " ++ toString written.length
      ++ " bytes does not fit in a CertificateRequest"))

def selector (builder : StoreBuilder) : Selector :=
  match builder.strategy with
  | some strategy => .custom strategy
  | none =>
    if builder.clientCallback.isSome || builder.serverCallback.isSome then
      .callbacks builder.clientCallback builder.serverCallback
    else .heuristic

/-- The finished store. Key pairs are checked first, then issuers, then the list of their names. -/
def build (builder : StoreBuilder) : Except AuthError Store := do
  let entries ← builder.keyPairs.mapM fun (chain, key) => Credential.ofChain chain key
  let trustedIssuers ← builder.trustedIssuers.mapM TrustedIssuer.resolve
  let issuerList ← encodeNames trustedIssuers
  return { entries, trustedIssuers, issuerList, selector := builder.selector }

end StoreBuilder
end HandshakeAuth
