import HandshakeAuth.Credential.Store
import HandshakeAuth.Message.CertificateList
import HandshakeAuth.Protocol.Message
import HandshakeAuth.Secret.MasterSecret
import HandshakeAuth.Session.Config

/-!
The authentication state of one end of a connection: what it was configured with, which credential
it chose, what the peer showed, and the secrets. A selection replaces the one before it even when
it fails, and a premaster secret is used up by the derivation unless it is to be kept.
-/

namespace HandshakeAuth

abbrev SignCallback := Octets → SignatureAlgorithm → Octets → Except String Octets

structure Session where
  config : Config
  version : Version
  role : Role
  keyExchange : KeyExchange
  store : Store
  selected : Option Choice
  /-- Whether a client's certificate is under way: requested, seen from the client; received, seen
  from the server. -/
  certificateRequested : Bool
  peerChain : List Octets
  clientRandom : Octets
  serverRandom : Octets
  opaqueInput : Option OpaqueInput
  premaster : Option Octets
  master : Option MasterSecret
  /-- The copy of the master secret for inner use. -/
  inner : Option MasterSecret
  resumed : Bool
  signer : Option SignCallback

namespace Session

def start (config : Config) (version : Version) (role : Role) (store : Store) : Session where
  config := config
  version := version
  role := role
  keyExchange := config.keyExchange
  store := store
  selected := none
  certificateRequested := false
  peerChain := []
  clientRandom := List.replicate 32 0
  serverRandom := List.replicate 32 0
  opaqueInput := none
  premaster := none
  master := none
  inner := none
  resumed := false
  signer := none

def diagnostic (session : Session) : String :=
  "Session \x7b version: " ++ session.version.diagnostic
    ++ ", entity: " ++ session.role.diagnostic
    ++ ", key_exchange: " ++ session.keyExchange.diagnostic
    ++ ", selected: " ++ toString session.selected.isSome
    ++ ", certificate_requested: " ++ toString session.certificateRequested
    ++ ", peer_certificates: " ++ toString session.peerChain.length
    ++ ", has_premaster: " ++ toString session.premaster.isSome
    ++ ", has_master_secret: " ++ toString session.master.isSome
    ++ ", resumed: " ++ toString session.resumed ++ ", .. \x7d"

/-! ### Selection -/

def chosen : Except AuthError (Option Choice) → Option Choice
  | .ok choice => choice
  | .error _ => none

/-- Chooses the credential that answers a CertificateRequest; none is a fair answer. -/
def selectClient (session : Session) (constraints : PeerConstraints) (log : Log) :
    Except AuthError (Option Choice) × Session × Log :=
  let (answer, log) := session.store.selector.selectClient session.store.toHoldings constraints
    session.config.format log
  (answer, { session with selected := chosen answer }, log)

def selectServer (session : Session) (requested : Option PublicKeyAlgorithm) (log : Log) :
    Except AuthError Choice × Session × Log :=
  let (answer, log) := session.store.selector.selectServer session.store.toHoldings requested
    session.config.format log
  let needed : Except AuthError Choice :=
    match answer with
    | .ok (some choice) => .ok choice
    | .ok none => .error .insufficientCredentials
    | .error e => .error e
  (needed, { session with selected := chosen answer }, log)

def selectedCredential (session : Session) : Except AuthError (Option Choice) :=
  match session.role, session.selected with
  | .server, none => .error .insufficientCredentials
  | _, selected => .ok selected

def serves (certificate : X509.Certificate) (algorithm : PublicKeyAlgorithm)
    (keyExchange : KeyExchange) : Bool :=
  keyExchange.serverKey = some algorithm &&
    (match keyExchange.serverUsage with
    | some usage => certificate.allows usage
    | none => true)

def supportedKeyExchanges (session : Session) : List KeyExchange :=
  match session.selected with
  | none => []
  | some choice =>
    match X509.parse choice.credential.leaf with
    | .ok certificate => KeyExchange.all.filter (serves certificate choice.credential.algorithm)
    | .error _ => []

/-! ### Secrets -/

def resume (session : Session) (master : MasterSecret) : Session :=
  { session with master := some master, inner := some master, resumed := true }

/-- Derives the master secret. A resumed session keeps the one it has. The premaster secret is used
up, whether the derivation succeeds or not, unless it is to be kept; the master secret is replaced
only on success. -/
def generateMaster (session : Session) (provider : Provider) (keepPremaster : Bool) :
    Except AuthError Unit × Session :=
  if session.resumed then (.ok (), session)
  else
    match session.premaster with
    | none => (.error (.internalError "no premaster secret"), session)
    | some premaster =>
      let spent := { session with premaster := if keepPremaster then some premaster else none }
      match MasterSecret.derive provider session.version premaster session.clientRandom
          session.serverRandom session.opaqueInput with
      | .ok master => (.ok (), { spent with master := some master, inner := some master })
      | .error e => (.error e, spent)

/-! ### The certificates of the peer -/

/-- What this end needs of the peer's leaf: of a server's certificate, what the key exchange asks
for; of a client's, that it signs. -/
def requiredUsage (session : Session) : Option KeyUsage :=
  match session.role with
  | .client => session.keyExchange.serverUsage
  | .server => some .digitalSignature

def allowsRequired (leaf : X509.Certificate) : Option KeyUsage → Bool
  | none => true
  | some usage => leaf.allows usage

/-- Reads the body of the peer's Certificate message and records the chain. All certificates must be
readable, and the leaf must allow its part. -/
def acceptPeerCertificate (session : Session) (body : Octets) : Except AuthError Session :=
  if body.isEmpty then .error .noCertificateFound
  else do
    let chain ← CertificateList.decode body
    match ← chain.mapM X509.parse with
    | [] => throw .noCertificateFound
    | leaf :: _ =>
      if allowsRequired leaf session.requiredUsage then
        return { session with peerChain := chain }
      else throw .keyUsageViolation

end Session
end HandshakeAuth
