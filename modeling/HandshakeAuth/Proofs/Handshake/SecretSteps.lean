import HandshakeAuth.Proofs.Handshake.ClientSteps
import HandshakeAuth.Proofs.Handshake.ServerSide

/-! What an operation does to the secrets of a session. Only five kinds have anything to do with
them, so an argument about secrets has one case for each of these and one for all the others. -/

namespace HandshakeAuth

structure Secrets where
  version : Version
  clientRandom : Octets
  serverRandom : Octets
  opaqueInput : Option OpaqueInput
  premaster : Option Octets
  master : Option MasterSecret
  inner : Option MasterSecret
  resumed : Bool

def Session.secrets (session : Session) : Secrets where
  version := session.version
  clientRandom := session.clientRandom
  serverRandom := session.serverRandom
  opaqueInput := session.opaqueInput
  premaster := session.premaster
  master := session.master
  inner := session.inner
  resumed := session.resumed

namespace Operation

variable {σ : Type}

def randoms? : Operation σ → Option (Octets × Octets)
  | .setRandoms client server => some (client, server)
  | _ => none

def opaqueInput? : Operation σ → Option OpaqueInput
  | .setOpaqueInput input => some input
  | _ => none

def premaster? : Operation σ → Option Octets
  | .setPremaster premaster => some premaster
  | _ => none

def resumption? : Operation σ → Option MasterSecret
  | .resume master => some master
  | _ => none

structure Quiet (op : Operation σ) : Prop where
  secrets_perform : ∀ e, (op.perform e).session.secrets = e.session.secrets
  randoms : op.randoms? = none
  opaqueInput : op.opaqueInput? = none
  premaster : op.premaster? = none
  resumption : op.resumption? = none
  no_derivation : ∀ provider keep, op ≠ .generateMaster provider keep

theorem secrets_cases {motive : Operation σ → Prop} (quiet : ∀ op, op.Quiet → motive op)
    (setRandoms : ∀ client server, motive (.setRandoms client server))
    (setOpaqueInput : ∀ input, motive (.setOpaqueInput input))
    (setPremaster : ∀ premaster, motive (.setPremaster premaster))
    (resume : ∀ master, motive (.resume master))
    (generateMaster : ∀ provider keep, motive (.generateMaster provider keep))
    (op : Operation σ) : motive op := by
  cases op with
  | sendServerCertificate layer =>
    have frame (e : Endpoint σ) := congrArg Session.secrets (Server.session_sendCertificate layer e)
    exact quiet _ ⟨frame, rfl, rfl, rfl, rfl, nofun⟩
  | receiveServerCertificate layer =>
    refine quiet _ ⟨fun e => ?_, rfl, rfl, rfl, rfl, nofun⟩
    obtain ⟨peerChain, frame⟩ := Client.session_receiveCertificate layer e
    exact (congrArg Session.secrets frame :)
  | sendRequest layer =>
    have frame (e : Endpoint σ) := congrArg Session.secrets (Server.session_sendRequest layer e)
    exact quiet _ ⟨frame, rfl, rfl, rfl, rfl, nofun⟩
  | receiveRequest layer =>
    refine quiet _ ⟨fun e => ?_, rfl, rfl, rfl, rfl, nofun⟩
    obtain ⟨selected, requested, frame⟩ := Client.session_receiveRequest layer e
    exact (congrArg Session.secrets frame :)
  | sendClientCertificate layer =>
    have frame (e : Endpoint σ) := congrArg Session.secrets (Client.session_sendCertificate layer e)
    exact quiet _ ⟨frame, rfl, rfl, rfl, rfl, nofun⟩
  | receiveClientCertificate layer =>
    refine quiet _ ⟨fun e => ?_, rfl, rfl, rfl, rfl, nofun⟩
    rcases Server.session_receiveCertificate layer e with frame | ⟨-, leaf, issuers, frame⟩
    · exact (congrArg Session.secrets frame :)
    · exact (congrArg Session.secrets frame :)
  | sendVerify layer provider digest =>
    have frame (e : Endpoint σ) :=
      congrArg Session.secrets (Client.session_sendVerify layer e provider digest)
    exact quiet _ ⟨frame, rfl, rfl, rfl, rfl, nofun⟩
  | receiveVerify layer provider digest =>
    refine quiet _ ⟨fun e => ?_, rfl, rfl, rfl, rfl, nofun⟩
    rcases Server.session_receiveVerify layer e provider digest with frame | frame
    · exact (congrArg Session.secrets frame :)
    · exact (congrArg Session.secrets frame :)
  | selectClient constraints =>
    refine quiet _ ⟨fun e => ?_, rfl, rfl, rfl, rfl, nofun⟩
    obtain ⟨selected, frame⟩ := e.session.session_selectClient constraints e.log
    rw [session_perform_selectClient, frame]
    rfl
  | selectServer requested =>
    refine quiet _ ⟨fun e => ?_, rfl, rfl, rfl, rfl, nofun⟩
    obtain ⟨selected, frame⟩ := e.session.session_selectServer requested e.log
    rw [session_perform_selectServer, frame]
    rfl
  | setKeyExchange _ | setPeerChain _ | setCertificateRequested _ | setSigner _ =>
    exact quiet _ ⟨fun _ => rfl, rfl, rfl, rfl, rfl, nofun⟩
  | setRandoms client server => exact setRandoms client server
  | setOpaqueInput input => exact setOpaqueInput input
  | setPremaster premaster => exact setPremaster premaster
  | resume master => exact resume master
  | generateMaster provider keep => exact generateMaster provider keep

theorem generates_perform (provider : Provider) (keep : Bool) (e : Endpoint σ) :
    e.session.Generates provider keep (e.session.generateMaster provider keep).1
      ((Operation.generateMaster provider keep).perform e).session :=
  e.session.generates_generateMaster provider keep

theorem version_perform (op : Operation σ) (e : Endpoint σ) :
    (op.perform e).session.version = e.session.version := by
  cases op using secrets_cases with
  | quiet op quiet => exact congrArg Secrets.version (quiet.secrets_perform e)
  | setRandoms _ _ | setOpaqueInput _ | setPremaster _ | resume _ => rfl
  | generateMaster provider keep => exact (generates_perform provider keep e).inputs_eq.1

theorem randoms_perform (op : Operation σ) (e : Endpoint σ) :
    some ((op.perform e).session.clientRandom, (op.perform e).session.serverRandom) =
      op.randoms?.or (some (e.session.clientRandom, e.session.serverRandom)) := by
  cases op using secrets_cases with
  | quiet op quiet =>
    have client := congrArg Secrets.clientRandom (quiet.secrets_perform e)
    have server := congrArg Secrets.serverRandom (quiet.secrets_perform e)
    rw [quiet.randoms]
    exact congrArg some (Prod.ext client server)
  | setRandoms _ _ | setOpaqueInput _ | setPremaster _ | resume _ => rfl
  | generateMaster provider keep =>
    obtain ⟨-, client, server, -, -⟩ := (generates_perform provider keep e).inputs_eq
    exact congrArg some (Prod.ext client server)

theorem opaqueInput_perform (op : Operation σ) (e : Endpoint σ) :
    (op.perform e).session.opaqueInput = op.opaqueInput?.or e.session.opaqueInput := by
  cases op using secrets_cases with
  | quiet op quiet =>
    rw [quiet.opaqueInput]
    exact congrArg Secrets.opaqueInput (quiet.secrets_perform e)
  | setRandoms _ _ | setOpaqueInput _ | setPremaster _ | resume _ => rfl
  | generateMaster provider keep =>
    obtain ⟨-, -, -, input, -⟩ := (generates_perform provider keep e).inputs_eq
    exact input

theorem resumed_perform (op : Operation σ) (e : Endpoint σ) :
    (op.perform e).session.resumed = (op.resumption?.isSome || e.session.resumed) := by
  cases op using secrets_cases with
  | quiet op quiet =>
    rw [quiet.resumption]
    exact congrArg Secrets.resumed (quiet.secrets_perform e)
  | setRandoms _ _ | setOpaqueInput _ | setPremaster _ | resume _ => rfl
  | generateMaster provider keep =>
    obtain ⟨-, -, -, -, same⟩ := (generates_perform provider keep e).inputs_eq
    exact same

theorem premaster_of_perform (op : Operation σ) (e : Endpoint σ) {premaster : Octets}
    (held : (op.perform e).session.premaster = some premaster) :
    op.premaster?.or e.session.premaster = some premaster := by
  cases op using secrets_cases with
  | quiet op quiet =>
    rw [quiet.premaster, Option.none_or]
    exact (congrArg Secrets.premaster (quiet.secrets_perform e)).symm.trans held
  | setRandoms _ _ | setOpaqueInput _ | setPremaster _ | resume _ => exact held
  | generateMaster provider keep => exact (generates_perform provider keep e).premaster_of_held held

theorem inner_perform (op : Operation σ) {e : Endpoint σ}
    (h : e.session.master = e.session.inner) :
    (op.perform e).session.master = (op.perform e).session.inner := by
  cases op using secrets_cases with
  | quiet op quiet =>
    have master := congrArg Secrets.master (quiet.secrets_perform e)
    have inner := congrArg Secrets.inner (quiet.secrets_perform e)
    exact (master.trans h).trans inner.symm
  | setRandoms _ _ | setOpaqueInput _ | setPremaster _ => exact h
  | resume _ => rfl
  | generateMaster provider keep => exact (generates_perform provider keep e).inner_eq h

theorem master_perform (op : Operation σ) {e : Endpoint σ} (plain : op.resumption? = none)
    (barren : ∀ provider keep, op = .generateMaster provider keep → e.session.resumed = true ∨
      (e.session.generateMaster provider keep).1 ≠ .ok ()) :
    (op.perform e).session.master = e.session.master := by
  cases op using secrets_cases with
  | quiet op quiet => exact congrArg Secrets.master (quiet.secrets_perform e)
  | setRandoms _ _ | setOpaqueInput _ | setPremaster _ => rfl
  | resume _ => exact nomatch plain
  | generateMaster provider keep =>
    have step := generates_perform provider keep e
    rcases barren provider keep rfl with earlier | refused
    · rw [(step.of_resumed earlier).2]
    · generalize (e.session.generateMaster provider keep).1 = answer at step refused
      rcases answer with refusal | _
      · exact step.of_error.1
      · exact absurd rfl refused

end Operation
end HandshakeAuth
