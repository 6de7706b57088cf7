import HandshakeAuth.Handshake.Client
import HandshakeAuth.Handshake.Server
import Mathlib.Data.List.Induction

/-! Everything that an application can do to one end of a connection, in any order. Each step that
uses the record layer comes with one of its own, so a run leaves every answer of the peer open. -/

namespace HandshakeAuth

inductive Operation (σ : Type) where
  | sendServerCertificate (layer : RecordLayer σ)
  | receiveServerCertificate (layer : RecordLayer σ)
  | sendRequest (layer : RecordLayer σ)
  | receiveRequest (layer : RecordLayer σ)
  | sendClientCertificate (layer : RecordLayer σ)
  | receiveClientCertificate (layer : RecordLayer σ)
  | sendVerify (layer : RecordLayer σ) (provider : Provider) (digest : Octets)
  | receiveVerify (layer : RecordLayer σ) (provider : Provider) (digest : Octets)
  | selectClient (constraints : PeerConstraints)
  | selectServer (requested : Option PublicKeyAlgorithm)
  | setKeyExchange (keyExchange : KeyExchange)
  | setPeerChain (chain : List Octets)
  | setCertificateRequested (requested : Bool)
  | setRandoms (client server : Octets)
  | setOpaqueInput (input : OpaqueInput)
  | setPremaster (premaster : Octets)
  | setSigner (signer : SignCallback)
  | resume (master : MasterSecret)
  | generateMaster (provider : Provider) (keepPremaster : Bool)

namespace Operation

variable {σ : Type}

def update (f : Session → Session) : Step σ Unit :=
  Step.onSession fun session => (.ok (), f session)

def step : Operation σ → Step σ Unit
  | .sendServerCertificate layer => Server.sendCertificate layer
  | .receiveServerCertificate layer => Client.receiveCertificate layer
  | .sendRequest layer => Server.sendRequest layer
  | .receiveRequest layer => Client.receiveRequest layer
  | .sendClientCertificate layer => Client.sendCertificate layer
  | .receiveClientCertificate layer => Server.receiveCertificate layer
  | .sendVerify layer provider digest => Client.sendVerify layer provider digest
  | .receiveVerify layer provider digest => Server.receiveVerify layer provider digest
  | .selectClient constraints => do let _ ← Step.onLog (·.selectClient constraints)
  | .selectServer requested => do let _ ← Step.onLog (·.selectServer requested)
  | .setKeyExchange keyExchange => update ({ · with keyExchange })
  | .setPeerChain peerChain => update ({ · with peerChain })
  | .setCertificateRequested certificateRequested => update ({ · with certificateRequested })
  | .setRandoms clientRandom serverRandom => update ({ · with clientRandom, serverRandom })
  | .setOpaqueInput input => update ({ · with opaqueInput := some input })
  | .setPremaster premaster => update ({ · with premaster := some premaster })
  | .setSigner signer => update ({ · with signer := some signer })
  | .resume master => update (·.resume master)
  | .generateMaster provider keepPremaster =>
    Step.onSession (·.generateMaster provider keepPremaster)

def perform (op : Operation σ) (e : Endpoint σ) : Endpoint σ :=
  (op.step.run e).2

theorem session_perform_selectClient (constraints : PeerConstraints) (e : Endpoint σ) :
    ((Operation.selectClient constraints).perform e).session =
      (e.session.selectClient constraints e.log).2.1 := by
  unfold perform step
  rw [Step.run_bind, Step.run_onLog]
  rcases (e.session.selectClient constraints e.log).1 with _ | _ <;> rfl

theorem session_perform_selectServer (requested : Option PublicKeyAlgorithm) (e : Endpoint σ) :
    ((Operation.selectServer requested).perform e).session =
      (e.session.selectServer requested e.log).2.1 := by
  unfold perform step
  rw [Step.run_bind, Step.run_onLog]
  rcases (e.session.selectServer requested e.log).1 with _ | _ <;> rfl

def performAll (ops : List (Operation σ)) (e : Endpoint σ) : Endpoint σ :=
  ops.foldl (fun e op => op.perform e) e

theorem performAll_append (before later : List (Operation σ)) (e : Endpoint σ) :
    performAll (before ++ later) e = performAll later (performAll before e) :=
  List.foldl_append ..

/-- The last of the values that the operations of a run bring. -/
def latest {α : Type} (brings : Operation σ → Option α) (ops : List (Operation σ)) : Option α :=
  (ops.filterMap brings).getLast?

theorem latest_concat {α : Type} (brings : Operation σ → Option α) (ops : List (Operation σ))
    (op : Operation σ) : latest brings (ops ++ [op]) = (brings op).or (latest brings ops) := by
  unfold latest
  rcases h : brings op with _ | a <;> simp [h]

theorem latest_append_of_forall {α : Type} {brings : Operation σ → Option α}
    (ops : List (Operation σ)) {later : List (Operation σ)}
    (none : ∀ op ∈ later, brings op = none) :
    latest brings (ops ++ later) = latest brings ops := by
  have nothing : later.filterMap brings = [] := List.filterMap_eq_nil_iff.2 none
  simp [latest, nothing]

theorem view_performAll {α : Type} {brings : Operation σ → Option α} (view : Endpoint σ → Option α)
    (step : ∀ op e, view (op.perform e) = (brings op).or (view e)) (ops : List (Operation σ))
    (e : Endpoint σ) : view (performAll ops e) = (latest brings ops).or (view e) := by
  induction ops using List.reverseRecOn with
  | nil => rfl
  | append_singleton ops op ih =>
    rw [performAll_append, latest_concat, Option.or_assoc, ← ih]
    exact step op (performAll ops e)

/-- At no point of a run from `e` on does the event take place. -/
def Never (event : Operation σ → Endpoint σ → Prop) (e : Endpoint σ)
    (ops : List (Operation σ)) : Prop :=
  ∀ before op later, ops = before ++ op :: later → ¬ event op (performAll before e)

section Never

variable {event : Operation σ → Endpoint σ → Prop} {e : Endpoint σ} {op : Operation σ}
  {ops : List (Operation σ)}

theorem Never.nil : Never event e [] := by
  intro before op later split
  simp at split

theorem Never.concat (h : Never event e ops) (last : ¬ event op (performAll ops e)) :
    Never event e (ops ++ [op]) := by
  intro before op' later split
  rcases List.eq_nil_or_concat later with rfl | ⟨later, op'', rfl⟩
  · obtain ⟨rfl, same⟩ := List.append_inj' split rfl
    rwa [(List.cons.inj same).1] at last
  · have earlier : ops ++ [op] = (before ++ op' :: later) ++ [op''] := by simpa using split
    exact h before op' later (List.append_inj' earlier rfl).1

theorem Never.head (h : Never event e (op :: ops)) : ¬ event op e :=
  h [] op ops rfl

theorem Never.tail (h : Never event e (op :: ops)) : Never event (op.perform e) ops := by
  intro before op' later split
  exact h (op :: before) op' later (congrArg (op :: ·) split)

end Never

/-- What every allowed operation keeps, unless the event takes place, holds after any number of
them without the event. -/
theorem performAll_induction_of_never {allowed : Operation σ → Prop}
    {event : Operation σ → Endpoint σ → Prop} {P : Endpoint σ → Prop}
    (keeps : ∀ op e, allowed op → ¬ event op e → P e → P (op.perform e))
    {ops : List (Operation σ)} (h : ∀ op ∈ ops, allowed op) {e : Endpoint σ}
    (never : Never event e ops) (start : P e) : P (performAll ops e) := by
  induction ops generalizing e with
  | nil => exact start
  | cons op ops ih =>
    have first : P (op.perform e) := keeps op e (h op (List.mem_cons_self ..)) never.head start
    exact ih (fun op' hop => h op' (List.mem_cons_of_mem _ hop)) never.tail first

theorem performAll_induction {allowed : Operation σ → Prop} {P : Endpoint σ → Prop}
    (keeps : ∀ op e, allowed op → P e → P (op.perform e)) {ops : List (Operation σ)}
    (h : ∀ op ∈ ops, allowed op) {e : Endpoint σ} (start : P e) : P (performAll ops e) :=
  have never : Never (fun _ _ => False) e ops := fun _ _ _ _ => id
  performAll_induction_of_never (fun op e hop _ => keeps op e hop) h never start

end Operation
end HandshakeAuth
