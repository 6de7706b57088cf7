import HandshakeAuth.Handshake.Mailbox
import HandshakeAuth.Proofs.Handshake.ServerSide
import HandshakeAuth.Proofs.Message.CertificateList
import HandshakeAuth.Proofs.Session.Possession

/-! A server that asks for client certificates never lets a chain through without the proof of its
key. The link is between two fields: wherever a chain is recorded, its proof is noted as due. -/

namespace HandshakeAuth

variable {σ : Type} {config : Config} {version : Version}

structure Session.Guarded (config : Config) (version : Version) (session : Session) : Prop where
  config_eq : session.config = config
  version_eq : session.version = version
  requested : session.peerChain ≠ [] → session.certificateRequested = true

namespace Session.Guarded

theorem start (config : Config) (version : Version) (role : Role) (store : Store) :
    (Session.start config version role store).Guarded config version :=
  ⟨rfl, rfl, fun filled => (filled rfl).elim⟩

theorem perform (op : Operation σ) (e : Endpoint σ) (side : op.IsServerSide)
    (h : e.session.Guarded config version) :
    (op.perform e).session.Guarded config version := by
  rcases side.perform_cases e with same | ⟨-, leaf, issuers, recorded⟩ | dropped
  · refine ⟨same.config_eq.trans h.config_eq, same.version_eq.trans h.version_eq, ?_⟩
    rw [same.peerChain_eq, same.requested_eq]
    exact h.requested
  · rw [recorded]
    exact ⟨h.config_eq, h.version_eq, fun _ => rfl⟩
  · rw [dropped]
    exact ⟨h.config_eq, h.version_eq, fun filled => (filled rfl).elim⟩

theorem performAll {ops : List (Operation σ)} (side : ∀ op ∈ ops, op.IsServerSide)
    {e : Endpoint σ} (h : e.session.Guarded config version) :
    (Operation.performAll ops e).session.Guarded config version :=
  Operation.performAll_induction (fun op e => perform op e) side h

theorem proof_of_receiveVerify {layer : RecordLayer σ} {provider : Provider} {digest : Octets}
    {e after : Endpoint σ} (h : e.session.Guarded config version)
    (enforced : config.policy ≠ .ignore)
    (passed : (Server.receiveVerify layer provider digest).run e = (.ok (), after))
    (filled : after.session.peerChain ≠ []) :
    after.session = e.session ∧ ∃ leaf issuers body,
      (layer.receive .certificateVerify false e.records).1 = .ok (some body) ∧
      after.session.peerChain = leaf :: issuers ∧
      ProvesLeaf provider version leaf body digest := by
  by_cases due : Server.AwaitsProof e.session
  -- where no proof is due the step lets pass, but then the link leaves no chain to let pass
  · obtain ⟨body, received, checked, rfl⟩ := (Server.receiveVerify_eq_ok_iff due).1 passed
    obtain ⟨leaf, issuers, chain, proves⟩ := checkPossession_eq_ok_iff.1 checked
    exact ⟨rfl, leaf, issuers, body, received, chain, h.version_eq ▸ proves⟩
  · rw [Server.run_receiveVerify_of_not layer e provider digest due] at passed
    obtain ⟨-, rfl⟩ := Prod.mk.inj passed
    exact (due ⟨h.config_eq ▸ enforced, h.requested filled⟩).elim

end Session.Guarded

namespace Server

theorem chain_of_receiveCertificate {layer : RecordLayer σ} {e after : Endpoint σ}
    (required : e.session.config.policy = .require) (uses : e.session.keyExchange.usesCertificates)
    (passed : (receiveCertificate layer).run e = (.ok (), after)) :
    after.session.peerChain ≠ [] ∧ AwaitsProof after.session := by
  have asks : AsksClient e.session := ⟨by simp [required], uses⟩
  have recorded : ∃ leaf issuers, after.session =
      { e.session with peerChain := leaf :: issuers, certificateRequested := true } := by
    rw [run_receiveCertificate layer e asks] at passed
    rcases hj : judgeCertificate e.session (certificateReply layer e).1 with refusal | session
    · rw [hj] at passed
      exact nomatch (Prod.mk.inj passed).1
    · rw [hj] at passed
      obtain ⟨-, rfl⟩ := Prod.mk.inj passed
      rcases judgeCertificate_eq_ok_iff.1 hj with ⟨-, excused⟩ | ⟨body, accepted, -, h, rfl⟩
      · exact (not_excuses required _ excused).elim
      · obtain ⟨leaf, issuers, certificate, -, -, -, -, rfl⟩ :=
          Session.acceptPeerCertificate_eq_ok_iff.1 h
        exact ⟨leaf, issuers, rfl⟩
  obtain ⟨leaf, issuers, h⟩ := recorded
  rw [h]
  exact ⟨List.cons_ne_nil _ _, by simp [required], rfl⟩

/-- What a server can be after any run of its operations, from a fresh session on. -/
def Reaches (config : Config) (version : Version) (e : Endpoint σ) : Prop :=
  ∃ store records log ops, (∀ op ∈ ops, op.IsServerSide) ∧
    e = Operation.performAll ops { session := .start config version .server store, records, log }

theorem Reaches.guarded {e : Endpoint σ} (h : Reaches config version e) :
    e.session.Guarded config version := by
  obtain ⟨store, records, log, ops, side, rfl⟩ := h
  exact Session.Guarded.performAll side (.start config version .server store)

/-- Whatever has happened before, a chain that a server is left with after the receive of the proof
was proved in that very step. Where a certificate is required, the two receives in a row leave a
chain. -/
theorem recorded_chain_is_proved {e : Endpoint σ} (enforced : config.policy ≠ .ignore)
    (reached : Reaches config version e) :
    (∀ layer provider digest after,
      (receiveVerify layer provider digest).run e = (.ok (), after) →
      after.session.peerChain ≠ [] →
      after.session = e.session ∧ ∃ body leaf issuers,
        (layer.receive .certificateVerify false e.records).1 = .ok (some body) ∧
        after.session.checkPossession provider body digest = .ok () ∧
        after.session.peerChain = leaf :: issuers ∧
        Session.ProvesLeaf provider version leaf body digest) ∧
    (∀ layer layer' provider digest middle after,
      config.policy = .require → e.session.keyExchange.usesCertificates →
      (receiveCertificate layer).run e = (.ok (), middle) →
      (receiveVerify layer' provider digest).run middle = (.ok (), after) →
      after.session.peerChain ≠ []) := by
  have guarded := reached.guarded
  constructor
  · intro layer provider digest after passed filled
    obtain ⟨same, leaf, issuers, body, received, chain, proves⟩ :=
      guarded.proof_of_receiveVerify enforced passed filled
    refine ⟨same, body, leaf, issuers, received, ?_, chain, proves⟩
    rw [Session.checkPossession_eq_ok_iff]
    exact ⟨leaf, issuers, chain, by rw [same, guarded.version_eq]; exact proves⟩
  · intro layer layer' provider digest middle after required uses accepted passed
    obtain ⟨filled, due⟩ :=
      chain_of_receiveCertificate (guarded.config_eq ▸ required) uses accepted
    obtain ⟨body, -, -, rfl⟩ := (receiveVerify_eq_ok_iff due).1 passed
    exact filled

def facing (chain : List Octets) (proof : Octets) : Endpoint Mailbox :=
  let store : Store :=
    { entries := [], trustedIssuers := [], issuerList := [], selector := .heuristic }
  let body := Wire.framed 3 (chain.flatMap (Wire.framed 3))
  { session := .start { policy := .require } .tls12 .server store
    records :=
      { inbox := [.handshake .certificate body, .handshake .certificateVerify proof] }
    log := [] }

def awaiting (chain : List Octets) (proof : Octets) : Endpoint Mailbox :=
  { facing chain proof with
    session := { (facing chain proof).session with
      peerChain := chain
      certificateRequested := true }
    records := { inbox := [.handshake .certificateVerify proof] } }

theorem accept_terse {session : Session} (role : session.role = .server) :
    session.acceptPeerCertificate (Wire.framed 3 ([X509.terse].flatMap (Wire.framed 3))) =
      .ok { session with peerChain := [X509.terse] } := by
  have written : CertificateList.encode [X509.terse] =
      .ok (Wire.framed 3 ([X509.terse].flatMap (Wire.framed 3))) := rfl
  refine Session.acceptPeerCertificate_eq_ok_iff.2 ⟨X509.terse, [], _,
    CertificateList.decode_encode written, Credential.terse.parse_leaf, ?_, ?_, rfl⟩
  · simp [Session.Readable]
  · rw [Session.requiredUsage, role]
    rfl

theorem terse_provesLeaf :
    Session.ProvesLeaf .withStandIn .tls12 X509.terse [0, 6, 0x64, 0x73, 0x61, 1, 2, 3]
      [1, 2, 3] := by
  have read : CertificateVerify.decode [0, 6, 0x64, 0x73, 0x61, 1, 2, 3] =
      .ok [0x64, 0x73, 0x61, 1, 2, 3] :=
    CertificateVerify.decode_eq_ok_iff.2 ⟨by decide, rfl⟩
  exact ⟨_, _, .dsa, read, Credential.terse.parse_leaf, rfl, Restriction.standIn, rfl, rfl⟩

theorem recorded_chain_is_proved_terse :
    ∃ middle after,
      (receiveCertificate Mailbox.layer).run
        (facing [X509.terse] [0, 6, 0x64, 0x73, 0x61, 1, 2, 3]) = (.ok (), middle) ∧
      (receiveVerify Mailbox.layer .withStandIn [1, 2, 3]).run middle = (.ok (), after) ∧
      after.session.peerChain ≠ [] ∧ after.session = middle.session ∧
      ∃ body, after.session.checkPossession .withStandIn body [1, 2, 3] = .ok () := by
  have enforced : ({ policy := .require } : Config).policy ≠ .ignore := by decide
  have fresh : Reaches { policy := .require } .tls12
      (facing [X509.terse] [0, 6, 0x64, 0x73, 0x61, 1, 2, 3]) :=
    ⟨_, _, _, [], by simp, rfl⟩
  have accepted : (receiveCertificate Mailbox.layer).run
      (facing [X509.terse] [0, 6, 0x64, 0x73, 0x61, 1, 2, 3]) =
        (.ok (), awaiting [X509.terse] [0, 6, 0x64, 0x73, 0x61, 1, 2, 3]) :=
    run_receiveCertificate_of_accepted Mailbox.layer _ ⟨enforced, rfl⟩ rfl (accept_terse rfl)
  have reached : Reaches { policy := .require } .tls12
      (awaiting [X509.terse] [0, 6, 0x64, 0x73, 0x61, 1, 2, 3]) :=
    ⟨_, _, _, [.receiveClientCertificate Mailbox.layer], by simp [Operation.IsServerSide],
      congrArg Prod.snd accepted.symm⟩
  have checked : (awaiting [X509.terse]
      [0, 6, 0x64, 0x73, 0x61, 1, 2, 3]).session.checkPossession .withStandIn
        [0, 6, 0x64, 0x73, 0x61, 1, 2, 3] [1, 2, 3] = .ok () :=
    Session.checkPossession_eq_ok_iff.2 ⟨X509.terse, [], rfl, terse_provesLeaf⟩
  have received : (proofReply Mailbox.layer
      (awaiting [X509.terse] [0, 6, 0x64, 0x73, 0x61, 1, 2, 3])).1 =
        .ok (some [0, 6, 0x64, 0x73, 0x61, 1, 2, 3]) := rfl
  have passed := (receiveVerify_eq_ok_iff ⟨enforced, rfl⟩).2 ⟨_, received, checked, rfl⟩
  have filled := (recorded_chain_is_proved enforced fresh).2 _ _ _ _ _ _ rfl rfl accepted passed
  obtain ⟨same, body, -, -, -, holds, -⟩ :=
    (recorded_chain_is_proved enforced reached).1 _ _ _ _ passed filled
  exact ⟨_, _, accepted, passed, filled, same, body, holds⟩

end Server
end HandshakeAuth
