import HandshakeAuth.Proofs.Handshake.ClientProof

/-! A client's proof that has failed cannot be made up for. The chain is dropped while its proof
stays due, and without a chain no proof holds. -/

namespace HandshakeAuth

variable {σ : Type} {layer : RecordLayer σ} {provider : Provider} {digest : Octets}
  {e after : Endpoint σ} {refusal : AuthError}

/-- A proof is due, and no chain is left that it could be of. -/
structure Session.Refused (session : Session) : Prop where
  due : Server.AwaitsProof session
  dropped : session.peerChain = []

namespace Session.Refused

theorem of_receiveVerify
    (failed : (Server.receiveVerify layer provider digest).run e = (.error refusal, after)) :
    after.session.Refused := by
  by_cases due : Server.AwaitsProof e.session
  · rw [Server.run_receiveVerify layer e provider digest due] at failed
    rcases judged : Server.judgeProof e.session provider digest (Server.proofReply layer e).1 with
      _ | _
    · rw [judged] at failed
      obtain ⟨-, rfl⟩ := Prod.mk.inj failed
      exact ⟨due, rfl⟩
    · rw [judged] at failed
      exact nomatch (Prod.mk.inj failed).1
  · rw [Server.run_receiveVerify_of_not layer e provider digest due] at failed
    exact nomatch (Prod.mk.inj failed).1

theorem exists_receiveVerify (h : e.session.Refused) (layer : RecordLayer σ)
    (provider : Provider) (digest : Octets) :
    ∃ refusal after,
      (Server.receiveVerify layer provider digest).run e = (.error refusal, after) := by
  rcases run : (Server.receiveVerify layer provider digest).run e with ⟨refusal | _, after⟩
  · exact ⟨refusal, after, rfl⟩
  · obtain ⟨body, -, checked, -⟩ := (Server.receiveVerify_eq_ok_iff h.due).1 run
    obtain ⟨leaf, issuers, chain, -⟩ := checkPossession_eq_ok_iff.1 checked
    exact nomatch h.dropped.symm.trans chain

theorem perform {op : Operation σ} (side : op.IsServerSide)
    (unrecorded : ¬ Server.RecordsChain op e) (h : e.session.Refused) :
    (op.perform e).session.Refused := by
  rcases side.perform_cases e with same | ⟨recorded, -⟩ | dropped
  · refine ⟨⟨?_, ?_⟩, same.peerChain_eq.trans h.dropped⟩
    · rw [same.config_eq]
      exact h.due.1
    · exact same.requested_eq.trans h.due.2
  · exact absurd recorded unrecorded
  · rw [dropped]
    exact ⟨h.due, rfl⟩

theorem performAll {ops : List (Operation σ)} (side : ∀ op ∈ ops, op.IsServerSide)
    (unrecorded : Operation.Never Server.RecordsChain e ops) (h : e.session.Refused) :
    (Operation.performAll ops e).session.Refused :=
  Operation.performAll_induction_of_never (P := fun e => e.session.Refused)
    (fun _ _ side unrecorded h => perform side unrecorded h) side unrecorded h

end Session.Refused

namespace Server

theorem not_recordsChain_of_error
    (failed : (receiveCertificate layer).run e = (.error refusal, after)) :
    ¬ RecordsChain (.receiveClientCertificate layer) e := by
  rintro ⟨_, body, accepted, same, asks, received, taken⟩
  obtain rfl := Operation.receiveClientCertificate.inj same
  rw [run_receiveCertificate_of_accepted layer e asks received taken] at failed
  exact nomatch (Prod.mk.inj failed).1

theorem not_recordsChain_of_excuses (excused : Excuses e.session (certificateReply layer e).1) :
    ¬ RecordsChain (.receiveClientCertificate layer) e := by
  rintro ⟨_, body, accepted, same, -, received, taken⟩
  obtain rfl := Operation.receiveClientCertificate.inj same
  rw [received] at excused
  exact nomatch taken.symm.trans excused.1

theorem not_recordsChain_of_empty {body : Octets}
    (received : (certificateReply layer e).1 = .ok (some body))
    (empty : CertificateList.decode body = .ok []) :
    ¬ RecordsChain (.receiveClientCertificate layer) e := by
  rintro ⟨_, _, accepted, same, -, arrived, taken⟩
  obtain rfl := Operation.receiveClientCertificate.inj same
  obtain rfl := Option.some.inj (Except.ok.inj (received.symm.trans arrived))
  obtain ⟨leaf, issuers, certificate, decoded, -⟩ := Session.acceptPeerCertificate_eq_ok_iff.1 taken
  exact nomatch empty.symm.trans decoded

/-- After a proof that failed there is no chain, and until a receive records one, every further
proof fails whatever arrives. A receive that fails, excuses the client or finds an empty list
records none. -/
theorem failed_proof_stays_failed
    (failed : (receiveVerify layer provider digest).run e = (.error refusal, after))
    {ops : List (Operation σ)} (side : ∀ op ∈ ops, op.IsServerSide)
    (unrecorded : Operation.Never RecordsChain after ops) :
    after.session.peerChain = [] ∧
    (Operation.performAll ops after).session.peerChain = [] ∧
    (∀ layer' provider' digest', ∃ refusal' later,
      (receiveVerify layer' provider' digest').run (Operation.performAll ops after) =
        (.error refusal', later) ∧ later.session.peerChain = []) ∧
    ∀ (layer' : RecordLayer σ) (e' : Endpoint σ),
      (∃ refusal' later, (receiveCertificate layer').run e' = (.error refusal', later)) ∨
        Excuses e'.session (certificateReply layer' e').1 ∨
        (∃ body, (certificateReply layer' e').1 = .ok (some body) ∧
          CertificateList.decode body = .ok []) →
      ¬ RecordsChain (.receiveClientCertificate layer') e' := by
  have refused : after.session.Refused := .of_receiveVerify failed
  have still : (Operation.performAll ops after).session.Refused :=
    refused.performAll side unrecorded
  refine ⟨refused.dropped, still.dropped, ?_, ?_⟩
  · intro layer' provider' digest'
    obtain ⟨refusal', later, again⟩ := still.exists_receiveVerify layer' provider' digest'
    exact ⟨refusal', later, again, (Session.Refused.of_receiveVerify again).dropped⟩
  · rintro layer' e' (⟨refusal', later, failed'⟩ | excused | ⟨body, received, empty⟩)
    · exact not_recordsChain_of_error failed'
    · exact not_recordsChain_of_excuses excused
    · exact not_recordsChain_of_empty received empty

def mistaken : Endpoint Mailbox :=
  let session := (awaiting [X509.terse] []).session
  { session := { session with config := { policy := .request } }
    records :=
      { inbox :=
          [.handshake .certificateVerify [], .handshake .certificate [0, 0, 0],
            .handshake .certificateVerify [0, 6, 0x64, 0x73, 0x61, 1, 2, 3]] }
    log := [] }

theorem failed_proof_stays_failed_late :
    ∃ refusal after refusal' later,
      (receiveVerify Mailbox.layer .withStandIn [1, 2, 3]).run mistaken =
        (.error refusal, after) ∧
      ((receiveCertificate Mailbox.layer).run after).1 = .ok () ∧
      (proofReply Mailbox.layer
        (Operation.performAll [.receiveClientCertificate Mailbox.layer] after)).1 =
          .ok (some [0, 6, 0x64, 0x73, 0x61, 1, 2, 3]) ∧
      Session.ProvesLeaf .withStandIn .tls12 X509.terse [0, 6, 0x64, 0x73, 0x61, 1, 2, 3]
        [1, 2, 3] ∧
      (receiveVerify Mailbox.layer .withStandIn [1, 2, 3]).run
        (Operation.performAll [.receiveClientCertificate Mailbox.layer] after) =
          (.error refusal', later) ∧
      later.session.peerChain = [] := by
  let after : Endpoint Mailbox :=
    { mistaken with
      session := { mistaken.session with peerChain := [] }
      records := { inbox := mistaken.records.inbox.tail } }
  have failed : (receiveVerify Mailbox.layer .withStandIn [1, 2, 3]).run mistaken =
      (.error .truncatedMessage, after) := rfl
  have side : ∀ op ∈ [Operation.receiveClientCertificate Mailbox.layer], op.IsServerSide := by
    simp [Operation.IsServerSide]
  have arrived : (certificateReply Mailbox.layer after).1 = .ok (some [0, 0, 0]) := rfl
  have unrecorded : Operation.Never RecordsChain after
      [.receiveClientCertificate Mailbox.layer] :=
    Operation.Never.nil.concat (not_recordsChain_of_empty arrived rfl)
  obtain ⟨-, -, again, -⟩ := failed_proof_stays_failed failed side unrecorded
  obtain ⟨refusal', later, late, dropped⟩ := again Mailbox.layer .withStandIn [1, 2, 3]
  exact ⟨_, after, refusal', later, failed, rfl, rfl, terse_provesLeaf, late, dropped⟩

end Server
end HandshakeAuth
