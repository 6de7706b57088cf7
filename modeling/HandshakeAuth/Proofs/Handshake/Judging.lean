import HandshakeAuth.Proofs.Handshake.Turn

/-! The server's second turn on letters that any client may have written. It ends with a chain only
if the letters are a certificate and the proof of its key, in this order. -/

namespace HandshakeAuth

variable {session : Session} {letters rest : List Letter} {provider : Provider}
  {digest body proof leaf : Octets} {issuers : List Octets}

theorem Mailbox.fetch_eq_some_iff {wanted : MessageType} {required : Bool}
    {mailbox after : Mailbox} :
    mailbox.fetch wanted required = (.ok (some body), after) ↔
      ∃ rest, mailbox.inbox = .handshake wanted body :: rest ∧
        after = { mailbox with inbox := rest } := by
  have none_unexpected (found : String) :
      unexpected wanted found required ≠ .ok (some body) := by
    cases required <;> simp [unexpected]
  rcases mailbox with ⟨_ | ⟨letter, letters⟩, outbox, failure⟩
  · simp [fetch, none_unexpected]
  · cases letter with
    | handshake type content =>
      by_cases same : type = wanted
      · subst same
        simp [fetch, eq_comm]
      · simp [fetch, same, none_unexpected]
    | _ => simp [fetch]

theorem Mailbox.outbox_fetch (wanted : MessageType) (required : Bool) (mailbox : Mailbox) :
    (mailbox.fetch wanted required).2.outbox = mailbox.outbox := by
  rcases mailbox with ⟨_ | ⟨letter, letters⟩, outbox, failure⟩
  · rfl
  · cases letter with
    | handshake type content => by_cases same : type = wanted <;> simp [fetch, same]
    | _ => rfl

namespace Server

def taken (session : Session) (chain : List Octets) : Session :=
  { session with peerChain := chain, certificateRequested := true }

theorem accept_nothing : session.acceptPeerCertificate [0, 0, 0] = .error .noCertificateFound := by
  have empty : CertificateList.decode [0, 0, 0] = .ok [] :=
    CertificateList.decode_encode CertificateList.encode_nil
  exact Session.acceptPeerCertificate_eq_noCertificateFound_iff.2 (.inr empty)

theorem judgeCertificate_refusal :
    judgeCertificate session (certificateReply Mailbox.layer
        (session.desk (Client.refusal session.version))).1 =
      (fun _ => session) <$> judgeAbsence session := by
  -- SSL 3.0 judges the alert, the later versions the empty list
  rcases version : session.version with _ | _ | _ | _
  · have reply : (certificateReply Mailbox.layer (session.desk (Client.refusal .ssl3))).1 =
        .error (.alertReceived .warning .noCertificate) := rfl
    rw [reply, judgeCertificate, judgeRefusal, judgeAbsence]
    simp [version]
  all_goals
    rw [show (certificateReply Mailbox.layer (session.desk _)).1 = .ok (some [0, 0, 0]) from rfl,
      judgeCertificate, accept_nothing]

theorem judging_of_refusal (asks : AsksClient session)
    (fresh : session.certificateRequested = false) :
    turn (judging provider digest) session (Client.refusal session.version) =
      ⟨[judgeAbsence session, .ok ()], [], session⟩ := by
  have idle : ¬ AwaitsProof session := by simp [AwaitsProof, fresh]
  have silent : (certificateReply Mailbox.layer
      (session.desk (Client.refusal session.version))).2.outbox = [] := Mailbox.outbox_fetch _ _ _
  have received := run_receiveCertificate_of_absent Mailbox.layer
    (session.desk (Client.refusal session.version)) asks judgeCertificate_refusal
  have ended : turn (judging provider digest) session (Client.refusal session.version) = _ :=
    turn_of_runAll (Step.runAll_cons received
      (Step.runAll_cons (run_receiveVerify_of_not Mailbox.layer _ provider digest idle) rfl))
  rw [silent] at ended
  exact ended

theorem judging_of_proof (asks : AsksClient session)
    (accepts : session.acceptPeerCertificate body =
      .ok { session with peerChain := leaf :: issuers })
    (proves : Session.ProvesLeaf provider session.version leaf proof digest) :
    turn (judging provider digest) session
        [.handshake .certificate body, .handshake .certificateVerify proof] =
      ⟨[.ok (), .ok ()], [], taken session (leaf :: issuers)⟩ := by
  have received := run_receiveCertificate_of_accepted Mailbox.layer
    (session.desk [.handshake .certificate body, .handshake .certificateVerify proof])
    asks rfl accepts
  have due : AwaitsProof (taken session (leaf :: issuers)) := ⟨asks.1, rfl⟩
  have checked : (taken session (leaf :: issuers)).checkPossession provider proof digest = .ok () :=
    Session.checkPossession_eq_ok_iff.2 ⟨leaf, issuers, rfl, proves⟩
  have passed : (receiveVerify Mailbox.layer provider digest).run
      ((taken session (leaf :: issuers)).desk [.handshake .certificateVerify proof]) =
        (.ok (), (taken session (leaf :: issuers)).desk []) :=
    (receiveVerify_eq_ok_iff due).2 ⟨proof, rfl, checked, rfl⟩
  exact turn_of_runAll (Step.runAll_cons received (Step.runAll_cons passed rfl))

theorem letters_of_judging (asks : AsksClient session) (bare : session.peerChain = [])
    (filled : (turn (judging provider digest) session letters).session.peerChain ≠ []) :
    ∃ body proof rest leaf issuers,
      letters = .handshake .certificate body :: .handshake .certificateVerify proof :: rest ∧
      session.acceptPeerCertificate body = .ok { session with peerChain := leaf :: issuers } ∧
      Session.ProvesLeaf provider session.version leaf proof digest := by
  change ((receiveVerify Mailbox.layer provider digest).run
    ((receiveCertificate Mailbox.layer).run (session.desk letters)).2).2.session.peerChain ≠ []
    at filled
  rcases receiveCertificate_cases Mailbox.layer (session.desk letters) with
    same | ⟨-, body, accepted, received, accepts, run⟩
  · rcases session_receiveVerify Mailbox.layer
      ((receiveCertificate Mailbox.layer).run (session.desk letters)).2 provider digest with
      kept | dropped
    · rw [kept, same] at filled
      exact (filled bare).elim
    · rw [dropped] at filled
      exact (filled rfl).elim
  · obtain ⟨leaf, issuers, certificate, -, -, -, -, rfl⟩ :=
      Session.acceptPeerCertificate_eq_ok_iff.1 accepts
    obtain ⟨letters', first, after⟩ := Mailbox.fetch_eq_some_iff.1 (Prod.ext received rfl)
    rw [run] at filled
    obtain ⟨proof, proof_received, checked, -⟩ := receiveVerify_of_filled ⟨asks.1, rfl⟩ filled
    rw [proofReply, show (certificateReply Mailbox.layer (session.desk letters)).2 = _ from after]
      at proof_received
    obtain ⟨rest, second, -⟩ := Mailbox.fetch_eq_some_iff.1 (Prod.ext proof_received rfl)
    obtain ⟨_, _, same, proves⟩ := Session.checkPossession_eq_ok_iff.1 checked
    obtain ⟨rfl, rfl⟩ := List.cons.inj same
    exact ⟨body, proof, rest, leaf, issuers, first.trans (congrArg _ second), accepts, proves⟩

theorem filled_of_judging (asks : AsksClient session)
    (decoded : CertificateList.decode body = .ok (leaf :: issuers))
    (passed : ∀ answer ∈ (turn (judging provider digest) session
      (.handshake .certificate body :: rest)).answers, answer = .ok ()) :
    (turn (judging provider digest) session
      (.handshake .certificate body :: rest)).session.peerChain ≠ [] := by
  have first : ((receiveCertificate Mailbox.layer).run
      (session.desk (.handshake .certificate body :: rest))).1 = .ok () :=
    passed _ (List.mem_cons_self ..)
  have second : ((receiveVerify Mailbox.layer provider digest).run
      ((receiveCertificate Mailbox.layer).run
        (session.desk (.handshake .certificate body :: rest))).2).1 = .ok () :=
    passed _ (List.mem_cons_of_mem _ (List.mem_cons_self ..))
  obtain ⟨accepted, accepts⟩ := accepts_of_passed Mailbox.layer _ asks rfl decoded first
  obtain ⟨leaf', issuers', certificate, -, -, -, -, rfl⟩ :=
    Session.acceptPeerCertificate_eq_ok_iff.1 accepts
  have received := run_receiveCertificate_of_accepted Mailbox.layer
    (session.desk (.handshake .certificate body :: rest)) asks rfl accepts
  rw [received] at second
  obtain ⟨proof, -, -, after⟩ := (receiveVerify_eq_ok_iff ⟨asks.1, rfl⟩).1 (Prod.ext second rfl)
  have ended : turn (judging provider digest) session (.handshake .certificate body :: rest) = _ :=
    turn_of_runAll (Step.runAll_cons received (Step.runAll_cons (Prod.ext second after) rfl))
  rw [ended]
  exact List.cons_ne_nil _ _

end Server
end HandshakeAuth
