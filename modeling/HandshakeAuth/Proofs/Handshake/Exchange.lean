import HandshakeAuth.Proofs.Handshake.Announcement
import HandshakeAuth.Proofs.Handshake.Judging
import HandshakeAuth.Proofs.Selection.Heuristic

/-! A client that keeps to the rules authenticates to a server that asks. The outcome depends on the
credential that both ends agree on, and it is the same at both ends. -/

namespace HandshakeAuth

structure Exchange where
  asking : Turn
  answering : Turn
  judging : Turn

def exchange (signer checker : Provider) (digest : Octets) (client server : Session) : Exchange :=
  let asking := turn Server.asking server []
  let answering := turn (Client.answering signer digest) client asking.sent
  let judging := turn (Server.judging checker digest) asking.session answering.sent
  { asking, answering, judging }

def Exchange.answers (x : Exchange) : List (Except AuthError Unit) :=
  x.asking.answers ++ x.answering.answers ++ x.judging.answers

def agreed (serverConfig clientConfig : Config) (serverStore clientStore : Store) :
    Option Credential :=
  if clientConfig.format = .x509 then
    (clientStore.issuedUnder (announced serverConfig serverStore)).head?
  else none

/-- A credential can be shown in `body` and proved in `proof`, and the other end can read its
certificates and accepts its signature. -/
structure Convinces (signer checker : Provider) (credential : Credential) (version : Version)
    (digest body proof : Octets) : Prop where
  written : CertificateList.encode credential.chain = .ok body
  readable : Session.Readable credential.issuers
  usable : credential.certificate.allows .digitalSignature
  proved : ∃ scheme signature, signer.signature (credential.scheme version) = .ok scheme ∧
    scheme.sign credential.key.octets (credential.part version digest) = .ok signature ∧
    CertificateVerify.encode signature = .ok proof ∧
    checker.Verifies (credential.scheme version) credential.certificate.publicKey
      (credential.part version digest) signature

variable {version : Version} {signer checker : Provider} {digest : Octets}
  {serverConfig clientConfig : Config} {serverStore clientStore : Store}

theorem selectClient_announced (standing : clientStore.selector = .heuristic) :
    ∃ found,
      found.map Choice.credential = agreed serverConfig clientConfig serverStore clientStore ∧
      (Session.start clientConfig version .client clientStore).selectClient
          (.ofRequest (.ofNames (announced serverConfig serverStore))) [] =
        (.ok found,
          { Session.start clientConfig version .client clientStore with selected := found },
          []) := by
  refine ⟨Selector.heuristicClient clientStore.toHoldings
    (.ofRequest (.ofNames (announced serverConfig serverStore))) clientConfig.format, ?_, ?_⟩
  · unfold agreed
    split
    · rename_i format
      rw [format]
      exact Selector.heuristicClient_ofNames
    · rename_i format
      rw [Selector.heuristicClient, if_neg format]
      rfl
  · unfold Session.selectClient
    rw [show (Session.start clientConfig version .client clientStore).store.selector = _ from
      standing]
    rfl

theorem proofOf_client_eq_ok_iff {choice : Choice} {proof : Octets} :
    (Session.start clientConfig version .client clientStore).proofOf signer choice.credential
        digest [] = .ok proof ↔
      ∃ scheme signature, signer.signature (choice.credential.scheme version) = .ok scheme ∧
        scheme.sign choice.credential.key.octets (choice.credential.part version digest) =
          .ok signature ∧
        CertificateVerify.encode signature = .ok proof := by
  rw [Session.proofOf_eq_ok_iff]
  constructor
  · rintro ⟨signature, ⟨scheme, known, signed⟩, encoded⟩
    exact ⟨scheme, signature, known, signed, encoded⟩
  · rintro ⟨scheme, signature, known, signed, encoded⟩
    exact ⟨signature, ⟨scheme, known, signed⟩, encoded⟩

namespace Convinces

variable {credential : Credential} {body proof : Octets}

theorem provesLeaf (h : Convinces signer checker credential version digest body proof) :
    Session.ProvesLeaf checker version credential.leaf proof digest := by
  obtain ⟨scheme, signature, -, -, encoded, verified⟩ := h.proved
  exact ⟨signature, credential.certificate, credential.algorithm,
    CertificateVerify.decode_encode encoded, credential.parse_leaf, credential.algorithm_leaf,
    verified⟩

theorem accepts (h : Convinces signer checker credential version digest body proof) :
    (Session.start serverConfig version .server serverStore).acceptPeerCertificate body =
      .ok { Session.start serverConfig version .server serverStore with
        peerChain := credential.chain } :=
  Session.acceptPeerCertificate_eq_ok_iff.2 ⟨credential.leaf, credential.issuers,
    credential.certificate, CertificateList.decode_encode h.written, credential.parse_leaf,
    h.readable, h.usable, rfl⟩

theorem of_accepted {accepted : Session} {leaf : Octets} {issuers : List Octets}
    (written : CertificateList.encode credential.chain = .ok body)
    (signed : ∃ scheme signature, signer.signature (credential.scheme version) = .ok scheme ∧
      scheme.sign credential.key.octets (credential.part version digest) = .ok signature ∧
      CertificateVerify.encode signature = .ok proof)
    (taken : (Session.start serverConfig version .server serverStore).acceptPeerCertificate body =
      .ok accepted)
    (chain : accepted.peerChain = leaf :: issuers)
    (proves : Session.ProvesLeaf checker version leaf proof digest) :
    Convinces signer checker credential version digest body proof := by
  obtain ⟨leaf', issuers', certificate, decoded, parsed, readable, usable, rfl⟩ :=
    Session.acceptPeerCertificate_eq_ok_iff.1 taken
  have same := (CertificateList.decode_encode written).symm.trans decoded
  obtain ⟨rfl, rfl⟩ := List.cons.inj (Except.ok.inj same)
  obtain ⟨rfl, rfl⟩ := List.cons.inj chain
  have known := Except.ok.inj (credential.parse_leaf.symm.trans parsed)
  refine ⟨written, readable, known ▸ usable, ?_⟩
  obtain ⟨scheme, signature, found, made, encoded⟩ := signed
  refine ⟨scheme, signature, found, made, encoded, ?_⟩
  obtain ⟨signature', certificate', algorithm, read, parsed', named, verified⟩ := proves
  obtain rfl := Except.ok.inj ((CertificateVerify.decode_encode encoded).symm.trans read)
  obtain rfl := Except.ok.inj (credential.parse_leaf.symm.trans parsed')
  obtain rfl := Option.some.inj (credential.algorithm_leaf.symm.trans named)
  exact verified

end Convinces

theorem written_eq_ok_iff {body : Except AuthError Octets} :
    written body = .ok () ↔ ∃ octets, body = .ok octets := by
  simp [written, Answer.map_eq_ok_iff]

theorem carrying_pair_eq_iff {shown proved : Except AuthError Octets} {body proof : Octets}
    {rest : List Letter} :
    Letter.carrying .certificate shown ++ Letter.carrying .certificateVerify proved =
        .handshake .certificate body :: .handshake .certificateVerify proof :: rest ↔
      shown = .ok body ∧ proved = .ok proof ∧ rest = [] := by
  rcases shown with _ | _ <;> rcases proved with _ | _ <;> rcases rest with _ | _ <;>
    simp [Letter.carrying]

section Outcome

variable (signer checker : Provider) (digest : Octets) {client server : Session}
  (fresh_client : client = .start clientConfig version .client clientStore)
  (fresh_server : server = .start serverConfig version .server serverStore)

include fresh_client fresh_server in
theorem exchange_of_ignore (ignores : serverConfig.policy = .ignore)
    (uses : clientConfig.keyExchange.usesCertificates) :
    exchange signer checker digest client server =
      ⟨⟨[.ok ()], [], server⟩, ⟨[.ok (), .ok (), .ok ()], [], client⟩,
        ⟨[.ok (), .ok ()], [], server⟩⟩ := by
  subst fresh_client fresh_server
  have silent : ¬ Server.AsksClient (.start serverConfig version .server serverStore) :=
    fun asks => asks.1 ignores
  have idle : ¬ Server.AwaitsProof (.start serverConfig version .server serverStore) :=
    fun due => due.1 ignores
  rw [exchange, Server.asking_of_not silent, Client.answering_nothing uses rfl,
    Server.judging_of_not silent idle]

variable (asks : Server.AsksClient server) (uses : clientConfig.keyExchange.usesCertificates)
  (listed : serverStore.Listed) (standing : clientStore.selector = .heuristic)

include fresh_client fresh_server asks uses listed standing in
theorem request_arrives :
    ∃ body found, found.map Choice.credential =
        agreed serverConfig clientConfig serverStore clientStore ∧
      turn Server.asking server [] =
        ⟨[.ok ()], [.handshake .certificateRequest body], server⟩ ∧
      (Client.receiveRequest Mailbox.layer).run
          (client.desk [.handshake .certificateRequest body]) =
        (.ok (), (Client.asked client found).desk []) := by
  subst fresh_client fresh_server
  obtain ⟨body, request, decoded⟩ :=
    Server.requestBody_of_listed (.start serverConfig version .server serverStore) listed
  obtain ⟨found, same, chosen⟩ := selectClient_announced standing
  exact ⟨body, found, same, Server.asking_of_ok asks request,
    Client.run_receiveRequest_desk uses decoded chosen⟩

include fresh_client fresh_server asks uses listed standing in
theorem exchange_of_none
    (alone : agreed serverConfig clientConfig serverStore clientStore = none) :
    ∃ request, exchange signer checker digest client server =
      ⟨⟨[.ok ()], [.handshake .certificateRequest request], server⟩,
        ⟨[.ok (), .ok (), .ok ()], Client.refusal version, Client.asked client none⟩,
        ⟨[Server.judgeAbsence server, .ok ()], [], server⟩⟩ := by
  obtain ⟨request, found, same, asked, received⟩ :=
    request_arrives fresh_client fresh_server asks uses listed standing
  obtain rfl : found = none := Option.map_eq_none_iff.1 (same.trans alone)
  have answered : turn (Client.answering signer digest) client
      [.handshake .certificateRequest request] =
        ⟨[.ok (), .ok (), .ok ()], Client.refusal version, Client.asked client none⟩ := by
    rw [Client.answering_of_none (by rw [fresh_client]; rfl) received, fresh_client]
    rfl
  have judged : turn (Server.judging checker digest) server (Client.refusal version) =
      ⟨[Server.judgeAbsence server, .ok ()], [], server⟩ := by
    rw [show version = server.version by rw [fresh_server]; rfl]
    exact Server.judging_of_refusal asks (by rw [fresh_server]; rfl)
  refine ⟨request, ?_⟩
  rw [exchange, asked, answered, judged]

include fresh_client fresh_server asks uses listed standing in
theorem exchange_of_some {credential : Credential}
    (agree : agreed serverConfig clientConfig serverStore clientStore = some credential) :
    ∃ request choice, choice.credential = credential ∧
      (exchange signer checker digest client server).asking =
        ⟨[.ok ()], [.handshake .certificateRequest request], server⟩ ∧
      (exchange signer checker digest client server).answering =
        ⟨[.ok (), written (CertificateList.encode credential.chain),
            written (client.proofOf signer credential digest [])],
          Letter.carrying .certificate (CertificateList.encode credential.chain) ++
            Letter.carrying .certificateVerify (client.proofOf signer credential digest []),
          Client.asked client (some choice)⟩ ∧
      (exchange signer checker digest client server).judging =
        turn (Server.judging checker digest) server
          (Letter.carrying .certificate (CertificateList.encode credential.chain) ++
            Letter.carrying .certificateVerify (client.proofOf signer credential digest [])) := by
  obtain ⟨request, found, same, asked, received⟩ :=
    request_arrives fresh_client fresh_server asks uses listed standing
  obtain ⟨choice, rfl, rfl⟩ := Option.map_eq_some_iff.1 (same.trans agree)
  have answered : turn (Client.answering signer digest) client
      [.handshake .certificateRequest request] = _ :=
    Client.answering_of_some (by rw [fresh_client]; rfl) received
  refine ⟨request, choice, rfl, asked, ?_, ?_⟩
  · rw [exchange, asked]
    exact answered
  · rw [exchange, asked]
    dsimp only
    rw [answered]

include fresh_client fresh_server asks uses listed standing in
theorem exchange_of_convinces {credential : Credential} {body proof : Octets}
    (agree : agreed serverConfig clientConfig serverStore clientStore = some credential)
    (convinces : Convinces signer checker credential version digest body proof) :
    (∀ answer ∈ (exchange signer checker digest client server).answers, answer = .ok ()) ∧
      (exchange signer checker digest client server).answering.sent =
        [.handshake .certificate body, .handshake .certificateVerify proof] ∧
      (exchange signer checker digest client server).judging.session =
        Server.taken server credential.chain := by
  obtain ⟨request, choice, rfl, asked, answered, judged⟩ :=
    exchange_of_some signer checker digest fresh_client fresh_server asks uses listed standing agree
  have proves : client.proofOf signer choice.credential digest [] = .ok proof := by
    rw [fresh_client]
    exact proofOf_client_eq_ok_iff.2 (by
      obtain ⟨scheme, signature, found, made, encoded, -⟩ := convinces.proved
      exact ⟨scheme, signature, found, made, encoded⟩)
  have passed : turn (Server.judging checker digest) server
      [.handshake .certificate body, .handshake .certificateVerify proof] =
        ⟨[.ok (), .ok ()], [], Server.taken server choice.credential.chain⟩ := by
    refine Server.judging_of_proof asks ?_ ?_ <;> rw [fresh_server]
    · exact convinces.accepts
    · exact convinces.provesLeaf
  rw [carrying_pair_eq_iff.2 ⟨convinces.written, proves, rfl⟩] at answered judged
  rw [convinces.written, proves] at answered
  rw [passed] at judged
  refine ⟨?_, ?_, ?_⟩
  · simp [Exchange.answers, asked, answered, judged, written, Functor.map, Except.map]
  · rw [answered]
  · rw [judged]

include fresh_client fresh_server asks uses listed standing in
theorem exchange_of_not_convinces {credential : Credential}
    (agree : agreed serverConfig clientConfig serverStore clientStore = some credential)
    (fails : ∀ body proof, ¬ Convinces signer checker credential version digest body proof) :
    (exchange signer checker digest client server).judging.session.peerChain = [] ∧
      ∃ answer ∈ (exchange signer checker digest client server).answers, answer ≠ .ok () := by
  obtain ⟨request, choice, rfl, asked, answered, judged⟩ :=
    exchange_of_some signer checker digest fresh_client fresh_server asks uses listed standing agree
  have unknown : (exchange signer checker digest client server).judging.session.peerChain = [] := by
    by_contra filled
    rw [judged] at filled
    obtain ⟨body, proof, rest, leaf, issuers, letters, accepts, proves⟩ :=
      Server.letters_of_judging asks (by rw [fresh_server]; rfl) filled
    obtain ⟨shown, proved, -⟩ := carrying_pair_eq_iff.1 letters
    rw [fresh_client] at proved
    rw [fresh_server] at accepts proves
    exact fails body proof
      (.of_accepted shown (proofOf_client_eq_ok_iff.1 proved) accepts rfl proves)
  refine ⟨unknown, ?_⟩
  by_contra all_passed
  push Not at all_passed
  -- every body was written, and so the server has had a list of certificates to judge
  obtain ⟨body, shown⟩ : ∃ body, CertificateList.encode choice.credential.chain = .ok body :=
    written_eq_ok_iff.1 (all_passed _ (by simp [Exchange.answers, answered]))
  rw [judged, shown] at unknown
  refine Server.filled_of_judging asks (CertificateList.decode_encode shown) ?_ unknown
  intro answer mem
  refine all_passed answer ?_
  rw [Exchange.answers, judged, shown]
  exact List.mem_append_right _ mem

/-- The outcome of an exchange between fresh ends with the standing rule, for every version, policy,
store and provider. Without a policy that asks, nothing is sent. A client that has no credential
for the announced names says so in the way of its version, and is let through or not as the policy
has it. A client that has one shows it and proves it; the server then knows the client by exactly
this chain, unless the certificates or the signature do not stand up to reading. -/
theorem exchange_outcome {builder : StoreBuilder} (built : builder.build = .ok serverStore)
    (standing : clientStore.selector = .heuristic)
    (serverUses : serverConfig.keyExchange.usesCertificates)
    (clientUses : clientConfig.keyExchange.usesCertificates)
    (fresh_client : client = .start clientConfig version .client clientStore)
    (fresh_server : server = .start serverConfig version .server serverStore) :
    (serverConfig.policy = .ignore →
      exchange signer checker digest client server =
        ⟨⟨[.ok ()], [], server⟩, ⟨[.ok (), .ok (), .ok ()], [], client⟩,
          ⟨[.ok (), .ok ()], [], server⟩⟩) ∧
    (serverConfig.policy ≠ .ignore →
      agreed serverConfig clientConfig serverStore clientStore = none →
      ∃ request, exchange signer checker digest client server =
        ⟨⟨[.ok ()], [.handshake .certificateRequest request], server⟩,
          ⟨[.ok (), .ok (), .ok ()], Client.refusal version, Client.asked client none⟩,
          ⟨[if serverConfig.policy = .require then .error .noCertificateFound else .ok (),
            .ok ()], [], server⟩⟩) ∧
    (serverConfig.policy ≠ .ignore → ∀ credential,
      agreed serverConfig clientConfig serverStore clientStore = some credential →
      (∀ body proof, Convinces signer checker credential version digest body proof →
        (∀ answer ∈ (exchange signer checker digest client server).answers, answer = .ok ()) ∧
        (exchange signer checker digest client server).answering.sent =
          [.handshake .certificate body, .handshake .certificateVerify proof] ∧
        (exchange signer checker digest client server).judging.session =
          Server.taken server credential.chain) ∧
      ((∀ body proof, ¬ Convinces signer checker credential version digest body proof) →
        (exchange signer checker digest client server).judging.session.peerChain = [] ∧
        ∃ answer ∈ (exchange signer checker digest client server).answers, answer ≠ .ok ())) := by
  have listed : serverStore.Listed := (StoreBuilder.build_eq_ok_iff.1 built).2.2.1
  have asks (asking : serverConfig.policy ≠ .ignore) : Server.AsksClient server := by
    rw [fresh_server]
    exact ⟨asking, serverUses⟩
  refine ⟨?_, ?_, ?_⟩
  · intro ignores
    exact exchange_of_ignore signer checker digest fresh_client fresh_server ignores clientUses
  · intro asking alone
    obtain ⟨request, h⟩ := exchange_of_none signer checker digest fresh_client fresh_server
      (asks asking) clientUses listed standing alone
    rw [Server.judgeAbsence, fresh_server] at h
    subst fresh_server
    exact ⟨request, h⟩
  · intro asking credential agree
    constructor
    · intro body proof convinces
      exact exchange_of_convinces signer checker digest fresh_client fresh_server (asks asking)
        clientUses listed standing agree convinces
    · intro fails
      exact exchange_of_not_convinces signer checker digest fresh_client fresh_server (asks asking)
        clientUses listed standing agree fails

end Outcome

def Store.trusting : Store where
  entries := []
  trustedIssuers := [[0x30, 0]]
  issuerList := [0, 2, 0x30, 0]
  selector := .heuristic

def Store.holding : Store where
  entries := [.terse]
  trustedIssuers := []
  issuerList := []
  selector := .heuristic

theorem exchange_outcome_terse :
    ∃ client server : Session,
      client = .start {} .tls12 .client .holding ∧
      server = .start { policy := .require } .tls12 .server .trusting ∧
      agreed { policy := .require } {} .trusting .holding = some .terse ∧
      (∀ answer ∈ (exchange .withStandIn .withStandIn [1, 2, 3] client server).answers,
        answer = .ok ()) ∧
      (exchange .withStandIn .withStandIn [1, 2, 3] client server).judging.session.peerChain =
        [X509.terse] := by
  have built : StoreBuilder.build { trustedIssuers := [.name [0x30, 0]] } = .ok .trusting :=
    StoreBuilder.build_eq_ok_iff.2
      ⟨.nil, .cons rfl .nil, ⟨by simp [Store.trusting], by decide, by decide⟩, rfl⟩
  have agree : agreed { policy := .require } {} .trusting .holding = some .terse := rfl
  have convinces : Convinces .withStandIn .withStandIn .terse .tls12 [1, 2, 3]
      (Wire.framed 3 (Wire.framed 3 X509.terse)) [0, 6, 0x64, 0x73, 0x61, 1, 2, 3] :=
    { written := rfl
      readable := by simp [Session.Readable, Credential.terse]
      usable := rfl
      proved := ⟨Restriction.standIn, [0x64, 0x73, 0x61, 1, 2, 3], rfl, rfl,
        CertificateVerify.encode_eq_ok_iff.2 ⟨by decide, rfl⟩, Restriction.standIn, rfl, rfl⟩ }
  obtain ⟨passed, -, known⟩ := ((exchange_outcome .withStandIn .withStandIn [1, 2, 3] built rfl rfl
    rfl rfl rfl).2.2 (by decide) .terse agree).1 _ _ convinces
  exact ⟨_, _, rfl, rfl, agree, passed, by rw [known]; rfl⟩

end HandshakeAuth
