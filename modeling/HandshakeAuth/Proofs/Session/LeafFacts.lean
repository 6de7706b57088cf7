import HandshakeAuth.Proofs.Handshake.ServerKeyUse
import HandshakeAuth.Proofs.Session.Verdict

/-! A credential keeps facts of its leaf, and a session reads the leaf again where it needs more of
it. The two agree whatever way the credential has come about, so the list of the key exchanges that
a session can serve is decided by the leaf alone. -/

namespace HandshakeAuth
namespace Credential

variable {chain : List Octets} {key : SigningKey} {credential : Credential}

theorem ofChain_chain (credential : Credential) :
    ofChain credential.chain credential.key = .ok credential := by
  obtain ⟨leaf, issuers, key, certificate, algorithm, parsed, known⟩ := credential
  change ofChain (leaf :: issuers) key = _
  unfold ofChain
  dsimp only
  split
  next failed => exact nomatch failed.symm.trans parsed
  next read =>
    obtain rfl := Except.ok.inj (read.symm.trans parsed)
    split
    next unknown => exact nomatch unknown.symm.trans known
    next same =>
      obtain rfl := Option.some.inj (same.symm.trans known)
      rfl

theorem chain_of_ofChain (made : ofChain chain key = .ok credential) :
    credential.chain = chain ∧ credential.key = key := by
  unfold ofChain at made
  split at made
  · contradiction
  · split at made
    · contradiction
    · split at made
      · contradiction
      · obtain rfl := Except.ok.inj made
        exact ⟨rfl, rfl⟩

theorem ofChain_eq_ok_iff :
    ofChain chain key = .ok credential ↔ credential.chain = chain ∧ credential.key = key := by
  constructor
  · exact chain_of_ofChain
  · rintro ⟨rfl, rfl⟩
    exact ofChain_chain credential

end Credential

namespace KeyExchange

/-- A leaf suits a key exchange that needs a key of its kind for a use it allows. -/
structure Suits (keyExchange : KeyExchange) (leaf : X509.Certificate) : Prop where
  key : ∃ algorithm, keyExchange.serverKey = some algorithm ∧ leaf.algorithm = some algorithm
  usage : ∃ usage, keyExchange.serverUsage = some usage ∧ leaf.allows usage

theorem usesCertificates_of_serverKey {keyExchange : KeyExchange} {algorithm : PublicKeyAlgorithm}
    (needed : keyExchange.serverKey = some algorithm) : keyExchange.usesCertificates := by
  cases keyExchange with
  | anonDh => exact nomatch needed
  | rsa | dheRsa | dheDss => rfl

end KeyExchange

namespace Session

variable {session : Session} {choice : Choice} {certificate : X509.Certificate}

theorem mem_supportedKeyExchanges_iff_suits {keyExchange : KeyExchange}
    (selected : session.selected = some choice)
    (read : X509.parse choice.credential.leaf = .ok certificate) :
    keyExchange ∈ session.supportedKeyExchanges ↔ keyExchange.Suits certificate := by
  obtain rfl := Except.ok.inj (choice.credential.parse_leaf.symm.trans read)
  have kept := choice.credential.algorithm_leaf
  rw [mem_supportedKeyExchanges_iff selected]
  constructor
  · rintro ⟨key, allowed⟩
    obtain ⟨usage, needed⟩ :=
      KeyExchange.exists_serverUsage (KeyExchange.usesCertificates_of_serverKey key)
    rw [needed] at allowed
    exact ⟨⟨_, key, kept⟩, ⟨usage, needed, allowed⟩⟩
  · rintro ⟨⟨algorithm, key, same⟩, ⟨usage, needed, allowed⟩⟩
    obtain rfl := Option.some.inj (same.symm.trans kept)
    rw [needed]
    exact ⟨key, allowed⟩

theorem supportedKeyExchanges_sublist (session : Session) :
    session.supportedKeyExchanges.Sublist [.rsa, .dheRsa, .dheDss] := by
  unfold supportedKeyExchanges
  split
  · exact List.nil_sublist _
  · split
    · have split_all : KeyExchange.all = [.rsa, .dheRsa, .dheDss] ++ [.anonDh] := rfl
      rw [split_all, List.filter_append]
      have unserved : ∀ certificate algorithm,
          [KeyExchange.anonDh].filter (serves certificate algorithm) = [] := fun _ _ => rfl
      rw [unserved, List.append_nil]
      exact List.filter_sublist
    · exact List.nil_sublist _

/-- Every credential is made of its chain and its key, and no other is; it has a leaf, which can be
read, and the facts it keeps are the leaf's. Hence a session with a selected credential lists, in
their standing order and each once, the key exchanges that the leaf suits. Without a credential it
lists none. -/
theorem supported_by_leaf :
    (∀ chain key credential, Credential.ofChain chain key = .ok credential ↔
      credential.chain = chain ∧ credential.key = key) ∧
    (∀ credential : Credential, ∃ leaf issuers certificate, credential.chain = leaf :: issuers ∧
      X509.parse leaf = .ok certificate ∧ certificate.algorithm = some credential.algorithm ∧
      certificate.issuer = credential.issuer) ∧
    ∀ session : Session,
      (session.selected = none → session.supportedKeyExchanges = []) ∧
      session.supportedKeyExchanges.Sublist [.rsa, .dheRsa, .dheDss] ∧
      ∀ choice, session.selected = some choice →
        ∃ certificate, X509.parse choice.credential.leaf = .ok certificate ∧
          ∀ keyExchange : KeyExchange,
            keyExchange ∈ session.supportedKeyExchanges ↔ keyExchange.Suits certificate := by
  refine ⟨fun _ _ _ => Credential.ofChain_eq_ok_iff, ?_, fun session => ⟨?_, ?_, ?_⟩⟩
  · intro credential
    exact ⟨credential.leaf, credential.issuers, credential.certificate, rfl, credential.parse_leaf,
      credential.algorithm_leaf, rfl⟩
  · intro unselected
    rw [supportedKeyExchanges, unselected]
  · exact supportedKeyExchanges_sublist session
  · intro choice selected
    have read := choice.credential.parse_leaf
    exact ⟨_, read, fun _ => mem_supportedKeyExchanges_iff_suits selected read⟩

theorem supported_by_leaf_terse :
    let shows (credential : Credential) :=
      (Endpoint.signing .server .tls12 (some (.foreign credential)) []).session
    Credential.ofChain [X509.enciphering, X509.terse] ⟨[]⟩ = .ok .enciphering ∧
    (∃ leaf issuers certificate, Credential.enciphering.chain = leaf :: issuers ∧
      X509.parse leaf = .ok certificate ∧
      certificate.algorithm = some Credential.enciphering.algorithm ∧
      certificate.issuer = Credential.enciphering.issuer) ∧
    .rsa ∈ (shows .terseRsa).supportedKeyExchanges ∧
    .dheRsa ∈ (shows .terseRsa).supportedKeyExchanges ∧
    .dheDss ∉ (shows .terseRsa).supportedKeyExchanges ∧
    .dheDss ∉ (shows .enciphering).supportedKeyExchanges ∧
    (Endpoint.signing .server .tls12 none []).session.supportedKeyExchanges = [] := by
  intro shows
  obtain ⟨made, kept, lists⟩ := supported_by_leaf
  obtain ⟨leaf, read, suits⟩ := (lists (shows .terseRsa)).2.2 _ rfl
  obtain rfl := Except.ok.inj (Credential.terseRsa.parse_leaf.symm.trans read)
  obtain ⟨enciphering, read', suits'⟩ := (lists (shows .enciphering)).2.2 _ rfl
  obtain rfl := Except.ok.inj (Credential.enciphering.parse_leaf.symm.trans read')
  refine ⟨(made _ _ _).2 ⟨rfl, rfl⟩, kept _, ?_, ?_, ?_, ?_, (lists _).1 rfl⟩
  · exact (suits _).2 ⟨⟨_, rfl, rfl⟩, ⟨_, rfl, rfl⟩⟩
  · exact (suits _).2 ⟨⟨_, rfl, rfl⟩, ⟨_, rfl, rfl⟩⟩
  · intro listed
    obtain ⟨⟨algorithm, key, same⟩, -⟩ := (suits _).1 listed
    exact nomatch key.trans same.symm
  · intro listed
    obtain ⟨-, ⟨usage, needed, allowed⟩⟩ := (suits' _).1 listed
    obtain rfl := Option.some.inj needed
    exact Bool.false_ne_true allowed

end Session
end HandshakeAuth
