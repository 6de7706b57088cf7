import HandshakeAuth.Proofs.Credential.Store
import HandshakeAuth.Proofs.Handshake.ServerSteps
import HandshakeAuth.Proofs.Message.CertificateRequest
import HandshakeAuth.Proofs.Session.Possession

/-! A server announces the names of its store. What makes a store is what makes a request of its
names, so that a server with a store can always ask. -/

namespace HandshakeAuth

def announced (config : Config) (store : Store) : List Octets :=
  if config.format = .x509 ∧ ¬ config.hidesIssuers then store.trustedIssuers else []

namespace Server

variable {σ : Type}

theorem requestBody_of_listed (session : Session) (listed : session.store.Listed) :
    ∃ body, requestBody session = .ok body ∧
      CertificateRequest.decode body session.version =
        .ok (.ofNames (announced session.config session.store)) := by
  by_cases shown : session.config.format = .x509 ∧ ¬ session.config.hidesIssuers
  · have list : requestedIssuers session =
        session.store.trustedIssuers.flatMap (Wire.framed 2) :=
      (if_pos shown).trans listed.written
    rw [announced, if_pos shown, requestBody, list]
    exact CertificateRequest.decode_encodeServer listed.filled listed.fits
  · have list : requestedIssuers session = ([] : List Octets).flatMap (Wire.framed 2) :=
      if_neg shown
    rw [announced, if_neg shown, requestBody, list]
    exact CertificateRequest.decode_encodeServer (by simp) (by decide)

theorem run_sendRequest_of_listed (layer : RecordLayer σ) (e : Endpoint σ)
    (listed : e.session.store.Listed) (asks : AsksClient e.session) :
    ∃ body, (sendRequest layer).run e =
      Step.emit layer e .certificateRequest (.ok body) := by
  obtain ⟨body, request, -⟩ := requestBody_of_listed e.session listed
  exact ⟨body, by rw [run_sendRequest layer e asks, request]⟩

end Server

namespace StoreBuilder
open CertificateRequest

variable {builder : StoreBuilder} {names : List Octets}

/-- A store is finished exactly if a request of its names can be written, under any version. The
server then writes this request, and the client reads the names of the store from it. -/
theorem build_iff_encode (version : Version)
    (pairs : ∀ pair ∈ builder.keyPairs, ∃ credential,
      Credential.ofChain pair.1 pair.2 = .ok credential)
    (issuers : List.Forall₂ (fun issuer name => issuer.resolve = .ok name)
      builder.trustedIssuers names) :
    ((∃ store, builder.build = .ok store) ↔
      ∃ body, encode (ofNames names) version = .ok body) ∧
    ((∃ body, encode (ofNames names) version = .ok body) ↔
      (∀ name ∈ names, name ≠ []) ∧ (names.map fun name => 2 + name.length).sum ≤ 65535) ∧
    ∀ store, builder.build = .ok store →
      store.trustedIssuers = names ∧
      (∃ body, encode (ofNames names) version = .ok body ∧
        encodeServer version store.issuerList = .ok body ∧
        decode body version =
          .ok { types := [.rsaSign, .dssSign], hashes := [], issuers := store.trustedIssuers }) ∧
      ∀ (σ : Type) (layer : RecordLayer σ) (e : Endpoint σ),
        e.session.store = store → Server.AsksClient e.session →
          ∃ body, (Server.sendRequest layer).run e =
            Step.emit layer e .certificateRequest (.ok body) := by
  have capacity : Octets.capacity 2 = 65536 := rfl
  have writes : (∃ body, encode (ofNames names) version = .ok body) ↔
      (∀ name ∈ names, name ≠ []) ∧
        (names.flatMap (Wire.framed 2)).length < Octets.capacity 2 := by
    simp only [encode_ofNames_eq_ok_iff, exists_and_left, exists_eq, and_true]
  refine ⟨?_, ?_, ?_⟩
  · rw [writes, exists_build_iff issuers pairs]
  · rw [writes, Wire.length_flatMap_eq_sum, capacity, Nat.lt_succ_iff]
  · intro store built
    have listed : store.Listed := (build_eq_ok_iff.1 built).2.2.1
    obtain rfl := trustedIssuers_of_build issuers built
    have encoded : encode (ofNames store.trustedIssuers) version = .ok _ :=
      encode_ofNames_eq_ok_iff.2 ⟨listed.filled, listed.fits, rfl⟩
    refine ⟨rfl, ⟨_, encoded, ?_, decode_of_encode_ofNames encoded⟩, ?_⟩
    · rw [listed.written]
      exact encodeServer_flatMap listed.fits
    · rintro σ layer e rfl asks
      exact Server.run_sendRequest_of_listed layer e listed asks

def trustingTwice : StoreBuilder where
  keyPairs := [([X509.terse], ⟨[]⟩)]
  trustedIssuers := [.certificate X509.terse, .name [0x30, 0]]

theorem build_iff_encode_twice :
    ∃ store, trustingTwice.build = .ok store ∧
      encodeServer .tls11 store.issuerList =
        .ok [2, 1, 2, 0, 8, 0, 2, 0x30, 0, 0, 2, 0x30, 0] := by
  have pairs : ∀ pair ∈ trustingTwice.keyPairs, ∃ credential,
      Credential.ofChain pair.1 pair.2 = .ok credential :=
    List.forall_mem_singleton.2 ⟨.terse, rfl⟩
  have issuers : List.Forall₂ (fun issuer name => issuer.resolve = .ok name)
      trustingTwice.trustedIssuers [[0x30, 0], [0x30, 0]] :=
    .cons rfl (.cons rfl .nil)
  have wrote : encode (ofNames [[0x30, 0], [0x30, 0]]) .tls11 =
      .ok [2, 1, 2, 0, 8, 0, 2, 0x30, 0, 0, 2, 0x30, 0] := rfl
  obtain ⟨same, -, built⟩ := build_iff_encode .tls11 pairs issuers
  obtain ⟨store, finished⟩ := same.2 ⟨_, wrote⟩
  obtain ⟨-, ⟨body, encoded, sent, -⟩, -⟩ := built store finished
  obtain rfl := Except.ok.inj (encoded.symm.trans wrote)
  exact ⟨store, finished, sent⟩

end StoreBuilder
end HandshakeAuth
