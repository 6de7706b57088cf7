import HandshakeAuth.Credential.Store
import HandshakeAuth.Proofs.Answer
import HandshakeAuth.Proofs.Wire.Reading

/-! What a finished store holds: the credentials of its key pairs, the names it trusts, and these
names in the written form that a request takes over. -/

namespace HandshakeAuth
open Answer Wire

variable {names : List Octets} {written : Octets}

/-- The issuer list is the written form of the trusted names, and a request has room for it. -/
structure Store.Listed (store : Store) : Prop where
  filled : ∀ name ∈ store.trustedIssuers, name ≠ []
  fits : (store.trustedIssuers.flatMap (framed 2)).length < Octets.capacity 2
  written : store.issuerList = store.trustedIssuers.flatMap (framed 2)

namespace StoreBuilder

theorem encodeName_eq_ok_iff (name written : Octets) :
    encodeName name = .ok written ↔
      (name ≠ [] ∧ name.length < Octets.capacity 2) ∧ written = framed 2 name := by
  rcases name with _ | ⟨b, bs⟩
  · simp [encodeName]
  · simp [encodeName, vector_eq_framed_iff]

theorem encodeNames_eq_ok_iff :
    encodeNames names = .ok written ↔
      (∀ name ∈ names, name ≠ []) ∧ (names.flatMap (framed 2)).length < Octets.capacity 2 ∧
        written = names.flatMap (framed 2) := by
  rw [encodeNames, bind_eq_ok_iff, List.flatMap_def]
  simp only [mapM_eq_ok_iff_map encodeName_eq_ok_iff]
  constructor
  · rintro ⟨_, ⟨good, rfl⟩, h⟩
    split at h
    · exact ⟨fun name mem => (good name mem).1, ‹_›, (Except.ok.inj h).symm⟩
    · contradiction
  · rintro ⟨filled, fits, rfl⟩
    refine ⟨_, ⟨fun name mem => ⟨filled name mem, ?_⟩, rfl⟩, if_pos fits⟩
    rw [← List.flatMap_def] at fits
    exact length_lt_of_flatMap fits name mem

theorem build_eq_ok_iff {builder : StoreBuilder} {store : Store} :
    builder.build = .ok store ↔
      List.Forall₂ (fun pair entry => Credential.ofChain pair.1 pair.2 = .ok entry)
        builder.keyPairs store.entries ∧
      List.Forall₂ (fun issuer name => issuer.resolve = .ok name)
        builder.trustedIssuers store.trustedIssuers ∧
      store.Listed ∧ store.selector = builder.selector := by
  simp only [build, bind_eq_ok_iff, mapM_eq_ok_iff, encodeNames_eq_ok_iff]
  constructor
  · rintro ⟨entries, pairs, names, issuers, _, ⟨filled, fits, rfl⟩, h⟩
    obtain rfl := Except.ok.inj h
    exact ⟨pairs, issuers, ⟨filled, fits, rfl⟩, rfl⟩
  · rintro ⟨pairs, issuers, listed, rule⟩
    refine ⟨_, pairs, _, issuers, _, ⟨listed.filled, listed.fits, listed.written⟩, ?_⟩
    rw [← rule]
    rfl

variable {builder : StoreBuilder}
  (issuers : List.Forall₂ (fun issuer name => issuer.resolve = .ok name)
    builder.trustedIssuers names)

include issuers in
theorem trustedIssuers_of_build {store : Store} (built : builder.build = .ok store) :
    store.trustedIssuers = names := by
  have resolved := mapM_eq_ok_iff.2 (build_eq_ok_iff.1 built).2.1
  have same := resolved.symm.trans (mapM_eq_ok_iff.2 issuers)
  exact Except.ok.inj same

include issuers in
theorem exists_build_iff
    (pairs : ∀ pair ∈ builder.keyPairs, ∃ credential,
      Credential.ofChain pair.1 pair.2 = .ok credential) :
    (∃ store, builder.build = .ok store) ↔
      (∀ name ∈ names, name ≠ []) ∧ (names.flatMap (framed 2)).length < Octets.capacity 2 := by
  constructor
  · rintro ⟨store, built⟩
    have listed : store.Listed := (build_eq_ok_iff.1 built).2.2.1
    rw [← trustedIssuers_of_build issuers built]
    exact ⟨listed.filled, listed.fits⟩
  · rintro ⟨filled, fits⟩
    obtain ⟨entries, held⟩ := exists_mapM_of_forall pairs
    let store : Store :=
      { entries, trustedIssuers := names, issuerList := names.flatMap (framed 2),
        selector := builder.selector }
    have listed : store.Listed := ⟨filled, fits, rfl⟩
    exact ⟨store, build_eq_ok_iff.2 ⟨mapM_eq_ok_iff.1 held, issuers, listed, rfl⟩⟩

end StoreBuilder
end HandshakeAuth
