import HandshakeAuth.Proofs.Credential.Steps
import HandshakeAuth.Proofs.Credential.Store
import HandshakeAuth.Proofs.Session.Possession

/-! What comes of building a store: the store, or the error of the first thing that is wrong. Key
pairs come before issuers, issuers before their names, and the names one by one before the length of
their list. -/

namespace HandshakeAuth
open Answer Wire

def TrustedIssuer.Named (issuer : TrustedIssuer) : Prop :=
  ∃ name, issuer.resolve = .ok name

abbrev TrustedIssuer.Resolved (issuers : List TrustedIssuer) (names : List Octets) : Prop :=
  List.Forall₂ (fun issuer name => issuer.resolve = .ok name) issuers names

theorem TrustedIssuer.resolve_eq_error_iff {issuer : TrustedIssuer} {e : AuthError} :
    issuer.resolve = .error e ↔ ∃ der, issuer = .certificate der ∧ X509.parse der = .error e := by
  cases issuer with
  | certificate der =>
    change (X509.parse der >>= fun read => .ok read.subject) = .error e ↔ _
    rw [bind_eq_error_iff]
    simp
  | name der => simp [resolve]

namespace StoreBuilder

def Usable (pair : List Octets × SigningKey) : Prop :=
  ∃ credential, Credential.ofChain pair.1 pair.2 = .ok credential

structure Listable (name : Octets) : Prop where
  filled : name ≠ []
  fits : name.length ≤ 65535

def listLength (names : List Octets) : Nat :=
  (names.map fun name => 2 + name.length).sum

def listTooLong (names : List Octets) : AuthError :=
  .invalidConfig ("trusted issuer list of " ++ toString (listLength names)
    ++ " bytes does not fit in a CertificateRequest")

section
variable (pairs : List (List Octets × SigningKey)) (issuers : List TrustedIssuer) (rule : Selector)

/-- What comes of key pairs and issuers. In an error rule, everything that is looked at before the
culprit is in order. -/
inductive Built : Except AuthError Store → Prop
  | keyPair {pair e} (reached : Reached Usable pairs pair)
      (bad : Credential.ofChain pair.1 pair.2 = .error e) : Built (.error e)
  | certificate {der e} (usable : ∀ pair ∈ pairs, Usable pair)
      (reached : Reached TrustedIssuer.Named issuers (.certificate der))
      (bad : X509.parse der = .error e) : Built (.error e)
  | emptyName {names} (usable : ∀ pair ∈ pairs, Usable pair)
      (named : TrustedIssuer.Resolved issuers names)
      (reached : Reached Listable names []) :
      Built (.error (.invalidConfig "empty trusted issuer name"))
  | longName {names name} (usable : ∀ pair ∈ pairs, Usable pair)
      (named : TrustedIssuer.Resolved issuers names)
      (reached : Reached Listable names name) (long : 65535 < name.length) :
      Built (.error (.lengthOverflow name.length 16))
  | longList {names} (usable : ∀ pair ∈ pairs, Usable pair)
      (named : TrustedIssuer.Resolved issuers names)
      (listable : ∀ name ∈ names, Listable name) (long : 65535 < listLength names) :
      Built (.error (listTooLong names))
  | store {entries names}
      (made : List.Forall₂ (fun pair entry => Credential.ofChain pair.1 pair.2 = .ok entry)
        pairs entries)
      (named : TrustedIssuer.Resolved issuers names)
      (listable : ∀ name ∈ names, Listable name) (fits : listLength names ≤ 65535) :
      Built (.ok
        { entries
          trustedIssuers := names
          issuerList := names.flatMap (framed 2)
          selector := rule })

end

variable {builder : StoreBuilder} {names : List Octets} {e : AuthError}

theorem encodeName_eq_error_iff {name : Octets} :
    encodeName name = .error e ↔
      name = [] ∧ e = .invalidConfig "empty trusted issuer name" ∨
      65535 < name.length ∧ e = .lengthOverflow name.length 16 := by
  rcases name with _ | ⟨b, bs⟩
  · simp [encodeName, eq_comm]
  · change vector 2 (b :: bs) = .error e ↔ _
    have capacity : Octets.capacity 2 = 65535 + 1 := rfl
    rcases Nat.lt_or_ge (b :: bs).length (Octets.capacity 2) with short | long
    · have fits : ¬ 65535 < (b :: bs).length := by omega
      rw [vector_of_lt short]
      simp only [reduceCtorEq, fits, false_and, or_self]
    · have exceeds : 65535 < (b :: bs).length := by omega
      rw [vector_of_le long]
      simp only [Except.error.injEq, reduceCtorEq, false_and, false_or, exceeds, true_and, eq_comm]

theorem encodeName_ok_iff_listable {name : Octets} :
    (∃ written, encodeName name = .ok written) ↔ Listable name := by
  simp only [encodeName_eq_ok_iff, exists_and_left, exists_eq, and_true]
  constructor
  · rintro ⟨filled, fits⟩
    exact ⟨filled, Nat.le_of_lt_succ fits⟩
  · rintro ⟨filled, fits⟩
    exact ⟨filled, Nat.lt_succ_of_le fits⟩

theorem mapM_encodeName_eq_ok_iff {written : List Octets} :
    names.mapM encodeName = .ok written ↔
      (∀ name ∈ names, Listable name) ∧ written = names.map (framed 2) := by
  apply mapM_eq_ok_iff_map
  intro name written
  rw [encodeName_eq_ok_iff, ← encodeName_ok_iff_listable]
  simp only [encodeName_eq_ok_iff, exists_and_left, exists_eq, and_true]

theorem encodeNames_eq_error_iff :
    encodeNames names = .error e ↔
      (∃ name, Reached Listable names name ∧ encodeName name = .error e) ∨
      (∀ name ∈ names, Listable name) ∧ 65535 < listLength names ∧ e = listTooLong names := by
  have total : (names.map (framed 2)).flatten.length = listLength names := by
    rw [← List.flatMap_def]
    exact length_flatMap_eq_sum 2 names
  rw [encodeNames, bind_eq_error_iff, mapM_eq_error_iff_reached]
  simp only [encodeName_ok_iff_listable, mapM_encodeName_eq_ok_iff]
  apply or_congr_right
  constructor
  · rintro ⟨_, ⟨listable, rfl⟩, failed⟩
    rw [total] at failed
    split at failed
    next => contradiction
    next long => exact ⟨listable, Nat.le_of_not_lt long, (Except.error.inj failed).symm⟩
  · rintro ⟨listable, long, rfl⟩
    refine ⟨_, ⟨listable, rfl⟩, ?_⟩
    rw [total]
    exact if_neg (Nat.not_lt.2 long)

theorem build_eq_error_iff :
    builder.build = .error e ↔
      (∃ pair, Reached Usable builder.keyPairs pair ∧
        Credential.ofChain pair.1 pair.2 = .error e) ∨
      (∀ pair ∈ builder.keyPairs, Usable pair) ∧
        ((∃ der, Reached TrustedIssuer.Named builder.trustedIssuers (.certificate der) ∧
          X509.parse der = .error e) ∨
        ∃ names, TrustedIssuer.Resolved builder.trustedIssuers names ∧
          encodeNames names = .error e) := by
  rw [build, bind_eq_error_iff, mapM_eq_error_iff_reached]
  apply or_congr_right
  constructor
  · rintro ⟨entries, made, later⟩
    have usable : ∀ pair ∈ builder.keyPairs, Usable pair := exists_of_mapM_eq_ok made
    refine ⟨usable, ?_⟩
    rcases bind_eq_error_iff.1 later with failed | ⟨names, named, later⟩
    · obtain ⟨issuer, reached, failed⟩ := mapM_eq_error_iff_reached.1 failed
      obtain ⟨der, rfl, bad⟩ := TrustedIssuer.resolve_eq_error_iff.1 failed
      exact .inl ⟨der, reached, bad⟩
    · rcases bind_eq_error_iff.1 later with failed | ⟨_, -, done⟩
      · exact .inr ⟨names, mapM_eq_ok_iff.1 named, failed⟩
      · contradiction
  · rintro ⟨usable, failed⟩
    obtain ⟨entries, made⟩ := exists_mapM_of_forall usable
    refine ⟨entries, made, bind_eq_error_iff.2 ?_⟩
    rcases failed with ⟨der, reached, bad⟩ | ⟨names, named, failed⟩
    · exact .inl (mapM_eq_error_iff_reached.2
        ⟨_, reached, TrustedIssuer.resolve_eq_error_iff.2 ⟨der, rfl, bad⟩⟩)
    · exact .inr ⟨names, mapM_eq_ok_iff.2 named, bind_eq_error_iff.2 (.inl failed)⟩

theorem built_of_error (failed : builder.build = .error e) :
    Built builder.keyPairs builder.trustedIssuers builder.selector (.error e) := by
  rcases build_eq_error_iff.1 failed with ⟨pair, reached, bad⟩ | ⟨usable, later⟩
  · exact .keyPair reached bad
  · rcases later with ⟨der, reached, bad⟩ | ⟨names, named, failed⟩
    · exact .certificate usable reached bad
    · rcases encodeNames_eq_error_iff.1 failed with ⟨name, reached, bad⟩ | ⟨listable, long, rfl⟩
      · rcases encodeName_eq_error_iff.1 bad with ⟨rfl, rfl⟩ | ⟨long, rfl⟩
        · exact .emptyName usable named reached
        · exact .longName usable named reached long
      · exact .longList usable named listable long

theorem listed_iff {store : Store} :
    store.Listed ↔ (∀ name ∈ store.trustedIssuers, Listable name) ∧
      listLength store.trustedIssuers ≤ 65535 ∧
      store.issuerList = store.trustedIssuers.flatMap (framed 2) := by
  have total : (store.trustedIssuers.flatMap (framed 2)).length =
      listLength store.trustedIssuers := length_flatMap_eq_sum 2 _
  constructor
  · intro listed
    have short := length_lt_of_flatMap listed.fits
    have fits : listLength store.trustedIssuers < Octets.capacity 2 := total ▸ listed.fits
    refine ⟨?_, Nat.le_of_lt_succ fits, listed.written⟩
    intro name mem
    exact ⟨listed.filled name mem, Nat.le_of_lt_succ (short name mem)⟩
  · rintro ⟨listable, fits, written⟩
    refine ⟨fun name mem => (listable name mem).filled, ?_, written⟩
    rw [total]
    exact Nat.lt_succ_of_le fits

theorem build_eq_iff_built {answer : Except AuthError Store} :
    builder.build = answer ↔
      Built builder.keyPairs builder.trustedIssuers builder.selector answer := by
  constructor
  · rintro rfl
    rcases built : builder.build with e | store
    · exact built_of_error built
    · obtain ⟨made, named, listed, rule⟩ := build_eq_ok_iff.1 built
      obtain ⟨listable, fits, written⟩ := listed_iff.1 listed
      have finished : Built builder.keyPairs builder.trustedIssuers store.selector (.ok _) :=
        .store made named listable fits
      rw [← written] at finished
      rw [← rule]
      exact finished
  · intro built
    cases built with
    | keyPair reached bad => exact build_eq_error_iff.2 (.inl ⟨_, reached, bad⟩)
    | certificate usable reached bad =>
      exact build_eq_error_iff.2 (.inr ⟨usable, .inl ⟨_, reached, bad⟩⟩)
    | emptyName usable named reached =>
      have bad := encodeName_eq_error_iff.2 (.inl ⟨rfl, rfl⟩)
      have failed := encodeNames_eq_error_iff.2 (.inl ⟨_, reached, bad⟩)
      exact build_eq_error_iff.2 (.inr ⟨usable, .inr ⟨_, named, failed⟩⟩)
    | longName usable named reached long =>
      have bad := encodeName_eq_error_iff.2 (.inr ⟨long, rfl⟩)
      have failed := encodeNames_eq_error_iff.2 (.inl ⟨_, reached, bad⟩)
      exact build_eq_error_iff.2 (.inr ⟨usable, .inr ⟨_, named, failed⟩⟩)
    | longList usable named listable long =>
      have failed := encodeNames_eq_error_iff.2 (.inr ⟨listable, long, rfl⟩)
      exact build_eq_error_iff.2 (.inr ⟨usable, .inr ⟨_, named, failed⟩⟩)
    | store made named listable fits =>
      exact build_eq_ok_iff.2 ⟨made, named, listed_iff.2 ⟨listable, fits, rfl⟩, rfl⟩

theorem sound_of_build {store : Store} (built : builder.build = .ok store) :
    (∀ pair ∈ builder.keyPairs, Usable pair) ∧
      TrustedIssuer.Resolved builder.trustedIssuers store.trustedIssuers ∧
      (∀ name ∈ store.trustedIssuers, Listable name) ∧
      listLength store.trustedIssuers ≤ 65535 := by
  obtain ⟨made, named, listed, -⟩ := build_eq_ok_iff.1 built
  obtain ⟨listable, fits, -⟩ := listed_iff.1 listed
  exact ⟨exists_of_mapM_eq_ok (mapM_eq_ok_iff.2 made), named, listable, fits⟩

theorem exists_build_eq_error_iff :
    (∃ e, builder.build = .error e) ↔
      (∃ pair ∈ builder.keyPairs, ¬ Usable pair) ∨
      (∃ issuer ∈ builder.trustedIssuers, ¬ issuer.Named) ∨
      ∃ names, TrustedIssuer.Resolved builder.trustedIssuers names ∧
          ((∃ name ∈ names, ¬ Listable name) ∨ 65535 < listLength names) := by
  constructor
  · rintro ⟨e, failed⟩
    cases built_of_error failed with
    | keyPair reached bad =>
      have unusable : ¬ Usable _ := fun ⟨_, made⟩ => nomatch made.symm.trans bad
      exact .inl ⟨_, reached.mem, unusable⟩
    | @certificate der _ _ reached bad =>
      have failed := TrustedIssuer.resolve_eq_error_iff.2 ⟨der, rfl, bad⟩
      have unnamed : ¬ (TrustedIssuer.certificate der).Named :=
        fun ⟨_, named⟩ => nomatch named.symm.trans failed
      exact .inr (.inl ⟨_, reached.mem, unnamed⟩)
    | emptyName _ named reached =>
      exact .inr (.inr ⟨_, named, .inl ⟨_, reached.mem, fun listable => listable.filled rfl⟩⟩)
    | longName _ named reached long =>
      have unlistable : ¬ Listable _ := fun listable => Nat.not_le.2 long listable.fits
      exact .inr (.inr ⟨_, named, .inl ⟨_, reached.mem, unlistable⟩⟩)
    | longList _ named _ long => exact .inr (.inr ⟨_, named, .inr long⟩)
  · intro bad
    rcases built : builder.build with e | store
    · exact ⟨e, rfl⟩
    · exfalso
      obtain ⟨usable, named, listable, fits⟩ := sound_of_build built
      rcases bad with ⟨pair, mem, unusable⟩ | ⟨issuer, mem, unnamed⟩ | ⟨names, resolved, bad⟩
      · exact unusable (usable pair mem)
      · exact unnamed (exists_of_mapM_eq_ok (mapM_eq_ok_iff.2 named) issuer mem)
      · obtain rfl := trustedIssuers_of_build resolved built
        rcases bad with ⟨name, mem, unlistable⟩ | long
        · exact unlistable (listable name mem)
        · exact Nat.not_le.2 long fits

/-- What is built is decided by what the steps leave: the key pairs and issuers added behind the
last step that cleared them, and the rule. Building fails exactly if there is something wrong with
those, and steps on different parts can change places. -/
theorem build_of_steps :
    (∀ steps answer, (ofSteps steps).build = answer ↔
      Built (keptPairs steps) (keptIssuers steps) (finalRule steps) answer) ∧
    (∀ steps, (∃ e, (ofSteps steps).build = .error e) ↔
      (∃ pair ∈ keptPairs steps, ¬ Usable pair) ∨
      (∃ issuer ∈ keptIssuers steps, ¬ issuer.Named) ∨
      ∃ names, TrustedIssuer.Resolved (keptIssuers steps) names ∧
          ((∃ name ∈ names, ¬ Listable name) ∨ 65535 < listLength names)) ∧
    (∀ before after, keptPairs (before ++ .clearKeyPairs :: after) = keptPairs after ∧
      keptIssuers (before ++ .clearTrustedIssuers :: after) = keptIssuers after) ∧
    ∀ before a b later, a.part ≠ b.part →
      ofSteps (before ++ a :: b :: later) = ofSteps (before ++ b :: a :: later) := by
  refine ⟨?_, ?_, ?_, ?_⟩
  · intro steps answer
    rw [build_eq_iff_built, ofSteps_eq_collected, selector_collected]
    rfl
  · intro steps
    rw [exists_build_eq_error_iff, ofSteps_eq_collected]
    rfl
  · intro before after
    exact ⟨Step.kept_of_clears rfl _ before after, Step.kept_of_clears rfl _ before after⟩
  · intro before a b later apart
    exact ofSteps_swap before later apart

def spoiled : List Step :=
  [.trustIssuer (.name []), .trustIssuer (.certificate []), .keyPair [X509.terse] ⟨[]⟩,
    .keyPair [] ⟨[]⟩, .clientCallback fun _ _ _ _ => .error "no"]

def mended : List Step :=
  spoiled ++ [.clearTrustedIssuers, .clearKeyPairs, .trustIssuer (.certificate X509.terse),
    .keyPair [X509.terse] ⟨[]⟩, .clientCallback fun _ _ _ _ => .ok none]

theorem build_of_steps_spoiled :
    (ofSteps spoiled).build = .error (.invalidConfig "empty certificate chain") ∧
    (ofSteps (spoiled ++ [.clearKeyPairs])).build = .error (.certificateParse .malformed) ∧
    (ofSteps [.trustIssuer (.certificate X509.terse), .trustIssuer (.name [])]).build =
      .error (.invalidConfig "empty trusted issuer name") ∧
    (∃ store, (ofSteps mended).build = .ok store ∧
      store.entries = [.terse] ∧ store.trustedIssuers = [[0x30, 0]] ∧
      store.selector = .callbacks (some fun _ _ _ _ => .ok none) none) ∧
    ofSteps (spoiled ++ [.clearTrustedIssuers, .clearKeyPairs]) =
      ofSteps (spoiled ++ [.clearKeyPairs, .clearTrustedIssuers]) := by
  obtain ⟨answers, -, -, commute⟩ := build_of_steps
  have usable : Usable ([X509.terse], ⟨[]⟩) := ⟨.terse, rfl⟩
  have listable : Listable [0x30, 0] := ⟨by decide, by decide⟩
  refine ⟨?_, ?_, ?_, ?_, commute spoiled _ _ [] (by decide)⟩
  · have reached : Reached Usable (keptPairs spoiled) ([], ⟨[]⟩) :=
      ⟨[([X509.terse], ⟨[]⟩)], [], rfl, List.forall_mem_singleton.2 usable⟩
    exact (answers _ _).2 (.keyPair reached rfl)
  · have reached : Reached TrustedIssuer.Named (keptIssuers (spoiled ++ [.clearKeyPairs]))
        (.certificate []) :=
      ⟨[.name []], [], rfl, List.forall_mem_singleton.2 ⟨[], rfl⟩⟩
    exact (answers _ _).2 (.certificate nofun reached rfl)
  · have reached : Reached Listable [[0x30, 0], []] [] :=
      ⟨[[0x30, 0]], [], rfl, List.forall_mem_singleton.2 listable⟩
    exact (answers _ _).2 (.emptyName nofun (.cons rfl (.cons rfl .nil)) reached)
  · have made : List.Forall₂ (fun pair entry => Credential.ofChain pair.1 pair.2 = .ok entry)
        (keptPairs mended) [.terse] := .cons rfl .nil
    have named : TrustedIssuer.Resolved (keptIssuers mended) [[0x30, 0]] := .cons rfl .nil
    have built := (answers mended _).2
      (.store made named (List.forall_mem_singleton.2 listable) (by decide))
    exact ⟨_, built, rfl, rfl, rfl⟩

end StoreBuilder
end HandshakeAuth
