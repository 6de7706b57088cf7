import HandshakeAuth.Proofs.Session.Possession
import HandshakeAuth.Selection.Basic

/-! The standing rule as a search. Of all pairs of a requested issuer and a held credential that
match, a client takes the first, in the order of the issuers and, for one issuer, of the store; a
server takes the first credential that serves. Main statement: these are found whenever there are
any. -/

namespace HandshakeAuth

theorem eq_some_iff_of_unique {α : Type} {answer : Option α} {Right : α → Prop}
    (sound : ∀ a, answer = some a → Right a) (given : answer = none → ∀ a, ¬ Right a)
    (unique : ∀ a b, Right a → Right b → a = b) (a : α) : answer = some a ↔ Right a := by
  refine ⟨sound a, fun right => ?_⟩
  rcases answer with _ | b
  · exact (given rfl a right).elim
  · rw [unique b a (sound b rfl) right]

namespace Holdings

variable {holdings : Holdings} {constraints : PeerConstraints} {i j : Nat}
  {entry : Credential} {choice : Choice} {p : Choice → Bool}

theorem getElem?_choices (holdings : Holdings) (place : Nat) :
    holdings.choices[place]? = (holdings.entries[place]?).map (.held place) := by
  rw [choices, List.getElem?_map, List.getElem?_zipIdx, Option.map_map, Nat.zero_add]
  rfl

theorem mem_choices_iff :
    choice ∈ holdings.choices ↔
      ∃ place entry, holdings.entries[place]? = some entry ∧ choice = .held place entry := by
  simp only [List.mem_iff_getElem?, getElem?_choices, Option.map_eq_some_iff, eq_comm (a := choice)]

theorem find?_choices_eq_none_iff :
    holdings.choices.find? p = none ↔
      ∀ place entry, holdings.entries[place]? = some entry → ¬ p (.held place entry) := by
  rw [List.find?_eq_none]
  constructor
  · intro none_fits place entry held
    exact none_fits _ (mem_choices_iff.2 ⟨place, entry, held, rfl⟩)
  · intro none_fits choice mem
    obtain ⟨place, entry, held, rfl⟩ := mem_choices_iff.1 mem
    exact none_fits place entry held

theorem exists_of_find?_choices (found : holdings.choices.find? p = some choice) :
    ∃ place entry, choice = .held place entry ∧ holdings.entries[place]? = some entry ∧ p choice ∧
      ∀ earlier < place, ∀ other, holdings.entries[earlier]? = some other →
        ¬ p (.held earlier other) := by
  obtain ⟨fits, place, inside, here, before⟩ := List.find?_eq_some_iff_getElem.1 found
  have standing := holdings.getElem?_choices place
  rw [List.getElem?_eq_getElem inside, here] at standing
  obtain ⟨entry, held, rfl⟩ := Option.map_eq_some_iff.1 standing.symm
  refine ⟨place, entry, rfl, held, fits, ?_⟩
  intro earlier lt other held' fits'
  have refused := before earlier lt
  have standing' := holdings.getElem?_choices earlier
  rw [held', Option.map_some, List.getElem?_eq_getElem (Nat.lt_trans lt inside),
    Option.some.injEq] at standing'
  rw [standing', fits'] at refused
  contradiction

structure Matches (holdings : Holdings) (constraints : PeerConstraints) (i j : Nat)
    (entry : Credential) : Prop where
  held : holdings.entries[j]? = some entry
  issued : ∃ certificate, X509.parse entry.leaf = .ok certificate ∧
    constraints.issuers[i]? = some certificate.issuer
  accepted : entry.algorithm ∈ constraints.algorithms

/-- A match before which, in the order of the issuers and then of the store, there is none. -/
structure FirstMatch (holdings : Holdings) (constraints : PeerConstraints) (i j : Nat)
    (entry : Credential) : Prop extends holdings.Matches constraints i j entry where
  least : ∀ i' j' entry', holdings.Matches constraints i' j' entry' → i < i' ∨ i = i' ∧ j ≤ j'

theorem issued_iff :
    (∃ certificate, X509.parse entry.leaf = .ok certificate ∧
      constraints.issuers[i]? = some certificate.issuer) ↔
      constraints.issuers[i]? = some entry.issuer := by
  rw [entry.parse_leaf]
  simp only [Except.ok.injEq, exists_eq_left', Credential.issuer]

theorem Matches.unique {other : Credential} (h : holdings.Matches constraints i j entry)
    {i' : Nat} (h' : holdings.Matches constraints i' j other) : entry = other :=
  Option.some.inj (h.held.symm.trans h'.held)

theorem FirstMatch.unique {i' j' : Nat} {other : Credential}
    (h : holdings.FirstMatch constraints i j entry)
    (h' : holdings.FirstMatch constraints i' j' other) : j = j' ∧ entry = other := by
  have before := h.least _ _ _ h'.toMatches
  have after := h'.least _ _ _ h.toMatches
  have same : j = j' := by omega
  subst same
  exact ⟨rfl, h.toMatches.unique h'.toMatches⟩

structure Serves (holdings : Holdings) (requested : Option PublicKeyAlgorithm)
    (format : CertificateFormat) (j : Nat) (entry : Credential) : Prop where
  held : holdings.entries[j]? = some entry
  asked : ∀ algorithm ∈ requested, entry.algorithm = algorithm
  negotiated : entry.format = format

structure FirstServing (holdings : Holdings) (requested : Option PublicKeyAlgorithm)
    (format : CertificateFormat) (j : Nat) (entry : Credential) : Prop
    extends holdings.Serves requested format j entry where
  least : ∀ j' entry', holdings.Serves requested format j' entry' → j ≤ j'

theorem FirstServing.unique {requested : Option PublicKeyAlgorithm} {format : CertificateFormat}
    {j' : Nat} {other : Credential} (h : holdings.FirstServing requested format j entry)
    (h' : holdings.FirstServing requested format j' other) : j = j' ∧ entry = other := by
  have same : j = j' := Nat.le_antisymm (h.least _ _ h'.toServes) (h'.least _ _ h.toServes)
  subst same
  exact ⟨rfl, Option.some.inj (h.held.symm.trans h'.held)⟩

end Holdings

namespace Selector

variable {holdings : Holdings} {constraints : PeerConstraints}
  {requested : Option PublicKeyAlgorithm} {format : CertificateFormat} {choice : Choice}

def answers (constraints : PeerConstraints) (issuer : Octets) (choice : Choice) : Bool :=
  choice.credential.issuer = issuer && constraints.accepts choice.credential.algorithm

theorem answers_iff {issuer : Octets} {entry : Credential} {place : Nat} :
    answers constraints issuer (.held place entry) ↔
      entry.issuer = issuer ∧ entry.algorithm ∈ constraints.algorithms := by
  rw [answers, Bool.and_eq_true, decide_eq_true_iff, PeerConstraints.accepts,
    List.contains_iff_mem]
  rfl

theorem heuristicClient_x509 :
    heuristicClient holdings constraints .x509 =
      constraints.issuers.findSome? fun issuer =>
        holdings.choices.find? (answers constraints issuer) :=
  if_pos rfl

theorem matches_iff_answers {i j : Nat} {entry : Credential} :
    holdings.Matches constraints i j entry ↔ ∃ issuer, constraints.issuers[i]? = some issuer ∧
      holdings.entries[j]? = some entry ∧ answers constraints issuer (.held j entry) := by
  constructor
  · rintro ⟨held, issued, accepted⟩
    exact ⟨_, Holdings.issued_iff.1 issued, held, answers_iff.2 ⟨rfl, accepted⟩⟩
  · rintro ⟨issuer, named, held, answering⟩
    obtain ⟨rfl, accepted⟩ := answers_iff.1 answering
    exact ⟨held, Holdings.issued_iff.2 named, accepted⟩

theorem heuristicClient_eq_none_iff :
    heuristicClient holdings constraints .x509 = none ↔
      ∀ i j entry, ¬ holdings.Matches constraints i j entry := by
  simp only [heuristicClient_x509, List.findSome?_eq_none_iff, Holdings.find?_choices_eq_none_iff,
    matches_iff_answers, List.mem_iff_getElem?]
  constructor
  · rintro none_fits i j entry ⟨issuer, named, held, answering⟩
    exact none_fits issuer ⟨i, named⟩ j entry held answering
  · rintro none_fits issuer ⟨i, named⟩ j entry held answering
    exact none_fits i j entry ⟨issuer, named, held, answering⟩

theorem exists_firstMatch (found : heuristicClient holdings constraints .x509 = some choice) :
    ∃ i j entry, choice = .held j entry ∧ holdings.FirstMatch constraints i j entry := by
  rw [heuristicClient_x509, List.findSome?_eq_some_iff] at found
  obtain ⟨before, issuer, behind, split, found, passed⟩ := found
  obtain ⟨j, entry, rfl, held, answering, skipped⟩ := Holdings.exists_of_find?_choices found
  have named : constraints.issuers[before.length]? = some issuer := by
    rw [split, List.getElem?_append_right (Nat.le_refl _), Nat.sub_self]
    rfl
  have here : holdings.Matches constraints before.length j entry :=
    matches_iff_answers.2 ⟨issuer, named, held, answering⟩
  refine ⟨before.length, j, entry, rfl, here, ?_⟩
  intro i' j' entry' match'
  obtain ⟨issuer', named', held', answering'⟩ := matches_iff_answers.1 match'
  -- under the same issuer the store decides, and under an earlier one nothing was found
  rcases Nat.lt_trichotomy before.length i' with later | rfl | earlier
  · exact .inl later
  · obtain rfl : issuer = issuer' := Option.some.inj (named.symm.trans named')
    exact .inr ⟨rfl, Nat.le_of_not_lt fun lt => skipped j' lt entry' held' answering'⟩
  · rw [split, List.getElem?_append_left earlier] at named'
    have nothing := passed issuer' (List.mem_of_getElem? named')
    exact (Holdings.find?_choices_eq_none_iff.1 nothing j' entry' held' answering').elim

theorem heuristicClient_eq_some_iff :
    heuristicClient holdings constraints .x509 = some choice ↔
      ∃ i j entry, choice = .held j entry ∧ holdings.FirstMatch constraints i j entry := by
  refine eq_some_iff_of_unique (fun _ => exists_firstMatch) ?_ ?_ choice
  · rintro refused _ ⟨i, j, entry, rfl, first⟩
    exact heuristicClient_eq_none_iff.1 refused i j entry first.toMatches
  · rintro _ _ ⟨i, j, entry, rfl, first⟩ ⟨i', j', entry', rfl, first'⟩
    obtain ⟨rfl, rfl⟩ := first.unique first'
    rfl

theorem heuristicClient_append (more : List Octets)
    (found : heuristicClient holdings constraints .x509 = some choice) :
    heuristicClient holdings { constraints with issuers := constraints.issuers ++ more } .x509 =
      some choice := by
  rw [heuristicClient_x509] at found ⊢
  change (constraints.issuers ++ more).findSome? (fun issuer =>
    holdings.choices.find? (answers constraints issuer)) = _
  rw [List.findSome?_append, found, Option.some_or]

theorem heuristicClient_congr {algorithms : List PublicKeyAlgorithm}
    (same : ∀ algorithm, algorithm ∈ algorithms ↔ algorithm ∈ constraints.algorithms) :
    heuristicClient holdings { constraints with algorithms } .x509 =
      heuristicClient holdings constraints .x509 := by
  have alike (issuer : Octets) :
      answers { constraints with algorithms } issuer = answers constraints issuer := by
    funext choice
    have accepted : PeerConstraints.accepts { constraints with algorithms }
        choice.credential.algorithm = constraints.accepts choice.credential.algorithm := by
      rw [Bool.eq_iff_iff, PeerConstraints.accepts, PeerConstraints.accepts,
        List.contains_iff_mem, List.contains_iff_mem]
      exact same _
    rw [answers, answers, accepted]
  simp only [heuristicClient_x509, alike]

theorem satisfies_iff {entry : Credential} :
    satisfies entry requested ↔ ∀ algorithm ∈ requested, entry.algorithm = algorithm := by
  rcases requested with _ | algorithm
  · simp [satisfies]
  · simp [satisfies]

def serving (requested : Option PublicKeyAlgorithm) (format : CertificateFormat)
    (choice : Choice) : Bool :=
  satisfies choice.credential requested && choice.credential.format = format

theorem serves_iff_serving {j : Nat} {entry : Credential} :
    holdings.Serves requested format j entry ↔
      holdings.entries[j]? = some entry ∧ serving requested format (.held j entry) := by
  rw [serving, Bool.and_eq_true, decide_eq_true_iff, satisfies_iff]
  exact ⟨fun ⟨held, asked, negotiated⟩ => ⟨held, asked, negotiated⟩,
    fun ⟨held, asked, negotiated⟩ => ⟨held, asked, negotiated⟩⟩

theorem heuristicServer_eq_none_iff :
    heuristicServer holdings requested format = none ↔
      ∀ j entry, ¬ holdings.Serves requested format j entry := by
  change holdings.choices.find? (serving requested format) = none ↔ _
  simp only [Holdings.find?_choices_eq_none_iff, serves_iff_serving, not_and]

theorem exists_firstServing (found : heuristicServer holdings requested format = some choice) :
    ∃ j entry, choice = .held j entry ∧ holdings.FirstServing requested format j entry := by
  obtain ⟨j, entry, rfl, held, serves, skipped⟩ := Holdings.exists_of_find?_choices found
  refine ⟨j, entry, rfl, serves_iff_serving.2 ⟨held, serves⟩, ?_⟩
  intro j' entry' serves'
  obtain ⟨held', serving'⟩ := serves_iff_serving.1 serves'
  exact Nat.le_of_not_lt fun earlier => skipped j' earlier entry' held' serving'

theorem heuristicServer_eq_some_iff :
    heuristicServer holdings requested format = some choice ↔
      ∃ j entry, choice = .held j entry ∧ holdings.FirstServing requested format j entry := by
  refine eq_some_iff_of_unique (fun _ => exists_firstServing) ?_ ?_ choice
  · rintro refused _ ⟨j, entry, rfl, first⟩
    exact heuristicServer_eq_none_iff.1 refused j entry first.toServes
  · rintro _ _ ⟨j, entry, rfl, first⟩ ⟨j', entry', rfl, first'⟩
    obtain ⟨rfl, rfl⟩ := first.unique first'
    rfl

theorem selectClient_heuristic_eq_iff {log : Log} {answer : Option Choice} :
    heuristic.selectClient holdings constraints .x509 log = (.ok answer, log) ↔
      heuristicClient holdings constraints .x509 = answer := by
  simp only [selectClient, Prod.mk.injEq, Except.ok.injEq, and_true]

theorem selectServer_heuristic_eq_iff {log : Log} {answer : Option Choice} :
    heuristic.selectServer holdings requested format log = (.ok answer, log) ↔
      heuristicServer holdings requested format = answer := by
  simp only [selectServer, Prod.mk.injEq, Except.ok.injEq, and_true]

/-- The standing rule answers with the first match, and with none only where nothing matches. So a
choice that was made stays the same with more issuers behind, and with the accepted algorithms in
another order or repeated. -/
theorem heuristic_takes_first (holdings : Holdings) (constraints : PeerConstraints)
    (requested : Option PublicKeyAlgorithm) (format : CertificateFormat) (log : Log) :
    (∀ choice, heuristic.selectClient holdings constraints .x509 log = (.ok (some choice), log) ↔
      ∃ i j entry, choice = .held j entry ∧ holdings.FirstMatch constraints i j entry) ∧
    (heuristic.selectClient holdings constraints .x509 log = (.ok none, log) ↔
      ∀ i j entry, ¬ holdings.Matches constraints i j entry) ∧
    (∀ choice more,
      heuristic.selectClient holdings constraints .x509 log = (.ok (some choice), log) →
      heuristic.selectClient holdings
        { constraints with issuers := constraints.issuers ++ more } .x509 log =
          (.ok (some choice), log)) ∧
    (∀ algorithms, (∀ algorithm, algorithm ∈ algorithms ↔ algorithm ∈ constraints.algorithms) →
      heuristic.selectClient holdings { constraints with algorithms } .x509 log =
        heuristic.selectClient holdings constraints .x509 log) ∧
    (∀ choice, heuristic.selectServer holdings requested format log = (.ok (some choice), log) ↔
      ∃ j entry, choice = .held j entry ∧ holdings.FirstServing requested format j entry) ∧
    (heuristic.selectServer holdings requested format log = (.ok none, log) ↔
      ∀ j entry, ¬ holdings.Serves requested format j entry) := by
  simp only [selectClient_heuristic_eq_iff, selectServer_heuristic_eq_iff]
  refine ⟨fun choice => heuristicClient_eq_some_iff, heuristicClient_eq_none_iff,
    fun choice more => heuristicClient_append more, ?_, fun choice => heuristicServer_eq_some_iff,
    heuristicServer_eq_none_iff⟩
  intro algorithms same
  rw [selectClient, selectClient, heuristicClient_congr same]

theorem heuristic_takes_first_twins :
    let twins : Holdings :=
      { entries := [.terse, .named, .named], trustedIssuers := [], issuerList := [] }
    let issuers := [X509.subjectName, X509.rootName]
    (∃ i j entry, Choice.held 1 .named = .held j entry ∧
      twins.FirstMatch ⟨[.dsa], issuers⟩ i j entry) ∧
    heuristic.selectClient twins ⟨[.dsa], issuers ++ [[0x30, 0]]⟩ .x509 [] =
      (.ok (some (.held 1 .named)), []) ∧
    heuristic.selectClient twins ⟨[.dsa, .dsa], issuers⟩ .x509 [] =
      (.ok (some (.held 1 .named)), []) := by
  intro twins issuers
  have made : heuristic.selectClient twins ⟨[.dsa], issuers⟩ .x509 [] =
      (.ok (some (.held 1 .named)), []) := rfl
  obtain ⟨chosen, -, longer, repeated, -, -⟩ :=
    heuristic_takes_first twins ⟨[.dsa], issuers⟩ none .x509 []
  refine ⟨(chosen _).1 made, longer _ [[0x30, 0]] made, ?_⟩
  exact (repeated [.dsa, .dsa] fun algorithm => by simp).trans made

end Selector
end HandshakeAuth
