import HandshakeAuth.Der.Canonical

/-! When strict reads in sequence succeed. The identifier at the front decides what can be read, so
no octets are both a sequence and a number. -/

namespace HandshakeAuth.Der

variable {α β : Type} {bs rest content : Octets}

theorem Read.bind_eq_some_iff {r : Read α} {f : α → Read β} {b : β} :
    (r >>= f) bs = some (b, rest) ↔
      ∃ a mid, r bs = some (a, mid) ∧ f a mid = some (b, rest) := by
  change (r bs >>= fun pair => f pair.1 pair.2) = some (b, rest) ↔ _
  rcases r bs with _ | ⟨a, mid⟩
  · simp
  · constructor
    · intro next
      exact ⟨a, mid, rfl, next⟩
    · rintro ⟨_, _, same, next⟩
      obtain ⟨rfl, rfl⟩ := Prod.mk.inj (Option.some.inj same)
      exact next

theorem Read.guard_eq_some_iff {p : Prop} [Decidable p] {u : Unit} :
    (guard p : Read Unit) bs = some (u, rest) ↔ p ∧ bs = rest := by
  change (if p then pure () else failure : Read Unit) bs = _ ↔ _
  by_cases h : p
  · rw [if_pos h]
    exact ⟨fun same => ⟨h, (Prod.mk.inj (Option.some.inj same)).2⟩, fun ⟨_, same⟩ => same ▸ rfl⟩
  · rw [if_neg h]
    constructor
    · exact nofun
    · exact fun ⟨holds, _⟩ => (h holds).elim

namespace Canonical

theorem identifier_of_expect {identifier : UInt8}
    (h : expect identifier bs = some (content, rest)) :
    element bs = some ({ identifier, content }, rest) := by
  obtain ⟨⟨found, content'⟩, mid, read, h⟩ := Read.bind_eq_some_iff.1 h
  obtain ⟨_, _, passed, h⟩ := Read.bind_eq_some_iff.1 h
  obtain ⟨rfl, rfl⟩ := Read.guard_eq_some_iff.1 passed
  cases h
  exact read

theorem identifier_unique {identifier identifier' : UInt8} {content' rest' : Octets}
    (h : expect identifier bs = some (content, rest))
    (h' : expect identifier' bs = some (content', rest')) :
    identifier = identifier' ∧ content = content' := by
  have same := (identifier_of_expect h).symm.trans (identifier_of_expect h')
  obtain ⟨rfl, rfl⟩ := Element.mk.inj (Prod.mk.inj (Option.some.inj same)).1
  exact ⟨rfl, rfl⟩

theorem content_of_sequence {r : Read α} {a : α} (h : sequence r bs = some (a, rest)) :
    ∃ content, expect 0x30 bs = some (content, rest) ∧ Read.whole r content = some a := by
  obtain ⟨content, mid, front, h⟩ := Read.bind_eq_some_iff.1 h
  refine ⟨content, ?_⟩
  rcases whole : Read.whole r content with _ | a'
  · rw [whole] at h
    exact nomatch h
  · rw [whole] at h
    cases h
    exact ⟨front, rfl⟩

theorem not_sequence_of_natural {r : Read α} {n : Nat} {a : α} {rest' : Octets}
    (number : natural bs = some (n, rest)) (h : sequence r bs = some (a, rest')) : False := by
  obtain ⟨content, mid, integer, -⟩ := Read.bind_eq_some_iff.1 number
  obtain ⟨content', list, -⟩ := content_of_sequence h
  exact absurd (identifier_unique integer list).1 (by decide)

end Canonical
end HandshakeAuth.Der
