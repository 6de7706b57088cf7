import HandshakeAuth.Proofs.Wire.Reading

/-! Bodies that show where they end. A read of fixed fields and vectors is steady: octets further on
do not change what it answers. If such reads use up a body that must end there, no part of the body
is taken for a whole one, and nothing may follow it. -/

namespace HandshakeAuth.Wire

variable {α β : Type} {r : Read α} {body rest : Octets}

/-- More octets behind do not change the answer, unless the read ran out of octets. -/
structure Read.Steady (r : Read α) : Prop where
  ok : ∀ {bs a rest}, answer r bs = (.ok a, rest) →
    ∀ more, answer r (bs ++ more) = (.ok a, rest ++ more)
  error : ∀ {bs e rest}, answer r bs = (.error e, rest) → e ≠ .truncatedMessage →
    ∀ more, ∃ rest', answer r (bs ++ more) = (.error e, rest')

namespace Read.Steady

theorem ofExcept (x : Except AuthError α) : (Read.ofExcept x).Steady where
  ok h more := by
    obtain ⟨rfl, rfl⟩ := Prod.mk.inj h
    rfl
  error h _ more := by
    obtain ⟨rfl, rfl⟩ := Prod.mk.inj h
    exact ⟨_, rfl⟩

theorem take (n : Nat) : (Read.take n).Steady where
  ok h more := by
    obtain ⟨whole, rfl⟩ := answer_take_eq_ok_iff.1 h
    rw [List.append_assoc]
    exact take_append whole
  error h cut := absurd (truncated_of_take h) cut

theorem bind {f : α → Read β} (first : r.Steady) (next : ∀ a, (f a).Steady) :
    (r >>= f).Steady where
  ok h more := by
    obtain ⟨a, mid, front, back⟩ := answer_bind_eq_ok_iff.1 h
    exact answer_bind_eq_ok_iff.2 ⟨a, mid ++ more, first.ok front more, (next a).ok back more⟩
  error h cut more := by
    rcases answer_bind_eq_error_iff.1 h with failed | ⟨a, mid, front, back⟩
    · obtain ⟨rest', again⟩ := first.error failed cut more
      exact ⟨rest', answer_bind_eq_error_iff.2 (.inl again)⟩
    · obtain ⟨rest', again⟩ := (next a).error back cut more
      have still : answer r (_ ++ more) = (.ok a, mid ++ more) := first.ok front more
      exact ⟨rest', answer_bind_eq_error_iff.2 (.inr ⟨a, mid ++ more, still, again⟩)⟩

theorem number (width : Nat) : (Read.number width).Steady :=
  (take width).bind fun field => ofExcept (.ok (Octets.toNat field))

theorem vector (width : Nat) : (Read.vector width).Steady :=
  (number width).bind take

end Read.Steady

structure Delimited (decode : Octets → Except AuthError α) (part : String) (body : Octets) :
    Prop where
  cut : ∀ {front more : Octets}, front ++ more = body → more ≠ [] →
    decode front = .error .truncatedMessage
  trailing : ∀ {more : Octets}, more ≠ [] →
    decode (body ++ more) = .error (.trailing more.length part)

namespace Delimited

variable {part : String}

theorem expectEnd (next : Unit → Read β) :
    Delimited (Read.eval (Read.expectEnd part >>= next)) part [] where
  cut whole more := absurd (List.append_eq_nil_iff.1 whole).2 more
  trailing more := eval_bind_of_error (answer_expectEnd_of_ne more)

theorem bind {f : α → Read β} {a : α} (steady : r.Steady)
    (front : Read.answer r body = (.ok a, rest)) (h : Delimited (Read.eval (f a)) part rest) :
    Delimited (Read.eval (r >>= f)) part body where
  cut {start more} whole some := by
    rcases answered : Read.answer r start with ⟨e | a', mid⟩
    · have short : e = .truncatedMessage := by
        by_contra other
        obtain ⟨rest', again⟩ := steady.error answered other more
        rw [whole, front] at again
        exact nomatch (Prod.mk.inj again).1
      rw [eval_bind_of_error answered, short]
    · have again := steady.ok answered more
      rw [whole, front] at again
      obtain ⟨same, left⟩ := Prod.mk.inj again
      obtain rfl := Except.ok.inj same
      rw [eval_bind_of_ok answered]
      exact h.cut left.symm some
  trailing {more} some := by
    rw [eval_bind_of_ok (steady.ok front more)]
    exact h.trailing some

end Delimited

/-- The bodies that count as accepted end where they say: none is a part of another, each part of
one is cut short, and one with more behind it is refused for that. -/
structure SelfDelimiting (decode : Octets → Except AuthError α) (part : String)
    (accepted : Octets → Prop) : Prop where
  cut : ∀ body, accepted body → ∀ front, front <+: body → front ≠ body →
    decode front = .error .truncatedMessage
  trailing : ∀ body, accepted body → ∀ more, more ≠ [] →
    decode (body ++ more) = .error (.trailing more.length part)
  alone : ∀ body body', accepted body → accepted body' → body <+: body' → body = body'

theorem SelfDelimiting.of_delimited {decode : Octets → Except AuthError α} {part : String}
    {accepted : Octets → Prop} (reads : ∀ body, accepted body → ∃ a, decode body = .ok a)
    (each : ∀ body, accepted body → Delimited decode part body) :
    SelfDelimiting decode part accepted := by
  have cut : ∀ body, accepted body → ∀ front, front <+: body → front ≠ body →
      decode front = .error .truncatedMessage := by
    rintro _ whole front ⟨more, rfl⟩ proper
    refine (each _ whole).cut rfl ?_
    rintro rfl
    exact proper (List.append_nil front).symm
  refine ⟨cut, fun body whole _ some => (each body whole).trailing some, ?_⟩
  intro body body' whole whole' part
  by_contra proper
  obtain ⟨a, read⟩ := reads body whole
  exact nomatch read.symm.trans (cut body' whole' body part proper)

end HandshakeAuth.Wire
