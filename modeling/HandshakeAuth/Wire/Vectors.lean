import HandshakeAuth.Wire.Read
import HandshakeAuth.Wire.Length

/-!
Runs of vectors, each behind its own length field. Splitting stops where no whole vector follows
and says what is left there: `flatMap_splitVectors` states that nothing of the input is lost, and
`splitVectors_flatMap` that a run of written vectors is split into them.
-/

namespace HandshakeAuth.Wire

/-- The vectors of `found`, then the whole vectors at the front of `bs`, and what is left. -/
def splitVectors.go (width : Nat) (pos : 0 < width) (found : Array Octets) (bs : Octets) :
    List Octets × Octets :=
  match _h : Read.answer (Read.vector width) bs with
  | (.ok content, rest) => go width pos (found.push content) rest
  | (.error _, _) => (found.toList, bs)
termination_by bs.length
decreasing_by
  obtain ⟨field, hw, -, rfl⟩ := vector_eq_ok_iff.1 _h
  simp only [List.length_append]
  omega

def splitVectors (width : Nat) (pos : 0 < width) (bs : Octets) : List Octets × Octets :=
  splitVectors.go width pos #[] bs

variable {width : Nat} {pos : 0 < width} {bs content rest : Octets}

namespace splitVectors

theorem go_of_ok {found : Array Octets}
    (h : Read.answer (Read.vector width) bs = (.ok content, rest)) :
    go width pos found bs = go width pos (found.push content) rest := by
  rw [go]
  split <;> simp_all

theorem go_of_error {found : Array Octets} {e : AuthError}
    (h : Read.answer (Read.vector width) bs = (.error e, rest)) :
    go width pos found bs = (found.toList, bs) := by
  rw [go]
  split <;> simp_all

theorem go_append (earlier found : Array Octets) :
    go width pos (earlier ++ found) bs =
      (earlier.toList ++ (go width pos found bs).1, (go width pos found bs).2) := by
  fun_induction go width pos found bs with
  | case1 found bs content rest h ih => rw [go_of_ok h, ← Array.append_push, ih]
  | case2 found bs _ _ h => rw [go_of_error h, Array.toList_append]

end splitVectors

theorem splitVectors_of_ok (h : Read.answer (Read.vector width) bs = (.ok content, rest)) :
    splitVectors width pos bs =
      (content :: (splitVectors width pos rest).1, (splitVectors width pos rest).2) := by
  have front : splitVectors.go width pos (#[content] ++ #[]) rest = _ :=
    splitVectors.go_append #[content] #[]
  rw [splitVectors, splitVectors.go_of_ok h]
  simpa [splitVectors] using front

theorem splitVectors_of_error {e : AuthError}
    (h : Read.answer (Read.vector width) bs = (.error e, rest)) :
    splitVectors width pos bs = ([], bs) := by
  rw [splitVectors, splitVectors.go_of_error h]

theorem vector_framed (h : content.length < Octets.capacity width) :
    Read.answer (Read.vector width) (framed width content ++ rest) = (.ok content, rest) :=
  vector_eq_ok_iff.2
    ⟨Octets.ofNat width content.length, by simp, Octets.toNat_ofNat_of_lt h, by simp [framed]⟩

theorem eq_framed_of_vector (h : Read.answer (Read.vector width) bs = (.ok content, rest)) :
    bs = framed width content ++ rest := by
  obtain ⟨field, hw, hc, rfl⟩ := vector_eq_ok_iff.1 h
  rw [framed, ← hc, ← hw, Octets.ofNat_toNat]

theorem vectors_induction {motive : Octets → Prop} (pos : 0 < width)
    (stop : ∀ bs e rest, Read.answer (Read.vector width) bs = (.error e, rest) → motive bs)
    (step : ∀ bs content rest, Read.answer (Read.vector width) bs = (.ok content, rest) →
      motive rest → motive bs) (bs : Octets) : motive bs := by
  induction h : bs.length using Nat.strongRecOn generalizing bs with
  | ind n ih =>
    match hv : Read.answer (Read.vector width) bs with
    | (.error e, rest) => exact stop bs e rest hv
    | (.ok content, rest) =>
      have shorter : rest.length < n := by
        rw [← h, eq_framed_of_vector hv, List.length_append, length_framed]
        omega
      exact step bs content rest hv (ih _ shorter rest rfl)

theorem flatMap_splitVectors :
    (splitVectors width pos bs).1.flatMap (framed width) ++ (splitVectors width pos bs).2 = bs := by
  induction bs using vectors_induction pos with
  | stop bs e rest hv => simp [splitVectors_of_error hv]
  | step bs content rest hv ih =>
    rw [splitVectors_of_ok hv, List.flatMap_cons, List.append_assoc, ih]
    exact (eq_framed_of_vector hv).symm

theorem splitVectors_nil : splitVectors width pos [] = ([], []) := by
  have cut : Read.answer (Read.vector width) [] = (.error .truncatedMessage, []) := by
    rw [Read.vector, answer_bind, number_of_lt (by simpa using pos)]
  exact splitVectors_of_error cut

theorem splitVectors_flatMap {contents : List Octets}
    (h : ∀ content ∈ contents, content.length < Octets.capacity width) :
    splitVectors width pos (contents.flatMap (framed width)) = (contents, []) := by
  induction contents with
  | nil => exact splitVectors_nil
  | cons content contents ih =>
    rw [List.flatMap_cons, splitVectors_of_ok (vector_framed (h content (by simp))),
      ih fun c hc => h c (by simp [hc])]

end HandshakeAuth.Wire
