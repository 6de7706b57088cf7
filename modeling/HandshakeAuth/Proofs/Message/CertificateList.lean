import HandshakeAuth.Message.CertificateList
import HandshakeAuth.Proofs.Answer
import HandshakeAuth.Proofs.Wire.Reading

/-! A list of certificates that can be written is read back. The special totals of the reading
announce no list of certificates, since each takes at least four octets. -/

namespace HandshakeAuth.CertificateList
open Answer Wire

/-- The octets that are read as a list, with the list. A list with a certificate in it stands alone;
the two forms of the empty list are told by their first three octets. -/
inductive Accepted : Octets → List Octets → Prop where
  | nothing (rest : Octets) : Accepted ([0, 0, 0] ++ rest) []
  | skipped {passed : Octets} (three : passed.length = 3) (rest : Octets) :
    Accepted ([0, 0, 3] ++ (passed ++ rest)) []
  | listed {body : Octets} {certificates : List Octets} (filled : certificates ≠ [])
    (written : encode certificates = .ok body) : Accepted body certificates

variable {certificates : List Octets} {body : Octets}

theorem length_flatMap_framed (certificates : List Octets) :
    (certificates.flatMap (framed 3)).length = contentLength certificates := by
  induction certificates with
  | nil => rfl
  | cons certificate certificates ih =>
    rw [List.flatMap_cons, List.length_append, length_framed, ih, contentLength]

theorem length_lt_of_contentLength_lt {n : Nat} (h : contentLength certificates < n) :
    ∀ certificate ∈ certificates, certificate.length < n := by
  rw [← length_flatMap_framed] at h
  exact length_lt_of_flatMap h

theorem checkEntry_eq_ok_iff {certificate : Octets} :
    checkEntry certificate = .ok () ↔
      certificate ≠ [] ∧ certificate.length < Octets.capacity 3 := by
  rcases certificate with _ | ⟨b, bs⟩
  · simp [checkEntry]
  · simp [checkEntry]

theorem forM_checkEntry_eq_ok_iff :
    certificates.forM checkEntry = .ok () ↔
      ∀ certificate ∈ certificates, certificate ≠ [] ∧
        certificate.length < Octets.capacity 3 := by
  induction certificates with
  | nil => simp [pure, Except.pure]
  | cons certificate certificates ih =>
    change (checkEntry certificate >>= fun _ => certificates.forM checkEntry) = .ok () ↔ _
    rw [bind_eq_ok_iff, List.forall_mem_cons, ← ih, ← checkEntry_eq_ok_iff]
    exact ⟨fun ⟨_, first, rest⟩ => ⟨first, rest⟩, fun ⟨first, rest⟩ => ⟨(), first, rest⟩⟩

theorem encode_eq_ok_iff :
    encode certificates = .ok body ↔
      (∀ certificate ∈ certificates, certificate ≠ []) ∧
      contentLength certificates < Octets.capacity 3 ∧
      body = framed 3 (certificates.flatMap (framed 3)) := by
  rw [encode, bind_eq_ok_iff]
  constructor
  · rintro ⟨_, entries, h⟩
    obtain ⟨field, hfield, h⟩ := bind_eq_ok_iff.1 h
    obtain ⟨fits, rfl⟩ : contentLength certificates < Octets.capacity 3 ∧
        field = Octets.ofNat 3 (contentLength certificates) := by
      rw [lengthField] at hfield
      split at hfield
      · exact ⟨‹_›, (Except.ok.inj hfield).symm⟩
      · contradiction
    refine ⟨fun c mem => (forM_checkEntry_eq_ok_iff.1 entries c mem).1, fits, ?_⟩
    rw [framed, length_flatMap_framed]
    exact (Except.ok.inj h).symm
  · rintro ⟨filled, fits, rfl⟩
    refine ⟨(), forM_checkEntry_eq_ok_iff.2 fun c mem => ⟨filled c mem, ?_⟩, ?_⟩
    · exact length_lt_of_contentLength_lt fits c mem
    · rw [lengthField_of_lt fits, ok_bind, framed, length_flatMap_framed]
      rfl

theorem encode_nil : encode [] = .ok [0, 0, 0] :=
  encode_eq_ok_iff.2 ⟨by simp, by decide, by decide⟩

theorem four_le_contentLength (filled : ∀ certificate ∈ certificates, certificate ≠ [])
    (h : certificates ≠ []) : 4 ≤ contentLength certificates := by
  rcases certificates with _ | ⟨certificate, certificates⟩
  · contradiction
  · have pos := List.length_pos_iff.2 (filled certificate (List.mem_cons_self ..))
    rw [contentLength]
    omega

theorem entries_eq_ok_iff {content : Octets} :
    entries content = .ok certificates ↔
      (∀ certificate ∈ certificates, certificate ≠ []) ∧
      (∀ certificate ∈ certificates, certificate.length < Octets.capacity 3) ∧
      content = certificates.flatMap (framed 3) := by
  rcases split : splitVectors 3 (by decide) content with ⟨found, rest⟩
  rw [entries, split]
  dsimp only
  constructor
  · intro h
    by_cases empty : found.any List.isEmpty
    · rw [if_pos empty] at h
      contradiction
    · rw [if_neg empty] at h
      rcases rest with _ | ⟨b, rest⟩
      · obtain rfl := Except.ok.inj h
        refine ⟨?_, splitVectors_eq_iff.1 split⟩
        rintro _ mem rfl
        exact empty (List.any_eq_true.2 ⟨[], mem, rfl⟩)
      · contradiction
  · rintro ⟨filled, short, rfl⟩
    obtain ⟨rfl, rfl⟩ := Prod.mk.inj (split.symm.trans (splitVectors_flatMap short))
    have none_empty : ¬ found.any List.isEmpty := by
      intro empty
      obtain ⟨certificate, mem, empty⟩ := List.any_eq_true.1 empty
      exact filled certificate mem (List.isEmpty_iff.1 empty)
    rw [if_neg none_empty]
    rfl

theorem decode_encode (h : encode certificates = .ok body) : decode body = .ok certificates := by
  obtain ⟨filled, fits, rfl⟩ := encode_eq_ok_iff.1 h
  rw [decode, eval_eq_ok_iff]
  refine ⟨[], ?_⟩
  have total : Read.answer (Read.number 3) (framed 3 (certificates.flatMap (framed 3))) =
      (.ok (contentLength certificates), certificates.flatMap (framed 3)) := by
    rw [framed, number_append (by simp), Octets.toNat_ofNat_of_lt, length_flatMap_framed]
    rwa [length_flatMap_framed]
  rw [read, answer_bind, total]
  dsimp only
  rcases certificates with _ | ⟨certificate, certificates⟩
  · rfl
  · -- the totals up to three are taken by other forms
    have long := four_le_contentLength filled (List.cons_ne_nil _ _)
    rw [if_neg (by omega), if_neg (by omega), if_neg (by omega), answer_bind,
      ← length_flatMap_framed, answer_take_length]
    dsimp only
    rw [answer_bind, answer_expectEnd_nil]
    dsimp only
    have read := entries_eq_ok_iff.2 ⟨filled, length_lt_of_contentLength_lt fits, rfl⟩
    rw [answer_ofExcept, read]

theorem accepted_of_decode (h : decode body = .ok certificates) : Accepted body certificates := by
  obtain ⟨rest, answered⟩ := eval_eq_ok_iff.1 h
  obtain ⟨total, behind, number, later⟩ := answer_bind_eq_ok_iff.1 answered
  obtain ⟨bounded, rfl⟩ := answer_number_eq_ok_iff.1 number
  split at later
  · subst total
    obtain rfl := Except.ok.inj (Prod.mk.inj later).1
    exact .nothing behind
  split at later
  · subst total
    obtain ⟨passed, rest, front, nothing⟩ := answer_bind_eq_ok_iff.1 later
    obtain ⟨three, rfl⟩ := answer_take_eq_ok_iff.1 front
    obtain rfl := Except.ok.inj (Prod.mk.inj nothing).1
    exact .skipped three rest
  split at later
  · cases (Prod.mk.inj later).1
  obtain ⟨content, trailing, front, ending⟩ := answer_bind_eq_ok_iff.1 later
  obtain ⟨rfl, rfl⟩ := answer_take_eq_ok_iff.1 front
  obtain ⟨_, _, ended, listed⟩ := answer_bind_eq_ok_iff.1 ending
  obtain ⟨rfl, rfl⟩ := answer_expectEnd_eq_ok_iff.1 ended
  obtain ⟨filled, short, rfl⟩ := entries_eq_ok_iff.1 (Prod.mk.inj listed).1
  have some : certificates ≠ [] := by
    rintro rfl
    contradiction
  refine .listed some (encode_eq_ok_iff.2 ⟨filled, ?_, ?_⟩)
  · rwa [← length_flatMap_framed]
  · rw [List.append_nil, framed]

theorem Accepted.decode (h : Accepted body certificates) : decode body = .ok certificates := by
  cases h with
  | nothing rest =>
    have total : Read.answer (Read.number 3) ([0, 0, 0] ++ rest) = (.ok 0, rest) :=
      number_append rfl
    exact eval_bind_of_ok total
  | @skipped passed three rest =>
    have total : Read.answer (Read.number 3) ([0, 0, 3] ++ (passed ++ rest)) =
        (.ok 3, passed ++ rest) := number_append rfl
    have front : Read.answer (Read.take 3) (passed ++ rest) = (.ok passed, rest) :=
      take_append three
    exact (eval_bind_of_ok total).trans (eval_bind_of_ok front)
  | listed _ written => exact decode_encode written

theorem encode_of_decode (h : decode body = .ok certificates) (some : certificates ≠ []) :
    encode certificates = .ok body := by
  cases accepted_of_decode h with
  | nothing => contradiction
  | skipped => contradiction
  | listed _ written => exact written

theorem checkEntry_error {certificate : Octets} {e : AuthError}
    (h : checkEntry certificate = .error e) : ∃ reason, e = .invalidMessage reason := by
  unfold checkEntry at h
  split at h
  · exact ⟨_, (Except.error.inj h).symm⟩
  · split at h
    · contradiction
    · exact ⟨_, (Except.error.inj h).symm⟩

theorem encode_error {e : AuthError} (h : encode certificates = .error e) :
    ∃ reason, e = .invalidMessage reason := by
  rcases bind_eq_error_iff.1 h with refused | ⟨_, -, h⟩
  · obtain ⟨certificate, -, failed⟩ := exists_of_forM_eq_error refused
    exact checkEntry_error failed
  · rcases bind_eq_error_iff.1 h with long | ⟨_, -, h⟩
    · unfold lengthField at long
      split at long
      · contradiction
      · exact ⟨_, (Except.error.inj long).symm⟩
    · exact nomatch h

theorem isParseError_of_entries {content : Octets} {e : AuthError}
    (h : entries content = .error e) : e.isParseError := by
  unfold entries at h
  split at h
  split at h
  · exact Except.error.inj h ▸ rfl
  · split at h
    · contradiction
    · exact Except.error.inj h ▸ rfl

theorem isParseError_of_decode {e : AuthError} (h : decode body = .error e) : e.isParseError := by
  have cut {e : AuthError} (h : e = .truncatedMessage) : e.isParseError := h ▸ rfl
  obtain ⟨rest, answered⟩ := eval_eq_error_iff.1 h
  rcases answer_bind_eq_error_iff.1 answered with short | ⟨total, behind, -, later⟩
  · exact cut (truncated_of_number short)
  split at later
  · exact nomatch (Prod.mk.inj later).1
  split at later
  · rcases answer_bind_eq_error_iff.1 later with short | ⟨passed, mid, -, nothing⟩
    · exact cut (truncated_of_take short)
    · exact nomatch (Prod.mk.inj nothing).1
  split at later
  · exact cut (Except.error.inj (Prod.mk.inj later).1).symm
  rcases answer_bind_eq_error_iff.1 later with short | ⟨content, trailing, -, ending⟩
  · exact cut (truncated_of_take short)
  rcases answer_bind_eq_error_iff.1 ending with more | ⟨_, mid, -, listed⟩
  · exact isParseError_of_expectEnd more
  · exact isParseError_of_entries (Prod.mk.inj listed).1

theorem contentLength_eq_sum (certificates : List Octets) :
    contentLength certificates =
      (certificates.map fun certificate => 3 + certificate.length).sum := by
  rw [← length_flatMap_framed, length_flatMap_eq_sum]

/-- A list of certificates is written exactly if none is empty and they fit a length of three
octets together, and is an invalid message otherwise. The list is read back from what was written,
and from nothing else if there is a certificate in it. -/
theorem one_written_form (certificates : List Octets) :
    ((∃ body, encode certificates = .ok body) ↔
      (∀ certificate ∈ certificates, certificate ≠ []) ∧
        (certificates.map fun certificate => 3 + certificate.length).sum ≤ 2 ^ 24 - 1) ∧
    ((¬ ∃ body, encode certificates = .ok body) →
      ∃ reason, encode certificates = .error (.invalidMessage reason)) ∧
    (∀ body, encode certificates = .ok body → decode body = .ok certificates) ∧
    (certificates ≠ [] →
      ∀ body, decode body = .ok certificates → encode certificates = .ok body) := by
  refine ⟨?_, ?_, fun body => decode_encode, fun some body h => encode_of_decode h some⟩
  · have bound : Octets.capacity 3 = 2 ^ 24 := rfl
    simp only [encode_eq_ok_iff, ← contentLength_eq_sum, bound]
    constructor
    · rintro ⟨_, filled, fits, -⟩
      exact ⟨filled, by omega⟩
    · rintro ⟨filled, fits⟩
      exact ⟨_, filled, by omega, rfl⟩
  · intro refused
    rcases h : encode certificates with e | body
    · obtain ⟨reason, rfl⟩ := encode_error h
      exact ⟨reason, rfl⟩
    · exact absurd ⟨body, h⟩ refused

theorem one_written_form_pair :
    decode [0, 0, 9, 0, 0, 1, 0x30, 0, 0, 2, 0x31, 0x32] = .ok [[0x30], [0x31, 0x32]] ∧
      ∀ body, decode body = .ok [[0x30], [0x31, 0x32]] →
        body = [0, 0, 9, 0, 0, 1, 0x30, 0, 0, 2, 0x31, 0x32] := by
  have written : encode [[0x30], [0x31, 0x32]] =
      .ok [0, 0, 9, 0, 0, 1, 0x30, 0, 0, 2, 0x31, 0x32] := rfl
  obtain ⟨-, -, back, only⟩ := one_written_form [[0x30], [0x31, 0x32]]
  refine ⟨back _ written, fun body h => ?_⟩
  exact Except.ok.inj ((only (by decide) body h).symm.trans written)

end HandshakeAuth.CertificateList
