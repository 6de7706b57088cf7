import HandshakeAuth.Proofs.Message.CertificateList
import HandshakeAuth.Proofs.Wire.Delimited

/-! Where a list of certificates ends. The length in front announces the whole list, so a list with
a certificate in it ends there. -/

namespace HandshakeAuth.CertificateList
open Wire

variable {certificates : List Octets} {body content more : Octets}

/-- What the length field in front announces. -/
def announced (body : Octets) : Nat :=
  Octets.toNat (body.take 3)

theorem announced_append {field : Octets} (width : field.length = 3) (rest : Octets) :
    announced (field ++ rest) = Octets.toNat field := by
  rw [announced, ← width, List.take_left]

theorem announced_nothing (rest : Octets) : announced ([0, 0, 0] ++ rest) = 0 :=
  announced_append rfl rest

theorem announced_skipped (rest : Octets) : announced ([0, 0, 3] ++ rest) = 3 :=
  announced_append rfl rest

theorem announced_framed (fits : content.length < Octets.capacity 3) :
    announced (framed 3 content) = content.length := by
  rw [framed, announced_append (by simp), Octets.toNat_ofNat_of_lt fits]

theorem length_of_encode (written : encode certificates = .ok body) :
    body.length = 3 + announced body := by
  obtain ⟨-, fits, rfl⟩ := encode_eq_ok_iff.1 written
  rw [← length_flatMap_framed] at fits
  rw [length_framed, announced_framed fits]

theorem le_length_of_accepted (h : Accepted body certificates) :
    3 + announced body ≤ body.length := by
  cases h with
  | nothing rest =>
    rw [announced_nothing, List.length_append]
    exact Nat.le_add_right ..
  | @skipped passed three rest =>
    rw [announced_skipped, List.length_append, List.length_append, three]
    exact Nat.add_le_add_left (Nat.le_add_right ..) 3
  | listed _ written => exact Nat.le_of_eq (length_of_encode written).symm

theorem eq_of_accepted_nil (h : Accepted body []) (ended : body.length ≤ 3 + announced body) :
    body = [0, 0, 0] ∨ ∃ passed, passed.length = 3 ∧ body = [0, 0, 3] ++ passed := by
  cases h with
  | nothing rest =>
    rw [announced_nothing, List.length_append] at ended
    have none_behind : rest.length ≤ 0 := Nat.le_of_add_le_add_left ended
    rw [List.length_eq_zero_iff.1 (Nat.le_zero.1 none_behind)]
    exact .inl rfl
  | @skipped passed three rest =>
    rw [announced_skipped, List.length_append, List.length_append, three] at ended
    have none_behind : rest.length ≤ 0 :=
      Nat.le_of_add_le_add_left (Nat.le_of_add_le_add_left ended)
    rw [List.length_eq_zero_iff.1 (Nat.le_zero.1 none_behind), List.append_nil]
    exact .inr ⟨passed, three, rfl⟩
  | listed filled => contradiction

theorem delimited_framed (long : 4 ≤ content.length) (fits : content.length < Octets.capacity 3) :
    Delimited decode "certificate list" (framed 3 content) := by
  have total : Read.answer (Read.number 3) (framed 3 content) = (.ok content.length, content) :=
    answer_number_eq_ok_iff.2 ⟨fits, rfl⟩
  refine Delimited.bind (.number 3) total ?_
  rw [if_neg (by omega), if_neg (by omega), if_neg (by omega)]
  exact Delimited.bind (.take _) (answer_take_length content) (.expectEnd _)

theorem delimited_of_encode (filled : certificates ≠ [])
    (written : encode certificates = .ok body) : Delimited decode "certificate list" body := by
  obtain ⟨each, fits, rfl⟩ := encode_eq_ok_iff.1 written
  have long : 4 ≤ contentLength certificates := four_le_contentLength each filled
  rw [← length_flatMap_framed] at fits long
  exact delimited_framed long fits

theorem decode_append_of_encode (filled : certificates ≠ [])
    (written : encode certificates = .ok body) (some : more ≠ []) :
    decode (body ++ more) = .error (.trailing more.length "certificate list") :=
  (delimited_of_encode filled written).trailing some

/-- Of octets that do not go on behind what they announce, the empty list is read from three zeros,
and from the old form, whose three octets are passed over whatever they are. What is read as a list
holds all that it announces, and nothing may follow a list with a certificate in it. -/
theorem ends_where_announced (body : Octets) :
    (body.length ≤ 3 + announced body →
      (decode body = .ok [] ↔
        body = [0, 0, 0] ∨ ∃ passed, passed.length = 3 ∧ body = [0, 0, 3] ++ passed)) ∧
    ∀ certificates, decode body = .ok certificates →
      3 + announced body ≤ body.length ∧
      (certificates ≠ [] → body.length = 3 + announced body ∧
        ∀ more, more ≠ [] →
          ∃ reason, decode (body ++ more) = .error (.invalidMessage reason)) := by
  constructor
  · intro ended
    constructor
    · exact fun h => eq_of_accepted_nil (accepted_of_decode h) ended
    · rintro (rfl | ⟨passed, three, rfl⟩)
      · exact (Accepted.nothing []).decode
      · simpa using (Accepted.skipped three []).decode
  · intro certificates h
    refine ⟨le_length_of_accepted (accepted_of_decode h), fun filled => ?_⟩
    have written : encode certificates = .ok body := encode_of_decode h filled
    exact ⟨length_of_encode written,
      fun more some => ⟨_, decode_append_of_encode filled written some⟩⟩

/-- The empty list has more written forms than three zeros and the old form of six octets, and some
of them go on behind what they announce. -/
theorem passed_over_unread :
    (decode [0, 0, 3, 0, 0, 1] = .ok [] ∧
      ¬ ([0, 0, 3, 0, 0, 1] = ([0, 0, 0] : Octets) ∨
        [0, 0, 3, 0, 0, 1] = ([0, 0, 3, 0, 0, 0] : Octets))) ∧
    decode [0, 0, 0, 255] = .ok [] ∧
      ([0, 0, 0, 255] : Octets).length ≠ 3 + announced [0, 0, 0, 255] :=
  ⟨⟨rfl, by decide⟩, rfl, by decide⟩

end HandshakeAuth.CertificateList
