import HandshakeAuth.Message.CertificateVerify
import HandshakeAuth.Proofs.Wire.Reading

/-! A signature has one written form, and that form is the only body it is read from. Whether a body
can be read only depends on its length and on what it announces. -/

namespace HandshakeAuth.CertificateVerify
open Wire

variable {signature body : Octets}

theorem encode_eq_ok_iff :
    encode signature = .ok body ↔
      signature.length < Octets.capacity 2 ∧ body = framed 2 signature :=
  vector_eq_framed_iff

theorem decode_eq_ok_iff :
    decode body = .ok signature ↔
      signature.length < Octets.capacity 2 ∧ body = framed 2 signature := by
  rw [decode, eval_eq_ok_iff]
  constructor
  · rintro ⟨rest, h⟩
    obtain ⟨content, mid, front, h⟩ := answer_bind_eq_ok_iff.1 h
    obtain ⟨u, last, ends, same⟩ := answer_bind_eq_ok_iff.1 h
    obtain ⟨rfl, rfl⟩ := answer_expectEnd_eq_ok_iff.1 ends
    obtain ⟨hc, -⟩ := Prod.mk.inj same
    obtain rfl := Except.ok.inj hc
    rwa [answer_vector_eq_ok_iff, List.append_nil] at front
  · intro written
    refine ⟨[], answer_bind_eq_ok_iff.2 ⟨signature, [], ?_, ?_⟩⟩
    · rwa [answer_vector_eq_ok_iff, List.append_nil]
    · exact answer_bind_eq_ok_iff.2 ⟨(), [], answer_expectEnd_eq_ok_iff.2 ⟨rfl, rfl⟩, rfl⟩

theorem decode_encode (h : encode signature = .ok body) : decode body = .ok signature :=
  decode_eq_ok_iff.2 (encode_eq_ok_iff.1 h)

def declared (body : Octets) : Nat :=
  Octets.toNat (body.take 2)

theorem vector_of_declared (enough : 2 + declared body ≤ body.length) :
    Read.answer (Read.vector 2) body =
      (.ok ((body.drop 2).take (declared body)), body.drop (2 + declared body)) :=
  answer_vector_eq_take_iff.2 ⟨enough, rfl, rfl⟩

theorem decode_of_short (short : body.length < 2 + declared body) :
    decode body = .error .truncatedMessage := by
  rcases cut : Read.answer (Read.vector 2) body with ⟨e | content, rest⟩
  · rw [decode, read, eval_bind_of_error cut, truncated_of_vector cut]
  · have enough := (answer_vector_eq_take_iff.1 cut).1
    exact absurd short (Nat.not_lt.2 enough)

theorem decode_of_long (long : 2 + declared body < body.length) :
    decode body =
      .error (.trailing (body.length - (2 + declared body)) "CertificateVerify") := by
  have more : body.drop (2 + declared body) ≠ [] := by
    simpa using long
  rw [decode, read, eval_bind_of_ok (vector_of_declared (Nat.le_of_lt long)),
    eval_bind_of_error (answer_expectEnd_of_ne more), List.length_drop]

theorem decode_of_whole (whole : body.length = 2 + declared body) :
    decode body = .ok (body.drop 2) := by
  have ended : body.drop (2 + declared body) = [] := List.drop_eq_nil_of_le (Nat.le_of_eq whole)
  have content : (body.drop 2).take (declared body) = body.drop 2 := by
    apply List.take_of_length_le
    rw [List.length_drop, whole, Nat.add_sub_cancel_left]
  rw [decode, read, eval_bind_of_ok (vector_of_declared (Nat.le_of_eq whole.symm)), ended, content]
  rfl

end HandshakeAuth.CertificateVerify
