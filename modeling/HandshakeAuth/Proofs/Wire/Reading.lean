import HandshakeAuth.Wire.Vectors
import Mathlib.Algebra.Ring.Nat

/-! When reads in sequence succeed. A vector is read exactly where its written form stands. -/

namespace HandshakeAuth.Wire

variable {α β : Type} {bs rest : Octets}

theorem eval_eq_ok_iff {r : Read α} {a : α} :
    Read.eval r bs = .ok a ↔ ∃ rest, Read.answer r bs = (.ok a, rest) := by
  constructor
  · intro h
    exact ⟨(Read.answer r bs).2, Prod.ext h rfl⟩
  · rintro ⟨rest, h⟩
    exact congrArg Prod.fst h

theorem eval_eq_error_iff {r : Read α} {e : AuthError} :
    Read.eval r bs = .error e ↔ ∃ rest, Read.answer r bs = (.error e, rest) := by
  constructor
  · intro h
    exact ⟨(Read.answer r bs).2, Prod.ext h rfl⟩
  · rintro ⟨rest, h⟩
    exact congrArg Prod.fst h

theorem answer_bind_of_ok {r : Read α} {f : α → Read β} {a : α}
    (h : Read.answer r bs = (.ok a, rest)) :
    Read.answer (r >>= f) bs = Read.answer (f a) rest := by
  rw [answer_bind, h]

theorem answer_bind_of_error {r : Read α} {f : α → Read β} {e : AuthError}
    (h : Read.answer r bs = (.error e, rest)) : Read.answer (r >>= f) bs = (.error e, rest) := by
  rw [answer_bind, h]

theorem eval_bind_of_ok {r : Read α} {f : α → Read β} {a : α}
    (h : Read.answer r bs = (.ok a, rest)) : Read.eval (r >>= f) bs = Read.eval (f a) rest :=
  congrArg Prod.fst (answer_bind_of_ok h)

theorem eval_bind_of_error {r : Read α} {f : α → Read β} {e : AuthError}
    (h : Read.answer r bs = (.error e, rest)) : Read.eval (r >>= f) bs = .error e :=
  congrArg Prod.fst (answer_bind_of_error h)

theorem answer_bind_eq_ok_iff {r : Read α} {f : α → Read β} {b : β} :
    Read.answer (r >>= f) bs = (.ok b, rest) ↔
      ∃ a mid, Read.answer r bs = (.ok a, mid) ∧ Read.answer (f a) mid = (.ok b, rest) := by
  rw [answer_bind]
  rcases h : Read.answer r bs with ⟨e | a, mid⟩
  · simp
  · constructor
    · intro next
      exact ⟨a, mid, rfl, next⟩
    · rintro ⟨a', mid', same, next⟩
      obtain ⟨ha, rfl⟩ := Prod.mk.inj same
      exact Except.ok.inj ha ▸ next

theorem answer_bind_eq_error_iff {r : Read α} {f : α → Read β} {e : AuthError} :
    Read.answer (r >>= f) bs = (.error e, rest) ↔
      Read.answer r bs = (.error e, rest) ∨
        ∃ a mid, Read.answer r bs = (.ok a, mid) ∧ Read.answer (f a) mid = (.error e, rest) := by
  rw [answer_bind]
  rcases h : Read.answer r bs with ⟨e' | a, mid⟩
  · simp
  · constructor
    · intro next
      exact .inr ⟨a, mid, rfl, next⟩
    · rintro (same | ⟨a', mid', same, next⟩)
      · exact nomatch (Prod.mk.inj same).1
      · obtain ⟨ha, rfl⟩ := Prod.mk.inj same
        exact Except.ok.inj ha ▸ next

theorem answer_expectEnd_eq_ok_iff {part : String} {u : Unit} :
    Read.answer (Read.expectEnd part) bs = (.ok u, rest) ↔ bs = [] ∧ rest = [] := by
  rcases bs with _ | ⟨b, bs⟩
  · simp [Read.answer, Read.expectEnd, eq_comm]
  · simp [Read.answer, Read.expectEnd]

theorem answer_expectEnd_of_ne {part : String} (more : bs ≠ []) :
    Read.answer (Read.expectEnd part) bs = (.error (.trailing bs.length part), bs) := by
  simp [Read.answer, Read.expectEnd, more]

theorem isParseError_of_expectEnd {part : String} {e : AuthError}
    (h : Read.answer (Read.expectEnd part) bs = (.error e, rest)) : e.isParseError := by
  rcases bs with _ | ⟨b, bs⟩
  · exact nomatch (Prod.mk.inj h).1
  · exact Except.error.inj (Prod.mk.inj h).1 ▸ rfl

@[simp] theorem answer_expectEnd_nil (part : String) :
    Read.answer (Read.expectEnd part) [] = (.ok (), []) := rfl

@[simp] theorem answer_take_length (bs : Octets) :
    Read.answer (Read.take bs.length) bs = (.ok bs, []) := by
  rw [take_of_le (Nat.le_refl _), List.take_length, List.drop_length]

theorem answer_take_eq_ok_iff {n : Nat} {front : Octets} :
    Read.answer (Read.take n) bs = (.ok front, rest) ↔ front.length = n ∧ bs = front ++ rest := by
  constructor
  · intro h
    rcases Nat.lt_or_ge bs.length n with short | long
    · rw [take_of_lt short] at h
      exact nomatch (Prod.mk.inj h).1
    · rw [take_of_le long] at h
      obtain ⟨same, rfl⟩ := Prod.mk.inj h
      obtain rfl := Except.ok.inj same
      exact ⟨List.length_take_of_le long, (List.take_append_drop n bs).symm⟩
  · rintro ⟨whole, rfl⟩
    exact take_append whole

theorem answer_number_eq_ok_iff {width n : Nat} :
    Read.answer (Read.number width) bs = (.ok n, rest) ↔
      n < Octets.capacity width ∧ bs = Octets.ofNat width n ++ rest := by
  rw [Read.number, answer_bind_eq_ok_iff]
  constructor
  · rintro ⟨field, mid, front, same⟩
    obtain ⟨rfl, rfl⟩ := answer_take_eq_ok_iff.1 front
    obtain ⟨value, rfl⟩ := Prod.mk.inj same
    obtain rfl := Except.ok.inj value
    exact ⟨Octets.toNat_lt field, by rw [Octets.ofNat_toNat]⟩
  · rintro ⟨fits, rfl⟩
    refine ⟨Octets.ofNat width n, rest, take_append (by simp), ?_⟩
    rw [Octets.toNat_ofNat_of_lt fits, answer_pure]

theorem answer_ofExcept (e : Except AuthError α) : Read.answer (Read.ofExcept e) bs = (e, bs) :=
  rfl

theorem length_lt_of_vector {width : Nat} {content : Octets}
    (h : Read.answer (Read.vector width) bs = (.ok content, rest)) :
    content.length < Octets.capacity width := by
  obtain ⟨field, rfl, hc, -⟩ := vector_eq_ok_iff.1 h
  exact hc ▸ Octets.toNat_lt field

theorem truncated_of_take {n : Nat} {e : AuthError}
    (h : Read.answer (Read.take n) bs = (.error e, rest)) : e = .truncatedMessage := by
  rcases Nat.lt_or_ge bs.length n with short | long
  · rw [take_of_lt short] at h
    exact (Except.error.inj (Prod.mk.inj h).1).symm
  · rw [take_of_le long] at h
    exact nomatch (Prod.mk.inj h).1

theorem truncated_of_number {width : Nat} {e : AuthError}
    (h : Read.answer (Read.number width) bs = (.error e, rest)) : e = .truncatedMessage := by
  rcases answer_bind_eq_error_iff.1 h with short | ⟨field, mid, -, read⟩
  · exact truncated_of_take short
  · exact nomatch (Prod.mk.inj read).1

theorem truncated_of_vector {width : Nat} {e : AuthError}
    (h : Read.answer (Read.vector width) bs = (.error e, rest)) : e = .truncatedMessage := by
  rcases answer_bind_eq_error_iff.1 h with short | ⟨n, mid, -, short⟩
  · exact truncated_of_number short
  · exact truncated_of_take short

theorem answer_vector_eq_ok_iff {width : Nat} {content : Octets} :
    Read.answer (Read.vector width) bs = (.ok content, rest) ↔
      content.length < Octets.capacity width ∧ bs = framed width content ++ rest := by
  constructor
  · intro h
    exact ⟨length_lt_of_vector h, eq_framed_of_vector h⟩
  · rintro ⟨short, rfl⟩
    exact vector_framed short

theorem answer_vector_eq_take_iff {width : Nat} {content : Octets} :
    Read.answer (Read.vector width) bs = (.ok content, rest) ↔
      width + Octets.toNat (bs.take width) ≤ bs.length ∧
        content = (bs.drop width).take (Octets.toNat (bs.take width)) ∧
        rest = bs.drop (width + Octets.toNat (bs.take width)) := by
  constructor
  · intro h
    obtain ⟨field, rfl, announced, rfl⟩ := vector_eq_ok_iff.1 h
    have front : (field ++ content ++ rest).take field.length = field := by
      rw [List.append_assoc, List.take_left]
    have back : (field ++ content ++ rest).drop field.length = content ++ rest := by
      rw [List.append_assoc, List.drop_left]
    rw [front, announced, back, List.take_left, ← List.drop_drop, back, List.drop_left]
    refine ⟨?_, rfl, rfl⟩
    rw [List.length_append, List.length_append]
    exact Nat.le_add_right _ _
  · rintro ⟨whole, rfl, rfl⟩
    have field : width ≤ bs.length := Nat.le_trans (Nat.le_add_right ..) whole
    have content : Octets.toNat (bs.take width) ≤ (bs.drop width).length := by
      rw [List.length_drop]
      omega
    rw [Read.vector, answer_bind, number_of_le field]
    change Read.answer (Read.take (Octets.toNat (bs.take width))) (bs.drop width) = _
    rw [take_of_le content, List.drop_drop]

theorem vector_eq_framed_iff {width : Nat} {content : Octets} :
    vector width content = .ok bs ↔
      content.length < Octets.capacity width ∧ bs = framed width content := by
  rcases Nat.lt_or_ge content.length (Octets.capacity width) with h | h
  · simp [vector_of_lt h, h, eq_comm]
  · simp [vector_of_le h, Nat.not_lt.2 h]

theorem framed_append_inj {width : Nat} {content content' rest' : Octets}
    (short : content.length < Octets.capacity width)
    (short' : content'.length < Octets.capacity width)
    (same : framed width content ++ rest = framed width content' ++ rest') :
    content = content' ∧ rest = rest' := by
  have read : Read.answer (Read.vector width) (framed width content ++ rest) = _ :=
    vector_framed short
  rw [same, vector_framed short'] at read
  obtain ⟨contents, rests⟩ := Prod.mk.inj read
  exact ⟨(Except.ok.inj contents).symm, rests.symm⟩

theorem length_lt_of_mem_splitVectors {width : Nat} {pos : 0 < width} (bs : Octets) :
    ∀ content ∈ (splitVectors width pos bs).1, content.length < Octets.capacity width := by
  induction bs using vectors_induction pos with
  | stop bs e rest hv => simp [splitVectors_of_error hv]
  | step bs content rest hv ih =>
    rw [splitVectors_of_ok hv, List.forall_mem_cons]
    exact ⟨length_lt_of_vector hv, ih⟩

theorem splitVectors_eq_iff {width : Nat} {pos : 0 < width} {contents : List Octets} :
    splitVectors width pos bs = (contents, []) ↔
      (∀ content ∈ contents, content.length < Octets.capacity width) ∧
        bs = contents.flatMap (framed width) := by
  constructor
  · intro h
    have short : ∀ content ∈ (splitVectors width pos bs).1, content.length < _ :=
      length_lt_of_mem_splitVectors bs
    have whole : (splitVectors width pos bs).1.flatMap (framed width) ++ _ = bs :=
      flatMap_splitVectors
    rw [h] at short whole
    exact ⟨short, by rw [← whole, List.append_nil]⟩
  · rintro ⟨short, rfl⟩
    exact splitVectors_flatMap short

theorem flatMap_framed_inj {width : Nat} (pos : 0 < width) {contents contents' : List Octets}
    (short : ∀ content ∈ contents, content.length < Octets.capacity width)
    (short' : ∀ content ∈ contents', content.length < Octets.capacity width)
    (same : contents.flatMap (framed width) = contents'.flatMap (framed width)) :
    contents = contents' := by
  have split : splitVectors width pos (contents.flatMap (framed width)) = (contents, []) :=
    splitVectors_flatMap short
  rw [same, splitVectors_flatMap short'] at split
  exact (Prod.mk.inj split).1.symm

theorem length_le_of_mem {width : Nat} {content : Octets} {contents : List Octets}
    (mem : content ∈ contents) :
    width + content.length ≤ (contents.flatMap (framed width)).length := by
  have part : (framed width content).length ≤ (contents.flatMap (framed width)).length :=
    (List.sublist_flatten_of_mem (List.mem_map_of_mem mem)).length_le
  rwa [length_framed] at part

theorem length_flatMap_eq_sum (width : Nat) (contents : List Octets) :
    (contents.flatMap (framed width)).length =
      (contents.map fun content => width + content.length).sum := by
  rw [List.length_flatMap]
  simp only [length_framed]

theorem length_lt_of_flatMap {width n : Nat} {contents : List Octets}
    (fits : (contents.flatMap (framed width)).length < n) :
    ∀ content ∈ contents, content.length < n := by
  intro content mem
  have part : width + content.length ≤ (contents.flatMap (framed width)).length :=
    length_le_of_mem mem
  omega

end HandshakeAuth.Wire
