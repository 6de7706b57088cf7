import HandshakeAuth.Error
import HandshakeAuth.Octets

/-!
Reading from the front of an octet string. A read answers together with the octets that are left,
also when it fails: a read of a fixed number of octets fails without consuming any, and a vector
whose content is cut off has consumed its length field.
-/

namespace HandshakeAuth.Wire

/-- A read from the front of the octets that are left. -/
abbrev Read (α : Type) := ExceptT AuthError (StateM Octets) α

namespace Read

variable {α : Type}

def answer (r : Read α) (bs : Octets) : Except AuthError α × Octets :=
  r bs

def eval (r : Read α) (bs : Octets) : Except AuthError α :=
  (r bs).1

def take (n : Nat) : Read Octets := fun bs =>
  let front := bs.take n
  if front.length = n then (.ok front, bs.drop n) else (.error .truncatedMessage, bs)

def number (width : Nat) : Read Nat := do
  return Octets.toNat (← take width)

def vector (width : Nat) : Read Octets := do
  take (← number width)

def ofExcept (e : Except AuthError α) : Read α := fun bs => (e, bs)

def isEmpty : Read Bool := fun bs => (.ok bs.isEmpty, bs)

def expectEnd (part : String) : Read Unit := fun bs =>
  if bs.isEmpty then (.ok (), bs) else (.error (.trailing bs.length part), bs)

end Read

theorem take_of_le {n : Nat} {bs : Octets} (h : n ≤ bs.length) :
    Read.answer (Read.take n) bs = (.ok (bs.take n), bs.drop n) := by
  simp [Read.answer, Read.take, h]

theorem take_of_lt {n : Nat} {bs : Octets} (h : bs.length < n) :
    Read.answer (Read.take n) bs = (.error .truncatedMessage, bs) := by
  have : ¬ min n bs.length = n := by omega
  simp [Read.answer, Read.take, this]

theorem take_append {n : Nat} {front rest : Octets} (h : front.length = n) :
    Read.answer (Read.take n) (front ++ rest) = (.ok front, rest) := by
  subst h
  rw [take_of_le (by simp)]
  simp

theorem answer_bind {α β : Type} (r : Read α) (f : α → Read β) (bs : Octets) :
    Read.answer (r >>= f) bs =
      match Read.answer r bs with
      | (.ok a, rest) => Read.answer (f a) rest
      | (.error e, rest) => (.error e, rest) := by
  change (match r bs with | (a, rest) => ExceptT.bindCont f a rest) = _
  unfold Read.answer
  rcases r bs with ⟨_ | _, _⟩ <;> rfl

@[simp] theorem answer_pure {α : Type} (a : α) (bs : Octets) :
    Read.answer (pure a) bs = (.ok a, bs) := rfl

@[simp] theorem answer_throw {α : Type} (e : AuthError) (bs : Octets) :
    Read.answer (throw e : Read α) bs = (.error e, bs) := rfl

theorem number_of_le {width : Nat} {bs : Octets} (h : width ≤ bs.length) :
    Read.answer (Read.number width) bs = (.ok (Octets.toNat (bs.take width)), bs.drop width) := by
  rw [Read.number, answer_bind, take_of_le h]
  rfl

theorem number_of_lt {width : Nat} {bs : Octets} (h : bs.length < width) :
    Read.answer (Read.number width) bs = (.error .truncatedMessage, bs) := by
  rw [Read.number, answer_bind, take_of_lt h]

theorem number_append {width : Nat} {field rest : Octets} (h : field.length = width) :
    Read.answer (Read.number width) (field ++ rest) = (.ok (Octets.toNat field), rest) := by
  rw [Read.number, answer_bind, take_append h]
  rfl

theorem vector_eq_ok_iff {width : Nat} {bs content rest : Octets} :
    Read.answer (Read.vector width) bs = (.ok content, rest) ↔
      ∃ field : Octets, field.length = width ∧ Octets.toNat field = content.length ∧
        bs = field ++ content ++ rest := by
  constructor
  · intro h
    rw [Read.vector, answer_bind] at h
    by_cases hw : width ≤ bs.length
    · rw [number_of_le hw] at h
      by_cases hc : Octets.toNat (bs.take width) ≤ (bs.drop width).length
      · simp only [take_of_le hc, Prod.mk.injEq, Except.ok.injEq] at h
        obtain ⟨rfl, rfl⟩ := h
        refine ⟨bs.take width, by simp [hw], ?_, ?_⟩
        · rw [List.length_take, Nat.min_eq_left hc]
        · rw [List.append_assoc, List.take_append_drop, List.take_append_drop]
      · simp [take_of_lt (Nat.not_le.1 hc)] at h
    · simp [number_of_lt (Nat.not_le.1 hw)] at h
  · rintro ⟨field, hw, hc, rfl⟩
    rw [Read.vector, answer_bind, List.append_assoc, number_append hw]
    exact take_append hc.symm

end HandshakeAuth.Wire
