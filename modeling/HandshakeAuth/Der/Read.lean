import HandshakeAuth.Octets

/-!
Reads from the front of an octet string. A read takes a piece and leaves the rest, or it fails and
takes nothing. The readings of keys and of certificates, which stand for those of the libraries
`rsa` and `x509-parser`, are both made of them.
-/

namespace HandshakeAuth.Der

abbrev Read (α : Type) := StateT Octets Option α

namespace Read

variable {α : Type}

def take (n : Nat) : Read Octets := fun bs =>
  let front := bs.take n
  if front.length = n then some (front, bs.drop n) else none

def octet : Read UInt8
  | [] => none
  | b :: bs => some (b, bs)

def more : Read Bool := fun bs => some (!bs.isEmpty, bs)

def peek : Read (Option UInt8) := fun bs => some (bs.head?, bs)

def whole (r : Read α) (bs : Octets) : Option α :=
  match r bs with
  | some (a, []) => some a
  | _ => none

def optional (r : Read α) : Read (Option α) := fun bs =>
  match r bs with
  | some (a, rest) => some (some a, rest)
  | none => some (none, bs)

/-- Reads by `r` as long as octets are left. Each time at least one octet is to be taken. -/
def all (r : Read α) : Read (List α) := fun bs => go bs.length #[] bs
where
  go : Nat → Array α → Octets → Option (List α × Octets)
    | _, found, [] => some (found.toList, [])
    | 0, _, _ => none
    | fuel + 1, found, bs => do
      let (a, rest) ← r bs
      go fuel (found.push a) rest

def many (r : Read Unit) : Read Unit := fun bs => some ((), go bs.length bs)
where
  go : Nat → Octets → Octets
    | 0, bs => bs
    | fuel + 1, bs =>
      match r bs with
      | none => bs
      | some (_, rest) => go fuel rest

def upTo (r : Read Bool) : Read Unit := fun bs => go bs.length bs
where
  go : Nat → Octets → Option (Unit × Octets)
    | 0, _ => none
    | fuel + 1, bs =>
      match r bs with
      | none => none
      | some (true, rest) => some ((), rest)
      | some (false, rest) => go fuel rest

theorem take_eq_some_iff {n : Nat} {bs front rest : Octets} :
    take n bs = some (front, rest) ↔ front.length = n ∧ bs = front ++ rest := by
  simp only [take]
  constructor
  · intro h
    split at h
    · obtain ⟨rfl, rfl⟩ := Prod.mk.inj (Option.some.inj h)
      exact ⟨‹_›, (List.take_append_drop n bs).symm⟩
    · contradiction
  · rintro ⟨rfl, rfl⟩
    simp

theorem octet_eq_some_iff {b : UInt8} {bs rest : Octets} :
    octet bs = some (b, rest) ↔ bs = b :: rest := by
  cases bs <;> simp [octet]

theorem whole_eq_some_iff {r : Read α} {bs : Octets} {a : α} :
    whole r bs = some a ↔ r bs = some (a, []) := by
  unfold whole
  split
  · rename_i h
    simp [h]
  · rename_i h
    exact ⟨fun h' => by simp at h', fun h' => (h a h').elim⟩

end Read
end HandshakeAuth.Der
