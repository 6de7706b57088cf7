import HandshakeAuth.Proofs.Answer
import HandshakeAuth.Proofs.Secret.Opening
import HandshakeAuth.Secret.Prf

/-! The stretching of tags as a row of blocks. The chain of tags is a function of the block's number
alone, so the loop that carries its last link along cuts a row of blocks. -/

namespace HandshakeAuth.PrfAlgorithm
open Answer

variable {tag : List Octets → Octets} {size : Nat}

def link (tag : List Octets → Octets) (seed : Octets) : Nat → Octets
  | 0 => seed
  | i + 1 => tag [link tag seed i]

def block (tag : List Octets → Octets) (seed : Octets) (i : Nat) : Octets :=
  tag [link tag seed (i + 1), seed]

theorem stretch_go_eq (tag : List Octets → Octets) (seed : Octets) (fuel i wanted : Nat) :
    stretch.go tag seed fuel (link tag seed i) wanted =
      ((List.range fuel).flatMap fun k => block tag seed (i + k)).take wanted := by
  induction fuel generalizing i wanted with
  | zero => simp [stretch.go]
  | succ fuel ih =>
    rw [stretch.go, List.range_succ_eq_map, List.flatMap_cons, List.flatMap_map]
    by_cases none_wanted : wanted = 0
    · rw [if_pos none_wanted, none_wanted, List.take_zero]
    · rw [if_neg none_wanted]
      have rest : wanted - ((block tag seed i).take wanted).length =
          wanted - (block tag seed i).length := by
        rw [List.length_take]
        omega
      have shift : (fun k => block tag seed (i + 1 + k)) =
          fun k => block tag seed (i + k.succ) := by
        funext k
        rw [Nat.add_assoc, Nat.add_comm 1 k]
      have later := ih (i + 1) (wanted - (block tag seed i).length)
      rw [shift] at later
      change (block tag seed i).take wanted ++
        stretch.go tag seed fuel (link tag seed (i + 1))
          (wanted - ((block tag seed i).take wanted).length) = _
      rw [rest, later, List.take_append]
      rfl

theorem stretch_eq (tag : List Octets → Octets) (seed : Octets) (length : Nat) :
    stretch tag seed length = ((List.range length).flatMap (block tag seed)).take length := by
  have whole := stretch_go_eq tag seed length 0 length
  simp only [Nat.zero_add] at whole
  exact whole

theorem opening_stretch (sized : ∀ pieces, (tag pieces).length = size) (pos : 0 < size)
    (seed : Octets) (length : Nat) :
    Opening (block tag seed) length (stretch tag seed length) := by
  rw [stretch_eq]
  exact .take_flatMap_range (fun _ => sized _) (Nat.le_mul_of_pos_right length pos)

theorem hashStream_eq_ok_iff {provider : Provider} {hash : HashAlgorithm}
    {secret seed octets : Octets} {length : Nat} (wanted : length ≠ 0) :
    hashStream provider hash secret seed length = .ok octets ↔
      ∃ tag, provider.tag hash secret = .ok tag ∧ octets = stretch tag seed length := by
  rw [hashStream, if_neg wanted]
  rcases provider.tag hash secret with e | tag <;> simp [eq_comm]

structure Halves (secret front back : Octets) : Prop where
  front_prefix : front <+: secret
  back_suffix : back <:+ secret
  length_front : front.length = (secret.length + 1) / 2
  length_back : back.length = (secret.length + 1) / 2

theorem halves_iff {secret front back : Octets} :
    Halves secret front back ↔ front = frontHalf secret ∧ back = backHalf secret := by
  constructor
  · intro h
    have first := List.prefix_iff_eq_take.1 h.front_prefix
    have last := List.suffix_iff_eq_drop.1 h.back_suffix
    rw [h.length_front] at first
    rw [h.length_back] at last
    exact ⟨first, last⟩
  · rintro ⟨rfl, rfl⟩
    refine ⟨List.take_prefix _ _, List.drop_suffix _ _, ?_, ?_⟩
    · rw [frontHalf, List.length_take]
      omega
    · rw [backHalf, List.length_drop]
      omega

end HandshakeAuth.PrfAlgorithm
