import HandshakeAuth.Error
import HandshakeAuth.Octets

/-!
Length fields of one to three octets. A length that its field cannot hold is refused, and what is
written is read back.
-/

namespace HandshakeAuth.Wire

def lengthField (width n : Nat) : Except AuthError Octets :=
  if n < Octets.capacity width then .ok (Octets.ofNat width n)
  else .error (.lengthOverflow n (8 * width))

def putLength (width n : Nat) (buffer : Octets) : Except AuthError Octets :=
  (buffer ++ ·) <$> lengthField width n

/-- The content behind the last `width` octets of its length. -/
def framed (width : Nat) (content : Octets) : Octets :=
  Octets.ofNat width content.length ++ content

def vector (width : Nat) (content : Octets) : Except AuthError Octets :=
  (· ++ content) <$> lengthField width content.length

@[simp] theorem length_framed (width : Nat) (content : Octets) :
    (framed width content).length = width + content.length := by
  simp [framed]

theorem lengthField_of_lt {width n : Nat} (h : n < Octets.capacity width) :
    lengthField width n = .ok (Octets.ofNat width n) := by
  simp [lengthField, h]

theorem lengthField_of_le {width n : Nat} (h : Octets.capacity width ≤ n) :
    lengthField width n = .error (.lengthOverflow n (8 * width)) := by
  simp [lengthField, Nat.not_lt.2 h]

theorem vector_of_lt {width : Nat} {content : Octets} (h : content.length < Octets.capacity width) :
    vector width content = .ok (framed width content) := by
  simp [vector, framed, lengthField_of_lt h, Functor.map, Except.map]

theorem vector_of_le {width : Nat} {content : Octets} (h : Octets.capacity width ≤ content.length) :
    vector width content = .error (.lengthOverflow content.length (8 * width)) := by
  simp [vector, lengthField_of_le h, Functor.map, Except.map]

end HandshakeAuth.Wire
