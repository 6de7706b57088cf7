import HandshakeAuth.Octets

/-!
The arcs of an object identifier, which the library `x509-parser` shows with dots in between. The
first octet holds two of them; each of the others is a number in base 128 whose last octet alone is
below 0x80.
-/

namespace HandshakeAuth.Der.ObjectIdentifier

def pieces (bs : Octets) : List Octets :=
  bs.foldr extend []
where
  extend (b : UInt8) (found : List Octets) : List Octets :=
    match found with
    | [] => [[b]]
    | piece :: rest => if b < 0x80 then [b] :: found else (b :: piece) :: rest

def isFinished (piece : Octets) : Bool :=
  match piece.getLast? with
  | none => false
  | some b => b < 0x80

/-- The arcs of the identifier with a given content. Arcs may be padded in front, but a finished one
has at most nine octets; of an unfinished one the last 64 bits count. -/
def arcs? (content : Octets) : Option (List Nat) :=
  match content with
  | [] => some []
  | front :: rest =>
    let found := pieces rest
    if found.all fun piece => piece.length ≤ 9 || !isFinished piece then
      some (front.toNat / 40 :: front.toNat % 40
        :: found.map fun piece => piece.toNatBase128 % Octets.capacity 8)
    else none

theorem flatten_pieces (bs : Octets) : (pieces bs).flatten = bs := by
  induction bs with
  | nil => rfl
  | cons b bs ih =>
    change (pieces.extend b (pieces bs)).flatten = b :: bs
    rcases h : pieces bs with _ | ⟨piece, rest⟩
    · simpa [pieces.extend, h] using ih
    · rw [h] at ih
      simp only [pieces.extend]
      split <;> simp [← ih]

end HandshakeAuth.Der.ObjectIdentifier
