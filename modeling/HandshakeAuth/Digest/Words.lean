import HandshakeAuth.Octets

/-!
The words of 32 and 64 bits that compression functions work on, and their rotations.
-/

namespace HandshakeAuth.Digest

def words32 : Octets → List UInt32
  | a :: b :: c :: d :: rest => UInt32.ofNat (Octets.toNat [a, b, c, d]) :: words32 rest
  | _ => []

def words32Reversed : Octets → List UInt32
  | a :: b :: c :: d :: rest => UInt32.ofNat (Octets.toNat [d, c, b, a]) :: words32Reversed rest
  | _ => []

def words64 : Octets → List UInt64
  | a :: b :: c :: d :: e :: f :: g :: h :: rest =>
    UInt64.ofNat (Octets.toNat [a, b, c, d, e, f, g, h]) :: words64 rest
  | _ => []

def octets32 (w : UInt32) : Octets := Octets.ofNat 4 w.toNat

def octets32Reversed (w : UInt32) : Octets := Octets.ofNatReversed 4 w.toNat

def octets64 (w : UInt64) : Octets := Octets.ofNat 8 w.toNat

def rotateLeft32 (w : UInt32) (n : UInt32) : UInt32 := (w <<< n) ||| (w >>> (32 - n))

def rotateRight32 (w : UInt32) (n : UInt32) : UInt32 := (w >>> n) ||| (w <<< (32 - n))

def rotateRight64 (w : UInt64) (n : UInt64) : UInt64 := (w >>> n) ||| (w <<< (64 - n))

@[simp] theorem length_octets32 (w : UInt32) : (octets32 w).length = 4 :=
  Octets.length_ofNat ..

@[simp] theorem length_octets32Reversed (w : UInt32) : (octets32Reversed w).length = 4 :=
  Octets.length_ofNatReversed ..

@[simp] theorem length_octets64 (w : UInt64) : (octets64 w).length = 8 :=
  Octets.length_ofNat ..

end HandshakeAuth.Digest
