/-!
Arithmetic modulo a number, in place of the big integers beneath the library `rsa`: powers by
repeated squaring and inverses by Euclid's algorithm.
-/

namespace HandshakeAuth.Rsa

def powMod (base exponent n : Nat) : Nat :=
  if h : exponent = 0 then
    1 % n
  else
    let square := powMod (base * base % n) (exponent / 2) n
    if exponent % 2 = 0 then square else square * base % n
termination_by exponent
decreasing_by omega

/-- Euclid's algorithm on `r` and `s`, which are `x` and `y` times a number modulo `n`: the factor
that belongs to the last remainder, if that is one. -/
def inverse?.go (n r s : Nat) (x y : Int) : Option Nat :=
  if s = 0 then
    if r = 1 then some (x % n).toNat else none
  else
    go n s (r % s) y (x - (r / s : Nat) * y)
termination_by s
decreasing_by exact Nat.mod_lt _ (by omega)

def inverse? (a n : Nat) : Option Nat :=
  inverse?.go n n (a % n) 0 1

end HandshakeAuth.Rsa
