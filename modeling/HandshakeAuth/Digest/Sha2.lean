import HandshakeAuth.Digest.BlockHash
import HandshakeAuth.Digest.Words

/-!
The SHA-2 family as published, in place of the library `sha2`: one round function over words of 32
or 64 bits. SHA-256 takes the narrow words, SHA-384 the wide ones with initial values of its own and
the last quarter of the chain left out.
-/

namespace HandshakeAuth.Digest.Sha2

structure Chain (w : Type) where
  a : w
  b : w
  c : w
  d : w
  e : w
  f : w
  g : w
  h : w

structure Rounds (w : Type) where
  words : Octets → List w
  constants : List w
  spreadA : w → w
  spreadE : w → w
  spreadEarly : w → w
  spreadLate : w → w

variable {w : Type} [Add w] [AndOp w] [OrOp w] [XorOp w] [Complement w] [OfNat w 0]

def nextWord (R : Rounds w) (window : List w) : w :=
  R.spreadLate (window.getD 14 0) + window.getD 9 0 + R.spreadEarly (window.getD 1 0)
    + window.getD 0 0

def step (R : Rounds w) (s : Chain w × List w) (constant : w) : Chain w × List w :=
  let (t, window) := s
  let choice := (t.e &&& t.f) ^^^ (~~~t.e &&& t.g)
  let majority := (t.a &&& t.b) ^^^ (t.a &&& t.c) ^^^ (t.b &&& t.c)
  let sum := t.h + R.spreadE t.e + choice + constant + window.headD 0
  ({ a := sum + R.spreadA t.a + majority, b := t.a, c := t.b, d := t.c, e := t.d + sum, f := t.e,
     g := t.f, h := t.g },
    window.tail ++ [nextWord R window])

def compress (R : Rounds w) (s : Chain w) (block : Octets) : Chain w :=
  let (t, _) := R.constants.foldl (step R) (s, R.words block)
  { a := s.a + t.a, b := s.b + t.b, c := s.c + t.c, d := s.d + t.d, e := s.e + t.e, f := s.f + t.f,
    g := s.g + t.g, h := s.h + t.h }

/-- The fractions of the cube roots of the first 64 primes. -/
def constants32 : List UInt32 :=
  [ 0x428a2f98, 0x71374491, 0xb5c0fbcf, 0xe9b5dba5, 0x3956c25b, 0x59f111f1,
    0x923f82a4, 0xab1c5ed5, 0xd807aa98, 0x12835b01, 0x243185be, 0x550c7dc3,
    0x72be5d74, 0x80deb1fe, 0x9bdc06a7, 0xc19bf174, 0xe49b69c1, 0xefbe4786,
    0x0fc19dc6, 0x240ca1cc, 0x2de92c6f, 0x4a7484aa, 0x5cb0a9dc, 0x76f988da,
    0x983e5152, 0xa831c66d, 0xb00327c8, 0xbf597fc7, 0xc6e00bf3, 0xd5a79147,
    0x06ca6351, 0x14292967, 0x27b70a85, 0x2e1b2138, 0x4d2c6dfc, 0x53380d13,
    0x650a7354, 0x766a0abb, 0x81c2c92e, 0x92722c85, 0xa2bfe8a1, 0xa81a664b,
    0xc24b8b70, 0xc76c51a3, 0xd192e819, 0xd6990624, 0xf40e3585, 0x106aa070,
    0x19a4c116, 0x1e376c08, 0x2748774c, 0x34b0bcb5, 0x391c0cb3, 0x4ed8aa4a,
    0x5b9cca4f, 0x682e6ff3, 0x748f82ee, 0x78a5636f, 0x84c87814, 0x8cc70208,
    0x90befffa, 0xa4506ceb, 0xbef9a3f7, 0xc67178f2 ]

/-- The fractions of the cube roots of the first 80 primes. -/
def constants64 : List UInt64 :=
  [ 0x428a2f98d728ae22, 0x7137449123ef65cd, 0xb5c0fbcfec4d3b2f, 0xe9b5dba58189dbbc,
    0x3956c25bf348b538, 0x59f111f1b605d019, 0x923f82a4af194f9b, 0xab1c5ed5da6d8118,
    0xd807aa98a3030242, 0x12835b0145706fbe, 0x243185be4ee4b28c, 0x550c7dc3d5ffb4e2,
    0x72be5d74f27b896f, 0x80deb1fe3b1696b1, 0x9bdc06a725c71235, 0xc19bf174cf692694,
    0xe49b69c19ef14ad2, 0xefbe4786384f25e3, 0x0fc19dc68b8cd5b5, 0x240ca1cc77ac9c65,
    0x2de92c6f592b0275, 0x4a7484aa6ea6e483, 0x5cb0a9dcbd41fbd4, 0x76f988da831153b5,
    0x983e5152ee66dfab, 0xa831c66d2db43210, 0xb00327c898fb213f, 0xbf597fc7beef0ee4,
    0xc6e00bf33da88fc2, 0xd5a79147930aa725, 0x06ca6351e003826f, 0x142929670a0e6e70,
    0x27b70a8546d22ffc, 0x2e1b21385c26c926, 0x4d2c6dfc5ac42aed, 0x53380d139d95b3df,
    0x650a73548baf63de, 0x766a0abb3c77b2a8, 0x81c2c92e47edaee6, 0x92722c851482353b,
    0xa2bfe8a14cf10364, 0xa81a664bbc423001, 0xc24b8b70d0f89791, 0xc76c51a30654be30,
    0xd192e819d6ef5218, 0xd69906245565a910, 0xf40e35855771202a, 0x106aa07032bbd1b8,
    0x19a4c116b8d2d0c8, 0x1e376c085141ab53, 0x2748774cdf8eeb99, 0x34b0bcb5e19b48a8,
    0x391c0cb3c5c95a63, 0x4ed8aa4ae3418acb, 0x5b9cca4f7763e373, 0x682e6ff3d6b2b8a3,
    0x748f82ee5defb2fc, 0x78a5636f43172f60, 0x84c87814a1f0ab72, 0x8cc702081a6439ec,
    0x90befffa23631e28, 0xa4506cebde82bde9, 0xbef9a3f7b2c67915, 0xc67178f2e372532b,
    0xca273eceea26619c, 0xd186b8c721c0c207, 0xeada7dd6cde0eb1e, 0xf57d4f7fee6ed178,
    0x06f067aa72176fba, 0x0a637dc5a2c898a6, 0x113f9804bef90dae, 0x1b710b35131c471b,
    0x28db77f523047d84, 0x32caab7b40c72493, 0x3c9ebe0a15c9bebc, 0x431d67c49c100d4c,
    0x4cc5d4becb3e42b6, 0x597f299cfc657e2a, 0x5fcb6fab3ad6faec, 0x6c44198c4a475817 ]

def rounds32 : Rounds UInt32 where
  words := words32
  constants := constants32
  spreadA x := rotateRight32 x 2 ^^^ rotateRight32 x 13 ^^^ rotateRight32 x 22
  spreadE x := rotateRight32 x 6 ^^^ rotateRight32 x 11 ^^^ rotateRight32 x 25
  spreadEarly x := rotateRight32 x 7 ^^^ rotateRight32 x 18 ^^^ (x >>> 3)
  spreadLate x := rotateRight32 x 17 ^^^ rotateRight32 x 19 ^^^ (x >>> 10)

def rounds64 : Rounds UInt64 where
  words := words64
  constants := constants64
  spreadA x := rotateRight64 x 28 ^^^ rotateRight64 x 34 ^^^ rotateRight64 x 39
  spreadE x := rotateRight64 x 14 ^^^ rotateRight64 x 18 ^^^ rotateRight64 x 41
  spreadEarly x := rotateRight64 x 1 ^^^ rotateRight64 x 8 ^^^ (x >>> 7)
  spreadLate x := rotateRight64 x 19 ^^^ rotateRight64 x 61 ^^^ (x >>> 6)

def hash256 : BlockHash (Chain UInt32) where
  blockSize := 64
  initial :=
    { a := 0x6a09e667, b := 0xbb67ae85, c := 0x3c6ef372, d := 0xa54ff53a,
      e := 0x510e527f, f := 0x9b05688c, g := 0x1f83d9ab, h := 0x5be0cd19 }
  compress := compress rounds32
  lengthField bits := Octets.ofNat 8 bits
  output s := [s.a, s.b, s.c, s.d, s.e, s.f, s.g, s.h].flatMap octets32

def hash384 : BlockHash (Chain UInt64) where
  blockSize := 128
  initial :=
    { a := 0xcbbb9d5dc1059ed8, b := 0x629a292a367cd507, c := 0x9159015a3070dd17,
      d := 0x152fecd8f70e5939, e := 0x67332667ffc00b31, f := 0x8eb44a8768581511,
      g := 0xdb0c2e0d64f98fa7, h := 0x47b5481dbefa4fa4 }
  compress := compress rounds64
  lengthField bits := Octets.ofNat 16 bits
  output s := [s.a, s.b, s.c, s.d, s.e, s.f].flatMap octets64

end HandshakeAuth.Digest.Sha2
