import HandshakeAuth.Digest.BlockHash
import HandshakeAuth.Digest.Words

/-!
SHA-1 as published, in place of the library `sha1`: eighty rounds, each with the next word of a
schedule that continues the words of the block.
-/

namespace HandshakeAuth.Digest.Sha1

structure Chain where
  a : UInt32
  b : UInt32
  c : UInt32
  d : UInt32
  e : UInt32

def mix (round : Nat) (x y z : UInt32) : UInt32 :=
  match round / 20 with
  | 0 => ((x &&& y) ||| (~~~x &&& z)) + 0x5a827999
  | 1 => (x ^^^ y ^^^ z) + 0x6ed9eba1
  | 2 => ((x &&& y) ||| (x &&& z) ||| (y &&& z)) + 0x8f1bbcdc
  | _ => (x ^^^ y ^^^ z) + 0xca62c1d6

def nextWord (window : List UInt32) : UInt32 :=
  rotateLeft32
    (window.getD 13 0 ^^^ window.getD 8 0 ^^^ window.getD 2 0 ^^^ window.getD 0 0) 1

def step (s : Chain × List UInt32) (round : Nat) : Chain × List UInt32 :=
  let (t, window) := s
  let sum := rotateLeft32 t.a 5 + mix round t.b t.c t.d + t.e + window.headD 0
  ({ a := sum, b := t.a, c := rotateLeft32 t.b 30, d := t.c, e := t.d },
    window.tail ++ [nextWord window])

def compress (s : Chain) (block : Octets) : Chain :=
  let (t, _) := (List.range 80).foldl step (s, words32 block)
  { a := s.a + t.a, b := s.b + t.b, c := s.c + t.c, d := s.d + t.d, e := s.e + t.e }

def hash : BlockHash Chain where
  blockSize := 64
  initial :=
    { a := 0x67452301, b := 0xefcdab89, c := 0x98badcfe, d := 0x10325476, e := 0xc3d2e1f0 }
  compress := compress
  lengthField bits := Octets.ofNat 8 bits
  output s := [s.a, s.b, s.c, s.d, s.e].flatMap octets32

end HandshakeAuth.Digest.Sha1
