import HandshakeAuth.Digest.BlockHash
import HandshakeAuth.Digest.Words

/-!
MD5 as published, in place of the library `md-5`: four passes of sixteen steps over the words of a
block, each pass with a mixing function, an order of the words and a cycle of rotations of its own.
-/

namespace HandshakeAuth.Digest.Md5

structure Chain where
  a : UInt32
  b : UInt32
  c : UInt32
  d : UInt32

/-- The sines of 1, 2, … 64 as fractions of 2 ^ 32. -/
def sines : List UInt32 :=
  [ 0xd76aa478, 0xe8c7b756, 0x242070db, 0xc1bdceee, 0xf57c0faf, 0x4787c62a,
    0xa8304613, 0xfd469501, 0x698098d8, 0x8b44f7af, 0xffff5bb1, 0x895cd7be,
    0x6b901122, 0xfd987193, 0xa679438e, 0x49b40821, 0xf61e2562, 0xc040b340,
    0x265e5a51, 0xe9b6c7aa, 0xd62f105d, 0x02441453, 0xd8a1e681, 0xe7d3fbc8,
    0x21e1cde6, 0xc33707d6, 0xf4d50d87, 0x455a14ed, 0xa9e3e905, 0xfcefa3f8,
    0x676f02d9, 0x8d2a4c8a, 0xfffa3942, 0x8771f681, 0x6d9d6122, 0xfde5380c,
    0xa4beea44, 0x4bdecfa9, 0xf6bb4b60, 0xbebfbc70, 0x289b7ec6, 0xeaa127fa,
    0xd4ef3085, 0x04881d05, 0xd9d4d039, 0xe6db99e5, 0x1fa27cf8, 0xc4ac5665,
    0xf4292244, 0x432aff97, 0xab9423a7, 0xfc93a039, 0x655b59c3, 0x8f0ccc92,
    0xffeff47d, 0x85845dd1, 0x6fa87e4f, 0xfe2ce6e0, 0xa3014314, 0x4e0811a1,
    0xf7537e82, 0xbd3af235, 0x2ad7d2bb, 0xeb86d391 ]

def mix (pass : Nat) (x y z : UInt32) : UInt32 :=
  match pass with
  | 0 => (x &&& y) ||| (~~~x &&& z)
  | 1 => (x &&& z) ||| (y &&& ~~~z)
  | 2 => x ^^^ y ^^^ z
  | _ => y ^^^ (x ||| ~~~z)

def wordIndex (pass step : Nat) : Nat :=
  match pass with
  | 0 => step % 16
  | 1 => (5 * step + 1) % 16
  | 2 => (3 * step + 5) % 16
  | _ => (7 * step) % 16

def rotations (pass : Nat) : Array UInt32 :=
  match pass with
  | 0 => #[7, 12, 17, 22]
  | 1 => #[5, 9, 14, 20]
  | 2 => #[4, 11, 16, 23]
  | _ => #[6, 10, 15, 21]

def step (words : Array UInt32) (s : Chain) (constant : UInt32 × Nat) : Chain :=
  let (sine, i) := constant
  let pass := i / 16
  let sum := s.a + mix pass s.b s.c s.d + sine + words.getD (wordIndex pass i) 0
  { a := s.d, b := s.b + rotateLeft32 sum ((rotations pass).getD (i % 4) 0), c := s.b, d := s.c }

def compress (s : Chain) (block : Octets) : Chain :=
  let t := sines.zipIdx.foldl (step (words32Reversed block).toArray) s
  { a := s.a + t.a, b := s.b + t.b, c := s.c + t.c, d := s.d + t.d }

def hash : BlockHash Chain where
  blockSize := 64
  initial := { a := 0x67452301, b := 0xefcdab89, c := 0x98badcfe, d := 0x10325476 }
  compress := compress
  lengthField bits := Octets.ofNatReversed 8 bits
  output s := [s.a, s.b, s.c, s.d].flatMap octets32Reversed

end HandshakeAuth.Digest.Md5
