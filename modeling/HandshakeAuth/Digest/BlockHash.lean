import HandshakeAuth.Octets

/-!
Iterated hashes. A chaining value absorbs the message block by block; the octets that do not fill a
block wait in a buffer, and closing the message pads it to whole blocks. The message may come in
pieces: absorbing is a fold over its octets, so only their concatenation matters. The hashes stand
for the libraries `md-5`, `sha1` and `sha2` and follow the published algorithms.
-/

namespace HandshakeAuth.Digest

/-- An iterated hash with chaining values in `σ`. -/
structure BlockHash (σ : Type) where
  blockSize : Nat
  initial : σ
  compress : σ → Octets → σ
  lengthField : Nat → Octets
  output : σ → Octets

structure Progress (σ : Type) where
  chain : σ
  buffer : Array UInt8
  count : Nat

namespace BlockHash

variable {σ : Type} (H : BlockHash σ)

def start : Progress σ := { chain := H.initial, buffer := #[], count := 0 }

def push (s : Progress σ) (b : UInt8) : Progress σ :=
  let buffer := s.buffer.push b
  if buffer.size = H.blockSize then
    { chain := H.compress s.chain buffer.toList, buffer := #[], count := s.count + 1 }
  else
    { s with buffer, count := s.count + 1 }

def absorb (s : Progress σ) (piece : Octets) : Progress σ :=
  piece.foldl H.push s

/-- What follows a message of `count` octets: a single bit, the fewest zeros that let the length
field end a block, and the length field. -/
def padding (count : Nat) : Octets :=
  let field := H.lengthField (8 * count)
  let used := (count + 1 + field.length) % H.blockSize
  0x80 :: List.replicate ((H.blockSize - used) % H.blockSize) 0 ++ field

def finish (s : Progress σ) : Octets :=
  H.output (H.absorb s (H.padding s.count)).chain

def digest (pieces : List Octets) : Octets :=
  H.finish (pieces.foldl H.absorb H.start)

theorem absorb_append (s : Progress σ) (xs ys : Octets) :
    H.absorb s (xs ++ ys) = H.absorb (H.absorb s xs) ys := by
  simp [absorb]

theorem foldl_absorb (s : Progress σ) (pieces : List Octets) :
    pieces.foldl H.absorb s = H.absorb s pieces.flatten := by
  induction pieces generalizing s with
  | nil => rfl
  | cons piece pieces ih => rw [List.foldl_cons, ih, List.flatten_cons, absorb_append]

end BlockHash
end HandshakeAuth.Digest
