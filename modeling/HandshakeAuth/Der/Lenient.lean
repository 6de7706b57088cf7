import HandshakeAuth.Der.Read

/-!
Elements in a lenient reading. An element is known by its number alone, whatever its class and form
unless said otherwise; lengths need not be in their shortest form; and content that nobody asks for
is passed over. Certificates are read this way, as the library `x509-parser` is seen to read them.
-/

namespace HandshakeAuth.Der.Lenient

structure Tag where
  tagClass : Nat
  constructed : Bool
  number : Nat
  deriving DecidableEq, Repr

structure Element where
  tag : Tag
  content : Octets
  encoding : Octets
  deriving DecidableEq, Repr

/-- The number of a long tag: base-128 digits, all but the last marked, at most five. The number is
held in 32 bits. -/
def longNumber : Read Nat := fun bs =>
  let marked := bs.takeWhile (0x80 ≤ ·)
  match bs.drop marked.length with
  | last :: rest =>
    if marked.length < 5 then
      some (Octets.toNatBase128 (marked ++ [last]) % Octets.capacity 4, rest)
    else none
  | [] => none

def tag : Read Tag := do
  let b := (← Read.octet).toNat
  let number ← if b % 32 = 31 then longNumber else pure (b % 32)
  return { tagClass := b / 64, constructed := b / 32 % 2 = 1, number }

/-- A length of at most 64 bits, or none where the length is left open. -/
def length : Read (Option Nat) := do
  let b ← Read.octet
  if b < 0x80 then
    return some b.toNat
  else if b = 0x80 then
    return none
  else
    guard (b ≠ 0xff)
    let n := (← Read.take (b.toNat - 0x80)).toNat
    guard (n < Octets.capacity 8)
    return some n

def openHeader : Read (Tag × Option Nat) := do
  let t ← tag
  let n ← length
  guard (n.isSome ∨ t.constructed)
  return (t, n)

def header : Read (Tag × Nat) := do
  let (t, n) ← openHeader
  return (t, ← n)

def element : Read Element := fun bs =>
  match (do let (t, n) ← header; return (t, ← Read.take n) : Read (Tag × Octets)) bs with
  | some ((tag, content), rest) =>
    some ({ tag, content, encoding := bs.take (bs.length - rest.length) }, rest)
  | none => none

def expect (number : Nat) : Read Element := do
  let e ← element
  guard (e.tag.number = number)
  return e

def expectPrimitive (number : Nat) : Read Element := do
  let e ← expect number
  guard !e.tag.constructed
  return e

def inside {α : Type} (number : Nat) (r : Read α) : Read α := do
  let (a, _) ← r (← expect number).content
  return a

def sequence {α : Type} (r : Read α) : Read α := inside 16 r

def contextField (number : Nat) : Read (Option Octets) := fun bs =>
  if bs.isEmpty then some (none, bs)
  else
    match header bs with
    | none => none
    | some ((t, _), _) =>
      if t.number ≠ number then some (none, bs)
      else
        match element bs with
        | some (e, rest) => if e.tag.tagClass = 2 then some (some e.content, rest) else none
        | none => none

/-- Takes the content behind a header, with at most `depth` levels of open lengths. The content of
an open length runs up to an empty element of number 0; the answer is whether this is one. -/
def passContent : Nat → Tag × Option Nat → Read Bool
  | 0, _ => failure
  | _ + 1, (t, some n) => do
    let _ ← Read.take n
    return n = 0 && t.number = 0
  | depth + 1, (_, none) => do
    Read.upTo do
      passContent depth (← openHeader)
    return false

def pass (number : Nat) : Read Unit := do
  let h ← openHeader
  let _ ← passContent 50 h
  guard (h.1.number = number)

def objectIdentifier : Read Octets := do
  let e ← element
  guard !e.tag.constructed
  return e.content

def endsInZeros (unused : Nat) (data : Octets) : Bool :=
  match data.getLast? with
  | none => true
  | some last => (last.toNat >>> unused) <<< unused = last.toNat

/-- The octets of a BIT STRING. Up to eight bits at the end may be unused, and those are zero. -/
def bitString : Read Octets := do
  match (← expectPrimitive 3).content with
  | [] => failure
  | unused :: data =>
    guard (unused ≤ 8 ∧ (data = [] → unused = 0) ∧ endsInZeros unused.toNat data)
    return data

end HandshakeAuth.Der.Lenient
