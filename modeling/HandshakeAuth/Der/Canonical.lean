import HandshakeAuth.Der.Read

/-!
Elements of the distinguished encoding rules in their strict reading, in which a value has one
encoding: identifiers of one octet, lengths in their shortest form, and no octet left over. Keys
are read this way, as the library `rsa` reads them.
-/

namespace HandshakeAuth.Der.Canonical

structure Element where
  identifier : UInt8
  content : Octets
  deriving DecidableEq, Repr

def universalIdentifiers : List UInt8 :=
  [0x01, 0x02, 0x03, 0x04, 0x05, 0x06, 0x09, 0x0a, 0x0c, 0x12, 0x13, 0x14, 0x15, 0x16, 0x17, 0x18,
    0x1a, 0x1e, 0x30, 0x31]

def isIdentifier (b : UInt8) : Bool :=
  if b < 0x40 then universalIdentifiers.contains b else b % 32 != 31

def length : Read Nat := do
  let b ← Read.octet
  if b < 0x80 then
    return b.toNat
  let digits ← Read.take (b.toNat - 0x80)
  let n := Octets.toNat digits
  guard (digits.head? ≠ some 0 ∧ 0x80 ≤ n)
  return n

def element : Read Element := do
  let identifier ← Read.octet
  guard (isIdentifier identifier)
  return { identifier, content := ← Read.take (← length) }

def expect (identifier : UInt8) : Read Octets := do
  let e ← element
  guard (e.identifier = identifier)
  return e.content

def sequence {α : Type} (r : Read α) : Read α := do
  Read.whole r (← expect 0x30)

def natural : Read Nat := do
  let content ← expect 0x02
  match content with
  | [] => failure
  | [b] => guard (b < 0x80)
  | b :: c :: _ => guard (b < 0x80 ∧ (b = 0 → 0x80 ≤ c))
  return content.toNat

def bitOctets (identifier : UInt8) : Read Octets := do
  match ← expect identifier with
  | 0 :: data => return data
  | _ => failure

def octetString : Read Octets := expect 0x04

def objectIdentifier : Read Octets := expect 0x06

def null : Read Unit := do
  guard (← expect 0x05).isEmpty

def explicitField : Read Unit := do
  let e ← element
  guard (0xa0 ≤ e.identifier ∧ e.identifier < 0xc0)
  let _ ← Read.whole element e.content

end HandshakeAuth.Der.Canonical
