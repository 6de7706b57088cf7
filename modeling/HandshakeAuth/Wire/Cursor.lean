import HandshakeAuth.Error
import HandshakeAuth.Octets

/-!
A cursor over a buffer. Its place is a machine word, so sums and differences may wrap. A move that
fails on a fixed number of octets leaves the place as it was; a vector whose content is cut off has
moved it behind the length.
-/

namespace HandshakeAuth.Wire

inductive Width where
  | one
  | two
  | three

namespace Width

def octets : Width → Nat
  | one => 1
  | two => 2
  | three => 3

def word (width : Width) : UInt64 := UInt64.ofNat width.octets

end Width

structure Cursor where
  buffer : Octets
  place : UInt64

namespace Cursor

abbrev Move (α : Type) := ExceptT AuthError (StateM Cursor) α

def start (buffer : Octets) : Cursor := { buffer, place := 0 }

def remaining (c : Cursor) : UInt64 := UInt64.ofNat c.buffer.length - c.place

namespace Move

def take (n : UInt64) : Move Octets := fun c =>
  if c.remaining < n then (.error .truncatedMessage, c)
  else
    let stop := c.place + n
    (.ok (c.buffer.extract c.place.toNat stop.toNat), { c with place := stop })

def number (width : Width) : Move UInt64 := do
  return Octets.shifted (← take width.word)

def vector (width : Width) : Move Octets := do
  take (← number width)

def isEmpty : Move Bool := fun c => (.ok (c.remaining = 0), c)

def expectEnd (part : String) : Move Unit := fun c =>
  if c.remaining = 0 then (.ok (), c) else (.error (.trailing c.remaining.toNat part), c)

end Move
end Cursor
end HandshakeAuth.Wire
