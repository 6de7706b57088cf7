/-!
The protocol versions from SSL 3.0 to TLS 1.2, ordered by their wire number.
-/

namespace HandshakeAuth

inductive Version where
  | ssl3
  | tls10
  | tls11
  | tls12
  deriving DecidableEq, Repr

namespace Version

def wire : Version → Nat
  | ssl3 => 0x0300
  | tls10 => 0x0301
  | tls11 => 0x0302
  | tls12 => 0x0303

def ofWire? : Nat → Option Version
  | 0x0300 => some ssl3
  | 0x0301 => some tls10
  | 0x0302 => some tls11
  | 0x0303 => some tls12
  | _ => none

def name : Version → String
  | ssl3 => "SSL 3.0"
  | tls10 => "TLS 1.0"
  | tls11 => "TLS 1.1"
  | tls12 => "TLS 1.2"

def diagnostic : Version → String
  | ssl3 => "Ssl3"
  | tls10 => "Tls10"
  | tls11 => "Tls11"
  | tls12 => "Tls12"

def listsHashes : Version → Bool
  | tls12 => true
  | _ => false

instance : Ord Version where
  compare a b := compare a.wire b.wire

theorem ofWire?_wire (v : Version) : ofWire? v.wire = some v := by
  cases v <;> rfl

theorem wire_injective {v w : Version} (h : v.wire = w.wire) : v = w := by
  cases v <;> cases w <;> first | rfl | simp [wire] at h

end Version
end HandshakeAuth
