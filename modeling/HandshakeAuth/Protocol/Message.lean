/-!
The numbers of handshake messages and alerts, and the end of a connection that exchanges them.
-/

namespace HandshakeAuth

inductive Role where
  | client
  | server
  deriving DecidableEq, Repr

def Role.diagnostic : Role → String
  | client => "Client"
  | server => "Server"

inductive MessageType where
  | helloRequest
  | clientHello
  | serverHello
  | certificate
  | serverKeyExchange
  | certificateRequest
  | serverHelloDone
  | certificateVerify
  | clientKeyExchange
  | finished
  deriving DecidableEq, Repr

namespace MessageType

def wire : MessageType → Nat
  | helloRequest => 0
  | clientHello => 1
  | serverHello => 2
  | certificate => 11
  | serverKeyExchange => 12
  | certificateRequest => 13
  | serverHelloDone => 14
  | certificateVerify => 15
  | clientKeyExchange => 16
  | finished => 20

def ofWire? : Nat → Option MessageType
  | 0 => some helloRequest
  | 1 => some clientHello
  | 2 => some serverHello
  | 11 => some certificate
  | 12 => some serverKeyExchange
  | 13 => some certificateRequest
  | 14 => some serverHelloDone
  | 15 => some certificateVerify
  | 16 => some clientKeyExchange
  | 20 => some finished
  | _ => none

def diagnostic : MessageType → String
  | helloRequest => "HelloRequest"
  | clientHello => "ClientHello"
  | serverHello => "ServerHello"
  | certificate => "Certificate"
  | serverKeyExchange => "ServerKeyExchange"
  | certificateRequest => "CertificateRequest"
  | serverHelloDone => "ServerHelloDone"
  | certificateVerify => "CertificateVerify"
  | clientKeyExchange => "ClientKeyExchange"
  | finished => "Finished"

theorem ofWire?_wire (t : MessageType) : ofWire? t.wire = some t := by
  cases t <;> rfl

end MessageType

inductive AlertLevel where
  | warning
  | fatal
  deriving DecidableEq, Repr

namespace AlertLevel

def wire : AlertLevel → Nat
  | warning => 1
  | fatal => 2

def ofWire? : Nat → Option AlertLevel
  | 1 => some warning
  | 2 => some fatal
  | _ => none

def diagnostic : AlertLevel → String
  | warning => "Warning"
  | fatal => "Fatal"

theorem ofWire?_wire (l : AlertLevel) : ofWire? l.wire = some l := by
  cases l <;> rfl

end AlertLevel

inductive AlertDescription where
  | closeNotify
  | unexpectedMessage
  | handshakeFailure
  | noCertificate
  | badCertificate
  | unsupportedCertificate
  | certificateUnknown
  | illegalParameter
  | unknownCa
  | decodeError
  | decryptError
  | internalError
  deriving DecidableEq, Repr

namespace AlertDescription

def wire : AlertDescription → Nat
  | closeNotify => 0
  | unexpectedMessage => 10
  | handshakeFailure => 40
  | noCertificate => 41
  | badCertificate => 42
  | unsupportedCertificate => 43
  | certificateUnknown => 46
  | illegalParameter => 47
  | unknownCa => 48
  | decodeError => 50
  | decryptError => 51
  | internalError => 80

def ofWire? : Nat → Option AlertDescription
  | 0 => some closeNotify
  | 10 => some unexpectedMessage
  | 40 => some handshakeFailure
  | 41 => some noCertificate
  | 42 => some badCertificate
  | 43 => some unsupportedCertificate
  | 46 => some certificateUnknown
  | 47 => some illegalParameter
  | 48 => some unknownCa
  | 50 => some decodeError
  | 51 => some decryptError
  | 80 => some internalError
  | _ => none

def diagnostic : AlertDescription → String
  | closeNotify => "CloseNotify"
  | unexpectedMessage => "UnexpectedMessage"
  | handshakeFailure => "HandshakeFailure"
  | noCertificate => "NoCertificate"
  | badCertificate => "BadCertificate"
  | unsupportedCertificate => "UnsupportedCertificate"
  | certificateUnknown => "CertificateUnknown"
  | illegalParameter => "IllegalParameter"
  | unknownCa => "UnknownCa"
  | decodeError => "DecodeError"
  | decryptError => "DecryptError"
  | internalError => "InternalError"

theorem ofWire?_wire (d : AlertDescription) : ofWire? d.wire = some d := by
  cases d <;> rfl

end AlertDescription
end HandshakeAuth
