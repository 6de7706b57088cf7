import HandshakeAuth.Handshake.Step

/-!
A record layer in memory: messages are taken from an inbox and put into an outbox, and what is on
the way can be lost, changed or cut short.
-/

namespace HandshakeAuth

inductive Letter where
  | handshake (type : MessageType) (body : Octets)
  | alert (level : AlertLevel) (description : AlertDescription)
  | failure (text : String)
  | nothing
  deriving DecidableEq, Repr

structure Mailbox where
  inbox : List Letter := []
  outbox : List Letter := []
  sendFailure : Option String := none
  deriving DecidableEq, Repr

/-- The place that an index means in a list of `length`: a negative one counts from the back. -/
def resolveIndex? (index : Int) (length : Nat) : Option Nat :=
  let place := if index < 0 then index + length else index
  if 0 ≤ place ∧ place < length then some place.toNat else none

namespace Letter

def mapBody (f : Octets → Octets) : Letter → Letter
  | handshake type body => handshake type (f body)
  | other => other

def tamper (index : Int) (mask : UInt8) (letter : Letter) : Letter :=
  letter.mapBody fun body =>
    match resolveIndex? index body.length with
    | some place => body.modify place (· ^^^ mask)
    | none => body

def truncate (length : Nat) (letter : Letter) : Letter :=
  letter.mapBody (·.take length)

end Letter

namespace Mailbox

def post (letter : Letter) (mailbox : Mailbox) : Except AuthError Unit × Mailbox :=
  match mailbox.sendFailure with
  | some text => (.error (.io text), mailbox)
  | none => (.ok (), { mailbox with outbox := mailbox.outbox ++ [letter] })

def unexpected (wanted : MessageType) (found : String) (required : Bool) :
    Except AuthError (Option Octets) :=
  if required then
    .error (.unexpectedMessage ("expected " ++ wanted.diagnostic ++ ", got " ++ found))
  else .ok none

/-- Takes the letter at the front, except for a handshake message of another kind, which stays. -/
def fetch (wanted : MessageType) (required : Bool) (mailbox : Mailbox) :
    Except AuthError (Option Octets) × Mailbox :=
  match mailbox.inbox with
  | [] => (unexpected wanted "nothing" required, mailbox)
  | .alert level description :: rest =>
    (.error (.alertReceived level description), { mailbox with inbox := rest })
  | .failure text :: rest => (.error (.io text), { mailbox with inbox := rest })
  | .nothing :: rest => (.ok none, { mailbox with inbox := rest })
  | .handshake type body :: rest =>
    if type = wanted then (.ok (some body), { mailbox with inbox := rest })
    else (unexpected wanted type.diagnostic required, mailbox)

def layer : RecordLayer Mailbox where
  send type body := post (.handshake type body)
  receive := fetch
  sendAlert level description := post (.alert level description)

def deposit (letters : List Letter) (mailbox : Mailbox) : Mailbox :=
  { mailbox with inbox := mailbox.inbox ++ letters }

def empty (mailbox : Mailbox) : List Letter × Mailbox :=
  (mailbox.outbox, { mailbox with outbox := [] })

def lose (index : Int) (mailbox : Mailbox) : Mailbox :=
  match resolveIndex? index mailbox.inbox.length with
  | some place => { mailbox with inbox := mailbox.inbox.eraseIdx place }
  | none => mailbox

def alter (index : Int) (f : Letter → Letter) (mailbox : Mailbox) : Mailbox :=
  match resolveIndex? index mailbox.inbox.length with
  | some place => { mailbox with inbox := mailbox.inbox.modify place f }
  | none => mailbox

end Mailbox
end HandshakeAuth
