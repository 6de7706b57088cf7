import HandshakeAuth.Session.Possession

/-!
Steps of the handshake. A step works on a session, the record layer beneath it and the log of the
questions to the application, and what it has changed stays changed when it fails. The record layer
is left open: it may answer a receive with a body, with nothing, or with any error.
-/

namespace HandshakeAuth

/-- A record layer with states in `σ`. Bodies go without the header of a handshake message. -/
structure RecordLayer (σ : Type) where
  send : MessageType → Octets → σ → Except AuthError Unit × σ
  /-- Receives the next message, which is to be of the given kind. If it need not be there, another
  message may stay for the next call. -/
  receive : MessageType → (required : Bool) → σ → Except AuthError (Option Octets) × σ
  sendAlert : AlertLevel → AlertDescription → σ → Except AuthError Unit × σ

structure Endpoint (σ : Type) where
  session : Session
  records : σ
  log : Log

abbrev Step (σ α : Type) := ExceptT AuthError (StateM (Endpoint σ)) α

namespace Step

variable {σ α : Type}

def run (step : Step σ α) (endpoint : Endpoint σ) : Except AuthError α × Endpoint σ :=
  step endpoint

def session : Step σ Session := fun e => (.ok e.session, e)

def setSession (session : Session) : Step σ Unit := fun e => (.ok (), { e with session })

def ofExcept (answer : Except AuthError α) : Step σ α := fun e => (answer, e)

def attempt (step : Step σ α) : Step σ (Except AuthError α) := fun e =>
  match step e with
  | (answer, e) => (.ok answer, e)

def onRecords (call : σ → Except AuthError α × σ) : Step σ α := fun e =>
  match call e.records with
  | (answer, records) => (answer, { e with records })

def onSession (call : Session → Except AuthError α × Session) : Step σ α := fun e =>
  match call e.session with
  | (answer, session) => (answer, { e with session })

def onLog (call : Session → Log → Except AuthError α × Session × Log) : Step σ α := fun e =>
  match call e.session e.log with
  | (answer, session, log) => (answer, { e with session, log })

/-- Takes up the body of the peer's Certificate message. -/
def takePeerCertificate (body : Octets) : Step σ Unit := do
  setSession (← ofExcept ((← session).acceptPeerCertificate body))

variable {β : Type}

@[simp] theorem run_pure (a : α) (e : Endpoint σ) : run (pure a) e = (.ok a, e) := rfl

@[simp] theorem run_throw (error : AuthError) (e : Endpoint σ) :
    run (throw error : Step σ α) e = (.error error, e) := rfl

theorem run_bind (step : Step σ α) (next : α → Step σ β) (e : Endpoint σ) :
    run (step >>= next) e =
      match run step e with
      | (.ok a, e) => run (next a) e
      | (.error error, e) => (.error error, e) := by
  change (match step e with | (a, e) => ExceptT.bindCont next a e) = _
  unfold run
  rcases step e with ⟨_ | _, _⟩ <;> rfl

@[simp] theorem run_session (e : Endpoint σ) : run session e = (.ok e.session, e) := rfl

theorem run_idle {due : Session → Prop} [DecidablePred due] {next : Session → Step σ Unit}
    {e : Endpoint σ} (h : ¬ due e.session) :
    run (session >>= fun s => if due s then next s else pure ()) e = (.ok (), e) := by
  rw [run_bind, run_session]
  dsimp only
  rw [if_neg h, run_pure]

@[simp] theorem run_setSession (s : Session) (e : Endpoint σ) :
    run (setSession s) e = (.ok (), { e with session := s }) := rfl

@[simp] theorem run_ofExcept (answer : Except AuthError α) (e : Endpoint σ) :
    run (ofExcept answer) e = (answer, e) := rfl

@[simp] theorem run_attempt (step : Step σ α) (e : Endpoint σ) :
    run (attempt step) e = (.ok (run step e).1, (run step e).2) := rfl

@[simp] theorem run_onRecords (call : σ → Except AuthError α × σ) (e : Endpoint σ) :
    run (onRecords call) e = ((call e.records).1, { e with records := (call e.records).2 }) := rfl

@[simp] theorem run_onSession (call : Session → Except AuthError α × Session) (e : Endpoint σ) :
    run (onSession call) e = ((call e.session).1, { e with session := (call e.session).2 }) := rfl

@[simp] theorem run_onLog (call : Session → Log → Except AuthError α × Session × Log)
    (e : Endpoint σ) :
    run (onLog call) e = ((call e.session e.log).1,
      { e with session := (call e.session e.log).2.1, log := (call e.session e.log).2.2 }) := rfl

theorem run_takePeerCertificate (body : Octets) (e : Endpoint σ) :
    run (takePeerCertificate body) e =
      match e.session.acceptPeerCertificate body with
      | .ok session => (.ok (), { e with session })
      | .error refusal => (.error refusal, e) := by
  simp only [takePeerCertificate, run_bind, run_session, run_ofExcept]
  rcases e.session.acceptPeerCertificate body with refusal | accepted <;> rfl

end Step
end HandshakeAuth
