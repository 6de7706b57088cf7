import HandshakeAuth.Proofs.Handshake.SecretSteps
import HandshakeAuth.Proofs.Selection.Format
import HandshakeAuth.Selection.Script

/-! What is selected in a session after any number of selection calls: the answer to the last one.
Between two calls a strategy may have come to another mind. -/

namespace HandshakeAuth

variable {σ : Type} {session before after : Session} {log between later : Log} {choice : Choice}
  {answer : Except AuthError (Option Choice)}

theorem Session.chosen_eq_some_iff : chosen answer = some choice ↔ answer = .ok (some choice) := by
  rcases answer with refusal | found
  · simp [chosen]
  · simp [chosen]

def Selector.moved (next : Strategy) : Selector → Selector
  | heuristic => heuristic
  | callbacks client server => callbacks client server
  | custom _ => custom next

theorem Selector.moved_of_isChecked {selector : Selector} (checked : selector.IsChecked)
    (next : Strategy) : selector.moved next = selector := by
  rcases selector with _ | ⟨client, server⟩ | strategy
  · rfl
  · rfl
  · exact checked.elim

theorem Selector.moved_moved (selector : Selector) (first next : Strategy) :
    (selector.moved first).moved next = selector.moved next := by
  cases selector <;> rfl

def Session.moved (session : Session) (next : Strategy) : Session :=
  { session with store := { session.store with selector := session.store.selector.moved next } }

theorem Session.moved_moved (session : Session) (first next : Strategy) :
    (session.moved first).moved next = session.moved next := by
  unfold moved
  rw [Selector.moved_moved]

theorem Session.moved_of_isChecked (checked : session.store.selector.IsChecked)
    (next : Strategy) : session.moved next = session := by
  rw [moved, Selector.moved_of_isChecked checked]

inductive SelectionCall where
  | client (constraints : PeerConstraints)
  | server (requested : Option PublicKeyAlgorithm)

namespace SelectionCall

variable {call : SelectionCall}

def consult (session : Session) (log : Log) :
    SelectionCall → Except AuthError (Option Choice) × Log
  | client constraints => session.store.selector.selectClient session.store.toHoldings constraints
    session.config.format log
  | server requested => session.store.selector.selectServer session.store.toHoldings requested
    session.config.format log

def declined : SelectionCall → Except AuthError (Option Choice)
  | client _ => .ok none
  | server _ => .error .insufficientCredentials

/-- What a caller gets for the selector's answer. -/
def settle (call : SelectionCall) :
    Except AuthError (Option Choice) → Except AuthError (Option Choice)
  | .ok (some choice) => .ok (some choice)
  | .ok none => call.declined
  | .error refusal => .error refusal

theorem settle_eq_ok_some_iff :
    call.settle answer = .ok (some choice) ↔ answer = .ok (some choice) := by
  rcases answer with refusal | _ | found
  · rfl
  · cases call <;> simp [settle, declined]
  · rfl

theorem chosen_settle : Session.chosen (call.settle answer) = Session.chosen answer := by
  apply Option.ext
  intro choice
  rw [Session.chosen_eq_some_iff, settle_eq_ok_some_iff, Session.chosen_eq_some_iff]

def perform (session : Session) (log : Log) :
    SelectionCall → Except AuthError (Option Choice) × Session × Log
  | client constraints => session.selectClient constraints log
  | server requested =>
    (some <$> (session.selectServer requested log).1, (session.selectServer requested log).2)

theorem perform_eq (call : SelectionCall) (session : Session) (log : Log) :
    call.perform session log =
      (call.settle (call.consult session log).1,
        { session with selected := Session.chosen (call.consult session log).1 },
        (call.consult session log).2) := by
  cases call with
  | client constraints =>
    dsimp only [perform, Session.selectClient, consult]
    rcases session.store.selector.selectClient session.store.toHoldings constraints
      session.config.format log with ⟨_ | _ | found, log⟩ <;> rfl
  | server requested =>
    dsimp only [perform, Session.selectServer, consult]
    rcases session.store.selector.selectServer session.store.toHoldings requested
      session.config.format log with ⟨_ | _ | found, log⟩ <;> rfl

theorem session_perform (call : SelectionCall) (session : Session) (log : Log) :
    (call.perform session log).2.1 =
      { session with selected := Session.chosen (call.perform session log).1 } := by
  rw [perform_eq, chosen_settle]

theorem format_of_perform (checked : session.store.selector.IsChecked)
    (chosen : (call.perform session log).1 = .ok (some choice)) :
    choice.credential.format = session.config.format := by
  rw [perform_eq, settle_eq_ok_some_iff] at chosen
  cases call with
  | client constraints => exact Selector.format_of_selectClient checked chosen
  | server requested => exact Selector.format_of_selectServer checked chosen

end SelectionCall

namespace Session

def selectAll (session : Session) (log : Log) (history : List (Strategy × SelectionCall)) :
    Session × Log :=
  history.foldl (fun now call => (call.2.perform (now.1.moved call.1) now.2).2) (session, log)

theorem selectAll_concat (history : List (Strategy × SelectionCall)) (next : Strategy)
    (call : SelectionCall) :
    session.selectAll log (history ++ [(next, call)]) =
      (call.perform ((session.selectAll log history).1.moved next)
        (session.selectAll log history).2).2 :=
  List.foldl_concat ..

theorem session_selectAll (session : Session) (log : Log)
    (history : List (Strategy × SelectionCall)) :
    ∃ selected, ∀ next,
      (session.selectAll log history).1.moved next = { session.moved next with selected } := by
  induction history using List.reverseRecOn with
  | nil => exact ⟨session.selected, fun _ => rfl⟩
  | append_singleton history last ih =>
    obtain ⟨selected, frame⟩ := ih
    obtain ⟨first, call⟩ := last
    rw [selectAll_concat, SelectionCall.session_perform, frame first]
    generalize chosen _ = answered
    refine ⟨answered, fun next => ?_⟩
    rw [← moved_moved session first next]
    rfl

structure Reselects (session : Session) (log : Log) (after : Session) : Prop where
  config_eq : after.config = session.config
  store_eq : after.store = session.store
  selected : after.selected = session.selected ∨
    ∃ call : SelectionCall, after.selected = (call.perform session log).2.1.selected

theorem Reselects.of_call (session : Session) (log : Log) (call : SelectionCall) :
    session.Reselects log (call.perform session log).2.1 where
  config_eq := by rw [SelectionCall.session_perform]
  store_eq := by rw [SelectionCall.session_perform]
  selected := .inr ⟨call, rfl⟩

/-- The selector checks its answers, and what is selected has the format of the configuration. -/
structure Suited (session : Session) (config : Config) : Prop where
  config_eq : session.config = config
  checked : session.store.selector.IsChecked
  fits : ∀ choice, session.selected = some choice → choice.credential.format = config.format

namespace Suited

variable {config : Config}

theorem of_none (checked : session.store.selector.IsChecked)
    (unselected : session.selected = none) : session.Suited session.config where
  config_eq := rfl
  checked := checked
  fits := fun _ selected => nomatch unselected.symm.trans selected

theorem of_perform (call : SelectionCall) (log : Log)
    (checked : session.store.selector.IsChecked) :
    (call.perform session log).2.1.Suited session.config where
  config_eq := by rw [SelectionCall.session_perform]
  checked := by rwa [SelectionCall.session_perform]
  fits := by
    intro choice selected
    rw [SelectionCall.session_perform] at selected
    exact SelectionCall.format_of_perform checked (chosen_eq_some_iff.1 selected)

theorem of_reselects (h : session.Suited config) (step : session.Reselects log after) :
    after.Suited config where
  config_eq := step.config_eq.trans h.config_eq
  checked := step.store_eq ▸ h.checked
  fits := by
    intro choice selected
    rcases step.selected with same | ⟨call, replaced⟩
    · exact h.fits choice (same.symm.trans selected)
    · have passed := (of_perform call log h.checked).fits choice (replaced.symm.trans selected)
      rwa [h.config_eq] at passed

theorem selected_eq_none (h : session.Suited config) (openPgp : config.format = .openPgp) :
    session.selected = none := by
  by_contra selected
  obtain ⟨choice, chosen⟩ := Option.ne_none_iff_exists'.1 selected
  exact nomatch (h.fits choice chosen).trans openPgp

end Suited
end Session

theorem Operation.reselects_perform (op : Operation σ) (e : Endpoint σ) :
    e.session.Reselects e.log (op.perform e).session := by
  have unchanged : e.session.Reselects e.log e.session := ⟨rfl, rfl, .inl rfl⟩
  cases op with
  | sendServerCertificate layer => exact (Server.session_sendCertificate layer e).symm ▸ unchanged
  | receiveServerCertificate layer =>
    obtain ⟨peerChain, frame⟩ := Client.session_receiveCertificate layer e
    exact frame.symm ▸ ⟨rfl, rfl, .inl rfl⟩
  | sendRequest layer => exact (Server.session_sendRequest layer e).symm ▸ unchanged
  | receiveRequest layer =>
    rcases Client.receiveRequest_cases layer e with same | ⟨request, requested, after⟩
    · exact same.symm ▸ unchanged
    · have call := Session.Reselects.of_call e.session e.log (.client (.ofRequest request))
      exact after.symm ▸ ⟨call.config_eq, call.store_eq, call.selected⟩
  | sendClientCertificate layer => exact (Client.session_sendCertificate layer e).symm ▸ unchanged
  | receiveClientCertificate layer =>
    rcases Server.session_receiveCertificate layer e with same | ⟨-, leaf, issuers, after⟩
    · exact same.symm ▸ unchanged
    · exact after.symm ▸ ⟨rfl, rfl, .inl rfl⟩
  | sendVerify layer provider digest =>
    exact (Client.session_sendVerify layer e provider digest).symm ▸ unchanged
  | receiveVerify layer provider digest =>
    rcases Server.session_receiveVerify layer e provider digest with same | dropped
    · exact same.symm ▸ unchanged
    · exact dropped.symm ▸ ⟨rfl, rfl, .inl rfl⟩
  | selectClient constraints =>
    rw [session_perform_selectClient]
    exact .of_call e.session e.log (.client constraints)
  | selectServer requested =>
    rw [session_perform_selectServer]
    exact .of_call e.session e.log (.server requested)
  | setKeyExchange _ | setPeerChain _ | setCertificateRequested _ | setRandoms _ _
  | setOpaqueInput _ | setPremaster _ | setSigner _ | resume _ => exact ⟨rfl, rfl, .inl rfl⟩
  | generateMaster provider keep =>
    obtain ⟨premaster, master, inner, after⟩ := (generates_perform provider keep e).session_eq
    exact after.symm ▸ ⟨rfl, rfl, .inl rfl⟩

theorem Session.Suited.performAll {e : Endpoint σ} {config : Config} (h : e.session.Suited config)
    (ops : List (Operation σ)) : (Operation.performAll ops e).session.Suited config :=
  Operation.performAll_induction (P := fun e => e.session.Suited config)
    (fun op e _ now => now.of_reselects (op.reselects_perform e)) (fun _ _ => trivial) h

namespace Session

variable {history : List (Strategy × SelectionCall)} {next : Strategy} {call : SelectionCall}

theorem session_last_call (earlier : session.selectAll log history = (before, between))
    (last : call.perform (before.moved next) between = (answer, after, later)) :
    after = { session.moved next with selected := chosen answer } := by
  obtain ⟨selected, frame⟩ := session_selectAll session log history
  rw [earlier] at frame
  have made := call.session_perform (before.moved next) between
  rw [last, frame next] at made
  exact made

theorem suited_last_call (checked : session.store.selector.IsChecked)
    (earlier : session.selectAll log history = (before, between))
    (last : call.perform (before.moved next) between = (answer, after, later)) :
    after.Suited session.config := by
  obtain ⟨selected, frame⟩ := session_selectAll session log history
  have found : before.moved next = { session with selected } := by
    have moved := frame next
    rwa [earlier, moved_of_isChecked checked] at moved
  have unmoved : ({ session with selected } : Session).store.selector.IsChecked := checked
  have suited : (call.perform { session with selected } between).2.1.Suited session.config :=
    .of_perform call between unmoved
  rwa [← found, last] at suited

/-- Whatever selection calls came before, and whatever a strategy makes of each, the last call
decides: it passes on what the selector answers, that is selected, nothing is selected after a
failure or a refusal to choose, and nothing else in the session changes. Where answers are checked,
what is selected has the negotiated format, so there is never a selection in OpenPGP, whatever else
is done to the session. -/
theorem selected_by_last_call (earlier : session.selectAll log history = (before, between))
    (last : call.perform (before.moved next) between = (answer, after, later)) :
    session.selectAll log (history ++ [(next, call)]) = (after, later) ∧
    after = { session.moved next with selected := chosen answer } ∧
    answer = call.settle (call.consult (before.moved next) between).1 ∧
    (∀ choice, after.selected = some choice ↔ answer = .ok (some choice)) ∧
    (∀ refusal, answer = .error refusal → after.selected = none) ∧
    ((call.consult (before.moved next) between).1 = .ok none →
      answer = call.declined ∧ after.selected = none) ∧
    (session.store.selector.IsChecked →
      after = { session with selected := chosen answer } ∧
      (∀ choice, after.selected = some choice →
        choice.credential.format = session.config.format) ∧
      (session.config.format = .openPgp → after.selected = none)) ∧
    ∀ (e : Endpoint σ) (ops : List (Operation σ)), e.session = session →
      session.store.selector.IsChecked → session.selected = none →
      (∀ choice, (Operation.performAll ops e).session.selected = some choice →
        choice.credential.format = session.config.format) ∧
      (session.config.format = .openPgp →
        (Operation.performAll ops e).session.selected = none) := by
  have made : after = { session.moved next with selected := chosen answer } :=
    session_last_call earlier last
  have taken : after.selected = chosen answer := by rw [made]
  have settled : answer = call.settle (call.consult (before.moved next) between).1 := by
    rw [SelectionCall.perform_eq] at last
    exact (Prod.mk.inj last).1.symm
  refine ⟨?_, made, settled, ?_, ?_, ?_, ?_, ?_⟩
  · rw [selectAll_concat, earlier, last]
  · intro choice
    rw [taken, chosen_eq_some_iff]
  · rintro refusal rfl
    exact taken
  · intro declines
    rw [declines] at settled
    refine ⟨settled, ?_⟩
    rw [taken, settled]
    cases call <;> rfl
  · intro checked
    have suited : after.Suited session.config := suited_last_call checked earlier last
    rw [moved_of_isChecked checked] at made
    exact ⟨made, suited.fits, suited.selected_eq_none⟩
  · rintro e ops rfl checked unselected
    have suited : (Operation.performAll ops e).session.Suited e.session.config :=
      (Suited.of_none checked unselected).performAll ops
    exact ⟨suited.fits, suited.selected_eq_none⟩

def serving (format : CertificateFormat) (selector : Selector) : Session :=
  .start { format } .tls12 .server
    { entries := [.terse], trustedIssuers := [], issuerList := [], selector }

def declining : Strategy where
  diagnostic := "DecliningSelector"
  client _ _ _ := .ok none
  server _ _ _ := .ok none

def insisting : Selector :=
  .callbacks none (some fun _ _ _ => .ok (some (.foreign .terse)))

theorem selected_by_last_call_declined :
    (∃ before between after later,
      (serving .x509 (.custom .last)).selectAll [] [(.last, .client ⟨[], []⟩)] =
        (before, between) ∧
      before.selected.isSome ∧
      (SelectionCall.server none).perform (before.moved declining) between =
        (.error .insufficientCredentials, after, later) ∧
      after = serving .x509 (.custom declining)) ∧
    ∀ ops : List (Operation Unit),
      (Operation.performAll ops
        { session := serving .openPgp insisting, records := (), log := [] }).session.selected =
          none := by
  let picked := { serving .x509 (.custom .last) with selected := some (.held 0 .terse) }
  have chose : (serving .x509 (.custom .last)).selectAll [] [(.last, .client ⟨[], []⟩)] =
      (picked, []) := rfl
  obtain ⟨after, later, declines⟩ : ∃ after later,
      (SelectionCall.server none).perform (picked.moved declining) [] =
        (.error .insufficientCredentials, after, later) := ⟨_, _, rfl⟩
  have made := (selected_by_last_call (σ := Unit) chose declines).2.1
  have started : (serving .openPgp insisting).selectAll [] [] = (serving .openPgp insisting, []) :=
    rfl
  obtain ⟨answer, _, _, insists⟩ : ∃ answer after later,
      (SelectionCall.server none).perform ((serving .openPgp insisting).moved declining) [] =
        (answer, after, later) := ⟨_, _, _, rfl⟩
  have never := (selected_by_last_call (σ := Unit) started insists).2.2.2.2.2.2.2
  exact ⟨⟨picked, [], after, later, chose, rfl, declines, made⟩,
    fun ops => (never _ ops rfl trivial rfl).2 rfl⟩

end Session
end HandshakeAuth
