import HandshakeAuth.Proofs.Secret.MasterSecret
import HandshakeAuth.Session.Basic

/-! The four ways in which a session's derivation of its master secret can go. -/

namespace HandshakeAuth.Session

variable {session after : Session} {provider : Provider} {keep : Bool}
  {answer : Except AuthError Unit} {refusal : AuthError}

def spend (session : Session) (keep : Bool) : Session :=
  { session with premaster := if keep then session.premaster else none }

def derived (session : Session) (provider : Provider) (premaster : Octets) :
    Except AuthError MasterSecret :=
  MasterSecret.derive provider session.version premaster session.clientRandom session.serverRandom
    session.opaqueInput

inductive Generates (session : Session) (provider : Provider) (keep : Bool) :
    Except AuthError Unit → Session → Prop
  | resumed (earlier : session.resumed = true) : Generates session provider keep (.ok ()) session
  | missing (new : session.resumed = false) (nothing : session.premaster = none) :
    Generates session provider keep (.error (.internalError "no premaster secret")) session
  | failed {premaster : Octets} (new : session.resumed = false)
    (held : session.premaster = some premaster)
    (refused : session.derived provider premaster = .error .derivationFailed) :
    Generates session provider keep (.error .derivationFailed) (session.spend keep)
  | succeeded {premaster : Octets} {master : MasterSecret} (new : session.resumed = false)
    (held : session.premaster = some premaster)
    (made : session.derived provider premaster = .ok master) :
    Generates session provider keep (.ok ())
      { session.spend keep with master := some master, inner := some master }

theorem generateMaster_of_held {premaster : Octets} (new : session.resumed = false)
    (held : session.premaster = some premaster) :
    session.generateMaster provider keep =
      match session.derived provider premaster with
      | .ok master =>
        (.ok (), { session.spend keep with master := some master, inner := some master })
      | .error e => (.error e, session.spend keep) := by
  unfold derived spend
  rcases answer : MasterSecret.derive provider session.version premaster session.clientRandom
    session.serverRandom session.opaqueInput with refusal | master
  · simp only [generateMaster, new, held, answer, Bool.false_eq_true, if_false]
  · simp only [generateMaster, new, held, answer, Bool.false_eq_true, if_false]

theorem generates_generateMaster (session : Session) (provider : Provider) (keep : Bool) :
    session.Generates provider keep (session.generateMaster provider keep).1
      (session.generateMaster provider keep).2 := by
  rcases new : session.resumed with _ | _
  · rcases held : session.premaster with _ | premaster
    · have same : session.generateMaster provider keep =
          (.error (.internalError "no premaster secret"), session) := by
        simp only [generateMaster, new, held, Bool.false_eq_true, if_false]
      rw [same]
      exact .missing new held
    · rw [generateMaster_of_held new held]
      rcases made : session.derived provider premaster with e | master
      · obtain rfl := MasterSecret.derive_eq_error made
        exact .failed new held made
      · exact .succeeded new held made
  · have same : session.generateMaster provider keep = (.ok (), session) := if_pos new
    rw [same]
    exact .resumed new

namespace Generates

theorem of_resumed (h : session.Generates provider keep answer after)
    (earlier : session.resumed = true) : answer = .ok () ∧ after = session := by
  cases h with
  | resumed _ => exact ⟨rfl, rfl⟩
  | missing new _ => exact nomatch earlier.symm.trans new
  | failed new _ _ => exact nomatch earlier.symm.trans new
  | succeeded new _ _ => exact nomatch earlier.symm.trans new

theorem of_error (h : session.Generates provider keep (.error refusal) after) :
    after.master = session.master ∧ after.inner = session.inner ∧
      (refusal = .internalError "no premaster secret" ∧ session.premaster = none ∧
        after = session ∨ refusal = .derivationFailed ∧ session.premaster ≠ none) := by
  cases h with
  | missing _ nothing => exact ⟨rfl, rfl, .inl ⟨rfl, nothing, rfl⟩⟩
  | failed _ held _ => exact ⟨rfl, rfl, .inr ⟨rfl, by simp [held]⟩⟩

theorem of_missing (h : session.Generates provider keep answer after)
    (new : session.resumed = false) (nothing : session.premaster = none) :
    answer = .error (.internalError "no premaster secret") := by
  cases h with
  | resumed earlier => exact nomatch earlier.symm.trans new
  | missing _ _ => rfl
  | failed _ held _ => exact nomatch held.symm.trans nothing
  | succeeded _ held _ => exact nomatch held.symm.trans nothing

theorem of_succeeded (h : session.Generates provider keep answer after)
    (new : session.resumed = false) (succeeded : answer = .ok ()) :
    ∃ premaster master, session.premaster = some premaster ∧
      session.derived provider premaster = .ok master ∧ after.master = some master := by
  cases h with
  | resumed earlier => exact nomatch earlier.symm.trans new
  | missing _ _ => exact nomatch succeeded
  | failed _ _ _ => exact nomatch succeeded
  | succeeded _ held made => exact ⟨_, _, held, made, rfl⟩

theorem premaster_of_kept (h : session.Generates provider true answer after) :
    after.premaster = session.premaster := by
  cases h <;> rfl

theorem premaster_of_spent (h : session.Generates provider false answer after)
    (new : session.resumed = false) : after.premaster = none := by
  cases h with
  | resumed earlier => exact nomatch earlier.symm.trans new
  | missing _ nothing => exact nothing
  | failed _ _ _ => rfl
  | succeeded _ _ _ => rfl

theorem inner_eq (h : session.Generates provider keep answer after)
    (same : session.master = session.inner) : after.master = after.inner := by
  cases h with
  | resumed _ => exact same
  | missing _ _ => exact same
  | failed _ _ _ => exact same
  | succeeded _ _ _ => rfl

theorem premaster_of_held {premaster : Octets} (h : session.Generates provider keep answer after)
    (held : after.premaster = some premaster) : session.premaster = some premaster := by
  cases h with
  | resumed _ => exact held
  | missing _ _ => exact held
  | failed _ _ _ | succeeded _ _ _ =>
    rcases keep with _ | _
    · exact nomatch held
    · exact held

theorem session_eq (h : session.Generates provider keep answer after) :
    ∃ premaster master inner, after = { session with premaster, master, inner } := by
  cases h with
  | resumed _ | missing _ _ => exact ⟨session.premaster, session.master, session.inner, rfl⟩
  | failed _ _ _ => exact ⟨_, session.master, session.inner, rfl⟩
  | @succeeded _ master _ _ _ => exact ⟨_, some master, some master, rfl⟩

theorem inputs_eq (h : session.Generates provider keep answer after) :
    after.version = session.version ∧ after.clientRandom = session.clientRandom ∧
      after.serverRandom = session.serverRandom ∧ after.opaqueInput = session.opaqueInput ∧
      after.resumed = session.resumed := by
  obtain ⟨premaster, master, inner, rfl⟩ := h.session_eq
  exact ⟨rfl, rfl, rfl, rfl, rfl⟩

end Generates
end HandshakeAuth.Session
