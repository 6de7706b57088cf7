import HandshakeAuth.Session.Basic

/-! A selection changes nothing of a session but what is selected. -/

namespace HandshakeAuth.Session

theorem session_selectClient (session : Session) (constraints : PeerConstraints) (log : Log) :
    ∃ selected, (session.selectClient constraints log).2.1 = { session with selected } := by
  unfold selectClient
  rcases session.store.selector.selectClient session.store.toHoldings constraints
    session.config.format log with ⟨answer, log⟩
  exact ⟨chosen answer, rfl⟩

theorem session_selectServer (session : Session) (requested : Option PublicKeyAlgorithm)
    (log : Log) :
    ∃ selected, (session.selectServer requested log).2.1 = { session with selected } := by
  unfold selectServer
  rcases session.store.selector.selectServer session.store.toHoldings requested
    session.config.format log with ⟨answer, log⟩
  exact ⟨chosen answer, rfl⟩

end HandshakeAuth.Session
