import HandshakeAuth.Selection.Basic

/-! The standing rule and the check of an application's answer keep to the negotiated format. Of a
strategy nothing is known. -/

namespace HandshakeAuth.Selector

variable {holdings : Holdings} {constraints : PeerConstraints}
  {requested : Option PublicKeyAlgorithm} {format : CertificateFormat} {log : Log}
  {selector : Selector} {choice : Choice}

def IsChecked : Selector → Prop
  | heuristic => True
  | callbacks _ _ => True
  | custom _ => False

theorem format_of_heuristicClient
    (found : heuristicClient holdings constraints format = some choice) :
    choice.credential.format = format := by
  unfold heuristicClient at found
  by_cases negotiated : format = .x509
  · exact negotiated.symm
  · rw [if_neg negotiated] at found
    contradiction

theorem format_of_heuristicServer
    (found : heuristicServer holdings requested format = some choice) :
    choice.credential.format = format := by
  unfold heuristicServer at found
  have fits := List.find?_some found
  rw [Bool.and_eq_true, decide_eq_true_iff] at fits
  exact fits.2

theorem judge_eq_ok_some_iff {answer : Answer} :
    judge answer format = .ok (some choice) ↔
      answer = .ok (some choice) ∧ choice.credential.format = format := by
  rcases answer with text | _ | picked
  · simp [judge]
  · simp [judge]
  · by_cases fits : picked.credential.format = format
    · simp only [judge, if_pos fits, Except.ok.injEq, Option.some.injEq]
      exact (and_iff_left_of_imp fun same => same ▸ fits).symm
    · simp only [judge, if_neg fits, reduceCtorEq, Except.ok.injEq, Option.some.injEq, false_iff]
      exact fun ⟨same, kept⟩ => fits (same ▸ kept)

theorem format_of_selectClient (checked : selector.IsChecked)
    (chosen : (selector.selectClient holdings constraints format log).1 = .ok (some choice)) :
    choice.credential.format = format := by
  rcases selector with _ | ⟨_ | callback, server⟩ | strategy
  · exact format_of_heuristicClient (Except.ok.inj chosen)
  · exact format_of_heuristicClient (Except.ok.inj chosen)
  · exact (judge_eq_ok_some_iff.1 chosen).2
  · exact checked.elim

theorem format_of_selectServer (checked : selector.IsChecked)
    (chosen : (selector.selectServer holdings requested format log).1 = .ok (some choice)) :
    choice.credential.format = format := by
  rcases selector with _ | ⟨client, _ | callback⟩ | strategy
  · exact format_of_heuristicServer (Except.ok.inj chosen)
  · exact format_of_heuristicServer (Except.ok.inj chosen)
  · exact (judge_eq_ok_some_iff.1 chosen).2
  · exact checked.elim

end HandshakeAuth.Selector
