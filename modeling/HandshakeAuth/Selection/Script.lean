import HandshakeAuth.Selection.Basic

/-!
Applications that answer by a script, and a strategy that always takes the last entry.
-/

namespace HandshakeAuth

inductive Pick where
  | place (place : Nat)
  | last
  | accepted
  | decline
  | fail (text : String)
  | bring (credential : Credential)
  | inTurn (picks : List Pick)

namespace Pick

mutual

def answer (holdings : Holdings) (algorithms : List PublicKeyAlgorithm) (call : Nat) :
    Pick → Answer
  | .place n => .ok (holdings.choice? n)
  | last => .ok holdings.choices.getLast?
  | accepted => .ok (holdings.choices.find? (algorithms.contains ·.credential.algorithm))
  | decline => .ok none
  | fail text => .error text
  | bring credential => .ok (some (.foreign credential))
  | inTurn picks => answerTurn holdings algorithms call picks call

def answerTurn (holdings : Holdings) (algorithms : List PublicKeyAlgorithm) (call : Nat) :
    List Pick → Nat → Answer
  | [], _ => .ok none
  | [pick], _ => answer holdings algorithms call pick
  | pick :: _ :: _, 0 => answer holdings algorithms call pick
  | _ :: pick :: picks, turn + 1 => answerTurn holdings algorithms call (pick :: picks) turn

end

def clientCallback (pick : Pick) : ClientCallback :=
  fun call holdings _ algorithms => pick.answer holdings algorithms call

def serverCallback (pick : Pick) : ServerCallback :=
  fun call holdings requested => pick.answer holdings requested.toList call

end Pick

def Strategy.last : Strategy where
  diagnostic := "LastSelector"
  client holdings _ _ := .ok holdings.choices.getLast?
  server holdings _ _ := .ok holdings.choices.getLast?

end HandshakeAuth
