import Mathlib.Data.List.DropRight
import HandshakeAuth.Credential.Store

/-! What a sequence of steps collects, told from the sequence as a whole: lists hold what was added
behind the last step that cleared them, and what is set once holds what was set last. -/

namespace HandshakeAuth.StoreBuilder

variable {α : Type}

namespace Step

inductive Part where
  | keyPairs
  | trustedIssuers
  | clientCallback
  | serverCallback
  | strategy
  deriving DecidableEq

def part : Step → Part
  | keyPair .. | clearKeyPairs => .keyPairs
  | trustIssuer _ | clearTrustedIssuers => .trustedIssuers
  | clientCallback _ => .clientCallback
  | serverCallback _ => .serverCallback
  | strategy _ => .strategy

def clears (part : Part) : Step → Bool
  | clearKeyPairs => part = .keyPairs
  | clearTrustedIssuers => part = .trustedIssuers
  | _ => false

def keyPair? : Step → Option (List Octets × SigningKey)
  | keyPair chain key => some (chain, key)
  | _ => none

def issuer? : Step → Option TrustedIssuer
  | trustIssuer issuer => some issuer
  | _ => none

def clientCallback? : Step → Option ClientCallback
  | clientCallback callback => some callback
  | _ => none

def serverCallback? : Step → Option ServerCallback
  | serverCallback callback => some callback
  | _ => none

def strategy? : Step → Option Strategy
  | .strategy chosen => some chosen
  | _ => none

/-- What the steps behind the last clearing of a part bring. -/
def kept (part : Part) (brings : Step → Option α) (steps : List Step) : List α :=
  (steps.rtakeWhile fun step => !step.clears part).filterMap brings

def last (brings : Step → Option α) (steps : List Step) : Option α :=
  (steps.filterMap brings).getLast?

theorem kept_concat (part : Part) (brings : Step → Option α) (steps : List Step) (step : Step) :
    kept part brings (steps ++ [step]) =
      if step.clears part then [] else kept part brings steps ++ (brings step).toList := by
  unfold kept
  rw [List.rtakeWhile_concat]
  by_cases cleared : step.clears part
  · rw [if_pos cleared, if_neg (by simp [cleared]), List.filterMap_nil]
  · rw [if_neg cleared, if_pos (by simp [cleared]), List.filterMap_append]
    cases brought : brings step <;> simp [brought]

theorem kept_of_clears {part : Part} {step : Step} (cleared : step.clears part)
    (brings : Step → Option α) (before after : List Step) :
    kept part brings (before ++ step :: after) = kept part brings after := by
  induction after using List.reverseRecOn with
  | nil =>
    rw [kept_concat, if_pos cleared]
    rfl
  | append_singleton after later ih =>
    have regroup : before ++ step :: (after ++ [later]) = (before ++ step :: after) ++ [later] := by
      simp
    rw [regroup, kept_concat, kept_concat, ih]

theorem last_concat (brings : Step → Option α) (steps : List Step) (step : Step) :
    last brings (steps ++ [step]) = (brings step).or (last brings steps) := by
  unfold last
  rw [List.filterMap_append, List.getLast?_append]
  cases brought : brings step <;> simp [brought]

end Step

open Step

def keptPairs : List Step → List (List Octets × SigningKey) := kept .keyPairs keyPair?

def keptIssuers : List Step → List TrustedIssuer := kept .trustedIssuers issuer?

def finalRule (steps : List Step) : Selector :=
  match last strategy? steps, last clientCallback? steps, last serverCallback? steps with
  | some strategy, _, _ => .custom strategy
  | none, none, none => .heuristic
  | none, client, server => .callbacks client server

def collected (steps : List Step) : StoreBuilder where
  keyPairs := keptPairs steps
  trustedIssuers := keptIssuers steps
  clientCallback := last clientCallback? steps
  serverCallback := last serverCallback? steps
  strategy := last strategy? steps

theorem collected_concat (steps : List Step) (step : Step) :
    collected (steps ++ [step]) = (collected steps).apply step := by
  unfold collected keptPairs keptIssuers
  simp only [kept_concat, last_concat]
  cases step <;>
    simp [apply, clears, keyPair?, issuer?, clientCallback?, serverCallback?, strategy?]

theorem ofSteps_eq_collected (steps : List Step) : ofSteps steps = collected steps := by
  induction steps using List.reverseRecOn with
  | nil => rfl
  | append_singleton steps step ih =>
    rw [collected_concat, ← ih, ofSteps, List.foldl_concat]
    rfl

theorem selector_collected (steps : List Step) : (collected steps).selector = finalRule steps := by
  unfold selector finalRule collected
  rcases last strategy? steps with _ | strategy
  · rcases last clientCallback? steps with _ | client <;>
      rcases last serverCallback? steps with _ | server <;> rfl
  · rfl

theorem apply_comm (builder : StoreBuilder) {a b : Step} (apart : a.part ≠ b.part) :
    (builder.apply a).apply b = (builder.apply b).apply a := by
  cases a <;> cases b <;> first | rfl | exact absurd rfl apart

theorem ofSteps_swap (before later : List Step) {a b : Step} (apart : a.part ≠ b.part) :
    ofSteps (before ++ a :: b :: later) = ofSteps (before ++ b :: a :: later) := by
  unfold ofSteps
  rw [List.foldl_append, List.foldl_append]
  simp only [List.foldl_cons]
  rw [apply_comm _ apart]

end HandshakeAuth.StoreBuilder
