import HandshakeAuth.Crypto.Restriction
import HandshakeAuth.Proofs.Handshake.SecretSteps

/-! The secrets of a session over a whole run: where the master secret comes from, and how often a
premaster secret can be used. Nothing but the operations of the run decides it. -/

namespace HandshakeAuth

variable {σ : Type} {version : Version} {e : Endpoint σ}

def Secrets.initial (version : Version) : Secrets where
  version := version
  clientRandom := List.replicate 32 0
  serverRandom := List.replicate 32 0
  opaqueInput := none
  premaster := none
  master := none
  inner := none
  resumed := false

def Endpoint.start (config : Config) (version : Version) (role : Role) (store : Store)
    (records : σ) (log : Log) : Endpoint σ :=
  { session := .start config version role store, records, log }

namespace Operation

def randomsOf (ops : List (Operation σ)) : Octets × Octets :=
  (latest randoms? ops).getD (List.replicate 32 0, List.replicate 32 0)

def Derives (op : Operation σ) (e : Endpoint σ) : Prop :=
  ∃ provider keep, op = .generateMaster provider keep ∧
    (e.session.generateMaster provider keep).1 = .ok ()

/-- The master secret of the last derivation in a run that succeeded, which was made of what the
operations before it had set. -/
inductive DerivedLast (version : Version) (e : Endpoint σ) :
    List (Operation σ) → MasterSecret → Prop
  | intro {before after : List (Operation σ)} {provider : Provider} {keep : Bool}
    {premaster : Octets} {master : MasterSecret}
    (succeeded : ((performAll before e).session.generateMaster provider keep).1 = .ok ())
    (last : Never Derives (performAll (before ++ [.generateMaster provider keep]) e) after)
    (set : latest premaster? before = some premaster)
    (derived : MasterSecret.derive provider version premaster (randomsOf before).1
      (randomsOf before).2 (latest opaqueInput? before) = .ok master) :
    DerivedLast version e (before ++ .generateMaster provider keep :: after) master

theorem DerivedLast.concat {ops : List (Operation σ)} {op : Operation σ} {master : MasterSecret}
    (h : DerivedLast version e ops master) (refused : ¬ Derives op (performAll ops e)) :
    DerivedLast version e (ops ++ [op]) master := by
  obtain ⟨succeeded, last, set, derived⟩ := h
  rename_i before after provider keep premaster
  rw [List.append_assoc, List.cons_append]
  refine .intro succeeded (last.concat ?_) set derived
  rwa [← performAll_append, List.append_assoc]

theorem version_performAll (ops : List (Operation σ)) (e : Endpoint σ) :
    (performAll ops e).session.version = e.session.version :=
  performAll_induction (P := fun after => after.session.version = e.session.version)
    (fun op after _ same => (version_perform op after).trans same) (fun _ _ => trivial) rfl

theorem resumed_performAll (ops : List (Operation σ)) (e : Endpoint σ) :
    (performAll ops e).session.resumed =
      ((latest resumption? ops).isSome || e.session.resumed) := by
  induction ops using List.reverseRecOn with
  | nil => rfl
  | append_singleton ops op ih =>
    rw [performAll_append, latest_concat, Option.isSome_or, Bool.or_assoc, ← ih]
    exact resumed_perform op (performAll ops e)

theorem premaster_of_unset {ops : List (Operation σ)} (spent : e.session.premaster = none)
    (unset : ∀ op ∈ ops, op.premaster? = none) :
    (performAll ops e).session.premaster = none := by
  refine performAll_induction (P := fun e => e.session.premaster = none) ?_ unset spent
  intro op e plain nothing
  rcases held : (op.perform e).session.premaster with _ | premaster
  · rfl
  · have earlier := premaster_of_perform op e held
    rw [plain, nothing] at earlier
    exact nomatch earlier

section Initial

variable {ops : List (Operation σ)} (initial : e.session.secrets = .initial version)
include initial

theorem version_of_run : (performAll ops e).session.version = version :=
  (version_performAll ops e).trans (congrArg Secrets.version initial)

theorem randoms_of_run :
    ((performAll ops e).session.clientRandom, (performAll ops e).session.serverRandom) =
      randomsOf ops := by
  have shown := view_performAll (fun e => some (e.session.clientRandom, e.session.serverRandom))
    randoms_perform ops e
  have client : e.session.clientRandom = _ := congrArg Secrets.clientRandom initial
  have server : e.session.serverRandom = _ := congrArg Secrets.serverRandom initial
  rw [Option.or_some, client, server] at shown
  exact Option.some.inj shown

theorem opaqueInput_of_run :
    (performAll ops e).session.opaqueInput = latest opaqueInput? ops := by
  have shown := view_performAll (·.session.opaqueInput) opaqueInput_perform ops e
  have input : e.session.opaqueInput = _ := congrArg Secrets.opaqueInput initial
  rw [input] at shown
  exact shown.trans Option.or_none

theorem resumed_of_run :
    (performAll ops e).session.resumed = (latest resumption? ops).isSome := by
  have resumed : e.session.resumed = _ := congrArg Secrets.resumed initial
  rw [resumed_performAll, resumed]
  exact Bool.or_false _

theorem inner_of_run :
    (performAll ops e).session.master = (performAll ops e).session.inner := by
  have master : e.session.master = _ := congrArg Secrets.master initial
  have inner : e.session.inner = _ := congrArg Secrets.inner initial
  exact performAll_induction (P := fun e => e.session.master = e.session.inner)
    (fun op _ _ same => inner_perform op same) (fun _ _ => trivial) (master.trans inner.symm)

theorem premaster_of_run {premaster : Octets}
    (held : (performAll ops e).session.premaster = some premaster) :
    latest premaster? ops = some premaster := by
  induction ops using List.reverseRecOn generalizing premaster with
  | nil => exact nomatch held.symm.trans (congrArg Secrets.premaster initial)
  | append_singleton ops op ih =>
    rw [performAll_append] at held
    have before := premaster_of_perform op _ held
    rw [latest_concat]
    rcases set : op.premaster? with _ | other
    · rw [set] at before
      exact ih before
    · rw [set] at before
      exact before

theorem resumption_of_run {master : MasterSecret} (taken : latest resumption? ops = some master) :
    (performAll ops e).session.master = some master := by
  induction ops using List.reverseRecOn with
  | nil => exact nomatch taken
  | append_singleton ops op ih =>
    rw [latest_concat] at taken
    rw [performAll_append]
    rcases brings : op.resumption? with _ | other
    · rw [brings, Option.none_or] at taken
      have resumed : (performAll ops e).session.resumed = true := by
        rw [resumed_of_run initial, taken, Option.isSome_some]
      exact (master_perform op brings fun _ _ _ => .inl resumed).trans (ih taken)
    · rw [brings] at taken
      obtain rfl : other = master := Option.some.inj taken
      cases op with
      | resume _ =>
        obtain rfl := Option.some.inj brings
        rfl
      | _ => exact nomatch brings

theorem derivedLast_of_succeeded {provider : Provider} {keep : Bool}
    (unresumed : latest resumption? ops = none)
    (succeeded : ((performAll ops e).session.generateMaster provider keep).1 = .ok ()) :
    ∃ master, ((performAll ops e).session.generateMaster provider keep).2.master = some master ∧
      DerivedLast version e (ops ++ [.generateMaster provider keep]) master := by
  have new : (performAll ops e).session.resumed = false := by
    rw [resumed_of_run initial, unresumed, Option.isSome_none]
  obtain ⟨premaster, master, held, made, stored⟩ :=
    ((performAll ops e).session.generates_generateMaster provider keep).of_succeeded new succeeded
  refine ⟨master, stored, .intro succeeded .nil (premaster_of_run initial held) ?_⟩
  have same_version : (performAll ops e).session.version = version := version_of_run initial
  have same_randoms : _ = randomsOf ops := randoms_of_run initial
  rw [← same_version, ← same_randoms, ← opaqueInput_of_run initial]
  exact made

/-- Until a session is resumed, its master secret is the one that the last successful derivation
has made, if there was one. -/
theorem origin_of_run (unresumed : latest resumption? ops = none) :
    ((performAll ops e).session.master = none ∧ Never Derives e ops) ∨
      ∃ master, (performAll ops e).session.master = some master ∧
        DerivedLast version e ops master := by
  induction ops using List.reverseRecOn with
  | nil => exact .inl ⟨congrArg Secrets.master initial, .nil⟩
  | append_singleton ops op ih =>
    rw [latest_concat, Option.or_eq_none_iff] at unresumed
    obtain ⟨plain, earlier⟩ := unresumed
    by_cases derives : Derives op (performAll ops e)
    · obtain ⟨provider, keep, rfl, succeeded⟩ := derives
      rw [performAll_append]
      exact .inr (derivedLast_of_succeeded initial earlier succeeded)
    · have same := master_perform op plain fun provider keep h =>
        .inr fun succeeded => derives ⟨provider, keep, h, succeeded⟩
      rw [performAll_append]
      rcases ih earlier with ⟨absent, never⟩ | ⟨master, present, derived⟩
      · exact .inl ⟨same.trans absent, never.concat derives⟩
      · exact .inr ⟨master, same.trans present, derived.concat derives⟩

theorem generateMaster_of_spent {provider : Provider} {keep : Bool} {later : List (Operation σ)}
    (unresumed : latest resumption? (ops ++ later) = none)
    (spent : (performAll ops e).session.premaster = none)
    (unset : ∀ op ∈ later, op.premaster? = none) :
    ((performAll (ops ++ later) e).session.generateMaster provider keep).1 =
      .error (.internalError "no premaster secret") := by
  have new : (performAll (ops ++ later) e).session.resumed = false := by
    rw [resumed_of_run initial, unresumed, Option.isSome_none]
  have nothing : (performAll (ops ++ later) e).session.premaster = none := by
    rw [performAll_append]
    exact premaster_of_unset spent unset
  exact ((performAll (ops ++ later) e).session.generates_generateMaster provider keep).of_missing
    new nothing

end Initial

/-- Where the master secret of a session comes from that a run has led to. -/
structure Accounted (version : Version) (e : Endpoint σ) (ops : List (Operation σ)) : Prop where
  agree : (performAll ops e).session.master = (performAll ops e).session.inner
  resumed : ∀ master, latest resumption? ops = some master →
    (performAll ops e).session.master = some master
  derived : latest resumption? ops = none →
    ((performAll ops e).session.master = none ∧ Never Derives e ops) ∨
      ∃ master, (performAll ops e).session.master = some master ∧
        DerivedLast version e ops master

/-- What a derivation after a run answers, and the session that it leaves. -/
structure Orderly (e : Endpoint σ) (ops : List (Operation σ)) (provider : Provider) (keep : Bool)
    (answer : Except AuthError Unit) (after : Session) : Prop where
  resumed : (latest resumption? ops).isSome → answer = .ok () ∧ after = (performAll ops e).session
  failed : ∀ refusal, answer = .error refusal →
    after.master = (performAll ops e).session.master ∧
      after.inner = (performAll ops e).session.inner ∧
      (refusal = .internalError "no premaster secret" ∧
          (performAll ops e).session.premaster = none ∧ after = (performAll ops e).session ∨
        refusal = .derivationFailed ∧ (performAll ops e).session.premaster ≠ none)
  kept : keep = true → after.premaster = (performAll ops e).session.premaster
  spent : keep = false → latest resumption? ops = none → after.premaster = none
  once : keep = false → latest resumption? ops = none → ∀ later : List (Operation σ),
    (∀ op ∈ later, op.premaster? = none ∧ op.resumption? = none) → ∀ provider' keep',
      ((performAll (ops ++ .generateMaster provider keep :: later) e).session.generateMaster
        provider' keep').1 = .error (.internalError "no premaster secret")

theorem orderly_of_run {ops : List (Operation σ)} (initial : e.session.secrets = .initial version)
    (provider : Provider) (keep : Bool) :
    Orderly e ops provider keep ((performAll ops e).session.generateMaster provider keep).1
      ((performAll ops e).session.generateMaster provider keep).2 := by
  have step := (performAll ops e).session.generates_generateMaster provider keep
  have flag : (performAll ops e).session.resumed = (latest resumption? ops).isSome :=
    resumed_of_run initial
  have spent : keep = false → latest resumption? ops = none →
      ((performAll ops e).session.generateMaster provider keep).2.premaster = none := by
    rintro rfl unresumed
    rw [unresumed] at flag
    exact step.premaster_of_spent flag
  refine ⟨fun earlier => step.of_resumed (flag.trans earlier), ?_, ?_, spent, ?_⟩
  · intro refusal refused
    rw [refused] at step
    exact step.of_error
  · rintro rfl
    exact step.premaster_of_kept
  · intro dropped unresumed later silent provider' keep'
    have after : performAll (ops ++ [.generateMaster provider keep]) e =
        (Operation.generateMaster provider keep).perform (performAll ops e) :=
      performAll_append ops _ e
    have split : ops ++ .generateMaster provider keep :: later =
        (ops ++ [.generateMaster provider keep]) ++ later := by
      simp
    rw [split]
    refine generateMaster_of_spent initial ?_ ?_ fun op mem => (silent op mem).1
    · rw [latest_append_of_forall _ fun op mem => (silent op mem).2, latest_concat]
      exact unresumed
    · rw [after]
      exact spent dropped unresumed

/-- The secrets over any run of a session, whatever else is done in between. -/
theorem secrets_of_run (config : Config) (version : Version) (role : Role) (store : Store)
    (records : σ) (log : Log) (ops : List (Operation σ)) :
    Accounted version (.start config version role store records log) ops ∧
      ∀ provider keep,
        Orderly (.start config version role store records log) ops provider keep
          ((performAll ops (.start config version role store records log)).session.generateMaster
            provider keep).1
          ((performAll ops (.start config version role store records log)).session.generateMaster
            provider keep).2 := by
  have initial : (Endpoint.start config version role store records log).session.secrets =
      .initial version := rfl
  refine ⟨⟨inner_of_run initial, ?_, origin_of_run initial⟩, orderly_of_run initial⟩
  intro master taken
  exact resumption_of_run initial taken

def keyAsTag : Provider where
  hash := Provider.standard.hash
  tag _ key := .ok fun _ => (key ++ List.replicate 32 0).take 32
  signature := Provider.standard.signature

def keyWithoutTag : Provider :=
  Restriction.apply { deniedTags := [.sha256] } keyAsTag

def threeDerivations : List (Operation Unit) :=
  [.setPremaster [1], .generateMaster keyAsTag false, .setPremaster [2],
    .generateMaster keyWithoutTag false, .setPremaster [3], .generateMaster keyAsTag true]

/-- The second derivation fails and costs its premaster secret; the third keeps it. -/
example :
    let store : Store :=
      { entries := [], trustedIssuers := [], issuerList := [], selector := .heuristic }
    let after (n : Nat) : Session :=
      (performAll (threeDerivations.take n) (.start {} .tls12 .client store () [])).session
    (List.range 7).map (fun n => ((after n).premaster, (after n).master.map (·.octets.head?))) =
        [(none, none), (some [1], none), (none, some (some 1)), (some [2], some (some 1)),
          (none, some (some 1)), (some [3], some (some 1)), (some [3], some (some 3))] ∧
      ((after 3).generateMaster keyWithoutTag false).1 = .error .derivationFailed ∧
      (after 6).inner = (after 6).master := by
  exact ⟨rfl, rfl, rfl⟩

end Operation
end HandshakeAuth
