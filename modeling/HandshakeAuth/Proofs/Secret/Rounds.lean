import HandshakeAuth.Proofs.Digest.Pieces
import HandshakeAuth.Proofs.Digest.Size
import HandshakeAuth.Proofs.Secret.Opening
import HandshakeAuth.Secret.Expansion
import Mathlib.Logic.Function.Iterate

/-! The rounds of the SSL 3.0 expansion. They are counted in one octet, and the letter of a round is
a sum of octets; as blocks have 16 octets, the limit ends the loop after 26 rounds, long before
either would wrap. Main statement: the expansion opens the row of blocks that is numbered without a
bound. -/

namespace HandshakeAuth.Expansion

variable {sha1 md5 : List Octets → Octets} {secret seed : Octets} {length : Nat}

def letters (round : Nat) : Octets :=
  List.replicate (round + 1) (UInt8.ofNat ('A'.toNat + round))

def numbered (sha1 md5 : List Octets → Octets) (secret seed : Octets) (round : Nat) : Octets :=
  md5 [secret, sha1 [letters round, secret, seed]]

def needed (length : Nat) : Nat := (length + 15) / 16

theorem salt_eq (round : UInt8) : salt round = letters round.toNat := by
  have letter : (65 + round : UInt8) = UInt8.ofNat (65 + round.toNat) := by
    rw [UInt8.ofNat_add, UInt8.ofNat_toNat]
    rfl
  rw [salt, letter]
  rfl

theorem block_eq (round : UInt8) :
    block sha1 md5 secret seed round = numbered sha1 md5 secret seed round.toNat := by
  rw [block, salt_eq]
  rfl

theorem length_numbered (sized : ∀ pieces, (md5 pieces).length = 16) (round : Nat) :
    (numbered sha1 md5 secret seed round).length = 16 :=
  sized _

structure After (sha1 md5 : List Octets → Octets) (secret seed : Octets) (length count : Nat)
    (progress : Progress) : Prop where
  round : progress.round.toNat = count
  output : progress.output =
    ((List.range count).flatMap (numbered sha1 md5 secret seed)).take length

namespace After

variable {count : Nat} {progress other : Progress}

theorem start : After sha1 md5 secret seed length 0 start where
  round := rfl
  output := List.take_nil.symm

theorem unique (h : After sha1 md5 secret seed length count progress)
    (h' : After sha1 md5 secret seed length count other) : progress = other := by
  obtain ⟨round, output⟩ := progress
  obtain ⟨round', output'⟩ := other
  have same : round = round' := UInt8.toNat_inj.1 (h.round.trans h'.round.symm)
  have equal : output = output' := h.output.trans h'.output.symm
  rw [same, equal]

theorem advance (h : After sha1 md5 secret seed length count progress) (room : count + 1 < 256) :
    After sha1 md5 secret seed length (count + 1)
      (advance sha1 md5 secret seed length progress) where
  round := by
    change (progress.round + 1).toNat = count + 1
    rw [UInt8.toNat_add, h.round]
    exact Nat.mod_eq_of_lt room
  output := by
    have wanted (xs : Octets) : length - (xs.take length).length = length - xs.length := by
      rw [List.length_take]
      omega
    change progress.output ++ (block sha1 md5 secret seed progress.round).take
      (length - progress.output.length) = _
    rw [block_eq, h.round, h.output, wanted, List.range_succ, List.flatMap_append,
      List.flatMap_singleton, List.take_append]

theorem iterate (room : count < 256) :
    After sha1 md5 secret seed length count
      ((Expansion.advance sha1 md5 secret seed length)^[count] Expansion.start) := by
  induction count with
  | zero => exact .start
  | succ count ih =>
    rw [Function.iterate_succ_apply']
    exact (ih (Nat.lt_of_succ_lt room)).advance room

variable (sized : ∀ pieces, (md5 pieces).length = 16)
include sized

theorem length_output (h : After sha1 md5 secret seed length count progress) :
    progress.output.length = min length (count * 16) := by
  rw [h.output, List.length_take, length_flatMap_range (length_numbered sized)]

theorem short_iff (h : After sha1 md5 secret seed length count progress) :
    progress.output.length < length ↔ count < needed length := by
  rw [h.length_output sized, needed]
  omega

theorem rounds {fuel : Nat} (room : needed length < 256)
    (h : After sha1 md5 secret seed length count progress) (early : count ≤ needed length)
    (enough : needed length ≤ count + fuel) :
    After sha1 md5 secret seed length (needed length)
      (rounds sha1 md5 secret seed length fuel progress) := by
  induction fuel generalizing count progress with
  | zero =>
    have last : count = needed length := Nat.le_antisymm early enough
    exact last ▸ h
  | succ fuel ih =>
    rw [Expansion.rounds]
    by_cases short : progress.output.length < length
    · rw [if_pos short]
      have more : count < needed length := (h.short_iff sized).1 short
      exact ih (h.advance (by omega)) more (by omega)
    · rw [if_neg short]
      have last : needed length ≤ count := Nat.le_of_not_lt fun more =>
        short ((h.short_iff sized).2 more)
      exact Nat.le_antisymm early last ▸ h

end After

theorem needed_le (short : length ≤ limit) : needed length ≤ 26 := by
  unfold needed limit at *
  omega

theorem expand_eq_ok_iff {provider : Provider} {octets : Octets} (short : length ≤ limit)
    (wanted : length ≠ 0) :
    expand provider secret seed length = .ok octets ↔
      ∃ sha1 md5, provider.hash .sha1 = .ok sha1 ∧ provider.hash .md5 = .ok md5 ∧
        octets = stretch sha1 md5 secret seed length := by
  rw [expand, if_neg (Nat.not_lt.2 short), if_neg wanted]
  rcases provider.hash .sha1 with e | sha1
  · simp
  · rcases provider.hash .md5 with e | md5 <;> simp [eq_comm]

section Sized

variable (sized : ∀ pieces, (md5 pieces).length = 16)
include sized

theorem rounds_eq_iterate (short : length ≤ limit) {fuel : Nat} (enough : needed length ≤ fuel) :
    rounds sha1 md5 secret seed length fuel start =
      (advance sha1 md5 secret seed length)^[needed length] start := by
  have room : needed length < 256 := Nat.lt_of_le_of_lt (needed_le short) (by decide)
  have ended : After sha1 md5 secret seed length (needed length)
      (rounds sha1 md5 secret seed length fuel start) :=
    After.start.rounds sized room (Nat.zero_le _) (by rwa [Nat.zero_add])
  exact ended.unique (.iterate room)

theorem opening_stretch (short : length ≤ limit) (secret seed : Octets) :
    Opening (numbered sha1 md5 secret seed) length (stretch sha1 md5 secret seed length) := by
  have room : needed length < 256 := Nat.lt_of_le_of_lt (needed_le short) (by decide)
  have few : needed length ≤ length := by
    unfold needed
    omega
  have ended : After sha1 md5 secret seed length (needed length)
      (rounds sha1 md5 secret seed length length start) :=
    After.start.rounds sized room (Nat.zero_le _) (by rwa [Nat.zero_add])
  rw [stretch, ended.output]
  refine .take_flatMap_range (length_numbered sized) ?_
  unfold needed
  omega

end Sized

structure Progress.Fits (progress : Progress) : Prop where
  count : progress.round.toNat + 1 < 256
  letter : 'A'.toNat + progress.round.toNat ≤ 'Z'.toNat

theorem numbered_of_joins (inner : Joins sha1) (outer : Joins md5) (round : Nat) :
    numbered sha1 md5 secret seed round =
      md5 [secret ++ sha1 [letters round ++ secret ++ seed]] := by
  rw [numbered, outer, inner]
  simp only [List.flatten_cons, List.flatten_nil, List.append_nil, List.append_assoc]

theorem expand_of_le {provider : Provider} (inner : provider.hash .sha1 = .ok sha1)
    (outer : provider.hash .md5 = .ok md5) (short : length ≤ limit) :
    expand provider secret seed length = .ok (stretch sha1 md5 secret seed length) := by
  by_cases wanted : length = 0
  · rw [expand, if_neg (Nat.not_lt.2 short), if_pos wanted, wanted]
    rfl
  · exact (expand_eq_ok_iff short wanted).2 ⟨sha1, md5, inner, outer, rfl⟩

/-- Up to 416 octets, the expansion is the opening of the row of blocks. Its loop ends after as many
rounds as are needed, in each of which the counter and the letter are in range. More octets are
refused whatever the primitives are, so none is asked for. -/
theorem expand_opens_row {provider : Provider} (inner : provider.hash .sha1 = .ok sha1)
    (outer : provider.hash .md5 = .ok md5) (sized : ∀ pieces, (md5 pieces).length = 16)
    (secret seed : Octets) (length : Nat) :
    (length ≤ 416 →
      (∃ octets, expand provider secret seed length = .ok octets ∧
        Opening (numbered sha1 md5 secret seed) length octets) ∧
      (∀ fuel, needed length ≤ fuel → rounds sha1 md5 secret seed length fuel start =
        (advance sha1 md5 secret seed length)^[needed length] start) ∧
      ∀ count < needed length, ∃ progress,
        (advance sha1 md5 secret seed length)^[count] start = progress ∧
        progress.output.length < length ∧ progress.round.toNat = count ∧ progress.Fits) ∧
    (Joins sha1 → Joins md5 → ∀ round, numbered sha1 md5 secret seed round =
      md5 [secret ++ sha1 [letters round ++ secret ++ seed]]) ∧
    (416 < length → ∀ other : Provider, expand other secret seed length =
      .error (.invalidMessage
        ("SSL 3.0 expansion limited to 416 bytes, asked for " ++ toString length))) := by
  refine ⟨fun short => ⟨?_, ?_, ?_⟩, numbered_of_joins, fun long other => if_pos long⟩
  · exact ⟨_, expand_of_le inner outer short, opening_stretch sized short secret seed⟩
  · intro fuel enough
    exact rounds_eq_iterate sized short enough
  · intro count entered
    have few : needed length ≤ 26 := needed_le short
    have reached : After sha1 md5 secret seed length count
        ((advance sha1 md5 secret seed length)^[count] start) := .iterate (by omega)
    have letter : 'A'.toNat + count ≤ 'Z'.toNat := by
      change 65 + count ≤ 90
      omega
    refine ⟨_, rfl, (reached.short_iff sized).2 entered, reached.round, ?_, ?_⟩
    · rw [reached.round]
      omega
    · rwa [reached.round]

theorem expand_opens_row_longest :
    needed 416 = 26 ∧
      (∃ octets, expand .standard [7] [8, 9] 416 = .ok octets ∧
        Opening (numbered HashAlgorithm.sha1.digest HashAlgorithm.md5.digest [7] [8, 9]) 416
          octets) ∧
      (∃ progress,
        (advance HashAlgorithm.sha1.digest HashAlgorithm.md5.digest [7] [8, 9] 416)^[25] start =
          progress ∧ progress.output.length < 416 ∧ progress.round.toNat = 25 ∧ progress.Fits) ∧
      numbered HashAlgorithm.sha1.digest HashAlgorithm.md5.digest [7] [8, 9] 25 =
        HashAlgorithm.md5.digest
          [[7] ++ HashAlgorithm.sha1.digest [List.replicate 26 0x5a ++ [7] ++ [8, 9]]] := by
  have law := expand_opens_row (rfl : Provider.standard.hash .sha1 = _)
    (rfl : Provider.standard.hash .md5 = _) (HashAlgorithm.length_digest .md5) [7] [8, 9] 416
  obtain ⟨opened, -, entered⟩ := law.1 (by decide)
  have joined := law.2.1 (HashAlgorithm.joins_digest .sha1) (HashAlgorithm.joins_digest .md5) 25
  exact ⟨rfl, opened, entered 25 (by decide), joined⟩

end HandshakeAuth.Expansion
