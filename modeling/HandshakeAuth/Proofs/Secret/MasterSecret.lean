import HandshakeAuth.Proofs.Digest.Size
import HandshakeAuth.Proofs.Secret.Blocks
import HandshakeAuth.Proofs.Secret.Rounds
import HandshakeAuth.Secret.MasterSecret

/-! The master secret as the protocols define it: the first 48 octets of an endless row of blocks,
or of two such rows under exclusive or. Main statement: the derivation gives that and nothing else,
and fails exactly where a primitive is missing. -/

namespace HandshakeAuth

structure Provider.Sized (provider : Provider) : Prop where
  digest : ∀ algorithm ∈ [HashAlgorithm.md5, .sha1, .sha256], ∀ hash,
    provider.hash algorithm = .ok hash → ∀ pieces, (hash pieces).length = algorithm.size
  tag : ∀ algorithm ∈ [HashAlgorithm.md5, .sha1, .sha256], ∀ key tag,
    provider.tag algorithm key = .ok tag → ∀ pieces, (tag pieces).length = algorithm.size

theorem Provider.sized_standard : Provider.standard.Sized where
  digest algorithm _ hash offered pieces := by
    obtain rfl := Except.ok.inj offered
    exact algorithm.length_digest pieces
  tag algorithm _ key tag offered pieces := by
    obtain rfl := Except.ok.inj offered
    exact algorithm.length_tag key pieces

namespace MasterSecret
open Answer PrfAlgorithm

variable {provider : Provider} {version : Version}
  {premaster clientRandom serverRandom octets xs : Octets} {input : Option OpaqueInput}

/-- How the randoms and the opaque input are joined on TLS. -/
inductive Seeds (clientRandom serverRandom : Octets) : Option OpaqueInput → Octets → Prop
  | plain {input : Option OpaqueInput} (idle : ∀ i ∈ input, i.client = [] ∨ i.server = []) :
    Seeds clientRandom serverRandom input (clientRandom ++ serverRandom)
  | salted {input : OpaqueInput} (client : input.client ≠ []) (server : input.server ≠ []) :
    Seeds clientRandom serverRandom (some input)
      (clientRandom ++ input.client ++ serverRandom ++ input.server)

def labelled (seed : Octets) : Octets :=
  "master secret".toUTF8.data.toList ++ seed

/-- The octets that a version makes of a premaster secret, if the primitives for it are there. -/
inductive Prescribes (provider : Provider) (premaster clientRandom serverRandom : Octets)
    (input : Option OpaqueInput) : Version → Octets → Prop
  | expansion {sha1 md5 : List Octets → Octets} {octets : Octets}
    (inner : provider.hash .sha1 = .ok sha1) (outer : provider.hash .md5 = .ok md5)
    (opening : Opening
      (fun round => md5 [premaster, sha1 [List.replicate (round + 1)
        (UInt8.ofNat ('A'.toNat + round)), premaster, clientRandom ++ serverRandom]])
      48 octets) :
    Prescribes provider premaster clientRandom serverRandom input .ssl3 octets
  | halves {version : Version} {seed front back xs ys : Octets}
    {md5 sha1 : List Octets → Octets} (early : version = .tls10 ∨ version = .tls11)
    (seeds : Seeds clientRandom serverRandom input seed) (split : Halves premaster front back)
    (first : provider.tag .md5 front = .ok md5) (second : provider.tag .sha1 back = .ok sha1)
    (opening_md5 : Opening (block md5 (labelled seed)) 48 xs)
    (opening_sha1 : Opening (block sha1 (labelled seed)) 48 ys) :
    Prescribes provider premaster clientRandom serverRandom input version
      (List.zipWith (· ^^^ ·) xs ys)
  | single {seed octets : Octets} {tag : List Octets → Octets}
    (seeds : Seeds clientRandom serverRandom input seed)
    (offered : provider.tag .sha256 premaster = .ok tag)
    (opening : Opening (block tag (labelled seed)) 48 octets) :
    Prescribes provider premaster clientRandom serverRandom input .tls12 octets

/-- The primitives that a version needs are there. -/
def Offers (provider : Provider) (premaster : Octets) : Version → Prop
  | .ssl3 => provider.supportsHash .sha1 ∧ provider.supportsHash .md5
  | .tls10 | .tls11 => ∀ front back, Halves premaster front back →
    (provider.tag .md5 front).isOk ∧ (provider.tag .sha1 back).isOk
  | .tls12 => (provider.tag .sha256 premaster).isOk

theorem isComplete_iff {input : OpaqueInput} :
    input.isComplete ↔ input.client ≠ [] ∧ input.server ≠ [] := by
  simp [OpaqueInput.isComplete]

theorem seed_of_idle (idle : ∀ i ∈ input, i.client = [] ∨ i.server = []) :
    seed clientRandom serverRandom input = clientRandom ++ serverRandom := by
  rcases input with _ | input
  · rfl
  · have incomplete : ¬ input.isComplete := by
      rw [isComplete_iff]
      rintro ⟨client, server⟩
      exact (idle input rfl).elim client server
    exact if_neg incomplete

theorem seeds_iff :
    Seeds clientRandom serverRandom input octets ↔
      octets = seed clientRandom serverRandom input := by
  constructor
  · intro h
    cases h with
    | plain idle => exact (seed_of_idle idle).symm
    | salted client server => exact (if_pos (isComplete_iff.2 ⟨client, server⟩)).symm
  · rintro rfl
    by_cases idle : ∀ i ∈ input, i.client = [] ∨ i.server = []
    · rw [seed_of_idle idle]
      exact .plain idle
    · push Not at idle
      obtain ⟨input, rfl, client, server⟩ := idle
      have joined : seed clientRandom serverRandom (some input) =
          clientRandom ++ input.client ++ serverRandom ++ input.server :=
        if_pos (isComplete_iff.2 ⟨client, server⟩)
      rw [joined]
      exact .salted client server

theorem label_append (octets : Octets) : label ++ octets = labelled octets := rfl

theorem hashStream_eq_ok_iff_opening (sized : provider.Sized) {hash : HashAlgorithm}
    (known : hash ∈ [HashAlgorithm.md5, .sha1, .sha256]) {secret : Octets} :
    hashStream provider hash secret (label ++ octets) length = .ok xs ↔
      ∃ tag, provider.tag hash secret = .ok tag ∧ Opening (block tag (labelled octets)) 48 xs := by
  rw [hashStream_eq_ok_iff (by decide), label_append]
  refine exists_congr fun tag => and_congr_right fun offered => ?_
  have opens := opening_stretch (sized.tag hash known secret tag offered) hash.size_pos
    (labelled octets) 48
  exact ⟨fun same => same ▸ opens, fun h => h.unique opens⟩

theorem compute_md5Sha1_eq_ok_iff (sized : provider.Sized) :
    PrfAlgorithm.md5Sha1.compute provider premaster label octets length = .ok xs ↔
      ∃ md5 sha1 ys zs, provider.tag .md5 (frontHalf premaster) = .ok md5 ∧
        provider.tag .sha1 (backHalf premaster) = .ok sha1 ∧
        Opening (block md5 (labelled octets)) 48 ys ∧
        Opening (block sha1 (labelled octets)) 48 zs ∧ xs = Octets.xor ys zs := by
  rw [compute, bind_eq_ok_iff]
  simp only [bind_eq_ok_iff, hashStream_eq_ok_iff_opening sized (by decide : HashAlgorithm.md5 ∈ _),
    hashStream_eq_ok_iff_opening sized (by decide : HashAlgorithm.sha1 ∈ _)]
  constructor
  · rintro ⟨ys, ⟨md5, first, opening_md5⟩, zs, ⟨sha1, second, opening_sha1⟩, same⟩
    exact ⟨md5, sha1, ys, zs, first, second, opening_md5, opening_sha1, (Except.ok.inj same).symm⟩
  · rintro ⟨md5, sha1, ys, zs, first, second, opening_md5, opening_sha1, rfl⟩
    exact ⟨ys, ⟨md5, first, opening_md5⟩, zs, ⟨sha1, second, opening_sha1⟩, rfl⟩

theorem exists_compute_md5Sha1_iff :
    (∃ xs, PrfAlgorithm.md5Sha1.compute provider premaster label octets length = .ok xs) ↔
      ∀ front back, Halves premaster front back →
        (provider.tag .md5 front).isOk ∧ (provider.tag .sha1 back).isOk := by
  simp only [compute, bind_eq_ok_iff, hashStream_eq_ok_iff (by decide : length ≠ 0), isOk_iff]
  constructor
  · rintro ⟨_, _, ⟨md5, first, -⟩, _, ⟨sha1, second, -⟩, -⟩ front back split
    obtain ⟨rfl, rfl⟩ := halves_iff.1 split
    exact ⟨⟨md5, first⟩, sha1, second⟩
  · intro offered
    obtain ⟨⟨md5, first⟩, sha1, second⟩ := offered _ _ (halves_iff.2 ⟨rfl, rfl⟩)
    exact ⟨_, _, ⟨md5, first, rfl⟩, _, ⟨sha1, second, rfl⟩, rfl⟩

theorem material_eq_ok_iff (sized : provider.Sized) :
    material provider version premaster clientRandom serverRandom input = .ok octets ↔
      Prescribes provider premaster clientRandom serverRandom input version octets := by
  constructor
  · intro h
    rcases version with _ | _ | _ | _
    · obtain ⟨sha1, md5, inner, outer, rfl⟩ :=
        (Expansion.expand_eq_ok_iff (by decide) (by decide)).1 h
      have sixteen := sized.digest .md5 (by decide) md5 outer
      exact .expansion inner outer (Expansion.opening_stretch sixteen (by decide) _ _)
    · obtain ⟨md5, sha1, ys, zs, first, second, opening_md5, opening_sha1, rfl⟩ :=
        (compute_md5Sha1_eq_ok_iff sized).1 h
      exact .halves (.inl rfl) (seeds_iff.2 rfl) (halves_iff.2 ⟨rfl, rfl⟩) first second opening_md5
        opening_sha1
    · obtain ⟨md5, sha1, ys, zs, first, second, opening_md5, opening_sha1, rfl⟩ :=
        (compute_md5Sha1_eq_ok_iff sized).1 h
      exact .halves (.inr rfl) (seeds_iff.2 rfl) (halves_iff.2 ⟨rfl, rfl⟩) first second opening_md5
        opening_sha1
    · obtain ⟨tag, offered, opening⟩ := (hashStream_eq_ok_iff_opening sized (by decide)).1 h
      exact .single (seeds_iff.2 rfl) offered opening
  · intro h
    cases h with
    | expansion inner outer opening =>
      have sixteen := sized.digest .md5 (by decide) _ outer
      refine (Expansion.expand_eq_ok_iff (by decide) (by decide)).2 ⟨_, _, inner, outer, ?_⟩
      exact opening.unique (Expansion.opening_stretch sixteen (by decide) _ _)
    | halves early seeds split first second opening_md5 opening_sha1 =>
      obtain rfl := seeds_iff.1 seeds
      obtain ⟨rfl, rfl⟩ := halves_iff.1 split
      have computed := (compute_md5Sha1_eq_ok_iff sized).2
        ⟨_, _, _, _, first, second, opening_md5, opening_sha1, rfl⟩
      rcases early with rfl | rfl
      · exact computed
      · exact computed
    | single seeds offered opening =>
      obtain rfl := seeds_iff.1 seeds
      exact (hashStream_eq_ok_iff_opening sized (by decide)).2 ⟨_, offered, opening⟩

theorem Prescribes.length_eq
    (h : Prescribes provider premaster clientRandom serverRandom input version octets) :
    octets.length = 48 := by
  cases h with
  | expansion _ _ opening => exact opening.length_eq
  | halves _ _ _ _ _ opening_md5 opening_sha1 =>
    rw [List.length_zipWith, opening_md5.length_eq, opening_sha1.length_eq, Nat.min_self]
  | single _ _ opening => exact opening.length_eq

theorem exists_material_iff :
    (∃ octets, material provider version premaster clientRandom serverRandom input =
      .ok octets) ↔ Offers provider premaster version := by
  rcases version with _ | _ | _ | _
  · simp only [material, ofVersion?, Offers, Provider.supportsHash, isOk_iff,
      Expansion.expand_eq_ok_iff (by decide : length ≤ Expansion.limit) (by decide)]
    constructor
    · rintro ⟨_, sha1, md5, inner, outer, -⟩
      exact ⟨⟨sha1, inner⟩, md5, outer⟩
    · rintro ⟨⟨sha1, inner⟩, md5, outer⟩
      exact ⟨_, sha1, md5, inner, outer, rfl⟩
  · exact exists_compute_md5Sha1_iff
  · exact exists_compute_md5Sha1_iff
  · simp only [material, ofVersion?, Offers, isOk_iff, compute,
      hashStream_eq_ok_iff (by decide : length ≠ 0)]
    constructor
    · rintro ⟨_, tag, offered, -⟩
      exact ⟨tag, offered⟩
    · rintro ⟨tag, offered⟩
      exact ⟨_, tag, offered, rfl⟩

theorem derive_eq_ok_iff {master : MasterSecret} :
    derive provider version premaster clientRandom serverRandom input = .ok master ↔
      material provider version premaster clientRandom serverRandom input =
        .ok master.octets := by
  unfold derive
  rcases material provider version premaster clientRandom serverRandom input with e | octets
  · simp
  · obtain ⟨known, length_known⟩ := master
    by_cases fits : octets.length = 48
    · simp [ofOctets?, fits]
    · have other : octets ≠ known := by
        rintro rfl
        exact fits length_known
      simp [ofOctets?, fits, other]

theorem derive_eq_error {e : AuthError}
    (h : derive provider version premaster clientRandom serverRandom input = .error e) :
    e = .derivationFailed := by
  unfold derive at h
  split at h
  · exact (Except.error.inj h).symm
  · split at h
    · contradiction
    · exact (Except.error.inj h).symm

theorem derive_of_idle
    (idle : version = .ssl3 ∨ ∀ i ∈ input, i.client = [] ∨ i.server = []) :
    derive provider version premaster clientRandom serverRandom input =
      derive provider version premaster clientRandom serverRandom none := by
  have same : material provider version premaster clientRandom serverRandom input =
      material provider version premaster clientRandom serverRandom none := by
    rcases idle with rfl | idle
    · rfl
    · unfold material
      rw [seed_of_idle idle]
      rfl
  unfold derive
  rw [same]

/-- With primitives of the right sizes, the master secret is what the version prescribes, and it is
there exactly if the primitives are. -/
theorem derive_as_prescribed (sized : provider.Sized) (version : Version)
    (premaster clientRandom serverRandom : Octets) (input : Option OpaqueInput) :
    (∀ master, derive provider version premaster clientRandom serverRandom input = .ok master ↔
      Prescribes provider premaster clientRandom serverRandom input version master.octets) ∧
    (Offers provider premaster version →
      ∃ master, derive provider version premaster clientRandom serverRandom input = .ok master) ∧
    (¬ Offers provider premaster version →
      derive provider version premaster clientRandom serverRandom input =
        .error .derivationFailed) ∧
    (version = .ssl3 ∨ (∀ i ∈ input, i.client = [] ∨ i.server = []) →
      derive provider version premaster clientRandom serverRandom input =
        derive provider version premaster clientRandom serverRandom none) ∧
    (∀ octets, material provider version premaster clientRandom serverRandom input = .ok octets →
      ∃ master, ofOctets? octets = some master) := by
  refine ⟨?_, ?_, ?_, derive_of_idle, ?_⟩
  · intro master
    rw [derive_eq_ok_iff, material_eq_ok_iff sized]
  · intro offers
    obtain ⟨octets, made⟩ : ∃ octets,
        material provider version premaster clientRandom serverRandom input = .ok octets :=
      exists_material_iff.2 offers
    have long := ((material_eq_ok_iff sized).1 made).length_eq
    exact ⟨⟨octets, long⟩, derive_eq_ok_iff.2 made⟩
  · intro missing
    rcases derived : derive provider version premaster clientRandom serverRandom input with
      e | master
    · rw [derive_eq_error derived]
    · exact absurd (exists_material_iff.1 ⟨_, derive_eq_ok_iff.1 derived⟩) missing
  · intro octets made
    have long := ((material_eq_ok_iff sized).1 made).length_eq
    exact ⟨⟨octets, long⟩, dif_pos long⟩

theorem derive_as_prescribed_odd :
    Provider.standard.Sized ∧
      Seeds (List.replicate 32 0xa5) (List.replicate 32 0x5a) (some ⟨[7], [8, 9]⟩)
        (List.replicate 32 0xa5 ++ [7] ++ List.replicate 32 0x5a ++ [8, 9]) ∧
      Halves [1, 2, 3] [1, 2] [2, 3] ∧
      ∃ master,
        derive .standard .tls11 [1, 2, 3] (List.replicate 32 0xa5) (List.replicate 32 0x5a)
          (some ⟨[7], [8, 9]⟩) = .ok master ∧
        Prescribes .standard [1, 2, 3] (List.replicate 32 0xa5) (List.replicate 32 0x5a)
          (some ⟨[7], [8, 9]⟩) .tls11 master.octets := by
  have law := derive_as_prescribed Provider.sized_standard .tls11 [1, 2, 3]
    (List.replicate 32 0xa5) (List.replicate 32 0x5a) (some ⟨[7], [8, 9]⟩)
  have offers : Offers .standard [1, 2, 3] .tls11 := fun _ _ _ => ⟨rfl, rfl⟩
  obtain ⟨master, derived⟩ := law.2.1 offers
  refine ⟨Provider.sized_standard, seeds_iff.2 rfl, halves_iff.2 ⟨rfl, rfl⟩, master, derived, ?_⟩
  exact (law.1 master).1 derived

end MasterSecret
end HandshakeAuth
