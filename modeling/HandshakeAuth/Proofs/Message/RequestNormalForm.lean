import HandshakeAuth.Proofs.Message.RequestLayout
import Mathlib.Data.List.Flatten

/-! Writing a request and reading it back. A request that was read can be written, and the form
written is the normal one: every kind known and once, every name with octets. -/

namespace HandshakeAuth.CertificateRequest
open Answer Wire

variable {version : Version} {request : CertificateRequest} {body : Octets} {layout : Layout}

theorem encodeIssuer_eq_ok_iff (name written : Octets) :
    encodeIssuer name = .ok written ↔
      (name ≠ [] ∧ name.length < Octets.capacity 2) ∧ written = framed 2 name := by
  rcases name with _ | ⟨b, bs⟩
  · simp [encodeIssuer]
  · simp [encodeIssuer, vector_eq_framed_iff]

def toLayout (version : Version) (request : CertificateRequest) : Layout where
  kinds := request.types.map ClientCertificateType.wire
  hashes := if version = .tls12 then request.hashes else []
  names := request.issuers

theorem encodeHashes_eq_ok_iff {hashes written : Octets} :
    encodeHashes version hashes = .ok written ↔
      HashesFit version (if version = .tls12 then hashes else []) ∧
        written = hashList version (if version = .tls12 then hashes else []) := by
  unfold encodeHashes HashesFit hashList
  cases version with
  | tls12 => exact vector_eq_framed_iff
  | ssl3 | tls10 | tls11 =>
    change Except.ok [] = _ ↔ [] = [] ∧ written = []
    simp [eq_comm]

theorem encode_eq_ok_iff :
    encode request version = .ok body ↔
      (∀ name ∈ request.issuers, name ≠ []) ∧ (request.toLayout version).Fits version ∧
        body = (request.toLayout version).octets version := by
  simp only [encode, bind_eq_ok_iff, mapM_eq_ok_iff_map encodeIssuer_eq_ok_iff,
    vector_eq_framed_iff, encodeHashes_eq_ok_iff]
  constructor
  · rintro ⟨_, ⟨good, rfl⟩, _, ⟨kinds, rfl⟩, _, ⟨hashes, rfl⟩, _, ⟨names, rfl⟩, same⟩
    rw [← List.flatMap_def] at names same
    refine ⟨fun name mem => (good name mem).1, ⟨kinds, hashes, names⟩, ?_⟩
    rw [Layout.octets, ← List.append_assoc]
    exact (Except.ok.inj same).symm
  · rintro ⟨filled, fits, rfl⟩
    refine ⟨_, ⟨fun name mem => ⟨filled name mem, ?_⟩, rfl⟩, _, ⟨fits.kinds, rfl⟩, _,
      ⟨fits.hashes, rfl⟩, _, ⟨?_, rfl⟩, ?_⟩
    · exact length_lt_of_flatMap fits.names name mem
    · exact fits.names
    · rw [← List.flatMap_def, Layout.octets, ← List.append_assoc]
      rfl

theorem eraseDups_of_nodup {α : Type} [DecidableEq α] {xs : List α} (h : xs.Nodup) :
    xs.eraseDups = xs := by
  induction xs with
  | nil => rfl
  | cons x xs ih =>
    obtain ⟨new, rest⟩ := List.nodup_cons.1 h
    have kept : xs.filter (fun y => !y == x) = xs := by
      rw [List.filter_eq_self]
      intro y mem
      have other : y ≠ x := fun same => new (same ▸ mem)
      simpa using other
    rw [List.eraseDups_cons, kept, ih rest]

theorem knownTypes_map_wire (types : List ClientCertificateType) :
    knownTypes (types.map ClientCertificateType.wire) = types.eraseDups := by
  have each : ClientCertificateType.ofWire? ∘ ClientCertificateType.wire = some :=
    funext ClientCertificateType.ofWire?_wire
  rw [knownTypes, List.filterMap_map, each, List.filterMap_some]

theorem map_wire_filterMap {kinds : Octets}
    (known : ∀ kind ∈ kinds, ∃ type : ClientCertificateType, type.wire = kind) :
    (kinds.filterMap ClientCertificateType.ofWire?).map ClientCertificateType.wire = kinds := by
  induction kinds with
  | nil => rfl
  | cons kind kinds ih =>
    obtain ⟨⟨type, rfl⟩, others⟩ := List.forall_mem_cons.1 known
    rw [List.filterMap_cons_some (ClientCertificateType.ofWire?_wire type), List.map_cons,
      ih others]

theorem map_wire_knownTypes {kinds : Octets}
    (known : ∀ kind ∈ kinds, ∃ type : ClientCertificateType, type.wire = kind)
    (nodup : kinds.Nodup) : (knownTypes kinds).map ClientCertificateType.wire = kinds := by
  have whole := map_wire_filterMap known
  have distinct : (kinds.filterMap ClientCertificateType.ofWire?).Nodup :=
    List.Nodup.of_map ClientCertificateType.wire (whole.symm ▸ nodup)
  rw [knownTypes, eraseDups_of_nodup distinct, whole]

theorem decode_of_encode (h : encode request version = .ok body) :
    decode body version =
      if request.types = [] then .error .unsupportedAlgorithm
      else .ok { types := request.types.eraseDups
                 hashes := if version = .tls12 then request.hashes else []
                 issuers := request.issuers } := by
  obtain ⟨filled, fits, rfl⟩ := encode_eq_ok_iff.1 h
  have kinds := knownTypes_map_wire request.types
  by_cases none : request.types = []
  · have unknown : knownTypes (request.toLayout version).kinds = [] := by
      rw [toLayout, kinds, none]
      rfl
    rw [if_pos none, Layout.octets, decode_framed_kinds fits.kinds, if_pos unknown]
  · have known : knownTypes (request.toLayout version).kinds ≠ [] := by
      obtain ⟨type, mem⟩ := List.exists_mem_of_ne_nil _ none
      rw [toLayout, kinds]
      exact List.ne_nil_of_mem (List.mem_eraseDups.2 mem)
    rw [if_neg none, decode_layout fits known]
    dsimp only [toLayout]
    rw [kinds, filter_of_filled filled]

/-- What a request keeps of the parts of its body. -/
structure Layout.Shows (layout : Layout) (request : CertificateRequest) : Prop where
  supported : Supported layout.kinds request.types
  hashes : request.hashes = layout.hashes
  issuers : request.issuers = layout.names.filter (!·.isEmpty)

theorem decode_eq_ok_iff :
    decode body version = .ok request ↔
      ∃ layout : Layout, layout.Fits version ∧ body = layout.octets version ∧
        layout.Shows request ∧ request.types ≠ [] := by
  constructor
  · intro h
    obtain ⟨answer, outcome⟩ := exists_outcome version body
    have same := (decode_of_outcome outcome).symm.trans h
    cases outcome with
    | whole fits known whole supported =>
      obtain rfl := Except.ok.inj same
      refine ⟨_, fits, whole, ⟨supported, rfl, rfl⟩, ?_⟩
      rw [supported.unique (Supported.knownTypes _)]
      exact knownTypes_ne_nil_iff.2 known
    | _ => contradiction
  · rintro ⟨layout, fits, rfl, shows, some⟩
    have types := shows.supported.unique (Supported.knownTypes _)
    rw [decode_layout fits (types ▸ some), ← types, ← shows.hashes, ← shows.issuers]

namespace Layout

structure Normal (layout : Layout) : Prop where
  known : ∀ kind ∈ layout.kinds, ∃ type : ClientCertificateType, type.wire = kind
  nodup : layout.kinds.Nodup
  filled : ∀ name ∈ layout.names, name ≠ []

theorem length_octets (version : Version) (layout : Layout) :
    (layout.octets version).length =
      1 + layout.kinds.length + ((hashList version layout.hashes).length +
        (2 + (layout.names.flatMap (framed 2)).length)) := by
  simp only [octets, List.length_append, length_framed]

theorem octets_injective {layout' : Layout} (fits : layout.Fits version)
    (fits' : layout'.Fits version) (same : layout.octets version = layout'.octets version) :
    layout = layout' := by
  obtain ⟨kinds, tails⟩ := framed_append_inj fits.kinds fits'.kinds same
  have hashed (layout : Layout) (fits : layout.Fits version) (rest : Octets) :
      Read.answer (readHashes version) (hashList version layout.hashes ++ rest) =
        (.ok layout.hashes, rest) :=
    answer_readHashes_eq_ok_iff.2 ⟨fits.hashes, rfl⟩
  have read := hashed layout fits (framed 2 (layout.names.flatMap (framed 2)))
  rw [tails, hashed layout' fits'] at read
  obtain ⟨hashes, lists⟩ := Prod.mk.inj read
  obtain ⟨lists, -⟩ := framed_append_inj fits'.names fits.names (congrArg (· ++ []) lists)
  have names := flatMap_framed_inj (by decide) (length_lt_of_flatMap fits.names)
    (length_lt_of_flatMap fits'.names) lists.symm
  exact Layout.ext kinds (Except.ok.inj hashes).symm names

variable (fits : layout.Fits version) (shows : layout.Shows request)

theorem hashes_of_fits {hashes : Octets} (fits : HashesFit version hashes) :
    (if version = .tls12 then hashes else []) = hashes := by
  unfold HashesFit at fits
  split at fits
  · rw [if_pos ‹_›]
  · rw [if_neg ‹_›, fits]

include shows in
theorem filled_of_shows : ∀ name ∈ request.issuers, name ≠ [] := by
  rintro name mem rfl
  rw [shows.issuers] at mem
  exact absurd (List.mem_filter.1 mem).2 (by decide)

include shows in
theorem length_types_le : (request.toLayout version).kinds.length ≤ layout.kinds.length := by
  have distinct : (request.types.map ClientCertificateType.wire).Nodup :=
    shows.supported.nodup.map fun _ _ => ClientCertificateType.wire_injective
  apply distinct.length_le_of_subset
  intro kind mem
  obtain ⟨type, listed, rfl⟩ := List.mem_map.1 mem
  exact (shows.supported.mem_iff type).1 listed

include shows in
theorem length_issuers_le :
    ((request.toLayout version).names.flatMap (framed 2)).length ≤
      (layout.names.flatMap (framed 2)).length := by
  rw [toLayout, shows.issuers]
  exact (List.filter_sublist.flatMap _).length_le

include fits shows in
theorem hashes_toLayout : (request.toLayout version).hashes = layout.hashes := by
  rw [toLayout, shows.hashes]
  exact hashes_of_fits fits.hashes

include fits shows in
theorem fits_toLayout : (request.toLayout version).Fits version where
  kinds := Nat.lt_of_le_of_lt (length_types_le shows) fits.kinds
  hashes := by
    rw [hashes_toLayout fits shows]
    exact fits.hashes
  names := Nat.lt_of_le_of_lt (length_issuers_le shows) fits.names

include fits shows in
theorem length_toLayout_le :
    ((request.toLayout version).octets version).length ≤ (layout.octets version).length := by
  have kinds : (request.toLayout version).kinds.length ≤ _ := length_types_le shows
  have names : ((request.toLayout version).names.flatMap (framed 2)).length ≤ _ :=
    length_issuers_le shows
  rw [length_octets, length_octets, hashes_toLayout fits shows]
  omega

include fits shows in
theorem toLayout_eq_iff : request.toLayout version = layout ↔ layout.Normal := by
  constructor
  · rintro rfl
    refine ⟨?_, ?_, ?_⟩
    · intro kind mem
      obtain ⟨type, -, same⟩ := List.mem_map.1 mem
      exact ⟨type, same⟩
    · exact shows.supported.nodup.map fun _ _ => ClientCertificateType.wire_injective
    · exact filled_of_shows shows
  · intro normal
    have types : request.types = knownTypes layout.kinds :=
      shows.supported.unique (Supported.knownTypes _)
    have kinds : (request.toLayout version).kinds = layout.kinds := by
      rw [toLayout, types]
      exact map_wire_knownTypes normal.known normal.nodup
    have names : (request.toLayout version).names = layout.names := by
      rw [toLayout, shows.issuers, filter_of_filled normal.filled]
    exact Layout.ext kinds (hashes_toLayout fits shows) names

end Layout

/-- Writing and reading a request undo each other up to the normal form. What is read from the
written form has each kind once and hashes on TLS 1.2 only. What is written again after reading is
not longer, is read as the same request, and is the same exactly if nothing was left out. -/
theorem inverse_up_to_normal_form (version : Version) :
    (∀ request body, encode request version = .ok body →
      decode body version =
        if request.types = [] then .error .unsupportedAlgorithm
        else .ok { types := request.types.eraseDups
                   hashes := if version = .tls12 then request.hashes else []
                   issuers := request.issuers }) ∧
    ∀ body request, decode body version = .ok request →
      ∃ written, encode request version = .ok written ∧ written.length ≤ body.length ∧
        decode written version = .ok request ∧
        ∃ layout : Layout, layout.Fits version ∧ body = layout.octets version ∧
          (written = body ↔ layout.Normal) := by
  refine ⟨fun request body => decode_of_encode, fun body request h => ?_⟩
  obtain ⟨layout, fits, rfl, shows, some⟩ := decode_eq_ok_iff.1 h
  have refits := Layout.fits_toLayout fits shows
  have written := encode_eq_ok_iff.2 ⟨Layout.filled_of_shows shows, refits, rfl⟩
  have hashes : (if version = .tls12 then request.hashes else []) = request.hashes :=
    (Layout.hashes_toLayout fits shows).trans shows.hashes.symm
  refine ⟨_, written, Layout.length_toLayout_le fits shows, ?_, layout, fits, rfl, ?_⟩
  · rw [decode_of_encode written, if_neg some, hashes, eraseDups_of_nodup shows.supported.nodup]
  · rw [← Layout.toLayout_eq_iff fits shows]
    exact ⟨Layout.octets_injective refits fits, fun same => by rw [same]⟩

theorem inverse_up_to_normal_form_repeated :
    encode ⟨[.dssSign, .rsaSign, .dssSign], [4], [[0x30, 0]]⟩ .tls11 =
        .ok [3, 2, 1, 2, 0, 4, 0, 2, 0x30, 0] ∧
      decode [3, 2, 1, 2, 0, 4, 0, 2, 0x30, 0] .tls11 =
        .ok ⟨[.dssSign, .rsaSign], [], [[0x30, 0]]⟩ ∧
      ∃ written, encode ⟨[.dssSign, .rsaSign], [], [[0x30, 0]]⟩ .tls11 = .ok written ∧
        written.length ≤ 10 ∧
        decode written .tls11 = .ok ⟨[.dssSign, .rsaSign], [], [[0x30, 0]]⟩ := by
  have wrote : encode ⟨[.dssSign, .rsaSign, .dssSign], [4], [[0x30, 0]]⟩ .tls11 =
      .ok [3, 2, 1, 2, 0, 4, 0, 2, 0x30, 0] := rfl
  obtain ⟨back, again⟩ := inverse_up_to_normal_form .tls11
  have read := back _ _ wrote
  obtain ⟨written, rewrote, shorter, reread, -⟩ := again _ _ read
  exact ⟨wrote, read, written, rewrote, shorter, reread⟩

end HandshakeAuth.CertificateRequest
