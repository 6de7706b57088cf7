import HandshakeAuth.Message.CertificateRequest
import Mathlib.Data.List.Nodup

/-! Which kinds of certificate a request is taken to ask for. Reading keeps a kind at its first
occurrence; membership and this order determine the list. -/

namespace HandshakeAuth.CertificateRequest

/-- The supported kinds among the octets, each once, in the order of their first occurrence. -/
structure Supported (kinds : Octets) (types : List ClientCertificateType) : Prop where
  mem_iff : ∀ type, type ∈ types ↔ type.wire ∈ kinds
  ordered : types.Pairwise fun first second => kinds.idxOf first.wire < kinds.idxOf second.wire

theorem eraseDups_concat {α : Type} [DecidableEq α] (xs : List α) (x : α) :
    (xs ++ [x]).eraseDups = if x ∈ xs then xs.eraseDups else xs.eraseDups ++ [x] := by
  rw [List.eraseDups_append]
  by_cases mem : x ∈ xs
  · simp [List.removeAll, mem]
  · simp [List.removeAll, mem, List.eraseDups_cons]

theorem knownTypes_concat (kinds : Octets) (kind : UInt8) :
    knownTypes (kinds ++ [kind]) =
      match ClientCertificateType.ofWire? kind with
      | none => knownTypes kinds
      | some type =>
        if type ∈ knownTypes kinds then knownTypes kinds else knownTypes kinds ++ [type] := by
  unfold knownTypes
  rw [List.filterMap_append]
  rcases found : ClientCertificateType.ofWire? kind with _ | type
  · rw [List.filterMap_cons_none found, List.filterMap_nil, List.append_nil]
  · rw [List.filterMap_cons_some found, List.filterMap_nil, eraseDups_concat]
    simp only [List.mem_eraseDups]

namespace Supported

variable {kinds : Octets} {kind : UInt8} {type : ClientCertificateType}
  {types types' : List ClientCertificateType}

theorem ordered_append (h : Supported kinds types) (more : Octets) :
    types.Pairwise fun first second =>
      (kinds ++ more).idxOf first.wire < (kinds ++ more).idxOf second.wire := by
  refine h.ordered.imp_of_mem fun first second before => ?_
  rwa [List.idxOf_append_of_mem ((h.mem_iff _).1 first),
    List.idxOf_append_of_mem ((h.mem_iff _).1 second)]

theorem skip (h : Supported kinds types)
    (unknown : ∀ type : ClientCertificateType, kind ≠ type.wire) :
    Supported (kinds ++ [kind]) types where
  mem_iff type := by
    simp [h.mem_iff, (unknown type).symm]
  ordered := h.ordered_append _

theorem again (h : Supported kinds types) (mem : type ∈ types) :
    Supported (kinds ++ [type.wire]) types where
  mem_iff type' := by
    rw [h.mem_iff, List.mem_append, List.mem_singleton]
    constructor
    · exact .inl
    · rintro (seen | same)
      · exact seen
      · exact same ▸ (h.mem_iff type).1 mem
  ordered := h.ordered_append _

theorem first (h : Supported kinds types) (new : type ∉ types) :
    Supported (kinds ++ [type.wire]) (types ++ [type]) where
  mem_iff type' := by
    simp only [List.mem_append, List.mem_singleton, h.mem_iff]
    constructor
    · rintro (seen | rfl)
      · exact .inl seen
      · exact .inr rfl
    · rintro (seen | same)
      · exact .inl seen
      · exact .inr (ClientCertificateType.wire_injective same)
  ordered := by
    refine List.pairwise_append.2 ⟨h.ordered_append _, List.pairwise_singleton .., ?_⟩
    intro earlier mem last here
    obtain rfl := List.mem_singleton.1 here
    have seen := (h.mem_iff earlier).1 mem
    have unseen : last.wire ∉ kinds := fun mem => new ((h.mem_iff last).2 mem)
    have position := List.idxOf_lt_length_iff.2 seen
    rw [List.idxOf_append_of_mem seen, List.idxOf_append_of_notMem unseen]
    omega

theorem knownTypes (kinds : Octets) : Supported kinds (knownTypes kinds) := by
  induction kinds using Octets.concat_induction with
  | nil => exact ⟨by simp [CertificateRequest.knownTypes], List.Pairwise.nil⟩
  | concat kinds kind ih =>
    -- the last octet is of no kind, of one that was seen or of a new one
    rw [knownTypes_concat]
    rcases found : ClientCertificateType.ofWire? kind with _ | type
    · refine ih.skip fun type same => ?_
      rw [ClientCertificateType.ofWire?_eq_some_iff.2 same] at found
      contradiction
    · obtain rfl := ClientCertificateType.ofWire?_eq_some_iff.1 found
      dsimp only
      split
      · exact ih.again ‹_›
      · exact ih.first ‹_›

theorem nodup (h : Supported kinds types) : types.Nodup :=
  h.ordered.imp fun before => by
    rintro rfl
    exact Nat.lt_irrefl _ before

theorem unique (h : Supported kinds types) (h' : Supported kinds types') : types = types' := by
  have same : types.Perm types' :=
    (List.perm_ext_iff_of_nodup h.nodup h'.nodup).2 fun type => by rw [h.mem_iff, h'.mem_iff]
  refine same.eq_of_pairwise (fun _ _ _ _ before after => ?_) h.ordered h'.ordered
  exact absurd before (Nat.lt_asymm after)

end Supported
end HandshakeAuth.CertificateRequest
