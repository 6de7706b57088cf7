import HandshakeAuth.Proofs.Message.RequestNormalForm

/-! What a server writes about itself is what a client reads: both kinds of certificate, no hashes,
and the names of the issuer list in their order. -/

namespace HandshakeAuth.CertificateRequest
open Answer Wire

variable {version : Version} {names : List Octets} {body : Octets}

def ofNames (names : List Octets) : CertificateRequest where
  types := [.rsaSign, .dssSign]
  hashes := []
  issuers := names

theorem fits_ofNames (fits : (names.flatMap (framed 2)).length < Octets.capacity 2) :
    ((ofNames names).toLayout version).Fits version where
  kinds := by
    change ([.rsaSign, .dssSign].map ClientCertificateType.wire).length < Octets.capacity 1
    decide
  hashes := by
    cases version with
    | tls12 => exact Nat.zero_lt_succ _
    | ssl3 | tls10 | tls11 => rfl
  names := fits

theorem encode_ofNames_eq_ok_iff :
    encode (ofNames names) version = .ok body ↔
      (∀ name ∈ names, name ≠ []) ∧ (names.flatMap (framed 2)).length < Octets.capacity 2 ∧
        body = ((ofNames names).toLayout version).octets version := by
  rw [encode_eq_ok_iff]
  constructor
  · rintro ⟨filled, fits, whole⟩
    exact ⟨filled, fits.names, whole⟩
  · rintro ⟨filled, fits, whole⟩
    exact ⟨filled, fits_ofNames fits, whole⟩

theorem encodeServer_flatMap (fits : (names.flatMap (framed 2)).length < Octets.capacity 2) :
    encodeServer version (names.flatMap (framed 2)) =
      .ok (((ofNames names).toLayout version).octets version) := by
  have parts : ((ofNames names).toLayout version).Fits version := fits_ofNames fits
  have kinds : vector 1 ([.rsaSign, .dssSign].map ClientCertificateType.wire) =
      .ok (framed 1 ((ofNames names).toLayout version).kinds) :=
    vector_of_lt parts.kinds
  have hashes : encodeHashes version [] =
      .ok (hashList version ((ofNames names).toLayout version).hashes) :=
    encodeHashes_eq_ok_iff.2 ⟨parts.hashes, rfl⟩
  rw [encodeServer, kinds, ok_bind, hashes, ok_bind, vector_of_lt fits, ok_bind, Layout.octets,
    ← List.append_assoc]
  rfl

theorem decode_of_encode_ofNames (h : encode (ofNames names) version = .ok body) :
    decode body version = .ok (ofNames names) := by
  have both : [ClientCertificateType.rsaSign, .dssSign].eraseDups = [.rsaSign, .dssSign] := by
    decide
  have some : (ofNames names).types ≠ [] := List.cons_ne_nil _ _
  rw [decode_of_encode h, if_neg some]
  dsimp only [ofNames]
  rw [both, ite_self]

theorem decode_encodeServer (filled : ∀ name ∈ names, name ≠ [])
    (fits : (names.flatMap (framed 2)).length < Octets.capacity 2) :
    ∃ body, encodeServer version (names.flatMap (framed 2)) = .ok body ∧
      decode body version = .ok (ofNames names) :=
  ⟨_, encodeServer_flatMap fits,
    decode_of_encode_ofNames (encode_ofNames_eq_ok_iff.2 ⟨filled, fits, rfl⟩)⟩

end HandshakeAuth.CertificateRequest
