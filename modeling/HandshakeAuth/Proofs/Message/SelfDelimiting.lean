import HandshakeAuth.Proofs.Message.CertificateVerify
import HandshakeAuth.Proofs.Message.ListEnd
import HandshakeAuth.Proofs.Message.RequestNormalForm

/-! The bodies of the three messages end where they say. Each is read by fixed fields and vectors up
to the last octet, so a part of an accepted body is cut short and nothing may follow it. -/

namespace HandshakeAuth
open Wire

theorem CertificateVerify.delimited_of_decode {body signature : Octets}
    (read : decode body = .ok signature) : Delimited decode "CertificateVerify" body := by
  obtain ⟨short, rfl⟩ := decode_eq_ok_iff.1 read
  have whole : Read.answer (Read.vector 2) (framed 2 signature) = (.ok signature, []) :=
    answer_vector_eq_ok_iff.2 ⟨short, (List.append_nil _).symm⟩
  exact Delimited.bind (.vector 2) whole (.expectEnd _)

namespace CertificateRequest

variable {version : Version}

theorem steady_readHashes : (readHashes version).Steady := by
  unfold readHashes
  split
  · exact .vector 1
  · exact .ofExcept (.ok [])

theorem delimited_readIssuers {types : List ClientCertificateType} {hashes : Octets}
    {names : List Octets} (fits : (names.flatMap (framed 2)).length < Octets.capacity 2) :
    Delimited (Read.eval (readIssuers types hashes)) "CertificateRequest"
      (framed 2 (names.flatMap (framed 2))) := by
  have content : Read.answer (Read.vector 2) (framed 2 (names.flatMap (framed 2))) =
      (.ok (names.flatMap (framed 2)), []) :=
    answer_vector_eq_ok_iff.2 ⟨fits, (List.append_nil _).symm⟩
  have listed : decodeIssuers (names.flatMap (framed 2)) = .ok (names.filter (!·.isEmpty)) :=
    decodeIssuers_eq_ok_iff.2 ⟨names, length_lt_of_flatMap fits, rfl, rfl⟩
  have issuers : Read.answer (Read.ofExcept (decodeIssuers (names.flatMap (framed 2)))) [] =
      (.ok (names.filter (!·.isEmpty)), []) := Prod.ext listed rfl
  exact Delimited.bind (.vector 2) content (Delimited.bind (.ofExcept _) issuers (.expectEnd _))

theorem delimited_of_decode {body : Octets} {request : CertificateRequest}
    (read : decode body version = .ok request) :
    Delimited (decode · version) "CertificateRequest" body := by
  obtain ⟨layout, fits, rfl, shows, some⟩ := decode_eq_ok_iff.1 read
  have known : knownTypes layout.kinds ≠ [] :=
    shows.supported.unique (Supported.knownTypes _) ▸ some
  have kinds : Read.answer (Read.vector 1) (layout.octets version) = (.ok layout.kinds, _) :=
    answer_vector_eq_ok_iff.2 ⟨fits.kinds, rfl⟩
  have hashes : Read.answer (readHashes version) (hashList version layout.hashes ++
      framed 2 (layout.names.flatMap (framed 2))) = (.ok layout.hashes, _) :=
    answer_readHashes_eq_ok_iff.2 ⟨fits.hashes, rfl⟩
  unfold decode
  rw [read_eq]
  refine Delimited.bind (.vector 1) kinds ?_
  rw [if_neg known]
  exact Delimited.bind steady_readHashes hashes (delimited_readIssuers fits.names)

end CertificateRequest

/-- The bodies that are read as a request or as a proof, and those that are read as a list with a
certificate in it, are self-delimiting. -/
theorem messages_selfDelimiting :
    SelfDelimiting CertificateList.decode "certificate list"
      (fun body => ∃ certificates, certificates ≠ [] ∧
        CertificateList.decode body = .ok certificates) ∧
    (∀ version, SelfDelimiting (CertificateRequest.decode · version) "CertificateRequest"
      (fun body => ∃ request, CertificateRequest.decode body version = .ok request)) ∧
    SelfDelimiting CertificateVerify.decode "CertificateVerify"
      (fun body => ∃ signature, CertificateVerify.decode body = .ok signature) := by
  refine ⟨.of_delimited ?_ ?_, fun version => .of_delimited (fun _ => id) ?_,
    .of_delimited (fun _ => id) ?_⟩
  · rintro body ⟨certificates, -, read⟩
    exact ⟨certificates, read⟩
  · rintro body ⟨certificates, some, read⟩
    exact CertificateList.delimited_of_encode some (CertificateList.encode_of_decode read some)
  · rintro body ⟨request, read⟩
    exact CertificateRequest.delimited_of_decode read
  · rintro body ⟨signature, read⟩
    exact CertificateVerify.delimited_of_decode read

theorem messages_selfDelimiting_short :
    CertificateList.decode [0, 0, 4, 0, 0, 1] = .error .truncatedMessage ∧
      CertificateRequest.decode [1, 2, 1, 4, 0, 3, 0, 1] .tls12 = .error .truncatedMessage ∧
      CertificateRequest.decode [1, 2, 1, 4, 0, 3, 0, 1, 0x30, 0x31] .tls12 =
        .error (.trailing 1 "CertificateRequest") ∧
      CertificateVerify.decode [] = .error .truncatedMessage := by
  have list : CertificateList.decode [0, 0, 4, 0, 0, 1, 0x30] = .ok [[0x30]] :=
    CertificateList.decode_encode rfl
  have wrote : CertificateRequest.encode ⟨[.dssSign], [4], [[0x30]]⟩ .tls12 =
      .ok [1, 2, 1, 4, 0, 3, 0, 1, 0x30] := rfl
  have request : CertificateRequest.decode [1, 2, 1, 4, 0, 3, 0, 1, 0x30] .tls12 =
      .ok ⟨[.dssSign], [4], [[0x30]]⟩ := CertificateRequest.decode_of_encode wrote
  have proof : CertificateVerify.decode [0, 1, 0x30] = .ok [0x30] :=
    CertificateVerify.decode_encode rfl
  obtain ⟨lists, requests, proofs⟩ := messages_selfDelimiting
  refine ⟨lists.cut _ ⟨_, by decide, list⟩ _ ⟨[0x30], rfl⟩ (by decide),
    (requests .tls12).cut _ ⟨_, request⟩ _ ⟨[0x30], rfl⟩ (by decide),
    (requests .tls12).trailing _ ⟨_, request⟩ [0x31] (by decide),
    proofs.cut _ ⟨_, proof⟩ _ ⟨[0, 1, 0x30], rfl⟩ (by decide)⟩

end HandshakeAuth
