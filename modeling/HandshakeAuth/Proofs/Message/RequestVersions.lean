import HandshakeAuth.Proofs.Message.RequestNormalForm

/-! What a version without a list of hashes makes of a server's request for TLS 1.2. It takes the
octet that announces no hashes for the front of the length of the names, and the front of that
length for its end. A list so short never reaches the end of the body. -/

namespace HandshakeAuth.CertificateRequest
open Answer Wire

variable {version : Version} {content trailing issuerList : Octets}

theorem readHashes_of_lt (older : version.wire < Version.tls12.wire) :
    readHashes version = pure [] := by
  cases version with
  | tls12 => exact absurd older (Nat.lt_irrefl _)
  | ssl3 | tls10 | tls11 => rfl

theorem eval_readIssuers_trailing {types : List ClientCertificateType} {hashes : Octets}
    (short : content.length < Octets.capacity 2) (more : trailing ≠ []) :
    Read.eval (readIssuers types hashes) (framed 2 content ++ trailing) =
        .error .truncatedMessage ∨
      Read.eval (readIssuers types hashes) (framed 2 content ++ trailing) =
        .error (.trailing trailing.length "CertificateRequest") := by
  rw [readIssuers, eval_bind_of_ok (vector_framed short)]
  have listed : Read.answer (Read.ofExcept (decodeIssuers content)) trailing =
      (decodeIssuers content, trailing) := answer_ofExcept _
  rcases split : decodeIssuers content with e | issuers
  · left
    rw [truncated_of_decodeIssuers split]
    rfl
  · right
    rw [split] at listed
    rw [eval_bind_of_ok listed, eval_bind_of_error (answer_expectEnd_of_ne more)]

theorem encodeServer_tls12 (fits : issuerList.length < Octets.capacity 2) :
    encodeServer .tls12 issuerList = .ok (framed 1 [1, 2] ++ 0 :: framed 2 issuerList) := by
  have issuers : vector 2 issuerList = .ok (framed 2 issuerList) := vector_of_lt fits
  rw [encodeServer, issuers]
  rfl

theorem exists_zero_cons_framed (fits : content.length < Octets.capacity 2) :
    ∃ front behind : Octets, 0 :: framed 2 content = framed 2 front ++ behind ∧
      front.length < Octets.capacity 2 ∧
      behind.length = content.length + 1 - content.length / 256 := by
  have bound : content.length < 65536 := fits
  let size := content.length / 256
  let shifted : Octets := UInt8.ofNat content.length :: content
  have length : shifted.length = content.length + 1 := rfl
  have inside : (shifted.take size).length = size := by
    rw [List.length_take, length]
    omega
  have field : [0, UInt8.ofNat size] = Octets.ofNat 2 size := by
    have high : size / 256 = 0 := by omega
    rw [Octets.ofNat, high]
    rfl
  refine ⟨shifted.take size, shifted.drop size, ?_, ?_, ?_⟩
  · calc
      0 :: framed 2 content = [0, UInt8.ofNat size] ++ shifted := rfl
      _ = Octets.ofNat 2 size ++ (shifted.take size ++ shifted.drop size) := by
        rw [field, List.take_append_drop]
      _ = framed 2 (shifted.take size) ++ shifted.drop size := by
        rw [framed, inside, List.append_assoc]
  · rw [inside]
    exact Nat.lt_of_le_of_lt (Nat.div_le_self ..) fits
  · rw [List.length_drop, length]

/-- A server's request for TLS 1.2 can always be written, whatever the issuer list is made of, and
an older version never reads a request from it. -/
theorem older_version_refuses (older : version.wire < Version.tls12.wire)
    (fits : issuerList.length ≤ 65535) :
    ∃ body, encodeServer .tls12 issuerList = .ok body ∧
      (decode body version = .error .truncatedMessage ∨
        decode body version =
          .error (.trailing (issuerList.length + 1 - issuerList.length / 256)
            "CertificateRequest")) := by
  have short : issuerList.length < Octets.capacity 2 := Nat.lt_succ_of_le fits
  obtain ⟨front, behind, shifted, room, left⟩ := exists_zero_cons_framed short
  have more : behind ≠ [] := by
    rintro rfl
    rw [List.length_nil] at left
    omega
  have known : knownTypes [1, 2] ≠ [] := by decide
  refine ⟨_, encodeServer_tls12 short, ?_⟩
  rw [decode_framed_kinds (by decide), if_neg known, readHashes_of_lt older, shifted, ← left]
  exact eval_readIssuers_trailing room more

theorem older_version_refuses_zeros :
    ∃ body, encodeServer .tls12 (List.replicate 512 0) = .ok body ∧
      (decode body .tls11 = .error .truncatedMessage ∨
        decode body .tls11 = .error (.trailing 511 "CertificateRequest")) := by
  have length : (List.replicate 512 (0 : UInt8)).length = 512 := List.length_replicate
  have refused := @older_version_refuses .tls11 (List.replicate 512 0) (by decide) (by omega)
  rwa [length] at refused

end HandshakeAuth.CertificateRequest
