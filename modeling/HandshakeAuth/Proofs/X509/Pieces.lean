import HandshakeAuth.Proofs.Der.Extent
import HandshakeAuth.Proofs.Selection.FirstMatch

/-! A certificate and the octets it is read from. The outer element settles where it ends, and the
fields are read one behind the other, so each stands in what the fields before it have left. -/

namespace HandshakeAuth.X509
open Der Der.Read Der.Lenient

variable {bs rest der : Octets} {certificate : Certificate}

/-- Three pieces of an octet string, one behind the other. -/
def InOrder (first second third bs : Octets) : Prop :=
  ∃ a b c d, bs = a ++ first ++ b ++ second ++ c ++ third ++ d

theorem InOrder.within {first second third bs : Octets} (h : InOrder first second third bs)
    (before after : Octets) : InOrder first second third (before ++ bs ++ after) := by
  obtain ⟨a, b, c, d, rfl⟩ := h
  refine ⟨before ++ a, b, c, d ++ after, ?_⟩
  simp only [List.append_assoc]

theorem piece_of_readName {name : Octets} (h : readName bs = some (name, rest)) :
    ∃ unread, bs = name ++ unread ++ rest := by
  obtain ⟨e, mid, front, named⟩ := bind_eq_some_iff.1 h
  obtain ⟨⟨u, unread⟩, mid', levels, named⟩ := bind_eq_some_iff.1 named
  obtain ⟨-, rfl⟩ := lift_eq_some_iff.1 levels
  obtain ⟨rfl, rfl⟩ := pure_eq_some_iff.1 named
  obtain ⟨head, -, rfl, -⟩ := element_eq_some_iff.1 (element_of_expect front)
  exact ⟨e.encoding.drop _, by rw [List.take_append_drop]⟩

theorem piece_of_bitString {data : Octets} (h : bitString bs = some (data, rest)) :
    ∃ before, bs = before ++ data ++ rest := by
  obtain ⟨e, mid, front, valued⟩ := bind_eq_some_iff.1 h
  obtain ⟨e', mid', read, primitive⟩ := bind_eq_some_iff.1 front
  obtain ⟨_, _, passed, same⟩ := bind_eq_some_iff.1 primitive
  obtain ⟨-, rfl⟩ := guard_eq_some_iff.1 passed
  obtain ⟨rfl, rfl⟩ := pure_eq_some_iff.1 same
  obtain ⟨head, encoding, rfl, -⟩ := element_eq_some_iff.1 (element_of_expect read)
  rcases content : e'.content with _ | ⟨unused, data'⟩
  · rw [content] at valued
    exact nomatch valued
  · rw [content] at valued
    obtain ⟨_, _, passed', same'⟩ := bind_eq_some_iff.1 valued
    obtain ⟨-, rfl⟩ := guard_eq_some_iff.1 passed'
    obtain ⟨rfl, rfl⟩ := pure_eq_some_iff.1 same'
    exact ⟨head ++ [unused], by rw [encoding, content, List.append_cons, List.append_assoc]⟩

theorem piece_of_readPublicKey {identifier key : Octets}
    (h : readPublicKey bs = some ((identifier, key), rest)) :
    ∃ before after, bs = before ++ key ++ after ++ rest := by
  obtain ⟨front, content, left, rfl, inner⟩ := content_of_inside h
  obtain ⟨identifier', mid, named, inner⟩ := bind_eq_some_iff.1 inner
  obtain ⟨key', mid', read, inner⟩ := bind_eq_some_iff.1 inner
  obtain ⟨same, rfl⟩ := pure_eq_some_iff.1 inner
  obtain ⟨rfl, rfl⟩ := Prod.mk.inj same
  obtain ⟨before, rfl⟩ := piece_of_bitString read
  obtain ⟨taken, rfl⟩ := (settled_inside 16 _).trims.suffix named
  refine ⟨front ++ taken ++ before, mid', ?_⟩
  simp only [List.append_assoc]

theorem trims_readVersion : readVersion.Trims := by
  refine (trims_contextField 0).bind fun content => ?_
  split
  · exact (Settled.pure _).trims
  · exact ((Settled.lift _).bind fun _ => .guard _).trims

theorem inOrder_of_readSigned {outline : Outline} (h : readSigned bs = some (outline, rest)) :
    ∃ content, bs = content ++ rest ∧
      InOrder outline.issuer outline.subject outline.publicKey content := by
  obtain ⟨front, content, left, rfl, inner⟩ := content_of_inside h
  refine ⟨front ++ content, rfl, ?_⟩
  obtain ⟨_, afterVersion, version, inner⟩ := bind_eq_some_iff.1 inner
  obtain ⟨_, afterSerial, serial, inner⟩ := bind_eq_some_iff.1 inner
  obtain ⟨_, afterAlgorithm, algorithm, inner⟩ := bind_eq_some_iff.1 inner
  obtain ⟨issuer, afterIssuer, issuerRead, inner⟩ := bind_eq_some_iff.1 inner
  obtain ⟨_, afterValidity, validity, inner⟩ := bind_eq_some_iff.1 inner
  obtain ⟨subject, afterSubject, subjectRead, inner⟩ := bind_eq_some_iff.1 inner
  obtain ⟨⟨identifier, key⟩, afterKey, keyRead, inner⟩ := bind_eq_some_iff.1 inner
  obtain ⟨_, _, -, inner⟩ := bind_eq_some_iff.1 inner
  obtain ⟨_, _, -, inner⟩ := bind_eq_some_iff.1 inner
  obtain ⟨extensions, _, -, inner⟩ := bind_eq_some_iff.1 inner
  obtain ⟨rfl, rfl⟩ := pure_eq_some_iff.1 inner
  obtain ⟨a, rfl⟩ := trims_readVersion.suffix version
  obtain ⟨b, rfl⟩ := (trims_pass 2).suffix serial
  obtain ⟨c, rfl⟩ := (settled_inside 16 _).trims.suffix algorithm
  obtain ⟨d, rfl⟩ := piece_of_readName issuerRead
  obtain ⟨e, rfl⟩ := (settled_inside 16 _).trims.suffix validity
  obtain ⟨f, rfl⟩ := piece_of_readName subjectRead
  obtain ⟨g, g', rfl⟩ := piece_of_readPublicKey keyRead
  refine ⟨front ++ a ++ b ++ c, d ++ e, f ++ g, g' ++ afterKey, ?_⟩
  simp only [List.append_assoc]

theorem inOrder_of_readOutline {outline : Outline} (h : readOutline bs = some (outline, rest)) :
    InOrder outline.issuer outline.subject outline.publicKey bs := by
  obtain ⟨front, content, left, rfl, inner⟩ := content_of_inside h
  obtain ⟨outline', mid, signed, inner⟩ := bind_eq_some_iff.1 inner
  obtain ⟨_, _, -, inner⟩ := bind_eq_some_iff.1 inner
  obtain ⟨_, _, -, inner⟩ := bind_eq_some_iff.1 inner
  obtain ⟨rfl, rfl⟩ := pure_eq_some_iff.1 inner
  obtain ⟨content', rfl, pieces⟩ := inOrder_of_readSigned signed
  have wider := pieces.within front (mid ++ rest)
  rwa [← List.append_assoc, List.append_assoc front] at wider

theorem settled_readOutline : readOutline.Settled :=
  settled_inside 16 _

theorem outline_of_parse (read : parse der = .ok certificate) :
    ∃ outline, readOutline der = some (outline, []) ∧ certificate.issuer = outline.issuer ∧
      certificate.subject = outline.subject ∧ certificate.publicKey = outline.publicKey := by
  unfold parse at read
  split at read
  next => contradiction
  next outline rest outlined =>
    split at read
    next whole =>
      obtain ⟨usage, -, made⟩ := Answer.bind_eq_ok_iff.1 read
      obtain rfl := Except.ok.inj made
      rw [List.isEmpty_iff] at whole
      exact ⟨outline, whole ▸ outlined, rfl, rfl, rfl⟩
    next => contradiction

/-- A certificate is read from all of its octets: none can be missing at the end and none may
follow. Issuer, subject and key are pieces of them, one behind the other; so a credential with this
leaf is chosen only for the issuer's name as it stands there. -/
theorem reads_whole (read : parse der = .ok certificate) :
    (∀ front, front <+: der → front ≠ der → parse front = .error (.certificateParse .malformed)) ∧
    (∀ more, more ≠ [] →
      parse (der ++ more) = .error (.certificateParse (.trailing more.length)) ∧
      (CertificateDefect.trailing more.length).message =
        toString more.length ++ " bytes after certificate") ∧
    InOrder certificate.issuer certificate.subject certificate.publicKey der ∧
    ∀ holdings constraints choice,
      Selector.heuristicClient holdings constraints .x509 = some choice →
      choice.credential.leaf = der → certificate.issuer ∈ constraints.issuers := by
  obtain ⟨outline, outlined, issuer, subject, key⟩ := outline_of_parse read
  refine ⟨?_, ?_, ?_, ?_⟩
  · rintro front ⟨more, rfl⟩ proper
    have some : more ≠ [] := by
      rintro rfl
      exact proper (List.append_nil front).symm
    rw [parse, settled_readOutline.eq_none_of_append outlined some]
  · intro more some
    rw [parse, settled_readOutline.append outlined more]
    refine ⟨?_, rfl⟩
    exact if_neg fun none => some (List.isEmpty_iff.1 none)
  · rw [issuer, subject, key]
    exact inOrder_of_readOutline outlined
  · rintro holdings constraints choice chosen rfl
    obtain ⟨i, j, entry, rfl, first⟩ := Selector.exists_firstMatch chosen
    obtain ⟨certificate', read', named⟩ := first.issued
    obtain rfl := Except.ok.inj (read'.symm.trans read)
    exact List.mem_of_getElem? named

theorem reads_whole_named :
    parse named = .ok Credential.named.certificate ∧
      parse (named.take 204) = .error (.certificateParse .malformed) ∧
      parse (named ++ [0, 0]) = .error (.certificateParse (.trailing 2)) ∧
      InOrder rootName subjectName dsaKey named ∧
      Selector.heuristicClient { entries := [.named], trustedIssuers := [], issuerList := [] }
        ⟨[.dsa], [subjectName, rootName]⟩ .x509 = some (.held 0 .named) ∧
      rootName ∈ [subjectName, rootName] := by
  obtain ⟨cut, trailing, pieces, listed⟩ := reads_whole Credential.named.parse_leaf
  have chosen : Selector.heuristicClient
      { entries := [.named], trustedIssuers := [], issuerList := [] }
      ⟨[.dsa], [subjectName, rootName]⟩ .x509 = some (.held 0 .named) := rfl
  have shorter : named.take 204 ≠ named := by decide +kernel
  exact ⟨Credential.named.parse_leaf, cut _ (List.take_prefix 204 _) shorter,
    (trailing [0, 0] (by decide)).1, pieces, chosen, listed _ _ _ chosen rfl⟩

end HandshakeAuth.X509
