import HandshakeAuth.Proofs.Answer
import HandshakeAuth.Proofs.Message.SupportedKinds
import HandshakeAuth.Proofs.Wire.Reading

/-! The written form of a request, and what reading makes of any octets. A body is cut short, has
no supported kind, goes on behind its end or is read, in this order of precedence. -/

namespace HandshakeAuth.CertificateRequest
open Answer Wire

/-- The parts of a body as they are written, unknown kinds and names of no octets among them. -/
@[ext] structure Layout where
  kinds : Octets
  hashes : Octets
  names : List Octets

def HashesFit (version : Version) (hashes : Octets) : Prop :=
  if version = .tls12 then hashes.length < Octets.capacity 1 else hashes = []

def hashList (version : Version) (hashes : Octets) : Octets :=
  if version = .tls12 then framed 1 hashes else []

namespace Layout

structure Fits (version : Version) (layout : Layout) : Prop where
  kinds : layout.kinds.length < Octets.capacity 1
  hashes : HashesFit version layout.hashes
  names : (layout.names.flatMap (framed 2)).length < Octets.capacity 2

def octets (version : Version) (layout : Layout) : Octets :=
  framed 1 layout.kinds ++ (hashList version layout.hashes ++
    framed 2 (layout.names.flatMap (framed 2)))

end Layout

def readHashes (version : Version) : Read Octets :=
  if version.listsHashes then Read.vector 1 else pure []

def readIssuers (types : List ClientCertificateType) (hashes : Octets) :
    Read CertificateRequest := do
  let content ← Read.vector 2
  let issuers ← Read.ofExcept (decodeIssuers content)
  Read.expectEnd "CertificateRequest"
  return { types, hashes, issuers }

variable {version : Version} {kinds hashes bs trailing body : Octets} {names issuers : List Octets}
  {types : List ClientCertificateType}

theorem decodeIssuers_eq_ok_iff {content : Octets} :
    decodeIssuers content = .ok issuers ↔
      ∃ names : List Octets, (∀ name ∈ names, name.length < Octets.capacity 2) ∧
        content = names.flatMap (framed 2) ∧ issuers = names.filter (!·.isEmpty) := by
  rcases split : splitVectors 2 (by decide) content with ⟨found, rest⟩
  rw [decodeIssuers, split]
  dsimp only
  constructor
  · intro h
    rcases rest with _ | ⟨b, rest⟩
    · obtain ⟨short, whole⟩ := splitVectors_eq_iff.1 split
      exact ⟨found, short, whole, (Except.ok.inj h).symm⟩
    · contradiction
  · rintro ⟨names, short, rfl, rfl⟩
    obtain ⟨rfl, rfl⟩ := Prod.mk.inj (split.symm.trans (splitVectors_flatMap short))
    rfl

theorem truncated_of_decodeIssuers {content : Octets} {e : AuthError}
    (h : decodeIssuers content = .error e) : e = .truncatedMessage := by
  unfold decodeIssuers at h
  split at h
  split at h
  · contradiction
  · exact (Except.error.inj h).symm

theorem filter_of_filled {names : List Octets} (filled : ∀ name ∈ names, name ≠ []) :
    names.filter (!·.isEmpty) = names := by
  rw [List.filter_eq_self]
  intro name mem
  simpa using filled name mem

theorem eval_readIssuers_framed (fits : (names.flatMap (framed 2)).length < Octets.capacity 2) :
    Read.eval (readIssuers types hashes) (framed 2 (names.flatMap (framed 2)) ++ trailing) =
      if trailing = [] then .ok { types, hashes, issuers := names.filter (!·.isEmpty) }
      else .error (.trailing trailing.length "CertificateRequest") := by
  have listed : decodeIssuers (names.flatMap (framed 2)) = .ok (names.filter (!·.isEmpty)) :=
    decodeIssuers_eq_ok_iff.2 ⟨names, length_lt_of_flatMap fits, rfl, rfl⟩
  rw [readIssuers, eval_bind_of_ok (vector_framed fits), listed]
  rcases trailing with _ | ⟨b, trailing⟩ <;> rfl

theorem eval_readIssuers_cut
    (cut : ∀ (names : List Octets) trailing, (names.flatMap (framed 2)).length < Octets.capacity 2 →
      bs ≠ framed 2 (names.flatMap (framed 2)) ++ trailing) :
    Read.eval (readIssuers types hashes) bs = .error .truncatedMessage := by
  rw [readIssuers]
  rcases answered : Read.answer (Read.vector 2) bs with ⟨e | content, trailing⟩
  · rw [eval_bind_of_error answered, truncated_of_vector answered]
  · obtain ⟨short, whole⟩ := answer_vector_eq_ok_iff.1 answered
    rw [eval_bind_of_ok answered]
    rcases listed : decodeIssuers content with e | issuers
    · rw [truncated_of_decodeIssuers listed]
      rfl
    · obtain ⟨names, -, rfl, -⟩ := decodeIssuers_eq_ok_iff.1 listed
      exact absurd whole (cut names trailing short)

theorem answer_readHashes_eq_ok_iff :
    Read.answer (readHashes version) bs = (.ok hashes, trailing) ↔
      HashesFit version hashes ∧ bs = hashList version hashes ++ trailing := by
  unfold readHashes HashesFit hashList
  cases version with
  | tls12 => exact answer_vector_eq_ok_iff
  | ssl3 | tls10 | tls11 =>
    change ((Except.ok [], bs) : Except AuthError Octets × Octets) = _ ↔ hashes = [] ∧ bs = trailing
    rw [Prod.mk.injEq, Except.ok.injEq, eq_comm]

theorem truncated_of_readHashes {e : AuthError}
    (h : Read.answer (readHashes version) bs = (.error e, trailing)) : e = .truncatedMessage := by
  cases version with
  | tls12 => exact truncated_of_vector h
  | ssl3 | tls10 | tls11 => exact nomatch (Prod.mk.inj h).1

theorem read_eq :
    read version = Read.vector 1 >>= fun kinds =>
      if knownTypes kinds = [] then throw .unsupportedAlgorithm
      else readHashes version >>= readIssuers (knownTypes kinds) := by
  refine congrArg (Read.vector 1 >>= ·) (funext fun kinds => ?_)
  by_cases unknown : knownTypes kinds = []
  · rw [if_pos unknown, unknown]
    rfl
  · have known : ¬ (knownTypes kinds).isEmpty := fun h => unknown (List.isEmpty_iff.1 h)
    rw [if_neg unknown, if_neg known, readHashes]
    split <;> rfl

theorem decode_framed_kinds (short : kinds.length < Octets.capacity 1) :
    decode (framed 1 kinds ++ bs) version =
      if knownTypes kinds = [] then .error .unsupportedAlgorithm
      else Read.eval (readHashes version >>= readIssuers (knownTypes kinds)) bs := by
  rw [decode, read_eq, eval_bind_of_ok (vector_framed short)]
  split <;> rfl

theorem decode_octets {layout : Layout} (fits : layout.Fits version)
    (known : knownTypes layout.kinds ≠ []) :
    decode (layout.octets version ++ trailing) version =
      if trailing = [] then
        .ok { types := knownTypes layout.kinds
              hashes := layout.hashes
              issuers := layout.names.filter (!·.isEmpty) }
      else .error (.trailing trailing.length "CertificateRequest") := by
  have hashed (rest : Octets) : Read.answer (readHashes version)
      (hashList version layout.hashes ++ rest) = (.ok layout.hashes, rest) :=
    answer_readHashes_eq_ok_iff.2 ⟨fits.hashes, rfl⟩
  rw [Layout.octets, List.append_assoc, List.append_assoc, decode_framed_kinds fits.kinds,
    if_neg known, eval_bind_of_ok (hashed _), eval_readIssuers_framed fits.names]

theorem decode_layout {layout : Layout} (fits : layout.Fits version)
    (known : knownTypes layout.kinds ≠ []) :
    decode (layout.octets version) version =
      .ok { types := knownTypes layout.kinds
            hashes := layout.hashes
            issuers := layout.names.filter (!·.isEmpty) } := by
  rw [← List.append_nil (layout.octets version), decode_octets fits known, if_pos rfl]

theorem decode_kinds_cut
    (cut : ∀ (kinds : Octets) rest, kinds.length < Octets.capacity 1 →
      body ≠ framed 1 kinds ++ rest) :
    decode body version = .error .truncatedMessage := by
  rcases answered : Read.answer (Read.vector 1) body with ⟨e | kinds, rest⟩
  · rw [decode, read, eval_bind_of_error answered, truncated_of_vector answered]
  · obtain ⟨short, whole⟩ := answer_vector_eq_ok_iff.1 answered
    exact absurd whole (cut kinds rest short)

theorem decode_tail_cut (short : kinds.length < Octets.capacity 1)
    (known : knownTypes kinds ≠ [])
    (cut : ∀ (layout : Layout) trailing, layout.Fits version →
      framed 1 kinds ++ bs ≠ layout.octets version ++ trailing) :
    decode (framed 1 kinds ++ bs) version = .error .truncatedMessage := by
  rw [decode_framed_kinds short, if_neg known]
  rcases answered : Read.answer (readHashes version) bs with ⟨e | hashes, rest⟩
  · rw [eval_bind_of_error answered, truncated_of_readHashes answered]
  · obtain ⟨fits, rfl⟩ := answer_readHashes_eq_ok_iff.1 answered
    rw [eval_bind_of_ok answered]
    apply eval_readIssuers_cut
    rintro names trailing room rfl
    exact cut ⟨kinds, hashes, names⟩ trailing ⟨short, fits, room⟩ (by simp [Layout.octets])

/-- What the octets of a body come to under a version. The rules exclude each other, and a list
of names that does not end where its length says is cut even if more octets follow it. -/
inductive Outcome (version : Version) (body : Octets) :
    Except AuthError CertificateRequest → Prop
  | kindsCut
      (cut : ∀ (kinds : Octets) rest, kinds.length < Octets.capacity 1 →
        body ≠ framed 1 kinds ++ rest) :
      Outcome version body (.error .truncatedMessage)
  | noneSupported {kinds rest : Octets} (short : kinds.length < Octets.capacity 1)
      (front : body = framed 1 kinds ++ rest)
      (unknown : ∀ type : ClientCertificateType, type.wire ∉ kinds) :
      Outcome version body (.error .unsupportedAlgorithm)
  | tailCut {kinds rest : Octets} (short : kinds.length < Octets.capacity 1)
      (front : body = framed 1 kinds ++ rest)
      (known : ∃ type : ClientCertificateType, type.wire ∈ kinds)
      (cut : ∀ (layout : Layout) behind, layout.Fits version →
        body ≠ layout.octets version ++ behind) :
      Outcome version body (.error .truncatedMessage)
  | trailing {layout : Layout} {behind : Octets} (fits : layout.Fits version)
      (known : ∃ type : ClientCertificateType, type.wire ∈ layout.kinds)
      (front : body = layout.octets version ++ behind) (more : behind ≠ []) :
      Outcome version body (.error (.trailing behind.length "CertificateRequest"))
  | whole {layout : Layout} {types : List ClientCertificateType} (fits : layout.Fits version)
      (known : ∃ type : ClientCertificateType, type.wire ∈ layout.kinds)
      (whole : body = layout.octets version) (supported : Supported layout.kinds types) :
      Outcome version body
        (.ok { types, hashes := layout.hashes, issuers := layout.names.filter (!·.isEmpty) })

theorem knownTypes_ne_nil_iff :
    knownTypes kinds ≠ [] ↔ ∃ type : ClientCertificateType, type.wire ∈ kinds := by
  constructor
  · intro known
    obtain ⟨type, mem⟩ := List.exists_mem_of_ne_nil _ known
    exact ⟨type, ((Supported.knownTypes kinds).mem_iff type).1 mem⟩
  · rintro ⟨type, mem⟩
    exact List.ne_nil_of_mem (((Supported.knownTypes kinds).mem_iff type).2 mem)

theorem decode_of_outcome {answer : Except AuthError CertificateRequest}
    (h : Outcome version body answer) : decode body version = answer := by
  cases h with
  | kindsCut cut => exact decode_kinds_cut cut
  | noneSupported short front unknown =>
    subst front
    have none : ¬ knownTypes _ ≠ [] := fun known =>
      (knownTypes_ne_nil_iff.1 known).elim unknown
    rw [decode_framed_kinds short, if_pos (not_not.1 none)]
  | tailCut short front known cut =>
    subst front
    exact decode_tail_cut short (knownTypes_ne_nil_iff.2 known) cut
  | trailing fits known front more =>
    rw [front, decode_octets fits (knownTypes_ne_nil_iff.2 known), if_neg more]
  | whole fits known whole supported =>
    rw [whole, decode_layout fits (knownTypes_ne_nil_iff.2 known),
      (Supported.knownTypes _).unique supported]

theorem exists_outcome (version : Version) (body : Octets) :
    ∃ answer, Outcome version body answer := by
  by_cases front : ∃ kinds rest : Octets, kinds.length < Octets.capacity 1 ∧
      body = framed 1 kinds ++ rest
  · obtain ⟨kinds, rest, short, starts⟩ := front
    by_cases known : ∃ type : ClientCertificateType, type.wire ∈ kinds
    · by_cases parts : ∃ (layout : Layout) (behind : Octets), layout.Fits version ∧
          body = layout.octets version ++ behind
      · obtain ⟨layout, behind, fits, whole⟩ := parts
        -- the parts begin with the same kinds, so these are known as well
        obtain ⟨rfl, -⟩ : kinds = layout.kinds ∧ _ := by
          apply framed_append_inj short fits.kinds
          rw [← starts, whole, Layout.octets, List.append_assoc]
        rcases behind with _ | ⟨b, behind⟩
        · rw [List.append_nil] at whole
          exact ⟨_, .whole fits known whole (Supported.knownTypes layout.kinds)⟩
        · exact ⟨_, .trailing fits known whole (List.cons_ne_nil b behind)⟩
      · refine ⟨_, .tailCut short starts known fun layout behind fits whole => ?_⟩
        exact parts ⟨layout, behind, fits, whole⟩
    · exact ⟨_, .noneSupported short starts fun type mem => known ⟨type, mem⟩⟩
  · exact ⟨_, .kindsCut fun kinds rest short starts => front ⟨kinds, rest, short, starts⟩⟩

/-- Reading a body has exactly the outcome that its parts give. -/
theorem decode_eq_iff_outcome (version : Version) (body : Octets)
    (answer : Except AuthError CertificateRequest) :
    decode body version = answer ↔ Outcome version body answer := by
  constructor
  · rintro rfl
    obtain ⟨answer, outcome⟩ := exists_outcome version body
    rwa [decode_of_outcome outcome]
  · exact decode_of_outcome

end HandshakeAuth.CertificateRequest
