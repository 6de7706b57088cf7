import HandshakeAuth.Proofs.Message.CertificateRequest
import HandshakeAuth.Selection.Basic

/-! The standing rule of a client against the request of a server. Such a request accepts every key,
so only the names of the issuers decide: the order is the server's first, then the client's. -/

namespace HandshakeAuth

/-- The credentials that were issued under one of the names, in the order of the names and, for one
name, in the order in which they are held. -/
def Holdings.issuedUnder (holdings : Holdings) (names : List Octets) : List Credential :=
  names.flatMap fun name => holdings.entries.filter (·.issuer = name)

namespace Selector

variable {holdings : Holdings} {names : List Octets}

theorem accepts_ofNames (algorithm : PublicKeyAlgorithm) :
    (PeerConstraints.ofRequest (.ofNames names)).accepts algorithm = true := by
  cases algorithm <;> rfl

theorem map_credential_choices : holdings.choices.map Choice.credential = holdings.entries := by
  rw [Holdings.choices, List.map_map]
  exact List.zipIdx_map_fst 0 holdings.entries

theorem find?_choices (p : Credential → Bool) :
    (holdings.choices.find? fun choice => p choice.credential).map Choice.credential =
      holdings.entries.find? p := by
  rw [← map_credential_choices, List.find?_map]
  rfl

/-- The rule answers the request of a server with the first credential issued under one of its
names. -/
theorem heuristicClient_ofNames :
    (heuristicClient holdings (.ofRequest (.ofNames names)) .x509).map Choice.credential =
      (holdings.issuedUnder names).head? := by
  have names_eq : (PeerConstraints.ofRequest (.ofNames names)).issuers = names := rfl
  rw [heuristicClient, if_pos rfl, names_eq, Holdings.issuedUnder, List.head?_flatMap,
    List.map_findSome?]
  congr 1
  funext name
  rw [List.head?_filter, ← find?_choices]
  simp only [accepts_ofNames, Bool.and_true, Function.comp]

end Selector
end HandshakeAuth
