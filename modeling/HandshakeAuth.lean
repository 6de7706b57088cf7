import HandshakeAuth.Octets
import HandshakeAuth.Protocol.Version
import HandshakeAuth.Protocol.Algorithm
import HandshakeAuth.Protocol.KeyExchange
import HandshakeAuth.Protocol.Message
import HandshakeAuth.Crypto.Error
import HandshakeAuth.Error
import HandshakeAuth.Wire.Length
import HandshakeAuth.Wire.Read
import HandshakeAuth.Wire.Cursor
import HandshakeAuth.Wire.Vectors
import HandshakeAuth.Digest.BlockHash
import HandshakeAuth.Digest.Words
import HandshakeAuth.Digest.Md5
import HandshakeAuth.Digest.Sha1
import HandshakeAuth.Digest.Sha2
import HandshakeAuth.Digest.Hmac
import HandshakeAuth.Der.Read
import HandshakeAuth.Der.ObjectIdentifier
import HandshakeAuth.Der.Canonical
import HandshakeAuth.Der.Lenient
import HandshakeAuth.X509.Time
import HandshakeAuth.X509.Certificate
import HandshakeAuth.Rsa.Arithmetic
import HandshakeAuth.Rsa.Key
import HandshakeAuth.Rsa.Signature
import HandshakeAuth.Crypto.Provider
import HandshakeAuth.Crypto.Restriction
import HandshakeAuth.Secret.Prf
import HandshakeAuth.Secret.Expansion
import HandshakeAuth.Secret.MasterSecret
import HandshakeAuth.Message.CertificateList
import HandshakeAuth.Message.CertificateRequest
import HandshakeAuth.Message.CertificateVerify
import HandshakeAuth.Credential.Basic
import HandshakeAuth.Credential.Store
import HandshakeAuth.Selection.Basic
import HandshakeAuth.Selection.Script
import HandshakeAuth.Session.Config
import HandshakeAuth.Session.Basic
import HandshakeAuth.Session.Possession
import HandshakeAuth.Handshake.Step
import HandshakeAuth.Handshake.Client
import HandshakeAuth.Handshake.Server
import HandshakeAuth.Handshake.Mailbox
import HandshakeAuth.Rsa.Lemmas
import HandshakeAuth.Proofs.Answer
import HandshakeAuth.Proofs.Session.PeerChain
import HandshakeAuth.Proofs.Session.Selection
import HandshakeAuth.Proofs.Session.Derivation
import HandshakeAuth.Proofs.Wire.Reading
import HandshakeAuth.Proofs.Message.CertificateVerify
import HandshakeAuth.Proofs.Session.Possession
import HandshakeAuth.Proofs.Session.Transcript
import HandshakeAuth.Proofs.Handshake.Operation
import HandshakeAuth.Proofs.Handshake.ServerSteps
import HandshakeAuth.Proofs.Handshake.ServerSide
import HandshakeAuth.Proofs.Handshake.FailedProof
import HandshakeAuth.Proofs.Message.CertificateList
import HandshakeAuth.Proofs.Handshake.ClientProof
import HandshakeAuth.Proofs.Credential.Store
import HandshakeAuth.Proofs.Message.CertificateRequest
import HandshakeAuth.Proofs.Handshake.ClientSteps
import HandshakeAuth.Proofs.Handshake.SecretSteps
import HandshakeAuth.Proofs.Handshake.SecretHistory
import HandshakeAuth.Proofs.Handshake.ServerCertificate
import HandshakeAuth.Proofs.Handshake.Turn
import HandshakeAuth.Proofs.Selection.Heuristic
import HandshakeAuth.Proofs.Handshake.Judging
import HandshakeAuth.Proofs.Handshake.Exchange
import HandshakeAuth.Proofs.Rsa.Inverse
import HandshakeAuth.Proofs.Rsa.Root
import HandshakeAuth.Proofs.Der.Reading
import HandshakeAuth.Proofs.Rsa.Padding
import HandshakeAuth.Proofs.Rsa.Signature
import HandshakeAuth.Proofs.Rsa.Verification
import HandshakeAuth.Proofs.Message.SupportedKinds
import HandshakeAuth.Proofs.Message.RequestNormalForm
import HandshakeAuth.Proofs.Digest.Blocks
import HandshakeAuth.Proofs.Digest.Algorithm
import HandshakeAuth.Proofs.Digest.Size
import HandshakeAuth.Proofs.Digest.Pieces
import HandshakeAuth.Proofs.Secret.Opening
import HandshakeAuth.Proofs.Secret.Blocks
import HandshakeAuth.Proofs.Secret.Rounds
import HandshakeAuth.Proofs.Secret.Stream
import HandshakeAuth.Proofs.Secret.MasterSecret
import HandshakeAuth.Proofs.Message.ListEnd
import HandshakeAuth.Proofs.Handshake.ServerKeyUse
import HandshakeAuth.Proofs.Handshake.Idle
import HandshakeAuth.Proofs.Selection.Format
import HandshakeAuth.Proofs.Selection.FirstMatch
import HandshakeAuth.Proofs.Handshake.SelectionHistory
import HandshakeAuth.Proofs.Wire.Delimited
import HandshakeAuth.Proofs.Message.SelfDelimiting
import HandshakeAuth.Proofs.Message.RequestVersions
import HandshakeAuth.Proofs.Handshake.PeerCertificate
import HandshakeAuth.Proofs.Handshake.RequestPolicy
import HandshakeAuth.Proofs.Session.Verdict
import HandshakeAuth.Proofs.Session.Binding
import HandshakeAuth.Proofs.Credential.Steps
import HandshakeAuth.Proofs.Session.LeafFacts
import HandshakeAuth.Proofs.Credential.Building
import HandshakeAuth.Proofs.Der.Extent
import HandshakeAuth.Proofs.X509.Pieces
import HandshakeAuth.Proofs.Octets
import HandshakeAuth.Proofs.Wire.Cursor
import HandshakeAuth.Proofs.Wire.Readers
import HandshakeAuth.Proofs.Wire.Writing
import HandshakeAuth.Proofs.Digest.Keyed
