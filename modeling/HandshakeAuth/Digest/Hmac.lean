import HandshakeAuth.Digest.Md5
import HandshakeAuth.Digest.Sha1
import HandshakeAuth.Digest.Sha2
import HandshakeAuth.Protocol.Algorithm

/-!
Digests and keyed tags of messages that come in pieces, for each hash algorithm. The tags stand for
the library `hmac` and follow RFC 2104: a key of any length is accepted, one longer than a block is
hashed first, and the digest of the key under one mask and the message is hashed under another mask.
-/

namespace HandshakeAuth.Digest

namespace BlockHash

variable {σ : Type} (H : BlockHash σ)

def blockKey (key : Octets) : Octets :=
  let short := if H.blockSize < key.length then H.digest [key] else key
  short ++ List.replicate (H.blockSize - short.length) 0

def tag (key : Octets) (pieces : List Octets) : Octets :=
  let inner := (H.blockKey key).map (· ^^^ 0x36)
  let outer := (H.blockKey key).map (· ^^^ 0x5c)
  H.digest [outer, H.digest (inner :: pieces)]

end BlockHash
end Digest

namespace HashAlgorithm
open Digest

def digest (algorithm : HashAlgorithm) (pieces : List Octets) : Octets :=
  match algorithm with
  | md5 => Md5.hash.digest pieces
  | sha1 => Sha1.hash.digest pieces
  | sha256 => Sha2.hash256.digest pieces
  | sha384 => Sha2.hash384.digest pieces

def tag (algorithm : HashAlgorithm) (key : Octets) (pieces : List Octets) : Octets :=
  match algorithm with
  | md5 => Md5.hash.tag key pieces
  | sha1 => Sha1.hash.tag key pieces
  | sha256 => Sha2.hash256.tag key pieces
  | sha384 => Sha2.hash384.tag key pieces

end HashAlgorithm
end HandshakeAuth
