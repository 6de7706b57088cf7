import HandshakeAuth.Crypto.Provider
import HandshakeAuth.Proofs.Answer
import HandshakeAuth.Proofs.Der.Reading
import HandshakeAuth.Proofs.Rsa.Padding
import HandshakeAuth.Proofs.Rsa.Root
import Mathlib.NumberTheory.LucasPrimality

/-! Signing and verifying under one key: of all octet strings, exactly the one that signing produces
passes. The containers of the two keys play no part in it. -/

namespace HandshakeAuth.Rsa
open Der

def PublicKey.Holds (der : Octets) (key : PublicKey) : Prop :=
  Read.whole readPublicKey der = some key ∨ Read.whole readWrappedPublicKey der = some key

theorem bare_ne_wrapped {der : Octets} {key key' : PublicKey}
    (bare : Read.whole readPublicKey der = some key)
    (wrapped : Read.whole readWrappedPublicKey der = some key') : False := by
  obtain ⟨content, outer, inner⟩ := Canonical.content_of_sequence (Read.whole_eq_some_iff.1 bare)
  obtain ⟨content', outer', inner'⟩ :=
    Canonical.content_of_sequence (Read.whole_eq_some_iff.1 wrapped)
  obtain ⟨-, rfl⟩ := Canonical.identifier_unique outer outer'
  obtain ⟨modulus, _, number, -⟩ := Read.bind_eq_some_iff.1 (Read.whole_eq_some_iff.1 inner)
  obtain ⟨_, _, algorithm, -⟩ := Read.bind_eq_some_iff.1 (Read.whole_eq_some_iff.1 inner')
  exact Canonical.not_sequence_of_natural number algorithm

theorem PublicKey.ofDer?_of_holds {der : Octets} {key : PublicKey} (h : Holds der key)
    (admissible : key.Admissible) (bits : key.bits ≤ 4096) : ofDer? der = some key := by
  have found : (Read.whole readPublicKey der <|> Read.whole readWrappedPublicKey der) =
      some key := by
    rcases h with bare | wrapped
    · rw [bare]
      rfl
    -- the bare form is tried first, and must not claim a wrapped key
    · rcases bare : Read.whole readPublicKey der with _ | other
      · rw [wrapped]
        rfl
      · exact (bare_ne_wrapped bare wrapped).elim
  rw [ofDer?, found]
  change (guard (key.Admissible ∧ key.bits ≤ 4096) >>= fun _ => pure key) = some key
  rw [guard, if_pos ⟨admissible, bits⟩]
  rfl

theorem PrivateKey.sound_of_ofDer? {der : Octets} {key : PrivateKey}
    (h : ofDer? der = some key) : key.Admissible ∧ key.Consistent := by
  obtain ⟨found, -, h⟩ := Option.bind_eq_some_iff.1 h
  by_cases sound : found.Admissible ∧ found.Consistent
  · rw [guard, if_pos sound] at h
    cases h
    exact sound
  · rw [guard, if_neg sound] at h
    exact nomatch h

namespace PrivateKey.Proper

variable {key : PrivateKey} (h : key.Proper) {info text : Octets}
include h

theorem modulus_pos : 0 < key.modulus := by
  rw [h.modulus_eq]
  exact Nat.mul_pos h.prime_p.pos h.prime_q.pos

theorem sign_eq (padded : padded? key.size info = some text) :
    key.sign info = .ok (Octets.ofNat key.size (key.root (Octets.toNat text))) := by
  have small := PublicKey.toNat_padded_lt_modulus h.modulus_pos padded
  have check : powMod (key.root (Octets.toNat text)) key.exponent key.modulus =
      Octets.toNat text := by
    rw [powMod_eq, h.root_pow, Nat.mod_eq_of_lt small]
  rw [PrivateKey.sign, padded]
  exact if_pos check

theorem verifies_iff (padded : padded? key.size info = some text) (signature : Octets) :
    key.toPublicKey.verifies info signature ↔
      signature = Octets.ofNat key.size (key.root (Octets.toNat text)) := by
  have small := PublicKey.toNat_padded_lt_modulus h.modulus_pos padded
  have room : key.modulus < Octets.capacity key.size := PublicKey.modulus_lt_capacity
  have root_lt := (h.root_eq (Octets.toNat text)).1
  have whole : text.length = key.size := length_padded padded
  simp only [PublicKey.verifies, padded, powMod_eq, Bool.and_eq_true, decide_eq_true_eq,
    Option.some.injEq]
  constructor
  · rintro ⟨⟨length, below⟩, spells⟩
    have power : Octets.toNat text = Octets.toNat signature ^ key.exponent % key.modulus := by
      rw [spells, Octets.toNat_ofNat_of_lt]
      exact (Nat.mod_lt _ h.modulus_pos).trans room
    have same : Octets.toNat signature = key.root (Octets.toNat text) := by
      apply h.pow_injective below root_lt
      calc Octets.toNat signature ^ key.exponent
          ≡ Octets.toNat text [MOD key.modulus] := by rw [power]; exact (Nat.mod_modEq _ _).symm
        _ ≡ key.root (Octets.toNat text) ^ key.exponent [MOD key.modulus] := (h.root_pow _).symm
    rw [← same, ← length, Octets.ofNat_toNat]
  · rintro rfl
    have read : Octets.toNat (Octets.ofNat key.size (key.root (Octets.toNat text))) =
        key.root (Octets.toNat text) := Octets.toNat_ofNat_of_lt (root_lt.trans room)
    have power : key.root (Octets.toNat text) ^ key.exponent % key.modulus = Octets.toNat text := by
      rw [h.root_pow, Nat.mod_eq_of_lt small]
    rw [read, power, ← whole, Octets.ofNat_toNat]
    exact ⟨⟨Octets.length_ofNat _ _, root_lt⟩, rfl⟩

end PrivateKey.Proper

theorem checkDigest_of_length {algorithm : SignatureAlgorithm} {digest : Octets}
    (h : digest.length = algorithm.digestLength) : checkDigest algorithm digest = .ok () :=
  if_pos h

theorem scheme_of_standard {algorithm : SignatureAlgorithm} {scheme : SignatureScheme}
    (provided : Provider.standard.signature algorithm = .ok scheme) :
    scheme = { sign := sign algorithm, verify := verify algorithm } := by
  cases algorithm with
  | dsaSha1 => exact nomatch provided
  | _ => exact (Except.ok.inj provided).symm

/-- A key and a digest have one signature, with as many octets as the modulus has: signing produces
it and, of all octet strings, exactly it verifies, whichever containers the keys come in. -/
theorem verify_eq_of_sign {algorithm : SignatureAlgorithm} {scheme : SignatureScheme}
    {privateDer digest : Octets} {key : PrivateKey}
    (provided : Provider.standard.signature algorithm = .ok scheme)
    (readable : PrivateKey.ofDer? privateDer = some key)
    (prime_p : key.p.Prime) (prime_q : key.q.Prime) (distinct : key.p ≠ key.q)
    (bits : key.bits ≤ 4096) (length : digest.length = algorithm.digestLength)
    (fits : (digestInfo algorithm digest).length + 11 ≤ key.size) :
    ∃ signature, signature.length = key.size ∧
      (∀ der, PrivateKey.ofDer? der = some key → scheme.sign der digest = .ok signature) ∧
      ∀ der, PublicKey.Holds der key.toPublicKey →
        ∀ candidate, scheme.verify der digest candidate =
          if candidate = signature then .ok () else .error .signatureMismatch := by
  obtain ⟨admissible, consistent⟩ := PrivateKey.sound_of_ofDer? readable
  have proper : key.Proper := ⟨admissible, consistent, prime_p, prime_q, distinct⟩
  have accepted := checkDigest_of_length length
  obtain ⟨text, padded⟩ := exists_padded fits
  rw [scheme_of_standard provided]
  refine ⟨Octets.ofNat key.size (key.root (Octets.toNat text)), ?_, ?_, ?_⟩
  · exact Octets.length_ofNat _ _
  · intro der read
    change sign algorithm der digest = _
    rw [sign, accepted, Answer.ok_bind, read]
    exact proper.sign_eq padded
  · intro der holds candidate
    have read := PublicKey.ofDer?_of_holds holds admissible bits
    change verify algorithm der digest candidate = _
    rw [verify, accepted, Answer.ok_bind, read]
    exact if_congr (proper.verifies_iff padded candidate) rfl rfl

/-- Three powers show that a number of this form is prime. -/
theorem prime_of_powMod {k a : ℕ} (pos : 0 < k) (one : powMod a (3 * 2 ^ k) (3 * 2 ^ k + 1) = 1)
    (half : powMod a (3 * 2 ^ (k - 1)) (3 * 2 ^ k + 1) ≠ 1)
    (third : powMod a (2 ^ k) (3 * 2 ^ k + 1) ≠ 1) : (3 * 2 ^ k + 1).Prime := by
  have large : 1 < 3 * 2 ^ k + 1 := by have := Nat.two_pow_pos k; omega
  have iff (e : ℕ) : (a : ZMod (3 * 2 ^ k + 1)) ^ e = 1 ↔ powMod a e (3 * 2 ^ k + 1) = 1 := by
    have cast := ZMod.natCast_eq_natCast_iff' (a ^ e) 1 (3 * 2 ^ k + 1)
    rw [Nat.cast_pow, Nat.cast_one, Nat.mod_eq_of_lt large] at cast
    rw [powMod_eq]
    exact cast
  refine lucas_primality _ (a : ZMod (3 * 2 ^ k + 1)) ((iff _).2 one) ?_
  intro r prime divides
  rw [Nat.add_sub_cancel] at divides ⊢
  rcases (Nat.Prime.dvd_mul prime).1 divides with three | two
  · obtain rfl := (Nat.prime_dvd_prime_iff_eq prime Nat.prime_three).1 three
    rwa [Nat.mul_div_cancel_left _ (by decide), Ne, iff]
  · obtain rfl := (Nat.prime_dvd_prime_iff_eq prime Nat.prime_two).1 (prime.dvd_of_dvd_pow two)
    have split : 3 * 2 ^ k / 2 = 3 * 2 ^ (k - 1) := by
      rw [show k = k - 1 + 1 by omega, Nat.pow_succ, Nat.add_sub_cancel]
      omega
    rwa [split, Ne, iff]

def PrivateKey.small : PrivateKey where
  modulus := (3 * 2 ^ 189 + 1) * (3 * 2 ^ 201 + 1)
  exponent := 5
  secret := (12 * 2 ^ 201 + 1) / 5
  p := 3 * 2 ^ 189 + 1
  q := 3 * 2 ^ 201 + 1

def integer (width n : ℕ) : Octets :=
  [0x02, UInt8.ofNat width] ++ Octets.ofNat width n

def smallPrivateDer : Octets :=
  let key := PrivateKey.small
  let content := integer 1 0 ++ integer 50 key.modulus ++ integer 1 key.exponent ++
    integer 26 key.secret ++ integer 24 key.p ++ integer 26 key.q ++
    integer 1 0 ++ integer 1 0 ++ integer 1 0
  [0x30, 0x81, UInt8.ofNat content.length] ++ content

def smallPublicDer : Octets :=
  let key := integer 50 PrivateKey.small.modulus ++ integer 1 PrivateKey.small.exponent
  let bits := [0x00, 0x30, UInt8.ofNat key.length] ++ key
  let algorithm := [0x30, 0x0d, 0x06, 0x09] ++ encryptionIdentifier ++ [0x05, 0x00]
  let content := algorithm ++ [0x03, UInt8.ofNat bits.length] ++ bits
  [0x30, UInt8.ofNat content.length] ++ content

theorem verify_eq_of_sign_small :
    ∃ scheme, Provider.standard.signature .rsaPkcs1Md5Sha1 = .ok scheme ∧
      ∃ signature, signature.length = 50 ∧
        scheme.sign smallPrivateDer (List.replicate 36 0x5a) = .ok signature ∧
        ∀ candidate, scheme.verify smallPublicDer (List.replicate 36 0x5a) candidate =
          if candidate = signature then .ok () else .error .signatureMismatch := by
  have provided : Provider.standard.signature .rsaPkcs1Md5Sha1 =
      .ok { sign := sign .rsaPkcs1Md5Sha1, verify := verify .rsaPkcs1Md5Sha1 } := rfl
  have readable : PrivateKey.ofDer? smallPrivateDer = some .small := by decide +kernel
  have wrapped : Read.whole readWrappedPublicKey smallPublicDer =
      some PrivateKey.small.toPublicKey := by decide +kernel
  have prime_p : PrivateKey.small.p.Prime :=
    prime_of_powMod (a := 10) (by decide) (by decide +kernel) (by decide +kernel)
      (by decide +kernel)
  have prime_q : PrivateKey.small.q.Prime :=
    prime_of_powMod (a := 5) (by decide) (by decide +kernel) (by decide +kernel) (by decide +kernel)
  have distinct : PrivateKey.small.p ≠ PrivateKey.small.q := by decide +kernel
  have size : PrivateKey.small.size = 50 := by decide +kernel
  have bits : PrivateKey.small.bits ≤ 4096 := by decide +kernel
  have fits : (digestInfo .rsaPkcs1Md5Sha1 (List.replicate 36 0x5a)).length + 11 ≤
      PrivateKey.small.size := by rw [size]; decide
  obtain ⟨signature, length, signs, verifies⟩ :=
    verify_eq_of_sign provided readable prime_p prime_q distinct bits rfl fits
  exact ⟨_, provided, signature, length.trans size, signs _ readable, verifies _ (.inr wrapped)⟩

end HandshakeAuth.Rsa
