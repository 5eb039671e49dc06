import Witan.Crates
import Witan.Fallible.Actions
import Witan.Text.Hex

open bincode fallible
open witan.types witan.error

namespace witan.identity

/-- A node's live keypairs under its identifier. -/
structure NodeIdentity (crates : Crates) where
  node_id : Str
  kem_keypair : crates.HybridKemKeypair
  sig_keypair : crates.MlDsa65Keypair
  key_epoch : Str

/-- What a signature under a context covers: `0x00`, the context's length byte,
    the context, the message. -/
def tagged (context message : Bytes) : Bytes :=
  0x00 :: UInt8.ofNat context.length :: (context ++ message)

variable (crates : Crates)

/-- `hex(SHA-256(kem_pk || sig_pk))`. -/
def NodeIdentity.derive_node_id (kem_pk_bytes sig_pk_bytes : Bytes) : Str :=
  hex.encode32 (crates.sha256 (kem_pk_bytes ++ sig_pk_bytes))

/-- Canonical bytes (x25519, then mlkem) of a hybrid KEM public key. -/
def NodeIdentity.kem_public_key_bytes (pk : crates.HybridPublicKey) : Except GossipError ByteVec := do
  let x25519 ← (crates.x25519_bytes pk).mapError fun e => .IdentityError s!"KEM x25519_bytes failed: {e}"
  let mlkem ← (crates.mlkem_bytes pk).mapError fun e => .IdentityError s!"KEM mlkem_bytes failed: {e}"
  return Vec.ofList (x25519 ++ mlkem)

/-- The identity that two keypairs make, under the id derived from them. -/
def NodeIdentity.of_keypairs (kem_keypair : crates.HybridKemKeypair)
    (sig_keypair : crates.MlDsa65Keypair) (key_epoch : Str) : Except GossipError (NodeIdentity crates) := do
  let kem_pk_bytes ← kem_public_key_bytes crates (crates.kem_public_key kem_keypair)
  let sig_pk_bytes := crates.sig_public_key sig_keypair
  return {
    node_id := derive_node_id crates kem_pk_bytes.val sig_pk_bytes.val
    kem_keypair
    sig_keypair
    key_epoch }

/-- Generate a new random identity. -/
def NodeIdentity.generate (key_epoch : Str) (kem_rng sig_rng : crates.OsRng) :
    Except GossipError (NodeIdentity crates) := do
  let kem_keypair ← (crates.kem_generate kem_rng).mapError fun e => .IdentityError s!"KEM keygen failed: {e}"
  let sig_keypair ← (crates.sig_generate sig_rng).mapError fun e => .IdentityError s!"SIG keygen failed: {e}"
  of_keypairs crates kem_keypair sig_keypair key_epoch

/-- Restore an identity from its seeds. -/
def NodeIdentity.from_seeds (x25519_seed mlkem_seed sig_seed : Bytes) (key_epoch : Str) :
    Except GossipError (NodeIdentity crates) := do
  let kem_keypair ← (crates.kem_from_secret_key_bytes x25519_seed mlkem_seed).mapError
    fun e => .IdentityError s!"KEM restore failed: {e}"
  let sig_keypair ← (crates.sig_from_secret_key_bytes sig_seed).mapError
    fun e => .IdentityError s!"SIG restore failed: {e}"
  of_keypairs crates kem_keypair sig_keypair key_epoch

variable {crates}

/-- Sign bytes under a context string. -/
def NodeIdentity.sign (self : NodeIdentity crates) (message context : Bytes) : Except GossipError ByteVec := do
  failIf (context.length > 255) (.CryptoError "context must be ≤ 255 bytes")
  (crates.sign_deterministic self.sig_keypair (tagged context message)).mapError
    fun e => .CryptoError s!"ML-DSA-65 sign failed: {e}"

variable (crates) in
/-- Verify a signature against an external public key. -/
def NodeIdentity.verify_external (sig_public_key_bytes : ByteVec) (message : Bytes) (signature : ByteVec)
    (context : Bytes) : Except GossipError Bool := do
  failIf (context.length > 255) (.CryptoError "context must be ≤ 255 bytes")
  match crates.sig_verify sig_public_key_bytes (tagged context message) signature with
  | .ok () => return true
  | .error .VerificationFailed => return false
  | .error (.Other e) => .error (.CryptoError s!"ML-DSA-65 verify error: {e}")

def NodeIdentity.sig_public_key_bytes (self : NodeIdentity crates) : ByteVec :=
  crates.sig_public_key self.sig_keypair

def NodeIdentity.kem_public_key_canonical_bytes (self : NodeIdentity crates) : Except GossipError ByteVec :=
  kem_public_key_bytes crates (crates.kem_public_key self.kem_keypair)

/-- A signed message determines its context and its content: the length byte
    says where the context ends. -/
theorem tagged_inj {context context' message message' : Bytes} (hcontext : context.length ≤ 255)
    (hcontext' : context'.length ≤ 255) (h : tagged context message = tagged context' message') :
    context = context' ∧ message = message' := by
  simp only [tagged, List.cons.injEq, true_and] at h
  have hlength : context.length = context'.length := by
    have hbyte := congrArg UInt8.toNat h.1
    simpa [Nat.mod_eq_of_lt (show context.length < 256 by omega),
      Nat.mod_eq_of_lt (show context'.length < 256 by omega)] using hbyte
  exact List.append_inj h.2 hlength

theorem NodeIdentity.verify_external_eq_true_iff {public_key : ByteVec} {message : Bytes}
    {signature : ByteVec} {context : Bytes} :
    NodeIdentity.verify_external crates public_key message signature context = .ok true ↔
      context.length ≤ 255 ∧ crates.sig_verify public_key (tagged context message) signature = .ok () := by
  unfold NodeIdentity.verify_external
  rw [except_bind_eq_ok_iff]
  simp only [failIf_eq_ok_iff, gt_iff_lt, not_lt]
  constructor
  · rintro ⟨_, hcontext, h⟩
    refine ⟨hcontext, ?_⟩
    split at h
    · assumption
    · simp [pure, Except.pure] at h
    · cases h
  · rintro ⟨hcontext, h⟩
    exact ⟨(), hcontext, by rw [h]; rfl⟩

theorem NodeIdentity.sign_eq_ok_iff {self : NodeIdentity crates} {message context : Bytes} {signature : ByteVec} :
    self.sign message context = .ok signature ↔
      context.length ≤ 255 ∧
        crates.sign_deterministic self.sig_keypair (tagged context message) = .ok signature := by
  simp [NodeIdentity.sign, except_bind_eq_ok_iff, failIf_eq_ok_iff, mapError_eq_ok_iff]

theorem NodeIdentity.sign_error {self : NodeIdentity crates} {message context : Bytes} {error : GossipError}
    (h : self.sign message context = .error error) : ∃ text, error = .CryptoError text := by
  unfold NodeIdentity.sign failIf at h
  split at h
  · exact ⟨_, (Except.error.inj h).symm⟩
  · cases hsign : crates.sign_deterministic self.sig_keypair (tagged context message) with
    | ok signature =>
      rw [hsign] at h
      cases h
    | error reason =>
      rw [hsign] at h
      exact ⟨_, (Except.error.inj h).symm⟩

theorem NodeIdentity.of_keypairs_eq_ok_iff {kem_keypair : crates.HybridKemKeypair}
    {sig_keypair : crates.MlDsa65Keypair} {key_epoch : Str} {identity : NodeIdentity crates} :
    NodeIdentity.of_keypairs crates kem_keypair sig_keypair key_epoch = .ok identity ↔
      ∃ kem_pk_bytes, NodeIdentity.kem_public_key_bytes crates (crates.kem_public_key kem_keypair) =
          .ok kem_pk_bytes ∧
        identity = ⟨NodeIdentity.derive_node_id crates kem_pk_bytes.val
          (crates.sig_public_key sig_keypair).val, kem_keypair, sig_keypair, key_epoch⟩ := by
  simp only [NodeIdentity.of_keypairs, except_bind_eq_ok_iff, pure, Except.pure, Except.ok.injEq]
  constructor
  · rintro ⟨kem_pk_bytes, hkem, rfl⟩
    exact ⟨kem_pk_bytes, hkem, rfl⟩
  · rintro ⟨kem_pk_bytes, hkem, rfl⟩
    exact ⟨kem_pk_bytes, hkem, rfl⟩

theorem NodeIdentity.kem_public_key_canonical_bytes_length (hlengths : crates.KeyLengths)
    (identity : NodeIdentity crates) :
    ∃ kem, identity.kem_public_key_canonical_bytes = .ok kem ∧ kem.val.length = 1216 := by
  obtain ⟨x25519, mlkem, hx25519, hmlkem, hlength⟩ := hlengths.kem identity.kem_keypair
  have happend : (x25519 ++ mlkem).length = 1216 := by rw [List.length_append, hlength]
  refine ⟨Vec.ofList (x25519 ++ mlkem), ?_, ?_⟩
  · unfold NodeIdentity.kem_public_key_canonical_bytes NodeIdentity.kem_public_key_bytes
    rw [hx25519, hmlkem]
    rfl
  · rw [Vec.ofList_val (by rw [happend]; decide), happend]

/-- Signing under a short context always works, and the signature verifies. -/
theorem NodeIdentity.sign_verifies (hcorrect : crates.SignatureCorrect) (identity : NodeIdentity crates)
    (message context : Bytes) (hcontext : context.length ≤ 255) :
    ∃ signature, identity.sign message context = .ok signature ∧
      NodeIdentity.verify_external crates identity.sig_public_key_bytes message signature context =
        .ok true := by
  obtain ⟨signature, hsign, hverify⟩ := hcorrect.sign identity.sig_keypair (tagged context message)
  exact ⟨signature, NodeIdentity.sign_eq_ok_iff.mpr ⟨hcontext, hsign⟩,
    NodeIdentity.verify_external_eq_true_iff.mpr ⟨hcontext, hverify⟩⟩

end witan.identity
