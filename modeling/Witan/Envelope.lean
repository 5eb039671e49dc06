import Witan.Config
import Witan.Identity
import Witan.Messages

open bincode fallible
open witan.types witan.error witan.identity witan.config

namespace witan.envelope

/-- The bytes that a message id hashes. -/
def messageIdInput (payload_type : PayloadType) (payload : Bytes) : Bytes := payload_type.as_u8 :: payload

/-- `SHA-256(payload_type_byte || payload)`. -/
def compute_message_id (crates : Crates) (payload_type : PayloadType) (payload : Bytes) : Bytes32 :=
  crates.sha256 (messageIdInput payload_type payload)

/-- The bytes that are signed: `message_id || payload_type_byte || payload`. -/
def signing_input (env : GossipEnvelope) : Bytes :=
  env.message_id.val ++ env.payload_type.as_u8 :: env.payload.val

/-- The envelope that is built, before its signature is filled in. -/
def unsigned {crates : Crates} (payload_type : PayloadType) (payload : ByteVec) (identity : NodeIdentity crates)
    (default_ttl : UInt8) (now_ms : UInt64) : GossipEnvelope :=
  { version := 1
    message_id := compute_message_id crates payload_type payload.val
    sender_node_id := identity.node_id
    sender_public_key := identity.sig_public_key_bytes
    payload_type
    payload
    signature := Vec.ofList []
    timestamp_unix_ms := now_ms
    ttl := default_ttl }

/-- Build and sign a new envelope. -/
def build_envelope {crates : Crates} (payload_type : PayloadType) (payload : ByteVec)
    (identity : NodeIdentity crates) (default_ttl : UInt8) (now_ms : UInt64) :
    Except GossipError GossipEnvelope := do
  let env := unsigned payload_type payload identity default_ttl now_ms
  let signature ← identity.sign (signing_input env) SIG_CTX_MESSAGE
  return { env with signature }

/-- Encode an envelope. Serializing it never fails. -/
def encode_envelope (env : GossipEnvelope) : Except GossipError Bytes := .ok (GossipEnvelope.codec.encode env)

/-- Decode an envelope. Bytes after it are ignored. -/
def decode_envelope (crates : Crates) (bytes : Bytes) : Except GossipError GossipEnvelope :=
  orFail (GossipEnvelope.codec.decodePrefix bytes)
    (let e := crates.decode_message "GossipEnvelope" bytes
     .SerializationError s!"bincode decode failed: {e}")

/-- Verify an envelope's signature and replay window. The age saturates at zero,
    so a timestamp in the future passes. -/
def verify_envelope (crates : Crates) (env : GossipEnvelope) (config : ResolvedConfig) (now_ms : UInt64) :
    Except GossipError Bool := do
  failIf (env.version ≠ 1) (.EnvelopeError s!"unsupported version: {env.version}")
  failIf (env.message_id ≠ compute_message_id crates env.payload_type env.payload.val)
    (.EnvelopeError "message_id mismatch")
  let age_ms := now_ms.toNat - env.timestamp_unix_ms.toNat
  failIf (age_ms > config.replay_window_ms.toNat) .ReplayDetected
  failIf (env.ttl = 0) .TtlExpired
  failIf (env.payload.val.length > config.max_message_bytes) (.EnvelopeError "payload too large")
  let verified ← NodeIdentity.verify_external crates env.sender_public_key (signing_input env) env.signature
    SIG_CTX_MESSAGE
  failIf (verified = false) .SignatureInvalid
  return true

/-- The signature covers the message id, the payload type and the payload. -/
theorem signing_input_inj {first second : GossipEnvelope} (h : signing_input first = signing_input second) :
    first.message_id = second.message_id ∧ first.payload_type = second.payload_type ∧
      first.payload = second.payload := by
  obtain ⟨hid, hrest⟩ := List.append_inj h (by rw [first.message_id.property, second.message_id.property])
  obtain ⟨htype, hpayload⟩ := List.cons_eq_cons.mp hrest
  refine ⟨Subtype.ext hid, ?_, Subtype.ext hpayload⟩
  revert htype
  cases first.payload_type <;> cases second.payload_type <;> decide

theorem build_envelope_eq_ok_iff {crates : Crates} {payload_type : PayloadType} {payload : ByteVec}
    {identity : NodeIdentity crates} {default_ttl : UInt8} {now_ms : UInt64} {env : GossipEnvelope} :
    build_envelope payload_type payload identity default_ttl now_ms = .ok env ↔
      ∃ signature, identity.sign (signing_input (unsigned payload_type payload identity default_ttl now_ms))
          SIG_CTX_MESSAGE = .ok signature ∧
        env = { unsigned payload_type payload identity default_ttl now_ms with signature } := by
  unfold build_envelope
  simp only [except_bind_eq_ok_iff, pure, Except.pure, Except.ok.injEq]
  refine exists_congr fun signature => and_congr_right fun _ => ?_
  exact eq_comm

/-- The envelope can be built if its content can be signed. -/
theorem exists_build_envelope_iff {crates : Crates} {payload_type : PayloadType} {payload : ByteVec}
    {identity : NodeIdentity crates} {default_ttl : UInt8} {now_ms : UInt64} :
    (∃ env, build_envelope payload_type payload identity default_ttl now_ms = .ok env) ↔
      ∃ signature, crates.sign_deterministic identity.sig_keypair (tagged SIG_CTX_MESSAGE
        (signing_input (unsigned payload_type payload identity default_ttl now_ms))) = .ok signature := by
  constructor
  · rintro ⟨env, hbuild⟩
    obtain ⟨signature, hsign, _⟩ := build_envelope_eq_ok_iff.mp hbuild
    exact ⟨signature, (NodeIdentity.sign_eq_ok_iff.mp hsign).2⟩
  · rintro ⟨signature, hsign⟩
    have hcontext : SIG_CTX_MESSAGE.length ≤ 255 := by decide
    exact ⟨_, build_envelope_eq_ok_iff.mpr ⟨signature, NodeIdentity.sign_eq_ok_iff.mpr ⟨hcontext, hsign⟩, rfl⟩⟩

/-- Only the signing can fail. -/
theorem build_envelope_error {crates : Crates} {payload_type : PayloadType} {payload : ByteVec}
    {identity : NodeIdentity crates} {default_ttl : UInt8} {now_ms : UInt64} {error : GossipError}
    (h : build_envelope payload_type payload identity default_ttl now_ms = .error error) :
    ∃ message, error = .CryptoError message := by
  unfold build_envelope at h
  dsimp only at h
  cases hsign : identity.sign (signing_input (unsigned payload_type payload identity default_ttl now_ms))
      SIG_CTX_MESSAGE with
  | ok signature =>
    rw [hsign] at h
    cases h
  | error failure =>
    rw [hsign] at h
    obtain rfl : failure = error := Except.error.inj h
    exact NodeIdentity.sign_error hsign

/-- The conditions under which an envelope is accepted. -/
structure Verified (crates : Crates) (env : GossipEnvelope) (config : ResolvedConfig) (now_ms : UInt64) : Prop where
  version : env.version = 1
  message_id : env.message_id = compute_message_id crates env.payload_type env.payload.val
  fresh : now_ms.toNat - env.timestamp_unix_ms.toNat ≤ config.replay_window_ms.toNat
  ttl : env.ttl ≠ 0
  size : env.payload.val.length ≤ config.max_message_bytes
  signature : crates.sig_verify env.sender_public_key (tagged SIG_CTX_MESSAGE (signing_input env))
    env.signature = .ok ()

theorem verify_envelope_eq_ok_iff {crates : Crates} {env : GossipEnvelope} {config : ResolvedConfig}
    {now_ms : UInt64} {valid : Bool} :
    verify_envelope crates env config now_ms = .ok valid ↔
      valid = true ∧ Verified crates env config now_ms := by
  unfold verify_envelope
  simp only [except_bind_eq_ok_iff, failIf_eq_ok_iff, exists_const, not_not, gt_iff_lt, not_lt, pure,
    Except.pure, Except.ok.injEq]
  constructor
  · rintro ⟨hversion, hid, hfresh, httl, hsize, verified, hverify, htrue, rfl⟩
    have hverified : verified = true := by simpa using htrue
    subst hverified
    exact ⟨rfl, hversion, hid, hfresh, httl, hsize, (NodeIdentity.verify_external_eq_true_iff.mp hverify).2⟩
  · rintro ⟨rfl, hversion, hid, hfresh, httl, hsize, hsignature⟩
    exact ⟨hversion, hid, hfresh, httl, hsize, true,
      NodeIdentity.verify_external_eq_true_iff.mpr ⟨by decide, hsignature⟩, by simp, rfl⟩

/-- An encoded envelope decodes to itself. -/
theorem decode_envelope_encode (crates : Crates) (env : GossipEnvelope) :
    decode_envelope crates (GossipEnvelope.codec.encode env) = .ok env :=
  orFail_eq_ok_iff.mpr (GossipEnvelope.codec.decodePrefix_encode_nil env)

/-- A built envelope is accepted under any timestamp and with any hops left: neither
    is signed. -/
theorem build_envelope_verified {crates : Crates} (hcorrect : crates.SignatureCorrect) {payload_type : PayloadType}
    {payload : ByteVec} {identity : NodeIdentity crates} {default_ttl : UInt8} {now_ms : UInt64}
    {env : GossipEnvelope} (hbuild : build_envelope payload_type payload identity default_ttl now_ms = .ok env)
    {config : ResolvedConfig} (hsize : payload.val.length ≤ config.max_message_bytes) (time : UInt64) {ttl : UInt8}
    (httl : ttl ≠ 0) : Verified crates { env with timestamp_unix_ms := time, ttl } config time := by
  obtain ⟨signature, hsign, rfl⟩ := build_envelope_eq_ok_iff.mp hbuild
  obtain ⟨signature', hsign', hverify⟩ := identity.sign_verifies hcorrect
    (signing_input (unsigned payload_type payload identity default_ttl now_ms)) SIG_CTX_MESSAGE (by decide)
  obtain rfl : signature = signature' := Except.ok.inj (hsign.symm.trans hsign')
  refine ⟨rfl, rfl, ?_, httl, hsize, (NodeIdentity.verify_external_eq_true_iff.mp hverify).2⟩
  change time.toNat - time.toNat ≤ _
  omega

end witan.envelope
