import Witan.Envelope
import Witan.Handshake.Steps
import Witan.Rotation.Reachability

open bincode fallible
open witan.types witan.error witan.identity witan.session witan.config

namespace witan.envelope

variable {crates : Crates} {env : GossipEnvelope} {config : ResolvedConfig} {now_ms : UInt64}

/-- The documented conditions for an envelope other than the one on its age. -/
structure PassesOtherwise (crates : Crates) (env : GossipEnvelope) (config : ResolvedConfig) : Prop where
  version : env.version = 1
  message_id : env.message_id = compute_message_id crates env.payload_type env.payload.val
  ttl : 0 < env.ttl
  size : env.payload.val.length ≤ config.max_message_bytes
  signature : NodeIdentity.verify_external crates env.sender_public_key (signing_input env) env.signature
    SIG_CTX_MESSAGE = .ok true

/-- All documented conditions: the age is at most the replay window, in both
    directions. -/
structure Documented (crates : Crates) (env : GossipEnvelope) (config : ResolvedConfig) (now_ms : UInt64) : Prop
    extends PassesOtherwise crates env config where
  window : ((now_ms.toNat : ℤ) - env.timestamp_unix_ms.toNat).natAbs ≤ config.replay_window_ms.toNat

theorem verified_iff :
    Verified crates env config now_ms ↔
      PassesOtherwise crates env config ∧
        now_ms.toNat - env.timestamp_unix_ms.toNat ≤ config.replay_window_ms.toNat := by
  constructor
  · intro h
    exact ⟨⟨h.version, h.message_id, UInt8.pos_iff_ne_zero.mpr h.ttl, h.size,
      NodeIdentity.verify_external_eq_true_iff.mpr ⟨by decide, h.signature⟩⟩, h.fresh⟩
  · rintro ⟨h, hfresh⟩
    exact ⟨h.version, h.message_id, hfresh, UInt8.pos_iff_ne_zero.mp h.ttl, h.size,
      (NodeIdentity.verify_external_eq_true_iff.mp h.signature).2⟩

/-- The verifier's age saturates: it accepts the documented envelopes and those from
    the future. -/
theorem verify_envelope_documented_iff :
    ((verify_envelope crates env config now_ms = .ok true ↔ Documented crates env config now_ms) ∧
        verify_envelope crates env config now_ms ≠ .ok false) ↔
      (PassesOtherwise crates env config →
        env.timestamp_unix_ms.toNat ≤ now_ms.toNat + config.replay_window_ms.toNat) := by
  have hfalse : verify_envelope crates env config now_ms ≠ .ok false := fun h =>
    absurd (verify_envelope_eq_ok_iff.mp h).1 Bool.false_ne_true
  have htrue : verify_envelope crates env config now_ms = .ok true ↔
      PassesOtherwise crates env config ∧
        now_ms.toNat - env.timestamp_unix_ms.toNat ≤ config.replay_window_ms.toNat := by
    rw [verify_envelope_eq_ok_iff, verified_iff]
    exact and_iff_right rfl
  constructor
  · rintro ⟨hexact, _⟩ hpasses
    by_contra hfuture
    have hdocumented := hexact.mp (htrue.mpr ⟨hpasses, by omega⟩)
    have hwindow := hdocumented.window
    omega
  · intro hpast
    refine ⟨htrue.trans ⟨?_, ?_⟩, hfalse⟩
    · rintro ⟨hpasses, hfresh⟩
      have hbound := hpast hpasses
      exact ⟨hpasses, by omega⟩
    · intro hdocumented
      have hwindow := hdocumented.window
      exact ⟨hdocumented.toPassesOtherwise, by omega⟩

end witan.envelope

namespace witan.handshake

variable {crates : Crates}

/-- A call of one of the handlers for the four handshake messages. -/
inductive HandlerCall (crates : Crates) where
  | process_probe_build_ack (peer_addr : Str) (probe_bytes : Bytes) (identity : NodeIdentity crates)
      (getrandom : Except String Bytes32) (now_ms : UInt64)
  | process_ack_build_finish (peer_addr : Str) (ack_bytes : Bytes) (identity : NodeIdentity crates)
      (rng : crates.OsRng) (now_ms : UInt64)
  | process_finish_build_finish_ack (peer_addr : Str) (finish_bytes : Bytes) (identity : NodeIdentity crates)
      (now_ms : UInt64)
  | process_finish_ack (peer_addr : Str) (finish_ack_bytes : Bytes) (now_ms : UInt64)

namespace HandlerCall

/-- The handler returns `Ok`. -/
def Succeeds (self : HandshakeManager) : HandlerCall crates → Prop
  | .process_probe_build_ack peer_addr probe_bytes identity getrandom now_ms =>
    ∃ ack_bytes after, HandshakeManager.process_probe_build_ack peer_addr probe_bytes identity getrandom now_ms self =
      .ok ack_bytes after
  | .process_ack_build_finish peer_addr ack_bytes identity rng now_ms =>
    ∃ finish_bytes after, HandshakeManager.process_ack_build_finish peer_addr ack_bytes identity rng now_ms self =
      .ok finish_bytes after
  | .process_finish_build_finish_ack peer_addr finish_bytes identity now_ms =>
    ∃ answer after, HandshakeManager.process_finish_build_finish_ack peer_addr finish_bytes identity now_ms self =
      .ok answer after
  | .process_finish_ack peer_addr finish_ack_bytes now_ms =>
    ∃ session after, HandshakeManager.process_finish_ack crates peer_addr finish_ack_bytes now_ms self =
      .ok session after

def now : HandlerCall crates → UInt64
  | .process_probe_build_ack _ _ _ _ now_ms => now_ms
  | .process_ack_build_finish _ _ _ _ now_ms => now_ms
  | .process_finish_build_finish_ack _ _ _ now_ms => now_ms
  | .process_finish_ack _ _ now_ms => now_ms

/-- The timestamp of the message that is processed. -/
def timestamp : HandlerCall crates → Option UInt64
  | .process_probe_build_ack _ probe_bytes _ _ _ =>
    (HandshakeProbe.codec.decodePrefix probe_bytes).map (·.timestamp_unix_ms)
  | .process_ack_build_finish _ ack_bytes _ _ _ =>
    (HandshakeAck.codec.decodePrefix ack_bytes).map (·.timestamp_unix_ms)
  | .process_finish_build_finish_ack _ finish_bytes _ _ =>
    (HandshakeFinish.codec.decodePrefix finish_bytes).map (·.timestamp_unix_ms)
  | .process_finish_ack _ finish_ack_bytes _ =>
    (HandshakeFinishAck.codec.decodePrefix finish_ack_bytes).map (·.timestamp_unix_ms)

/-- Everything that the handler needs is there, apart from the age of the message. -/
def PassesOtherwise (self : HandshakeManager) : HandlerCall crates → Prop
  | .process_probe_build_ack _ probe_bytes identity getrandom _ =>
    ∃ probe server_nonce kem_pk_json, HandshakeProbe.codec.decodePrefix probe_bytes = some probe ∧
      probe.magic = HANDSHAKE_PROBE_MAGIC ∧ probe.version = 1 ∧ getrandom = .ok server_nonce ∧
      crates.public_key_to_json (crates.kem_public_key identity.kem_keypair) = .ok kem_pk_json
  | .process_ack_build_finish peer_addr ack_bytes _ rng _ =>
    ∃ ack sent, HandshakeAck.codec.decodePrefix ack_bytes = some ack ∧
      ack.magic = HANDSHAKE_ACK_MAGIC ∧ ack.version = 1 ∧ ack.ml_dsa_65_public_key.val.length = 1952 ∧
      self.pending[peer_addr]? = some (.Client (.ProbeSent sent)) ∧ ack.client_nonce = sent.client_nonce ∧
      Nonempty (Encapsulation crates rng ack.hybrid_kem_public_key_json)
  | .process_finish_build_finish_ack peer_addr finish_bytes identity _ =>
    ∃ finish sent transcript_signature, HandshakeFinish.codec.decodePrefix finish_bytes = some finish ∧
      finish.magic = HANDSHAKE_FINISH_MAGIC ∧ finish.version = 1 ∧
      finish.client_ml_dsa_65_public_key.val.length = 1952 ∧
      self.pending[peer_addr]? = some (.Server (.AckSent sent)) ∧
      Nonempty (Decapsulation crates identity.kem_keypair finish.kem_ciphertext_json) ∧
      identity.sign (sent.transcriptHash crates finish_bytes).val SIG_CTX_HANDSHAKE = .ok transcript_signature
  | .process_finish_ack peer_addr finish_ack_bytes _ =>
    ∃ finish_ack sent, HandshakeFinishAck.codec.decodePrefix finish_ack_bytes = some finish_ack ∧
      finish_ack.magic = HANDSHAKE_FINISH_ACK_MAGIC ∧ finish_ack.version = 1 ∧
      self.pending[peer_addr]? = some (.Client (.FinishSent sent)) ∧
      finish_ack.transcript_hash = sent.transcriptHash crates ∧
      finish_ack.server_mac = compute_server_mac crates sent.shared_secret_32b (sent.transcriptHash crates) ∧
      crates.sig_verify sent.server_sig_pk (tagged SIG_CTX_HANDSHAKE (sent.transcriptHash crates).val)
        finish_ack.transcript_signature = .ok ()

/-- The handlers' age saturates as well. -/
theorem succeeds_iff (self : HandshakeManager) (call : HandlerCall crates) :
    call.Succeeds self ↔
      call.PassesOtherwise self ∧ ∃ stamp, call.timestamp = some stamp ∧ call.now.toNat - stamp.toNat ≤ 30000 := by
  cases call with
  | process_probe_build_ack peer_addr probe_bytes identity getrandom now_ms =>
    simp only [Succeeds, PassesOtherwise, timestamp, now, HandshakeManager.process_probe_build_ack_eq_ok_iff,
      Option.map_eq_some_iff]
    constructor
    · rintro ⟨_, _, probe, server_nonce, json, hdecode, ⟨hmagic, hversion, hfresh⟩, hrandom, hjson, rfl, rfl⟩
      exact ⟨⟨probe, server_nonce, json, hdecode, hmagic, hversion, hrandom, hjson⟩, _, ⟨probe, hdecode, rfl⟩, hfresh⟩
    · rintro ⟨⟨probe, server_nonce, json, hdecode, hmagic, hversion, hrandom, hjson⟩, _, ⟨_, hdecode', rfl⟩, hfresh⟩
      obtain rfl := Option.some.inj (hdecode.symm.trans hdecode')
      exact ⟨_, _, probe, server_nonce, json, hdecode, ⟨hmagic, hversion, hfresh⟩, hrandom, hjson, rfl, rfl⟩
  | process_ack_build_finish peer_addr ack_bytes identity rng now_ms =>
    simp only [Succeeds, PassesOtherwise, timestamp, now, HandshakeManager.process_ack_build_finish_eq_ok_iff,
      Option.map_eq_some_iff]
    constructor
    · rintro ⟨_, _, ack, sent, exchange, hdecode, ⟨hmagic, hversion, hfresh⟩, hsize, hsent, hnonce, rfl, rfl⟩
      exact ⟨⟨ack, sent, hdecode, hmagic, hversion, hsize, hsent, hnonce, ⟨exchange⟩⟩, _, ⟨ack, hdecode, rfl⟩, hfresh⟩
    · rintro ⟨⟨ack, sent, hdecode, hmagic, hversion, hsize, hsent, hnonce, ⟨exchange⟩⟩, _, ⟨_, hdecode', rfl⟩, hfresh⟩
      obtain rfl := Option.some.inj (hdecode.symm.trans hdecode')
      exact ⟨_, _, ack, sent, exchange, hdecode, ⟨hmagic, hversion, hfresh⟩, hsize, hsent, hnonce, rfl, rfl⟩
  | process_finish_build_finish_ack peer_addr finish_bytes identity now_ms =>
    simp only [Succeeds, PassesOtherwise, timestamp, now, Prod.exists,
      HandshakeManager.process_finish_build_finish_ack_eq_ok_iff, Option.map_eq_some_iff]
    constructor
    · rintro ⟨_, _, _, finish, sent, exchange, signature, hdecode, ⟨hmagic, hversion, hfresh⟩, hsize, hsent, hsign,
        rfl, rfl, rfl⟩
      exact ⟨⟨finish, sent, signature, hdecode, hmagic, hversion, hsize, hsent, ⟨exchange⟩, hsign⟩, _,
        ⟨finish, hdecode, rfl⟩, hfresh⟩
    · rintro ⟨⟨finish, sent, signature, hdecode, hmagic, hversion, hsize, hsent, ⟨exchange⟩, hsign⟩, _,
        ⟨_, hdecode', rfl⟩, hfresh⟩
      obtain rfl := Option.some.inj (hdecode.symm.trans hdecode')
      exact ⟨_, _, _, finish, sent, exchange, signature, hdecode, ⟨hmagic, hversion, hfresh⟩, hsize, hsent, hsign,
        rfl, rfl, rfl⟩
  | process_finish_ack peer_addr finish_ack_bytes now_ms =>
    simp only [Succeeds, PassesOtherwise, timestamp, now, HandshakeManager.process_finish_ack_eq_ok_iff,
      Option.map_eq_some_iff]
    constructor
    · rintro ⟨_, _, finish_ack, sent, hdecode, ⟨hmagic, hversion, hfresh⟩, hsent, hhash, hmac, hverify, rfl, rfl⟩
      exact ⟨⟨finish_ack, sent, hdecode, hmagic, hversion, hsent, hhash, hmac, hverify⟩, _,
        ⟨finish_ack, hdecode, rfl⟩, hfresh⟩
    · rintro ⟨⟨finish_ack, sent, hdecode, hmagic, hversion, hsent, hhash, hmac, hverify⟩, _, ⟨_, hdecode', rfl⟩,
        hfresh⟩
      obtain rfl := Option.some.inj (hdecode.symm.trans hdecode')
      exact ⟨_, _, finish_ack, sent, hdecode, ⟨hmagic, hversion, hfresh⟩, hsent, hhash, hmac, hverify, rfl, rfl⟩

/-- The handler returns `Ok` only for a message that is at most 30 s old or ahead. -/
def Windowed (self : HandshakeManager) (call : HandlerCall crates) : Prop :=
  call.Succeeds self → ∃ stamp, call.timestamp = some stamp ∧ ((call.now.toNat : ℤ) - stamp.toNat).natAbs ≤ 30000

theorem windowed_iff (self : HandshakeManager) (call : HandlerCall crates) :
    call.Windowed self ↔
      (call.PassesOtherwise self → ∀ stamp, call.timestamp = some stamp → stamp.toNat ≤ call.now.toNat + 30000) := by
  constructor
  · intro hwindowed hpasses stamp hstamp
    by_contra hfuture
    obtain ⟨stamp', hstamp', hwindow⟩ :=
      hwindowed ((succeeds_iff self call).mpr ⟨hpasses, stamp, hstamp, by omega⟩)
    obtain rfl := Option.some.inj (hstamp.symm.trans hstamp')
    omega
  · intro hpast hsucceeds
    obtain ⟨hpasses, stamp, hstamp, hfresh⟩ := (succeeds_iff self call).mp hsucceeds
    have hbound := hpast hpasses stamp hstamp
    exact ⟨stamp, hstamp, by omega⟩

end HandlerCall

/-- The five freshness checks look back only. Each one is as documented exactly for
    messages that are not from too far ahead, or that something else refuses. -/
theorem freshness_two_sided_iff :
    (∀ (env : GossipEnvelope) (config : ResolvedConfig) (now_ms : UInt64),
      ((envelope.verify_envelope crates env config now_ms = .ok true ↔
          envelope.Documented crates env config now_ms) ∧
        envelope.verify_envelope crates env config now_ms ≠ .ok false) ↔
      (envelope.PassesOtherwise crates env config →
        env.timestamp_unix_ms.toNat ≤ now_ms.toNat + config.replay_window_ms.toNat)) ∧
    ∀ (self : HandshakeManager) (call : HandlerCall crates),
      call.Windowed self ↔
        (call.PassesOtherwise self → ∀ stamp, call.timestamp = some stamp → stamp.toNat ≤ call.now.toNat + 30000) :=
  ⟨fun _ _ _ => envelope.verify_envelope_documented_iff, fun self call => call.windowed_iff self⟩

namespace reference

/-- Node 1's envelope for an empty transaction, stamped a minute ahead of time 0. -/
def futureEnvelope : GossipEnvelope :=
  let env := envelope.unsigned .Transaction reference.emptyPayload (reference.node 1) 8 60000
  { env with signature := reference.signature 1 (tagged SIG_CTX_MESSAGE (envelope.signing_input env)) }

/-- Node 1 processes node 2's probe at time 0, which is stamped a minute ahead. -/
def futureProbe : HandlerCall reference.crates :=
  .process_probe_build_ack (reference.node 2).node_id
    (HandshakeProbe.codec.encode (probeMessage (reference.node 2) (reference.node 1).node_id (reference.nonce 7) 60000))
    (reference.node 1) (.ok (reference.nonce 8)) 0

end reference

/-- Both are accepted: the age of a message from the future counts as zero. -/
theorem future_messages_accepted :
    ¬ ((envelope.verify_envelope reference.crates reference.futureEnvelope (reference.resolved 1) 0 = .ok true ↔
          envelope.Documented reference.crates reference.futureEnvelope (reference.resolved 1) 0) ∧
        envelope.verify_envelope reference.crates reference.futureEnvelope (reference.resolved 1) 0 ≠ .ok false) ∧
      ¬ reference.futureProbe.Windowed HandshakeManager.new := by
  constructor
  · rw [envelope.verify_envelope_documented_iff]
    intro hpast
    have hpasses : envelope.PassesOtherwise reference.crates reference.futureEnvelope (reference.resolved 1) :=
      ⟨rfl, rfl, show (0 : UInt8) < 8 by decide, Nat.zero_le _, NodeIdentity.verify_external_eq_true_iff.mpr
        ⟨by decide, reference.sig_verify_signature 1 _⟩⟩
    have hbound : 60000 ≤ 0 + 30000 := hpast hpasses
    omega
  · rw [HandlerCall.windowed_iff]
    intro hpast
    have hdecode := HandshakeProbe.codec.decodePrefix_encode_nil
      (probeMessage (reference.node 2) (reference.node 1).node_id (reference.nonce 7) 60000)
    have hstamp : reference.futureProbe.timestamp = some 60000 := by
      unfold reference.futureProbe HandlerCall.timestamp
      dsimp only
      rw [hdecode]
      rfl
    have hpasses : reference.futureProbe.PassesOtherwise HandshakeManager.new :=
      ⟨_, reference.nonce 8, reference.keyJson 1, hdecode, rfl, rfl, rfl, rfl⟩
    have hbound : 60000 ≤ 0 + 30000 := hpast hpasses 60000 hstamp
    omega

end witan.handshake
