import Witan.Gossip.Replay

open bincode fallible
open witan.types witan.error witan.identity witan.config

namespace witan.gossip

variable {crates : Crates}

open GossipEngine

/-- What the sender encodes at a time is accepted by every engine with the sender's
    configuration for as long as the replay window is open, and it carries the payload
    under its type. -/
def AcceptedByPeers (sender : GossipEngine crates) (payload_type : UInt8) (payload : ByteVec)
    (sent_ms : UInt64) : Prop :=
  ∀ bytes after, encode_envelope payload_type payload sent_ms sender = .ok bytes after →
    (∀ (peer : GossipEngine crates) (now_ms : UInt64), peer.config = sender.config → sent_ms ≤ now_ms →
      now_ms.toNat ≤ sent_ms.toNat + sender.config.replay_window_ms.toNat →
      ∃ after, verify_envelope_bytes bytes now_ms peer = .ok true after) ∧
    ∃ env, envelope.decode_envelope crates bytes = .ok env ∧ PayloadType.from_u8 payload_type = some env.payload_type ∧
      env.payload = payload

section Encode

variable {sender peer after : GossipEngine crates} {payload_type : UInt8} {payload : ByteVec} {bytes : Bytes}
  {sent_ms now_ms : UInt64} {kind : PayloadType} {env : GossipEnvelope}

/-- Neither the hops nor the payload's size are looked at when an envelope is built, but
    both are when it is verified. -/
theorem build_envelope_verified_iff (hcorrect : crates.SignatureCorrect) {resolved : ResolvedConfig}
    {identity : NodeIdentity crates} {default_ttl : UInt8}
    (hbuild : envelope.build_envelope kind payload identity default_ttl sent_ms = .ok env) :
    envelope.Verified crates env resolved now_ms ↔
      now_ms.toNat - sent_ms.toNat ≤ resolved.replay_window_ms.toNat ∧ default_ttl ≠ 0 ∧
        payload.val.length ≤ resolved.max_message_bytes := by
  obtain ⟨signature, hsign, rfl⟩ := envelope.build_envelope_eq_ok_iff.mp hbuild
  obtain ⟨signature', hsign', hverify⟩ := identity.sign_verifies hcorrect
    (envelope.signing_input (envelope.unsigned kind payload identity default_ttl sent_ms)) SIG_CTX_MESSAGE (by decide)
  obtain rfl : signature = signature' := Except.ok.inj (hsign.symm.trans hsign')
  constructor
  · intro h
    exact ⟨h.fresh, h.ttl, h.size⟩
  · rintro ⟨hfresh, httl, hsize⟩
    exact ⟨rfl, rfl, hfresh, httl, hsize, (NodeIdentity.verify_external_eq_true_iff.mp hverify).2⟩

theorem verify_encoded_iff (hcorrect : crates.SignatureCorrect) {identity : NodeIdentity crates} {default_ttl : UInt8}
    (hbuild : envelope.build_envelope kind payload identity default_ttl sent_ms = .ok env) :
    (∃ after, verify_envelope_bytes (GossipEnvelope.codec.encode env) now_ms peer = .ok true after) ↔
      now_ms.toNat - sent_ms.toNat ≤ peer.config.replay_window_ms.toNat ∧ default_ttl ≠ 0 ∧
        payload.val.length ≤ peer.config.max_message_bytes := by
  rw [← build_envelope_verified_iff hcorrect hbuild]
  simp only [verify_envelope_bytes_eq_ok_iff, envelope.decode_envelope_encode, Except.ok.injEq,
    envelope.verify_envelope_eq_ok_iff]
  constructor
  · rintro ⟨_, _, _, rfl, ⟨_, hverified⟩, _⟩
    exact hverified
  · intro hverified
    exact ⟨_, trivial, env, rfl, ⟨trivial, hverified⟩, rfl⟩

end Encode

/-- An envelope that a peer accepts keeps to the limits. -/
theorem AcceptedByPeers.limits (hcorrect : crates.SignatureCorrect) {sender : GossipEngine crates}
    {payload_type : UInt8}
    {payload : ByteVec} {sent_ms : UInt64} {kind : PayloadType}
    (h : AcceptedByPeers sender payload_type payload sent_ms)
    (hkind : PayloadType.from_u8 payload_type = some kind) :
    sender.config.default_ttl ≠ 0 ∧ payload.val.length ≤ sender.config.max_message_bytes := by
  obtain ⟨signature, hsign, _⟩ := sender.identity.sign_verifies hcorrect
    (envelope.signing_input (envelope.unsigned kind payload sender.identity sender.config.default_ttl sent_ms))
    SIG_CTX_MESSAGE (by decide)
  have hbuild := envelope.build_envelope_eq_ok_iff.mpr ⟨signature, hsign, rfl⟩
  obtain ⟨hpeers, _⟩ := h _ _ (encode_envelope_eq_ok_iff.mpr ⟨kind, _, hkind, hbuild, rfl, rfl⟩)
  have hverified := hpeers sender sent_ms rfl (UInt64.le_refl _) (Nat.le_add_right _ _)
  exact ((verify_encoded_iff hcorrect hbuild).mp hverified).2

/-- `encode_envelope` does not check what the verifier asks for, so its envelopes are
    accepted exactly if the configured hops are not zero and the payload is within the
    limit, which `publish` does check. -/
theorem acceptedByPeers_iff (hcorrect : crates.SignatureCorrect) (sender : GossipEngine crates) (payload_type : UInt8)
    (payload : ByteVec) (sent_ms : UInt64) :
    AcceptedByPeers sender payload_type payload sent_ms ↔
      PayloadType.from_u8 payload_type = none ∨
        sender.config.default_ttl ≠ 0 ∧ payload.val.length ≤ sender.config.max_message_bytes := by
  constructor
  · intro haccepted
    cases hkind : PayloadType.from_u8 payload_type with
    | none => exact .inl rfl
    | some kind => exact .inr (haccepted.limits hcorrect hkind)
  · intro hcondition bytes after hencode
    obtain ⟨kind, env, hkind, hbuild, rfl, _⟩ := encode_envelope_eq_ok_iff.mp hencode
    obtain ⟨httl, hsize⟩ := hcondition.resolve_left (by rw [hkind]; exact Option.some_ne_none kind)
    refine ⟨?_, env, envelope.decode_envelope_encode crates env, ?_⟩
    · intro peer now_ms hconfig _ hwindow
      rw [verify_encoded_iff hcorrect hbuild, hconfig]
      exact ⟨by omega, httl, hsize⟩
    · obtain ⟨signature, _, rfl⟩ := envelope.build_envelope_eq_ok_iff.mp hbuild
      exact ⟨hkind, rfl⟩

/-- Node 1 encodes a block proposal of one byte under its default configuration. -/
theorem acceptedByPeers_iff_reference :
    AcceptedByPeers (.new (reference.resolved 1) (reference.node 1)) 1 (Vec.ofList [0]) 0 := by
  refine (acceptedByPeers_iff reference.signatureCorrect _ _ _ _).mpr (.inr ⟨?_, ?_⟩)
  · exact show (8 : UInt8) ≠ 0 by decide
  · exact show 1 ≤ 1048576 by decide

namespace reference

/-- A configuration that sets the hops and the size limit only. -/
def limited (max_message_bytes : Nat) (default_ttl : UInt8) : GossipConfig :=
  ⟨none, none, none, none, none, none, none, none, some max_message_bytes, none, none, none, some default_ttl⟩

def limitedResolved (max_message_bytes : Nat) (default_ttl : UInt8) : ResolvedConfig :=
  ⟨none, none, none, ephemeralRuntime, 8, 4, 12, 700, max_message_bytes, 60, 67 / 100, 30000, default_ttl⟩

theorem resolve_limited (max_message_bytes : Nat) (default_ttl : UInt8) :
    (limited max_message_bytes default_ttl).resolve reference.crates =
      .ok (limitedResolved max_message_bytes default_ttl) := by
  unfold GossipConfig.resolve
  simp only [except_bind_eq_ok_iff, failIf_eq_ok_iff, exists_const, not_not]
  have hlow : ¬ (4 : UInt8) > 8 := by decide
  have hhigh : ¬ (8 : UInt8) > 12 := by decide
  have hfraction : (0 : ℚ) ≤ 67 / 100 ∧ (67 / 100 : ℚ) ≤ 1 := by decide +kernel
  exact ⟨none, rfl, none, rfl, hlow, hhigh, hfraction, rfl⟩

end reference

/-- Both settings pass `resolve`: no hops for any payload, or no room for one byte. What
    the node encodes under them is dropped by all its peers. -/
theorem encoded_envelopes_dropped :
    ∃ (unhopped cramped : ResolvedConfig) (byte : ByteVec),
      (∃ config : GossipConfig, config.resolve reference.crates = .ok unhopped) ∧
        (∃ config : GossipConfig, config.resolve reference.crates = .ok cramped) ∧
        ¬ AcceptedByPeers (.new unhopped (reference.node 1)) 1 reference.emptyPayload 0 ∧
        ¬ AcceptedByPeers (.new cramped (reference.node 1)) 1 byte 0 := by
  refine ⟨_, _, Vec.ofList [0], ⟨_, reference.resolve_limited 1048576 0⟩, ⟨_, reference.resolve_limited 0 8⟩, ?_, ?_⟩
  · intro haccepted
    exact (haccepted.limits reference.signatureCorrect rfl).1 rfl
  · intro haccepted
    exact absurd (haccepted.limits reference.signatureCorrect rfl).2 (by decide)

end witan.gossip
