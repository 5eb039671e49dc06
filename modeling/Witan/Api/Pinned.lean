import Witan.Api.Restart
import Witan.Fallible.Relational
import Witan.Gossip.Acceptance

open bincode fallible
open witan.types witan.error witan.identity witan.config witan.rotation witan.gossip

namespace witan.gossip

variable {crates : Crates} {engine after : GossipEngine crates} {lineage : KeyLineage} {envelope_bytes : Bytes}
  {now_ms : UInt64}

/-- Pinned to a lineage, the engine accepts exactly the envelopes of the lineage's
    node under its current key that it accepts anyway. -/
theorem verify_envelope_from_lineage_eq_ok_iff {valid : Bool} :
    GossipEngine.verify_envelope_from_lineage lineage envelope_bytes now_ms engine = .ok valid after ↔
      valid = true ∧ after = engine.countReceived ∧
        ∃ env, envelope.decode_envelope crates envelope_bytes = .ok env ∧ env.sender_node_id = lineage.node_id ∧
          env.sender_public_key = lineage.current_sig_public_key ∧
          envelope.verify_envelope crates env engine.config now_ms = .ok true := by
  unfold GossipEngine.verify_envelope_from_lineage
  rw [attempt_bind_eq_ok_iff]
  constructor
  · rintro ⟨env, hdecode, h⟩
    cases hsender : lineage.check_envelope_sender env with
    | error error =>
      rw [hsender] at h
      cases h
    | ok _ =>
      rw [hsender] at h
      obtain ⟨rfl, env', hdecode', hverify, rfl⟩ := verify_envelope_bytes_eq_ok_iff.mp h
      obtain rfl : env = env' := Except.ok.inj (hdecode.symm.trans hdecode')
      obtain ⟨hid, hkey⟩ := api.check_envelope_sender_eq_ok_iff.mp hsender
      exact ⟨rfl, rfl, env, hdecode, hid, hkey, hverify⟩
  · rintro ⟨rfl, rfl, env, hdecode, hid, hkey, hverify⟩
    refine ⟨env, hdecode, ?_⟩
    rw [api.check_envelope_sender_eq_ok_iff.mpr ⟨hid, hkey⟩]
    exact verify_envelope_bytes_eq_ok_iff.mpr ⟨rfl, env, hdecode, hverify, rfl⟩

end witan.gossip

namespace witan.api

variable {crates : Crates}

theorem gossip_verify_envelope_from_lineage_eq_ok_iff {engine : GossipEngine crates} {stored : Option KeyLineage}
    {envelope_bytes lineage_bytes : Bytes} {now_ms : UInt64} {valid : Bool} {after : ApiState crates} :
    gossip_verify_envelope_from_lineage envelope_bytes lineage_bytes now_ms ⟨some engine, stored⟩ = .ok valid after ↔
      valid = true ∧ after = ⟨some engine.countReceived, stored⟩ ∧
        ∃ lineage env, KeyLineage.decode crates lineage_bytes = .ok lineage ∧
          envelope.decode_envelope crates envelope_bytes = .ok env ∧ env.sender_node_id = lineage.node_id ∧
          env.sender_public_key = lineage.current_sig_public_key ∧
          envelope.verify_envelope crates env engine.config now_ms = .ok true := by
  unfold gossip_verify_envelope_from_lineage onEngine
  simp only [attempt_bind_eq_ok_iff, with_engine_eq_ok_iff, onPart_eq_ok_iff, verify_envelope_from_lineage_eq_ok_iff]
  constructor
  · rintro ⟨lineage, hlineage, _, ⟨_, ⟨rfl, rfl, env, hdecode, hid, hkey, hverify⟩, rfl⟩, rfl⟩
    exact ⟨rfl, rfl, lineage, env, hlineage, hdecode, hid, hkey, hverify⟩
  · rintro ⟨rfl, rfl, lineage, env, hlineage, hdecode, hid, hkey, hverify⟩
    exact ⟨lineage, hlineage, _, ⟨_, ⟨rfl, rfl, env, hdecode, hid, hkey, hverify⟩, rfl⟩, rfl⟩

namespace reference

/-- Node 1 has rotated to the keys of node 2 and built an envelope with one byte. -/
structure Rotated (engine : GossipEngine reference.crates) (lineage : KeyLineage) (lineage_bytes : Bytes)
    (env : GossipEnvelope) : Prop where
  rotated :
    gossip_rotate_keys_under_id (reference.kemSeed 2) (reference.sigSeed 2) ephemeralRuntime none 0 (started 1) =
    .ok lineage_bytes ⟨some engine, some lineage⟩
  coherent : Coherent engine lineage
  config : engine.config = (startEngine 1).config
  node_id : engine.identity.node_id = (startEngine 1).identity.node_id
  current : HoldsCurrent (reference.nodeAt 2 ephemeralRuntime) lineage
  decode : KeyLineage.decode reference.crates lineage_bytes = .ok lineage
  built : envelope.build_envelope .BlockProposal (Vec.ofList [0]) engine.identity engine.config.default_ttl 0 = .ok env

theorem exists_rotated : ∃ engine lineage lineage_bytes env, Rotated engine lineage lineage_bytes env := by
  obtain ⟨lineage_bytes, after, hrotate⟩ := rotates ephemeralRuntime
  obtain ⟨lineage, hlineage, hid, hvalid, hencode, hsize⟩ :=
    (start_coherent 1).rotate_updated reference.signatureLengths hrotate
  have hdecode : KeyLineage.decode reference.crates lineage_bytes = .ok lineage := by
    refine (hvalid.decode_iff hencode).mpr ?_
    rw [hsize]
    decide +kernel
  obtain ⟨next, _, _, engine, lineage', hnext, _, hrotated, _, rfl⟩ :=
    gossip_rotate_keys_under_id_eq_ok_iff.mp hrotate
  obtain rfl : lineage' = lineage := Option.some.inj hlineage
  have hcoherent := (start_coherent 1).rotated hrotated
  obtain ⟨signature, hsign, _⟩ := engine.identity.sign_verifies reference.signatureCorrect
    (envelope.signing_input (envelope.unsigned .BlockProposal (Vec.ofList [0]) engine.identity
      engine.config.default_ttl 0)) SIG_CTX_MESSAGE (by decide)
  obtain ⟨_, _, hengine⟩ := rotate_keys_under_id_eq_ok_iff.mp hrotated
  have hconfig : engine.config = (startEngine 1).config := by rw [hengine]
  have hcurrent : HoldsCurrent next lineage' := .rotated (start_coherent 1) hrotated
  rw [← Except.ok.inj ((identity_from_seeds 2 _).symm.trans hnext)] at hcurrent
  exact ⟨engine, lineage', lineage_bytes, _, hrotate, hcoherent, hconfig, hcoherent.node_id.symm.trans hid, hcurrent,
    hdecode, envelope.build_envelope_eq_ok_iff.mpr ⟨signature, hsign, rfl⟩⟩

/-- The envelope passes wherever the defaults apply. -/
theorem Rotated.verified {engine : GossipEngine reference.crates} {lineage : KeyLineage} {lineage_bytes : Bytes}
    {env : GossipEnvelope} (h : Rotated engine lineage lineage_bytes env) :
    env.sender_node_id = lineage.node_id ∧ env.sender_public_key = lineage.current_sig_public_key ∧
      envelope.verify_envelope reference.crates env (startEngine 2).config 0 = .ok true := by
  have hverified : envelope.Verified reference.crates env (startEngine 2).config 0 := by
    refine (build_envelope_verified_iff reference.signatureCorrect h.built).mpr ⟨Nat.zero_le _, ?_, ?_⟩
    · rw [h.config]
      exact show (8 : UInt8) ≠ 0 by decide
    · exact show 1 ≤ 1048576 by decide
  obtain ⟨_, _, rfl⟩ := envelope.build_envelope_eq_ok_iff.mp h.built
  exact ⟨h.coherent.node_id.symm, h.coherent.sig_public_key.symm,
    envelope.verify_envelope_eq_ok_iff.mpr ⟨rfl, hverified⟩⟩

theorem sigPublicKey_ne : reference.sigPublicKey 1 ≠ reference.sigPublicKey 2 := by
  intro h
  have hhead : (reference.sigPublicKey 1).val.headD 0 = (reference.sigPublicKey 2).val.headD 0 := by rw [h]
  exact absurd hhead (by decide)

end reference

end witan.api
