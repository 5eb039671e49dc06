import Witan.Api
import Witan.Gossip.Runs
import Witan.Rotation.Reachability

open bincode fallible
open witan.types witan.error witan.identity witan.config witan.rotation witan.gossip

namespace witan.api

variable {crates : Crates}

/-- The calls of the API, with the randomness and the time they draw. -/
inductive ApiCall (crates : Crates) where
  | gossip_init (config_json : String) (kem_rng sig_rng : crates.OsRng)
  | gossip_init_with_lineage (config_json : String) (lineage_bytes : Bytes)
  | gossip_publish (payload_type : UInt8) (payload : ByteVec) (now_ms : UInt64)
  | gossip_connect_peer (peer_addr : Str) (getrandom : Except String Bytes32) (now_ms : UInt64)
  | gossip_disconnect_peer (peer_addr : Str)
  | gossip_get_peers (order : IterationOrder)
  | gossip_get_node_identity
  | gossip_verify_envelope (envelope_bytes : Bytes) (now_ms : UInt64)
  | gossip_encode_envelope (payload_type : UInt8) (payload : ByteVec) (now_ms : UInt64)
  | gossip_decode_envelope (bytes : Bytes)
  | gossip_get_stats (order : IterationOrder) (now_ms : UInt64)
  | gossip_process_handshake_bytes (peer_addr : Str) (bytes : Bytes) (getrandom : Except String Bytes32)
      (rng : crates.OsRng) (now_ms : UInt64)
  | gossip_build_handshake_ack (peer_addr : Str) (probe_bytes : Bytes) (getrandom : Except String Bytes32)
      (now_ms : UInt64)
  | gossip_build_finish_ack (peer_addr : Str) (finish_bytes : Bytes) (now_ms : UInt64)
  | gossip_get_session (peer_addr : Str)
  | gossip_rotate_keys (kem_rng sig_rng : crates.OsRng)
  | gossip_rotate_keys_under_id (kem_seed sig_seed : Bytes) (key_epoch : Str) (next_key_commitment : Option Bytes)
      (now_ms : UInt64)
  | gossip_get_key_lineage
  | gossip_verify_envelope_from_lineage (envelope_bytes lineage_bytes : Bytes) (now_ms : UInt64)
  | gossip_recover_lineage (lineage_bytes kem_seed sig_seed : Bytes) (key_epoch : Str)
      (next_key_commitment : Option Bytes) (now_ms : UInt64)
  | gossip_verify_key_lineage (lineage_bytes : Bytes)
  | gossip_key_commitment (sig_seed : Bytes)
  | gossip_verify_signature (public_key_bytes : ByteVec) (message : Bytes) (signature : ByteVec) (context : Bytes)

namespace ApiCall

/-- The state after a call, whether it succeeded or not. The last four calls are
    pure functions. -/
def run : ApiCall crates → ApiState crates → ApiState crates
  | gossip_init config_json kem_rng sig_rng, state => final (api.gossip_init config_json kem_rng sig_rng state)
  | gossip_init_with_lineage config_json lineage_bytes, state =>
    final (api.gossip_init_with_lineage config_json lineage_bytes state)
  | gossip_publish payload_type payload now_ms, state =>
    final (api.gossip_publish payload_type payload now_ms state)
  | gossip_connect_peer peer_addr getrandom now_ms, state =>
    final (api.gossip_connect_peer peer_addr getrandom now_ms state)
  | gossip_disconnect_peer peer_addr, state => final (api.gossip_disconnect_peer peer_addr state)
  | gossip_get_peers order, state => final (api.gossip_get_peers order state)
  | gossip_get_node_identity, state => final (api.gossip_get_node_identity state)
  | gossip_verify_envelope envelope_bytes now_ms, state =>
    final (api.gossip_verify_envelope envelope_bytes now_ms state)
  | gossip_encode_envelope payload_type payload now_ms, state =>
    final (api.gossip_encode_envelope payload_type payload now_ms state)
  | gossip_decode_envelope bytes, state => final (api.gossip_decode_envelope bytes state)
  | gossip_get_stats order now_ms, state => final (api.gossip_get_stats order now_ms state)
  | gossip_process_handshake_bytes peer_addr bytes getrandom rng now_ms, state =>
    final (api.gossip_process_handshake_bytes peer_addr bytes getrandom rng now_ms state)
  | gossip_build_handshake_ack peer_addr probe_bytes getrandom now_ms, state =>
    final (api.gossip_build_handshake_ack peer_addr probe_bytes getrandom now_ms state)
  | gossip_build_finish_ack peer_addr finish_bytes now_ms, state =>
    final (api.gossip_build_finish_ack peer_addr finish_bytes now_ms state)
  | gossip_get_session peer_addr, state => final (api.gossip_get_session peer_addr state)
  | gossip_rotate_keys kem_rng sig_rng, state => final (api.gossip_rotate_keys kem_rng sig_rng state)
  | gossip_rotate_keys_under_id kem_seed sig_seed key_epoch next_key_commitment now_ms, state =>
    final (api.gossip_rotate_keys_under_id kem_seed sig_seed key_epoch next_key_commitment now_ms state)
  | gossip_get_key_lineage, state => final (api.gossip_get_key_lineage state)
  | gossip_verify_envelope_from_lineage envelope_bytes lineage_bytes now_ms, state =>
    final (api.gossip_verify_envelope_from_lineage envelope_bytes lineage_bytes now_ms state)
  | gossip_recover_lineage _ _ _ _ _ _, state => state
  | gossip_verify_key_lineage _, state => state
  | gossip_key_commitment _, state => state
  | gossip_verify_signature _ _ _ _, state => state

/-- The state after a sequence of calls. -/
def runAll (calls : List (ApiCall crates)) (state : ApiState crates) : ApiState crates :=
  calls.foldl (fun state call => call.run state) state

end ApiCall

section Rules

variable {engine : GossipEngine crates} {lineage : Option KeyLineage} {condition : ApiState crates → Prop}

theorem with_engine_leaves {α : Type} {f : EStateM GossipError (GossipEngine crates × Option KeyLineage) α}
    (h : Leaves f (engine, lineage) fun after => condition ⟨some after.1, after.2⟩) :
    Leaves (with_engine f) ⟨some engine, lineage⟩ condition := by
  unfold Leaves at h ⊢
  unfold with_engine
  dsimp only
  cases hresult : f (engine, lineage) with
  | ok value after =>
    rw [hresult] at h
    exact h
  | error error after =>
    rw [hresult] at h
    exact h

theorem with_engine_eq_ok_iff {α : Type} {f : EStateM GossipError (GossipEngine crates × Option KeyLineage) α}
    {after : ApiState crates} {value : α} :
    with_engine f ⟨some engine, lineage⟩ = .ok value after ↔
      ∃ new, f (engine, lineage) = .ok value new ∧ after = ⟨some new.1, new.2⟩ := by
  unfold with_engine
  dsimp only
  cases f (engine, lineage) with
  | ok answer new => simp [eq_comm, and_assoc]
  | error error new => simp

theorem with_engine_onEngine_ok {α : Type} {f : EStateM GossipError (GossipEngine crates) α} {value : α}
    {after : GossipEngine crates} (h : f engine = .ok value after) :
    with_engine (onEngine f) ⟨some engine, lineage⟩ = .ok value ⟨some after, lineage⟩ :=
  with_engine_eq_ok_iff.mpr ⟨_, onPart_eq_ok_iff.mpr ⟨after, h, rfl⟩, rfl⟩

theorem with_engine_onEngine_error {α : Type} {f : EStateM GossipError (GossipEngine crates) α} {error : GossipError}
    {after : GossipEngine crates} (h : f engine = .error error after) :
    with_engine (onEngine f) ⟨some engine, lineage⟩ = .error error ⟨some after, lineage⟩ := by
  unfold with_engine onEngine onPart
  dsimp only
  rw [h]

end Rules

section Init

variable {before start : ApiState crates} {config_json : String}

theorem install_eq_ok_iff {resolved : ResolvedConfig} {identity : NodeIdentity crates} {lineage : KeyLineage} :
    install resolved identity lineage before = .ok () start ↔
      before.gossip_state = none ∧ start = ⟨some (.new resolved identity), some lineage⟩ := by
  unfold install
  simp only [get_bind, attempt_bind_eq_ok_iff, failIf_eq_ok_iff, set_bind, Option.not_isSome_iff_eq_none,
    exists_const]
  exact and_congr_right fun _ => ⟨fun h => by cases h; rfl, fun h => by rw [h]; rfl⟩

theorem gossip_init_eq_ok {kem_rng sig_rng : crates.OsRng}
    (h : gossip_init config_json kem_rng sig_rng before = .ok () start) :
    ∃ resolved identity lineage, KeyLineage.from_identity identity = .ok lineage ∧
      start = ⟨some (.new resolved identity), some lineage⟩ := by
  unfold gossip_init at h
  simp only [get_bind, attempt_bind_eq_ok_iff, install_eq_ok_iff] at h
  obtain ⟨_, _, _, _, resolved, _, identity, _, lineage, hlineage, _, hstart⟩ := h
  exact ⟨resolved, identity, lineage, hlineage, hstart⟩

/-- The configuration carries the seeds of both keys, and they restore the identity. -/
def Restores (crates : Crates) (config_json : String) (resolved : ResolvedConfig)
    (identity : NodeIdentity crates) : Prop :=
  ∃ config kem_seed sig_seed, GossipConfig.from_json crates config_json = .ok config ∧
    config.resolve crates = .ok resolved ∧ resolved.kem_seed = some kem_seed ∧
    resolved.sig_seed = some sig_seed ∧ restore crates resolved kem_seed sig_seed = .ok identity

/-- Initializing from the seeds starts the lineage of the identity they restore. -/
theorem Restores.gossip_init_eq_ok {resolved : ResolvedConfig} {identity : NodeIdentity crates} {lineage : KeyLineage}
    (h : Restores crates config_json resolved identity) (hlineage : KeyLineage.from_identity identity = .ok lineage)
    (kem_rng sig_rng : crates.OsRng) :
    gossip_init config_json kem_rng sig_rng .fresh = .ok () ⟨some (.new resolved identity), some lineage⟩ := by
  obtain ⟨config, kem_seed, sig_seed, hparsed, hresolved, hkem_seed, hsig_seed, hidentity⟩ := h
  unfold gossip_init
  simp only [get_bind, attempt_bind_eq_ok_iff, install_eq_ok_iff]
  refine ⟨(), rfl, config, hparsed, resolved, hresolved, identity, ?_, lineage, hlineage, rfl, rfl⟩
  rw [hkem_seed, hsig_seed]
  exact hidentity

/-- The identity's keys are the lineage's current ones. -/
structure HoldsCurrent (identity : NodeIdentity crates) (lineage : KeyLineage) : Prop where
  sig_public_key : identity.sig_public_key_bytes = lineage.current_sig_public_key
  kem_public_key : identity.kem_public_key_canonical_bytes = .ok lineage.current_kem_public_key

/-- Initializing with a lineage works exactly if nothing is initialized yet, the
    lineage decodes, and the seeds are those of its current keys. -/
theorem gossip_init_with_lineage_eq_ok_iff {lineage_bytes : Bytes} :
    gossip_init_with_lineage config_json lineage_bytes before = .ok () start ↔
      before.gossip_state = none ∧ ∃ resolved identity lineage, Restores crates config_json resolved identity ∧
        KeyLineage.decode crates lineage_bytes = .ok lineage ∧ HoldsCurrent identity lineage ∧
        start = ⟨some (.new resolved { identity with node_id := lineage.node_id }), some lineage⟩ := by
  unfold gossip_init_with_lineage
  simp only [get_bind, attempt_bind_eq_ok_iff, install_eq_ok_iff, failIf_eq_ok_iff, not_not,
    Option.not_isSome_iff_eq_none, exists_const]
  constructor
  · rintro ⟨hfresh, config, hparsed, resolved, hresolved, identity, hidentity, lineage, hdecode, hsig, kem, hkem,
      rfl, _, rfl⟩
    refine ⟨hfresh, resolved, identity, lineage, ?_, hdecode, ⟨hsig, hkem⟩, rfl⟩
    split at hidentity
    · next kem_seed sig_seed hkem_seed hsig_seed =>
      exact ⟨config, kem_seed, sig_seed, hparsed, hresolved, hkem_seed, hsig_seed, hidentity⟩
    · cases hidentity
  · rintro ⟨hfresh, resolved, identity, lineage, ⟨config, kem_seed, sig_seed, hparsed, hresolved, hkem_seed,
      hsig_seed, hidentity⟩, hdecode, hcurrent, rfl⟩
    refine ⟨hfresh, config, hparsed, resolved, hresolved, identity, ?_, lineage, hdecode,
      hcurrent.sig_public_key, _, hcurrent.kem_public_key, rfl, hfresh, rfl⟩
    rw [hkem_seed, hsig_seed]
    exact hidentity

end Init

end witan.api
