import Witan.Api.Calls

open bincode fallible
open witan.types witan.error witan.identity witan.config witan.rotation witan.gossip

namespace witan.api

variable {crates : Crates}

/-- The lineage is a chain for the engine's id, and its current keys are the ones
    that the engine holds. -/
structure Coherent (engine : GossipEngine crates) (lineage : KeyLineage) : Prop where
  reachable : lineage.Reachable crates
  node_id : lineage.node_id = engine.identity.node_id
  sig_public_key : lineage.current_sig_public_key = engine.identity.sig_public_key_bytes
  kem_public_key : engine.identity.kem_public_key_canonical_bytes = .ok lineage.current_kem_public_key

/-- The component is initialized, and what it stores is coherent. -/
def Running (state : ApiState crates) : Prop :=
  ∃ engine lineage, state = ⟨some engine, some lineage⟩ ∧ Coherent engine lineage

variable {engine engine' : GossipEngine crates} {lineage : KeyLineage} {state : ApiState crates}

theorem Coherent.of_identity_eq (h : Coherent engine lineage) (hidentity : engine'.identity = engine.identity) :
    Coherent engine' lineage := by
  refine ⟨h.reachable, ?_, ?_, ?_⟩
  · rw [hidentity, h.node_id]
  · rw [hidentity, h.sig_public_key]
  · rw [hidentity, h.kem_public_key]

/-- A new lineage is coherent with the identity it was made from. -/
theorem Coherent.of_from_identity (h : KeyLineage.from_identity engine.identity = .ok lineage) :
    Coherent engine lineage := by
  obtain ⟨kem, hkem, hinception, hid⟩ := KeyLineage.from_identity_eq_ok_iff.mp h
  obtain ⟨_, _, rfl⟩ := KeyLineage.inception_eq_ok_iff.mp hinception
  exact ⟨.from_identity h, hid, rfl, hkem⟩

/-- A node that was restored or generated can start a lineage. -/
theorem from_identity_of_keypairs (hlengths : crates.KeyLengths) {kem_keypair : crates.HybridKemKeypair}
    {sig_keypair : crates.MlDsa65Keypair} {key_epoch : Str} {identity : NodeIdentity crates}
    (h : NodeIdentity.of_keypairs crates kem_keypair sig_keypair key_epoch = .ok identity) :
    ∃ lineage, KeyLineage.from_identity identity = .ok lineage := by
  obtain ⟨kem, hkem, rfl⟩ := NodeIdentity.of_keypairs_eq_ok_iff.mp h
  obtain ⟨kem', hkem', hlength⟩ := NodeIdentity.kem_public_key_canonical_bytes_length hlengths
    ⟨NodeIdentity.derive_node_id crates kem.val (crates.sig_public_key sig_keypair).val, kem_keypair, sig_keypair,
      key_epoch⟩
  obtain rfl : kem = kem' := Except.ok.inj (hkem.symm.trans hkem')
  exact ⟨_, KeyLineage.from_identity_eq_ok_iff.mpr ⟨kem, hkem,
    KeyLineage.inception_eq_ok_iff.mpr ⟨hlength, hlengths.sig sig_keypair, rfl⟩, rfl⟩⟩

section Steps

/-- An action on the engine that keeps its identity keeps the state coherent. -/
theorem Coherent.onEngine {α : Type} {f : EStateM GossipError (GossipEngine crates) α} (h : Coherent engine lineage)
    (hidentity : Leaves f engine (·.identity = engine.identity)) :
    Leaves (with_engine (api.onEngine f)) ⟨some engine, some lineage⟩ Running :=
  with_engine_leaves (.onPart ⟨_, lineage, rfl, h.of_identity_eq hidentity⟩)

theorem Coherent.query {α : Type} {answer : GossipEngine crates → Except GossipError α}
    (h : Coherent engine lineage) : Leaves (api.query answer) ⟨some engine, some lineage⟩ Running :=
  h.onEngine (.get_bind (.attempt rfl))

/-- Fresh keys start a fresh lineage. -/
theorem Coherent.rotate_keys (hlengths : crates.KeyLengths) (h : Coherent engine lineage)
    (kem_rng sig_rng : crates.OsRng) :
    Leaves (gossip_rotate_keys kem_rng sig_rng) ⟨some engine, some lineage⟩ Running := by
  unfold gossip_rotate_keys
  refine with_engine_leaves (.get_bind ?_)
  refine .bind_cases (.onPart ?_) ?_
  · intro error after hfail
    obtain rfl := rotate_keys_failsIn error after hfail
    exact ⟨_, lineage, rfl, h⟩
  · intro node_id middle hrotate
    obtain ⟨rotated, hrotated, rfl⟩ := onPart_eq_ok_iff.mp hrotate
    obtain ⟨identity, hgenerate, _, rfl⟩ := rotate_keys_eq_ok_iff.mp hrotated
    obtain ⟨kem_keypair, sig_keypair, hkeypairs⟩ := generate_eq_ok hgenerate
    obtain ⟨started, hstarted⟩ := from_identity_of_keypairs hlengths hkeypairs
    refine .get_bind (.attempt_ok_bind hstarted (.modify_bind (.pure ?_)))
    exact ⟨_, started, rfl, .of_from_identity hstarted⟩

/-- A rotation under the id extends the lineage by the keys that the engine takes
    over. -/
theorem Coherent.rotated {next : NodeIdentity crates} {commitment : Option Bytes32} {now_ms : UInt64}
    {r : KeyRotation} {lineage' : KeyLineage} (h : Coherent engine lineage)
    (hrotate : GossipEngine.rotate_keys_under_id next commitment now_ms (engine, lineage) =
      .ok r (engine', lineage')) : Coherent engine' lineage' := by
  obtain ⟨_, hrotated, rfl⟩ := rotate_keys_under_id_eq_ok_iff.mp hrotate
  have hreachable := h.reachable.rotate engine.identity next commitment now_ms
  rw [hrotated] at hreachable
  obtain ⟨kem, _, _, hkem, rfl, _, _, rfl⟩ :=
    KeyLineage.build_and_apply_eq_ok (KeyLineage.rotate_eq_ok hrotated).2
  exact ⟨hreachable, rfl, rfl, hkem⟩

theorem Coherent.rotate_keys_under_id (h : Coherent engine lineage) (kem_seed sig_seed : Bytes) (key_epoch : Str)
    (next_key_commitment : Option Bytes) (now_ms : UInt64) :
    Leaves (gossip_rotate_keys_under_id kem_seed sig_seed key_epoch next_key_commitment now_ms)
      ⟨some engine, some lineage⟩ Running := by
  have hrunning : Running ⟨some engine, some lineage⟩ := ⟨engine, lineage, rfl, h⟩
  unfold gossip_rotate_keys_under_id
  refine .attempt_bind hrunning fun next _ => .attempt_bind hrunning fun commitment _ => ?_
  refine with_engine_leaves (.get_bind (.attempt_bind hrunning fun stored hstored => ?_))
  obtain rfl : lineage = stored := Option.some.inj (orFail_eq_ok_iff.mp hstored)
  refine .bind_cases (.onPart (.onCopy ?_)) ?_
  · intro error after hfail
    rw [rotate_keys_under_id_failsIn error after hfail]
    exact hrunning
  · intro updated middle hrotate
    obtain ⟨rotated, hcopy, rfl⟩ := onPart_eq_ok_iff.mp hrotate
    obtain ⟨r, hrotated⟩ := onCopy_eq_ok_iff.mp hcopy
    -- The encoding cannot fail, so the engine never runs ahead of the lineage.
    refine .attempt_ok_bind rfl (.modify_bind (.pure ?_))
    exact ⟨rotated, updated, rfl, h.rotated hrotated⟩

/-- Once the component is initialized, it cannot be initialized again. -/
theorem Coherent.init (h : Coherent engine lineage) (config_json : String) (kem_rng sig_rng : crates.OsRng) :
    Leaves (gossip_init config_json kem_rng sig_rng) ⟨some engine, some lineage⟩ Running := by
  unfold gossip_init
  refine .get_bind (.attempt_bind ⟨engine, lineage, rfl, h⟩ fun _ hunset => ?_)
  exact absurd rfl (failIf_eq_ok_iff.mp hunset)

theorem Coherent.init_with_lineage (h : Coherent engine lineage) (config_json : String) (lineage_bytes : Bytes) :
    Leaves (gossip_init_with_lineage config_json lineage_bytes) ⟨some engine, some lineage⟩ Running := by
  unfold gossip_init_with_lineage
  refine .get_bind (.attempt_bind ⟨engine, lineage, rfl, h⟩ fun _ hunset => ?_)
  exact absurd rfl (failIf_eq_ok_iff.mp hunset)

/-- Every call keeps engine and lineage coherent, whether it succeeds or not. -/
theorem Running.run (hlengths : crates.KeyLengths) (h : Running state) (call : ApiCall crates) :
    Running (call.run state) := by
  obtain ⟨engine, lineage, rfl, hcoherent⟩ := h
  have hstate : Running ⟨some engine, some lineage⟩ := ⟨engine, lineage, rfl, hcoherent⟩
  have hop (op : EngineOp crates) : (op.run engine).identity = engine.identity := op.run_identity engine
  cases call with
  | gossip_init config_json kem_rng sig_rng => exact hcoherent.init config_json kem_rng sig_rng
  | gossip_init_with_lineage config_json lineage_bytes =>
    exact hcoherent.init_with_lineage config_json lineage_bytes
  | gossip_publish payload_type payload now_ms => exact hcoherent.onEngine (hop (.publish _ _ _))
  | gossip_connect_peer peer_addr getrandom now_ms => exact hcoherent.onEngine (hop (.connect_peer _ _ _))
  | gossip_disconnect_peer peer_addr => exact hcoherent.onEngine (hop (.disconnect_peer _))
  | gossip_get_peers order => exact hcoherent.query
  | gossip_get_node_identity => exact hcoherent.query
  | gossip_verify_envelope envelope_bytes now_ms =>
    exact hcoherent.onEngine (hop (.verify_envelope_bytes _ _))
  | gossip_encode_envelope payload_type payload now_ms =>
    exact hcoherent.onEngine (hop (.encode_envelope _ _ _))
  | gossip_decode_envelope bytes => exact hcoherent.query
  | gossip_get_stats order now_ms =>
    exact hcoherent.onEngine (.modify_bind (.get_bind (.attempt (hop (.heartbeat order now_ms)))))
  | gossip_process_handshake_bytes peer_addr bytes getrandom rng now_ms =>
    exact hcoherent.onEngine (hop (.process_handshake_bytes _ _ _ _ _))
  | gossip_build_handshake_ack peer_addr probe_bytes getrandom now_ms =>
    exact hcoherent.onEngine (hop (.build_handshake_ack _ _ _ _))
  | gossip_build_finish_ack peer_addr finish_bytes now_ms =>
    exact hcoherent.onEngine (hop (.build_finish_ack _ _ _))
  | gossip_get_session peer_addr => exact hcoherent.query
  | gossip_rotate_keys kem_rng sig_rng => exact hcoherent.rotate_keys hlengths kem_rng sig_rng
  | gossip_rotate_keys_under_id kem_seed sig_seed key_epoch next_key_commitment now_ms =>
    exact hcoherent.rotate_keys_under_id kem_seed sig_seed key_epoch next_key_commitment now_ms
  | gossip_get_key_lineage => exact hstate
  | gossip_verify_envelope_from_lineage envelope_bytes lineage_bytes now_ms =>
    refine Leaves.attempt_bind hstate fun checked _ => ?_
    exact hcoherent.onEngine (hop (.verify_envelope_from_lineage checked _ _))
  | gossip_recover_lineage lineage_bytes kem_seed sig_seed key_epoch next_key_commitment now_ms => exact hstate
  | gossip_verify_key_lineage lineage_bytes => exact hstate
  | gossip_key_commitment sig_seed => exact hstate
  | gossip_verify_signature public_key_bytes message signature context => exact hstate

theorem Running.runAll (hlengths : crates.KeyLengths) (h : Running state) (calls : List (ApiCall crates)) :
    Running (ApiCall.runAll calls state) := by
  induction calls generalizing state with
  | nil => exact h
  | cons call calls ih => exact ih (h.run hlengths call)

end Steps

/-- The component was initialized, in either way. -/
def Initializes (before start : ApiState crates) : Prop :=
  (∃ config_json kem_rng sig_rng, gossip_init config_json kem_rng sig_rng before = .ok () start) ∨
    ∃ config_json lineage_bytes, gossip_init_with_lineage config_json lineage_bytes before = .ok () start

theorem Initializes.running {before start : ApiState crates} (h : Initializes before start) : Running start := by
  rcases h with ⟨config_json, kem_rng, sig_rng, hinit⟩ | ⟨config_json, lineage_bytes, hinit⟩
  · obtain ⟨resolved, identity, lineage, hlineage, rfl⟩ := gossip_init_eq_ok hinit
    exact ⟨_, lineage, rfl, .of_from_identity hlineage⟩
  · obtain ⟨_, resolved, identity, lineage, _, hdecode, hcurrent, rfl⟩ :=
      gossip_init_with_lineage_eq_ok_iff.mp hinit
    exact ⟨_, lineage, rfl, .decode hdecode, rfl, hcurrent.sig_public_key.symm, hcurrent.kem_public_key⟩

theorem check_envelope_sender_eq_ok_iff {env : GossipEnvelope} :
    lineage.check_envelope_sender env = .ok () ↔
      env.sender_node_id = lineage.node_id ∧ env.sender_public_key = lineage.current.sig_public_key := by
  unfold KeyLineage.check_envelope_sender
  simp only [except_bind_eq_ok_iff, failIf_eq_ok_iff, not_not, exists_const]

/-- An envelope that the engine encodes names the engine as its sender. -/
theorem Coherent.encoded_sender {payload_type : UInt8} {payload : ByteVec} {now_ms : UInt64} {bytes : Bytes}
    {after : ApiState crates} (h : Coherent engine lineage)
    (hencode : gossip_encode_envelope payload_type payload now_ms ⟨some engine, some lineage⟩ = .ok bytes after) :
    ∃ env, envelope.decode_envelope crates bytes = .ok env ∧ lineage.check_envelope_sender env = .ok () := by
  obtain ⟨new, hengine, _⟩ := with_engine_eq_ok_iff.mp hencode
  obtain ⟨_, hrun, _⟩ := onPart_eq_ok_iff.mp hengine
  obtain ⟨_, env, _, hbuild, rfl, _⟩ := encode_envelope_eq_ok_iff.mp hrun
  refine ⟨env, envelope.decode_envelope_encode crates env, ?_⟩
  obtain ⟨signature, _, rfl⟩ := envelope.build_envelope_eq_ok_iff.mp hbuild
  exact check_envelope_sender_eq_ok_iff.mpr ⟨h.node_id.symm, h.sig_public_key.symm⟩

/-- Engine and lineage stay coherent: after an initialization and any calls, the
    stored lineage has the engine's id and its current keys are the engine's, so the
    engine's envelopes pass the sender check against it. -/
theorem engine_and_lineage_coherent (hlengths : crates.KeyLengths) {before start : ApiState crates}
    (hinit : Initializes before start) (calls : List (ApiCall crates)) :
    ∃ engine lineage, ApiCall.runAll calls start = ⟨some engine, some lineage⟩ ∧
      lineage.node_id = engine.identity.node_id ∧
      lineage.current_sig_public_key = engine.identity.sig_public_key_bytes ∧
      engine.identity.kem_public_key_canonical_bytes = .ok lineage.current_kem_public_key ∧
      ∀ payload_type payload now_ms bytes after,
        gossip_encode_envelope payload_type payload now_ms (ApiCall.runAll calls start) = .ok bytes after →
          ∃ env, envelope.decode_envelope crates bytes = .ok env ∧ lineage.check_envelope_sender env = .ok () := by
  obtain ⟨engine, lineage, hstate, hcoherent⟩ := hinit.running.runAll hlengths calls
  refine ⟨engine, lineage, hstate, hcoherent.node_id, hcoherent.sig_public_key, hcoherent.kem_public_key, ?_⟩
  intro payload_type payload now_ms bytes after hencode
  rw [hstate] at hencode
  exact hcoherent.encoded_sender hencode

namespace reference

/-! A node that was started from the seeds of a key. -/

def startEngine (key : UInt8) : GossipEngine reference.crates :=
  .new (reference.resolved key) (reference.nodeAt key (reference.resolved key).key_epoch)

def startLineage (key : UInt8) : KeyLineage := reference.lineageAt key (reference.resolved key).key_epoch

def started (key : UInt8) : ApiState reference.crates := ⟨some (startEngine key), some (startLineage key)⟩

theorem start_coherent (key : UInt8) : Coherent (startEngine key) (startLineage key) :=
  .of_from_identity (reference.from_identity_nodeAt key _)

theorem init_started (key : UInt8) :
    gossip_init (hex.encodeString [key]) (0 : UInt8) (0 : UInt8) .fresh = .ok () (started key) := by
  have hrestores : Restores reference.crates (hex.encodeString [key]) (reference.resolved key)
      (reference.nodeAt key (reference.resolved key).key_epoch) :=
    ⟨reference.config key, _, _, reference.from_json_text key, reference.resolve_config key, rfl, rfl,
      reference.from_seeds_eq key _⟩
  exact hrestores.gossip_init_eq_ok (reference.from_identity_nodeAt key _) _ _

end reference

theorem engine_and_lineage_coherent_reference :
    Initializes .fresh (reference.started 1) ∧
      ∃ engine lineage,
        ApiCall.runAll [.gossip_rotate_keys (2 : UInt8) (3 : UInt8), .gossip_get_key_lineage]
          (reference.started 1) = ⟨some engine, some lineage⟩ ∧ lineage.node_id = engine.identity.node_id := by
  have hinit : Initializes .fresh (reference.started 1) := .inl ⟨_, _, _, reference.init_started 1⟩
  refine ⟨hinit, ?_⟩
  obtain ⟨engine, lineage, hstate, hid, _⟩ := engine_and_lineage_coherent reference.keyLengths hinit
    [.gossip_rotate_keys (2 : UInt8) (3 : UInt8), .gossip_get_key_lineage]
  exact ⟨engine, lineage, hstate, hid⟩

end witan.api
