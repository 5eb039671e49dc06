import Witan.Gossip.Operations

open bincode fallible
open witan.types witan.error witan.identity witan.config witan.rotation witan.gossip

namespace witan.api

/-- The global state: the engine, once it is initialized, and beside it this node's
    key lineage. -/
structure ApiState (crates : Crates) where
  gossip_state : Option (GossipEngine crates)
  lineage : Option KeyLineage

variable {crates : Crates}

/-- The state of a process that has not initialized the component. -/
def ApiState.fresh : ApiState crates := ⟨none, none⟩

/-- Run an action on the engine, which may use the lineage too. -/
def with_engine {α : Type} (f : EStateM GossipError (GossipEngine crates × Option KeyLineage) α) :
    EStateM GossipError (ApiState crates) α := fun state =>
  match state.gossip_state with
  | none => .error .NotInitialized state
  | some engine =>
    match f (engine, state.lineage) with
    | .ok value (engine, lineage) => .ok value ⟨some engine, lineage⟩
    | .error e (engine, lineage) => .error e ⟨some engine, lineage⟩

def with_lineage {α : Type} (f : EStateM GossipError (Option KeyLineage) α) :
    EStateM GossipError (ApiState crates) α :=
  onPart (·.lineage) (fun state lineage => { state with lineage }) f

/-- An action that uses the engine alone. -/
def onEngine {α : Type} (f : EStateM GossipError (GossipEngine crates) α) :
    EStateM GossipError (GossipEngine crates × Option KeyLineage) α :=
  onPart Prod.fst (fun state engine => (engine, state.2)) f

/-- Store engine and lineage. -/
def install (resolved : ResolvedConfig) (identity : NodeIdentity crates) (lineage : KeyLineage) :
    EStateM GossipError (ApiState crates) Unit := do
  let state ← get
  attempt (failIf (state.gossip_state.isSome = true) .AlreadyInitialized)
  set { state with gossip_state := some (GossipEngine.new resolved identity) }
  with_lineage (set (some lineage))

/-- The identity that the seeds of a configuration restore. -/
def restore (crates : Crates) (resolved : ResolvedConfig) (kem_seed : ByteArr 96) (sig_seed : ByteArr 32) :
    Except GossipError (NodeIdentity crates) :=
  NodeIdentity.from_seeds crates (kem_seed.val.take 32) (kem_seed.val.drop 32) sig_seed.val resolved.key_epoch

/-- Initialize the component: generate or restore the identity. -/
def gossip_init (config_json : String) (kem_rng sig_rng : crates.OsRng) :
    EStateM GossipError (ApiState crates) Unit := do
  let state ← get
  attempt (failIf (state.gossip_state.isSome = true) .AlreadyInitialized)
  let config ← attempt (GossipConfig.from_json crates config_json)
  let resolved ← attempt (config.resolve crates)
  let identity ← attempt (match resolved.kem_seed, resolved.sig_seed with
    | some kem_seed, some sig_seed => restore crates resolved kem_seed sig_seed
    | _, _ => NodeIdentity.generate crates resolved.key_epoch kem_rng sig_rng)
  let lineage ← attempt (KeyLineage.from_identity identity)
  install resolved identity lineage

/-- Initialize a node that has rotated keys under a stable id. -/
def gossip_init_with_lineage (config_json : String) (lineage_bytes : Bytes) :
    EStateM GossipError (ApiState crates) Unit := do
  let state ← get
  attempt (failIf (state.gossip_state.isSome = true) .AlreadyInitialized)
  let config ← attempt (GossipConfig.from_json crates config_json)
  let resolved ← attempt (config.resolve crates)
  let identity ← attempt (match resolved.kem_seed, resolved.sig_seed with
    | some kem_seed, some sig_seed => restore crates resolved kem_seed sig_seed
    | _, _ => .error (.ConfigError
        "gossip_init_with_lineage needs kem_seed_hex and sig_seed_hex for the current keys"))
  let lineage ← attempt (KeyLineage.decode crates lineage_bytes)
  let notCurrent : GossipError := .IdentityError
    s!"seeds are not the current keys of lineage {lineage.node_id} (sequence {lineage.sequence})"
  attempt (failIf (identity.sig_public_key_bytes ≠ lineage.current_sig_public_key) notCurrent)
  let kem_public_key ← attempt identity.kem_public_key_canonical_bytes
  attempt (failIf (kem_public_key ≠ lineage.current_kem_public_key) notCurrent)
  install resolved { identity with node_id := lineage.node_id } lineage

def gossip_publish (payload_type : UInt8) (payload : ByteVec) (now_ms : UInt64) :
    EStateM GossipError (ApiState crates) Bytes32 :=
  with_engine (onEngine (GossipEngine.publish payload_type payload now_ms))

def gossip_connect_peer (peer_addr : Str) (getrandom : Except String Bytes32) (now_ms : UInt64) :
    EStateM GossipError (ApiState crates) Bytes :=
  with_engine (onEngine (GossipEngine.connect_peer peer_addr getrandom now_ms))

def gossip_disconnect_peer (peer_addr : Str) : EStateM GossipError (ApiState crates) Unit :=
  with_engine (onEngine (GossipEngine.disconnect_peer peer_addr))

/-- An answer that is read off the engine. -/
def query {α : Type} (answer : GossipEngine crates → Except GossipError α) :
    EStateM GossipError (ApiState crates) α :=
  with_engine (onEngine do
    let engine ← get
    attempt (answer engine))

def gossip_get_peers (order : IterationOrder) : EStateM GossipError (ApiState crates) Str :=
  query fun engine => engine.get_peers_json (order.sessions _)

def gossip_get_node_identity : EStateM GossipError (ApiState crates) Str :=
  query (·.get_node_identity_json)

def gossip_verify_envelope (envelope_bytes : Bytes) (now_ms : UInt64) : EStateM GossipError (ApiState crates) Bool :=
  with_engine (onEngine (GossipEngine.verify_envelope_bytes envelope_bytes now_ms))

def gossip_encode_envelope (payload_type : UInt8) (payload : ByteVec) (now_ms : UInt64) :
    EStateM GossipError (ApiState crates) Bytes :=
  with_engine (onEngine (GossipEngine.encode_envelope payload_type payload now_ms))

def gossip_decode_envelope (bytes : Bytes) : EStateM GossipError (ApiState crates) Str :=
  query fun _ => GossipEngine.decode_envelope_to_json crates bytes

/-- Get runtime statistics, after a heartbeat. -/
def gossip_get_stats (order : IterationOrder) (now_ms : UInt64) : EStateM GossipError (ApiState crates) Str :=
  with_engine (onEngine do
    modify (·.heartbeat order now_ms)
    let engine ← get
    attempt engine.get_stats_json)

def gossip_process_handshake_bytes (peer_addr : Str) (bytes : Bytes) (getrandom : Except String Bytes32)
    (rng : crates.OsRng) (now_ms : UInt64) : EStateM GossipError (ApiState crates) (Option Bytes) :=
  with_engine (onEngine (GossipEngine.process_handshake_bytes peer_addr bytes getrandom rng now_ms))

def gossip_build_handshake_ack (peer_addr : Str) (probe_bytes : Bytes) (getrandom : Except String Bytes32)
    (now_ms : UInt64) : EStateM GossipError (ApiState crates) Bytes :=
  with_engine (onEngine (GossipEngine.build_handshake_ack peer_addr probe_bytes getrandom now_ms))

def gossip_build_finish_ack (peer_addr : Str) (finish_bytes : Bytes) (now_ms : UInt64) :
    EStateM GossipError (ApiState crates) Bytes :=
  with_engine (onEngine (GossipEngine.build_finish_ack peer_addr finish_bytes now_ms))

def gossip_get_session (peer_addr : Str) : EStateM GossipError (ApiState crates) Str :=
  query (·.get_session_json peer_addr)

/-- Rotate to fresh keys under a new id, which starts a new lineage. -/
def gossip_rotate_keys (kem_rng sig_rng : crates.OsRng) : EStateM GossipError (ApiState crates) Str :=
  with_engine do
    let (engine, _) ← get
    let node_id ← onEngine (GossipEngine.rotate_keys engine.config.key_epoch kem_rng sig_rng)
    let (engine, _) ← get
    let lineage ← attempt (KeyLineage.from_identity engine.identity)
    modify fun (engine, _) => (engine, some lineage)
    return node_id

/-- The identity that seeds of the right sizes produce. -/
def identity_from_seed_bytes (crates : Crates) (kem_seed sig_seed : Bytes) (key_epoch : Str) :
    Except GossipError (NodeIdentity crates) := do
  failIf (kem_seed.length ≠ 96) (.InvalidInput s!"kem_seed must be 96 bytes, got {kem_seed.length}")
  failIf (sig_seed.length ≠ 32) (.InvalidInput s!"sig_seed must be 32 bytes, got {sig_seed.length}")
  NodeIdentity.from_seeds crates (kem_seed.take 32) (kem_seed.drop 32) sig_seed key_epoch

def parse_commitment : Option Bytes → Except GossipError (Option Bytes32)
  | none => .ok none
  | some b =>
    if h : b.length = 32 then .ok (some ⟨b, h⟩)
    else .error (.InvalidInput s!"next_key_commitment must be 32 bytes, got {b.length}")

/-- Rotate to the keys that the seeds produce, keeping this node's id. Works on a
    copy of the lineage, so a failed rotation leaves the stored one intact. -/
def gossip_rotate_keys_under_id (kem_seed sig_seed : Bytes) (key_epoch : Str)
    (next_key_commitment : Option Bytes) (now_ms : UInt64) : EStateM GossipError (ApiState crates) Bytes := do
  let next ← attempt (identity_from_seed_bytes crates kem_seed sig_seed key_epoch)
  let commitment ← attempt (parse_commitment next_key_commitment)
  with_engine do
    let (_, stored) ← get
    let lineage ← attempt (orFail stored .NotInitialized)
    let updated ← onEngine (onCopy lineage (GossipEngine.rotate_keys_under_id next commitment now_ms))
    let bytes ← attempt updated.encode
    modify fun (engine, _) => (engine, some updated)
    return bytes

/-- Extend a lineage to the pre-committed keys without the current key. -/
def gossip_recover_lineage (crates : Crates) (lineage_bytes kem_seed sig_seed : Bytes) (key_epoch : Str)
    (next_key_commitment : Option Bytes) (now_ms : UInt64) : Except GossipError Bytes := do
  let lineage ← KeyLineage.decode crates lineage_bytes
  let next ← identity_from_seed_bytes crates kem_seed sig_seed key_epoch
  let commitment ← parse_commitment next_key_commitment
  match KeyLineage.recover next commitment now_ms lineage with
  | .ok _ lineage => lineage.encode
  | .error e _ => .error e

def gossip_get_key_lineage : EStateM GossipError (ApiState crates) Bytes :=
  with_lineage do
    let stored ← get
    let lineage ← attempt (orFail stored .NotInitialized)
    attempt lineage.encode

/-- Verify an encoded lineage and summarize its current state. -/
def gossip_verify_key_lineage (crates : Crates) (lineage_bytes : Bytes) : Except GossipError Str := do
  let lineage ← KeyLineage.decode crates lineage_bytes
  GossipEngine.to_json crates (.object [
    ("node_id", .string lineage.node_id.val),
    ("sequence", .number lineage.sequence.toNat),
    ("sig_public_key_hex", .string (hex.encodeString lineage.current_sig_public_key.val)),
    ("kem_public_key_hex", .string (hex.encodeString lineage.current_kem_public_key.val)),
    ("key_epoch", .string lineage.current_key_epoch.val),
    ("next_key_commitment_hex", match lineage.next_key_commitment with
      | some commitment => .string (hex.encodeString commitment.val)
      | none => .null)])

def gossip_verify_envelope_from_lineage (envelope_bytes lineage_bytes : Bytes) (now_ms : UInt64) :
    EStateM GossipError (ApiState crates) Bool := do
  let lineage ← attempt (KeyLineage.decode crates lineage_bytes)
  with_engine (onEngine (GossipEngine.verify_envelope_from_lineage lineage envelope_bytes now_ms))

/-- Commitment to the signing key that a seed produces. -/
def gossip_key_commitment (crates : Crates) (sig_seed : Bytes) : Except GossipError Bytes32 :=
  key_commitment_for_seed crates sig_seed

def gossip_verify_signature (crates : Crates) (public_key_bytes : ByteVec) (message : Bytes) (signature : ByteVec)
    (context : Bytes) : Except GossipError Bool :=
  NodeIdentity.verify_external crates public_key_bytes message signature context

end witan.api
