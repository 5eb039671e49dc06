import Witan.Dedup
import Witan.Envelope
import Witan.Handshake
import Witan.Quorum
import Witan.Rotation.Lineage

open Std (ExtHashMap)
open bincode fallible maps
open witan.types witan.error witan.identity witan.session witan.config witan.rotation
open witan.handshake (HandshakeManager HandshakeContext)
open witan.dedup (DedupCache)
open witan.quorum (QuorumTracker)

namespace witan.gossip

/-- The central gossip engine, which owns all subsystems. -/
structure GossipEngine (crates : Crates) where
  config : ResolvedConfig
  identity : NodeIdentity crates
  sessions : SessionStore
  handshakes : HandshakeManager
  dedup : DedupCache
  quorum : QuorumTracker
  stats : GossipStats
  /-- Current mesh peers. -/
  mesh_peers : List Str

/-- The iteration orders of the maps that a heartbeat visits. -/
structure IterationOrder where
  pending : ∀ m : ExtHashMap Str HandshakeContext, Visit m
  entries : ∀ m : ExtHashMap Bytes32 UInt64, Visit m
  sessions : ∀ m : ExtHashMap Str SessionRecord, Visit m

namespace GossipEngine

variable {crates : Crates}

def new (config : ResolvedConfig) (identity : NodeIdentity crates) : GossipEngine crates :=
  { config
    identity
    sessions := .new
    handshakes := .new
    dedup := .new config.dedup_cache_secs
    quorum := .new config.quorum_fraction
    stats := {}
    mesh_peers := [] }

/-- Run an action of the handshake manager. -/
def withHandshakes {α : Type} (action : EStateM GossipError HandshakeManager α) :
    EStateM GossipError (GossipEngine crates) α :=
  onPart (·.handshakes) (fun self handshakes => { self with handshakes }) action

def add_to_mesh (self : GossipEngine crates) (peer_addr : Str) : GossipEngine crates :=
  if peer_addr ∉ self.mesh_peers ∧ self.mesh_peers.length < self.config.mesh_n_high.toNat then
    { self with mesh_peers := self.mesh_peers ++ [peer_addr] }
  else self

def remove_from_mesh (self : GossipEngine crates) (peer_addr : Str) : GossipEngine crates :=
  { self with mesh_peers := self.mesh_peers.filter (· ≠ peer_addr) }

def mesh_is_full (self : GossipEngine crates) : Bool :=
  self.mesh_peers.length ≥ self.config.mesh_n_high.toNat

def mesh_needs_peers (self : GossipEngine crates) : Bool :=
  self.mesh_peers.length < self.config.mesh_n_low.toNat

/-- The gauges that follow the sessions and the mesh. -/
def updatePeerStats (self : GossipEngine crates) : GossipEngine crates :=
  { self with stats := { self.stats with
      active_peers := UInt32.ofNat self.sessions.count
      mesh_peers := UInt32.ofNat self.mesh_peers.length } }

/-- Initiate a connection: build the probe for the host to send. -/
def connect_peer (peer_addr : Str) (getrandom : Except String Bytes32) (now_ms : UInt64) :
    EStateM GossipError (GossipEngine crates) Bytes := do
  let self ← get
  attempt (failIf ((self.sessions.get peer_addr).isSome = true)
    (.HandshakeError s!"already connected to {peer_addr}"))
  withHandshakes (HandshakeManager.build_probe peer_addr self.identity getrandom now_ms)

/-- Complete a handshake: store the session, add to the mesh, update the stats. -/
def complete_handshake (self : GossipEngine crates) (peer_addr : Str) (session : SessionRecord) :
    GossipEngine crates :=
  let self := { self with sessions := self.sessions.insert session }
  let self := self.add_to_mesh peer_addr
  let self := { self with stats :=
    { self.stats with handshakes_completed := self.stats.handshakes_completed + 1 } }
  self.updatePeerStats

/-- Process incoming handshake bytes; the answer is for the host to send back. -/
def process_handshake_bytes (peer_addr : Str) (bytes : Bytes) (getrandom : Except String Bytes32)
    (rng : crates.OsRng) (now_ms : UInt64) : EStateM GossipError (GossipEngine crates) (Option Bytes) := do
  let self ← get
  match classify_incoming bytes with
  | .HandshakeProbe =>
    let ack_bytes ← withHandshakes (HandshakeManager.process_probe_build_ack peer_addr bytes self.identity
      getrandom now_ms)
    return some ack_bytes
  | .HandshakeAck =>
    let finish_bytes ← withHandshakes (HandshakeManager.process_ack_build_finish peer_addr bytes self.identity
      rng now_ms)
    return some finish_bytes
  | .HandshakeFinish =>
    let (finish_ack_bytes, session) ← withHandshakes
      (HandshakeManager.process_finish_build_finish_ack peer_addr bytes self.identity now_ms)
    modify (·.complete_handshake peer_addr session)
    return some finish_ack_bytes
  | .HandshakeFinishAck =>
    let session ← withHandshakes (HandshakeManager.process_finish_ack crates peer_addr bytes now_ms)
    modify (·.complete_handshake peer_addr session)
    return none
  | .GossipEnvelope => throw (.HandshakeError "expected handshake message, got gossip envelope")

def is_handshake_complete (self : GossipEngine crates) (peer_addr : Str) : Bool :=
  (self.sessions.get peer_addr).isSome

/-- Disconnect a peer and remove its session. -/
def disconnect_peer (peer_addr : Str) : EStateM GossipError (GossipEngine crates) Unit := do
  let self ← get
  let (removed, sessions) := self.sessions.remove peer_addr
  set { self with sessions }
  let _ ← attempt (orFail removed (.PeerNotFound peer_addr.val))
  modify (·.remove_from_mesh peer_addr)
  modify fun self => { self with handshakes := self.handshakes.remove peer_addr }
  modify (·.updatePeerStats)

/-- The message kind of a payload type byte. -/
def payloadType (payload_type : UInt8) : Except GossipError PayloadType :=
  orFail (PayloadType.from_u8 payload_type) (.InvalidInput s!"unknown payload_type_id: {payload_type}")

/-- Publish a message: check for duplicates, sign, return the message id. -/
def publish (payload_type : UInt8) (payload : ByteVec) (now_ms : UInt64) :
    EStateM GossipError (GossipEngine crates) Bytes32 := do
  let self ← get
  let pt ← attempt (payloadType payload_type)
  attempt (failIf (payload.val.length > self.config.max_message_bytes)
    (.InvalidInput s!"payload too large: {payload.val.length} > {self.config.max_message_bytes}"))
  let message_id := envelope.compute_message_id crates pt payload.val
  let (duplicate, dedup) := self.dedup.is_duplicate message_id now_ms
  set { self with dedup }
  if duplicate then
    modify fun self => { self with stats :=
      { self.stats with messages_deduplicated := self.stats.messages_deduplicated + 1 } }
    throw (.EnvelopeError "duplicate message")
  else
    modify fun self => { self with dedup := self.dedup.insert message_id now_ms }
    let _ ← attempt (envelope.build_envelope pt payload self.identity self.config.default_ttl now_ms)
    modify fun self => { self with stats :=
      { self.stats with messages_published := self.stats.messages_published + 1 } }
    return message_id

/-- Encode a new signed envelope. -/
def encode_envelope (payload_type : UInt8) (payload : ByteVec) (now_ms : UInt64) :
    EStateM GossipError (GossipEngine crates) Bytes := do
  let self ← get
  let pt ← attempt (payloadType payload_type)
  let env ← attempt (envelope.build_envelope pt payload self.identity self.config.default_ttl now_ms)
  attempt (envelope.encode_envelope env)

def countReceived (self : GossipEngine crates) : GossipEngine crates :=
  { self with stats := { self.stats with messages_received := self.stats.messages_received + 1 } }

def countDropped (self : GossipEngine crates) : GossipEngine crates :=
  { self with stats := { self.stats with messages_dropped := self.stats.messages_dropped + 1 } }

/-- Verify a received envelope. The source's branches for the single errors all
    count the message as dropped and return the error. -/
def verify_envelope_bytes (bytes : Bytes) (now_ms : UInt64) : EStateM GossipError (GossipEngine crates) Bool := do
  let self ← get
  let env ← attempt (envelope.decode_envelope crates bytes)
  match envelope.verify_envelope crates env self.config now_ms with
  | .ok true =>
    modify countReceived
    return true
  | .ok false =>
    modify countDropped
    return false
  | .error e =>
    modify countDropped
    throw e

/-- Serialize an answer. -/
def to_json (crates : Crates) (json : Json) : Except GossipError Str :=
  (crates.json_to_string json).mapError fun e => .SerializationError s!"JSON serialize: {e}"

/-- The name of a payload type. -/
def payloadTypeName : PayloadType → String
  | .Transaction => "Transaction"
  | .BlockProposal => "BlockProposal"
  | .FinalityVote => "FinalityVote"
  | .StateSync => "StateSync"
  | .PeerDiscovery => "PeerDiscovery"

def envelopeJson (env : GossipEnvelope) : Json := .object [
  ("version", .number env.version.toNat),
  ("message_id", .bytes env.message_id.val),
  ("sender_node_id", .string env.sender_node_id.val),
  ("sender_public_key", .bytes env.sender_public_key.val),
  ("payload_type", .string (payloadTypeName env.payload_type)),
  ("payload", .bytes env.payload.val),
  ("signature", .bytes env.signature.val),
  ("timestamp_unix_ms", .number env.timestamp_unix_ms.toNat),
  ("ttl", .number env.ttl.toNat)]

def decode_envelope_to_json (crates : Crates) (bytes : Bytes) : Except GossipError Str := do
  let env ← envelope.decode_envelope crates bytes
  to_json crates (envelopeJson env)

def get_stats_json (self : GossipEngine crates) : Except GossipError Str :=
  to_json crates (.object [
    ("messages_published", .number self.stats.messages_published.toNat),
    ("messages_received", .number self.stats.messages_received.toNat),
    ("messages_deduplicated", .number self.stats.messages_deduplicated.toNat),
    ("messages_dropped", .number self.stats.messages_dropped.toNat),
    ("active_peers", .number self.stats.active_peers.toNat),
    ("mesh_peers", .number self.stats.mesh_peers.toNat),
    ("dedup_cache_size", .number self.stats.dedup_cache_size.toNat),
    ("handshakes_completed", .number self.stats.handshakes_completed.toNat),
    ("handshakes_failed", .number self.stats.handshakes_failed.toNat)])

def get_peers_json (self : GossipEngine crates) (visit : Visit self.sessions.sessions) : Except GossipError Str :=
  to_json crates (.array ((self.sessions.active_peers visit).map fun peer => .object [
    ("addr", .string peer.addr.val),
    ("node_id", .string peer.node_id.val),
    ("session_id", .string peer.session_id.val),
    ("established_at_ms", .number peer.established_at_ms.toNat)]))

def get_node_identity_json (self : GossipEngine crates) : Except GossipError Str := do
  let kem_public_key_json ← (crates.public_key_to_json (crates.kem_public_key self.identity.kem_keypair)).mapError
    fun e => .IdentityError s!"KEM pk to_json failed: {e}"
  to_json crates (.object [
    ("node_id", .string self.identity.node_id.val),
    ("kem_public_key_json", .string kem_public_key_json.val),
    ("sig_public_key_hex", .string (hex.encodeString self.identity.sig_public_key_bytes.val)),
    ("key_epoch", .string self.identity.key_epoch.val)])

def get_session_json (self : GossipEngine crates) (peer_addr : Str) : Except GossipError Str := do
  let session ← orFail (self.sessions.get peer_addr) (.SessionNotFound peer_addr.val)
  to_json crates (.object [
    ("session_id", .string session.session_id.val),
    ("peer_addr", .string session.peer_addr.val),
    ("peer_node_id", .string session.peer_node_id.val),
    ("established_at_ms", .number session.established_at_ms.toNat),
    ("is_active", .bool session.is_active)])

/-- Add addresses to the mesh until it is full. -/
def graft (self : GossipEngine crates) (candidates : List Str) : GossipEngine crates :=
  candidates.foldl (fun self addr =>
    if self.mesh_is_full then self else { self with mesh_peers := self.mesh_peers ++ [addr] }) self

/-- Run the periodic maintenance tasks. -/
def heartbeat (self : GossipEngine crates) (order : IterationOrder) (now_ms : UInt64) : GossipEngine crates :=
  let self := { self with dedup := self.dedup.evict_expired now_ms }
  let (evicted, handshakes) := self.handshakes.evict_timed_out now_ms (order.pending _)
  let self := { self with
    handshakes
    stats := { self.stats with
      handshakes_failed := self.stats.handshakes_failed + UInt32.ofNat evicted.length } }
  let active_ids := self.dedup.active_ids (order.entries _)
  let self := { self with quorum := self.quorum.prune active_ids }
  let self :=
    if self.mesh_needs_peers then
      let candidates := (((self.sessions.active_peers (order.sessions _)).map (·.addr)).filter
        (· ∉ self.mesh_peers)).take (self.config.mesh_n.toNat - self.mesh_peers.length)
      self.graft candidates
    else self
  let self := self.updatePeerStats
  { self with stats := { self.stats with dedup_cache_size := UInt32.ofNat self.dedup.len } }

/-- Rotate to fresh keys under a new id, which is returned. -/
def rotate_keys (key_epoch : Str) (kem_rng sig_rng : crates.OsRng) :
    EStateM GossipError (GossipEngine crates) Str := do
  let new_identity ← attempt (NodeIdentity.generate crates key_epoch kem_rng sig_rng)
  modify fun self => { self with identity := new_identity }
  return new_identity.node_id

/-- Rotate to `next` while keeping this node's id. The state is the engine and the
    lineage, which is extended with the signed record. -/
def rotate_keys_under_id (next : NodeIdentity crates) (next_key_commitment : Option Bytes32) (now_ms : UInt64) :
    EStateM GossipError (GossipEngine crates × KeyLineage) KeyRotation := do
  let (self, lineage) ← get
  attempt (failIf (lineage.node_id ≠ self.identity.node_id)
    (.IdentityError "lineage does not belong to this node"))
  let rotation ← onPart Prod.snd (fun state lineage => (state.1, lineage))
    (KeyLineage.rotate self.identity next next_key_commitment now_ms)
  modify fun (self, lineage) =>
    ({ self with identity := { next with node_id := lineage.node_id } }, lineage)
  return rotation

end GossipEngine

end witan.gossip
