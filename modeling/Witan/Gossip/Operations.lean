import Witan.Gossip
import Witan.Handshake.Frame

open bincode fallible
open witan.types witan.error witan.config witan.identity witan.session witan.rotation
open witan.handshake (HandshakeManager)

namespace witan.gossip

variable {crates : Crates}

namespace GossipEngine

theorem sessions_new (resolved : ResolvedConfig) (identity : NodeIdentity crates) (peer_addr : Str) :
    (new resolved identity).sessions.get peer_addr = none := Std.ExtHashMap.getElem?_empty

/-! The parts of three API calls that run on the engine. -/

/-- `gossip_build_handshake_ack`: answer a probe. -/
def build_handshake_ack (peer_addr : Str) (probe_bytes : Bytes) (getrandom : Except String Bytes32)
    (now_ms : UInt64) : EStateM GossipError (GossipEngine crates) Bytes := do
  let self ← get
  withHandshakes (HandshakeManager.process_probe_build_ack peer_addr probe_bytes self.identity getrandom now_ms)

/-- `gossip_build_finish_ack`: answer a finish and store the session. The peer does
    not enter the mesh. -/
def build_finish_ack (peer_addr : Str) (finish_bytes : Bytes) (now_ms : UInt64) :
    EStateM GossipError (GossipEngine crates) Bytes := do
  let self ← get
  let (finish_ack_bytes, session) ← withHandshakes
    (HandshakeManager.process_finish_build_finish_ack peer_addr finish_bytes self.identity now_ms)
  modify fun self => { self with sessions := self.sessions.insert session }
  modify fun self => { self with stats := { self.stats with
    handshakes_completed := self.stats.handshakes_completed + 1
    active_peers := UInt32.ofNat self.sessions.count } }
  return finish_ack_bytes

/-- `gossip_verify_envelope_from_lineage`: the sender must be the lineage's node with
    its current key, and the envelope must verify. -/
def verify_envelope_from_lineage (lineage : KeyLineage) (envelope_bytes : Bytes) (now_ms : UInt64) :
    EStateM GossipError (GossipEngine crates) Bool := do
  let env ← attempt (envelope.decode_envelope crates envelope_bytes)
  match lineage.check_envelope_sender env with
  | .error e =>
    modify countDropped
    throw e
  | .ok () => verify_envelope_bytes envelope_bytes now_ms

end GossipEngine

section Calls

open GossipEngine

variable {engine : GossipEngine crates} {handshakes : HandshakeManager} {peer_addr : Str} {bytes answer : Bytes}
  {getrandom : Except String Bytes32} {now_ms : UInt64} {session : SessionRecord} (rng : crates.OsRng)

/-! What the engine does where the handshake manager succeeds. -/

theorem withHandshakes_eq_ok {α : Type} {action : EStateM GossipError HandshakeManager α} {value : α}
    (h : action engine.handshakes = .ok value handshakes) :
    withHandshakes action engine = .ok value { engine with handshakes } :=
  onPart_eq_ok_iff.mpr ⟨handshakes, h, rfl⟩

theorem connect_peer_eq_ok (hsession : engine.sessions.get peer_addr = none)
    (h : HandshakeManager.build_probe peer_addr engine.identity getrandom now_ms engine.handshakes =
      .ok answer handshakes) :
    connect_peer peer_addr getrandom now_ms engine = .ok answer { engine with handshakes } := by
  unfold connect_peer
  rw [get_bind, attempt_bind_eq_ok_iff]
  refine ⟨(), failIf_eq_ok_iff.mpr ?_, withHandshakes_eq_ok h⟩
  rw [hsession]
  exact Bool.false_ne_true

/-- Only a peer without a session is connected to. -/
theorem connect_peer_new {after : GossipEngine crates}
    (h : connect_peer peer_addr getrandom now_ms engine = .ok answer after) :
    engine.sessions.get peer_addr = none := by
  unfold connect_peer at h
  rw [get_bind, attempt_bind_eq_ok_iff] at h
  obtain ⟨_, hnew, _⟩ := h
  simpa using failIf_eq_ok_iff.mp hnew

theorem process_probe_eq_ok (hkind : classify_incoming bytes = .HandshakeProbe)
    (h : HandshakeManager.process_probe_build_ack peer_addr bytes engine.identity getrandom now_ms
      engine.handshakes = .ok answer handshakes) :
    process_handshake_bytes peer_addr bytes getrandom rng now_ms engine =
      .ok (some answer) { engine with handshakes } := by
  unfold process_handshake_bytes
  simp only [get_bind, hkind]
  exact bind_eq_ok_iff.mpr ⟨answer, _, withHandshakes_eq_ok h, rfl⟩

variable (getrandom)

theorem process_ack_eq_ok (hkind : classify_incoming bytes = .HandshakeAck)
    (h : HandshakeManager.process_ack_build_finish peer_addr bytes engine.identity rng now_ms
      engine.handshakes = .ok answer handshakes) :
    process_handshake_bytes peer_addr bytes getrandom rng now_ms engine =
      .ok (some answer) { engine with handshakes } := by
  unfold process_handshake_bytes
  simp only [get_bind, hkind]
  exact bind_eq_ok_iff.mpr ⟨answer, _, withHandshakes_eq_ok h, rfl⟩

theorem process_finish_eq_ok (hkind : classify_incoming bytes = .HandshakeFinish)
    (h : HandshakeManager.process_finish_build_finish_ack peer_addr bytes engine.identity now_ms
      engine.handshakes = .ok (answer, session) handshakes) :
    process_handshake_bytes peer_addr bytes getrandom rng now_ms engine =
      .ok (some answer) ({ engine with handshakes }.complete_handshake peer_addr session) := by
  unfold process_handshake_bytes
  simp only [get_bind, hkind]
  exact bind_eq_ok_iff.mpr ⟨(answer, session), _, withHandshakes_eq_ok h, rfl⟩

theorem process_finish_ack_eq_ok (hkind : classify_incoming bytes = .HandshakeFinishAck)
    (h : HandshakeManager.process_finish_ack crates peer_addr bytes now_ms engine.handshakes =
      .ok session handshakes) :
    process_handshake_bytes peer_addr bytes getrandom rng now_ms engine =
      .ok none ({ engine with handshakes }.complete_handshake peer_addr session) := by
  unfold process_handshake_bytes
  simp only [get_bind, hkind]
  exact bind_eq_ok_iff.mpr ⟨session, _, withHandshakes_eq_ok h, rfl⟩

theorem build_finish_ack_eq_ok
    (h : HandshakeManager.process_finish_build_finish_ack peer_addr bytes engine.identity now_ms
      engine.handshakes = .ok (answer, session) handshakes) :
    build_finish_ack peer_addr bytes now_ms engine =
      .ok answer { engine with
        handshakes
        sessions := engine.sessions.insert session
        stats := { engine.stats with
          handshakes_completed := engine.stats.handshakes_completed + 1
          active_peers := UInt32.ofNat (engine.sessions.insert session).count } } := by
  unfold build_finish_ack
  rw [get_bind]
  exact bind_eq_ok_iff.mpr ⟨(answer, session), _, withHandshakes_eq_ok h, rfl⟩

theorem encode_envelope_eq_ok_iff {payload_type : UInt8} {payload : ByteVec} {after : GossipEngine crates} :
    encode_envelope payload_type payload now_ms engine = .ok bytes after ↔
      ∃ kind env, PayloadType.from_u8 payload_type = some kind ∧
        envelope.build_envelope kind payload engine.identity engine.config.default_ttl now_ms = .ok env ∧
        bytes = GossipEnvelope.codec.encode env ∧ after = engine := by
  unfold encode_envelope payloadType envelope.encode_envelope
  simp only [get_bind, attempt_bind_eq_ok_iff, orFail_eq_ok_iff, attempt_eq_ok_iff, Except.ok.injEq]
  constructor
  · rintro ⟨kind, hkind, env, hbuild, rfl, rfl⟩
    exact ⟨kind, env, hkind, hbuild, rfl, rfl⟩
  · rintro ⟨kind, env, hkind, hbuild, rfl, rfl⟩
    exact ⟨kind, hkind, env, hbuild, rfl, rfl⟩

end Calls

open GossipEngine

/-- The operations of an engine that keep its identity and may change the rest of
    its state. -/
inductive EngineOp (crates : Crates) where
  | connect_peer (peer_addr : Str) (getrandom : Except String Bytes32) (now_ms : UInt64)
  | process_handshake_bytes (peer_addr : Str) (bytes : Bytes) (getrandom : Except String Bytes32)
      (rng : crates.OsRng) (now_ms : UInt64)
  | build_handshake_ack (peer_addr : Str) (probe_bytes : Bytes) (getrandom : Except String Bytes32)
      (now_ms : UInt64)
  | build_finish_ack (peer_addr : Str) (finish_bytes : Bytes) (now_ms : UInt64)
  | disconnect_peer (peer_addr : Str)
  | publish (payload_type : UInt8) (payload : ByteVec) (now_ms : UInt64)
  | encode_envelope (payload_type : UInt8) (payload : ByteVec) (now_ms : UInt64)
  | verify_envelope_bytes (bytes : Bytes) (now_ms : UInt64)
  | verify_envelope_from_lineage (lineage : KeyLineage) (envelope_bytes : Bytes) (now_ms : UInt64)
  | heartbeat (order : IterationOrder) (now_ms : UInt64)

namespace EngineOp

/-- The engine after an operation, whether it succeeded or not. -/
def run : EngineOp crates → GossipEngine crates → GossipEngine crates
  | .connect_peer peer_addr getrandom now_ms, engine =>
    final (GossipEngine.connect_peer peer_addr getrandom now_ms engine)
  | .process_handshake_bytes peer_addr bytes getrandom rng now_ms, engine =>
    final (GossipEngine.process_handshake_bytes peer_addr bytes getrandom rng now_ms engine)
  | .build_handshake_ack peer_addr probe_bytes getrandom now_ms, engine =>
    final (GossipEngine.build_handshake_ack peer_addr probe_bytes getrandom now_ms engine)
  | .build_finish_ack peer_addr finish_bytes now_ms, engine =>
    final (GossipEngine.build_finish_ack peer_addr finish_bytes now_ms engine)
  | .disconnect_peer peer_addr, engine => final (GossipEngine.disconnect_peer peer_addr engine)
  | .publish payload_type payload now_ms, engine =>
    final (GossipEngine.publish payload_type payload now_ms engine)
  | .encode_envelope payload_type payload now_ms, engine =>
    final (GossipEngine.encode_envelope payload_type payload now_ms engine)
  | .verify_envelope_bytes bytes now_ms, engine =>
    final (GossipEngine.verify_envelope_bytes bytes now_ms engine)
  | .verify_envelope_from_lineage lineage envelope_bytes now_ms, engine =>
    final (GossipEngine.verify_envelope_from_lineage lineage envelope_bytes now_ms engine)
  | .heartbeat order now_ms, engine => engine.heartbeat order now_ms

/-- The peer address that an operation names. -/
def address : EngineOp crates → Option Str
  | .connect_peer peer_addr _ _ => some peer_addr
  | .process_handshake_bytes peer_addr _ _ _ _ => some peer_addr
  | .build_handshake_ack peer_addr _ _ _ => some peer_addr
  | .build_finish_ack peer_addr _ _ => some peer_addr
  | .disconnect_peer peer_addr => some peer_addr
  | _ => none

/-- The time of a heartbeat. -/
def heartbeatTime : EngineOp crates → Option UInt64
  | .heartbeat _ now_ms => some now_ms
  | _ => none

end EngineOp

end witan.gossip
