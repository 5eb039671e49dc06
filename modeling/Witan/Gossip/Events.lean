import Witan.Gossip.Interference

open bincode fallible maps
open witan.types witan.error witan.identity witan.session witan.rotation
open witan.handshake (HandshakeManager HandshakeContext)

namespace witan.gossip

open GossipEngine

variable {crates : Crates}

/-- The steps of handshakes with one peer that succeed, with the client nonce that
    the messages of the first two carry. -/
inductive HandshakeEvent where
  | probeBuilt (client_nonce : Bytes32)
  | ackAccepted (client_nonce : Bytes32)
  | clientCompleted
  | probeAccepted
  | serverCompleted
  deriving DecidableEq

namespace HandshakeEvent

def completes : HandshakeEvent → Bool
  | .clientCompleted => true
  | .serverCompleted => true
  | _ => false

def buildsProbe : HandshakeEvent → Bool
  | .probeBuilt _ => true
  | _ => false

def acceptsProbe : HandshakeEvent → Bool
  | .probeAccepted => true
  | _ => false

/-- What an event makes of the context that is held for its peer. -/
inductive Effect : HandshakeEvent → Option HandshakeContext → Option HandshakeContext → Prop
  | probeBuilt {before} (sent : handshake.ProbeSent) :
    Effect (.probeBuilt sent.client_nonce) before (some (.Client (.ProbeSent sent)))
  | ackAccepted (sent : handshake.ProbeSent) (answered : handshake.FinishSent) :
    Effect (.ackAccepted sent.client_nonce) (some (.Client (.ProbeSent sent))) (some (.Client (.FinishSent answered)))
  | clientCompleted (sent : handshake.FinishSent) : Effect .clientCompleted (some (.Client (.FinishSent sent))) none
  | probeAccepted {before} (sent : handshake.AckSent) : Effect .probeAccepted before (some (.Server (.AckSent sent)))
  | serverCompleted (sent : handshake.AckSent) : Effect .serverCompleted (some (.Server (.AckSent sent))) none

/-- A completion uses a context up. -/
theorem Effect.used {event : HandshakeEvent} {before after : Option HandshakeContext} (h : event.Effect before after)
    (hcompletes : event.completes = true) : before ≠ none ∧ after = none := by
  cases h with
  | clientCompleted sent => exact ⟨nofun, rfl⟩
  | serverCompleted sent => exact ⟨nofun, rfl⟩
  | probeBuilt sent => cases hcompletes
  | ackAccepted sent answered => cases hcompletes
  | probeAccepted sent => cases hcompletes

/-- The server completes from the context that it stored for the probe. -/
theorem Effect.of_serverCompleted {before after : Option HandshakeContext} (h : Effect .serverCompleted before after) :
    ∃ sent, before = some (.Server (.AckSent sent)) := by
  cases h with
  | serverCompleted sent => exact ⟨sent, rfl⟩

/-- The client completes from the context that it stored for the acknowledgement. -/
theorem Effect.of_clientCompleted {before after : Option HandshakeContext} (h : Effect .clientCompleted before after) :
    ∃ sent, before = some (.Client (.FinishSent sent)) := by
  cases h with
  | clientCompleted sent => exact ⟨sent, rfl⟩

/-! The step that each context goes back to. -/

/-- Only an accepted probe leaves a server waiting for the finish. -/
theorem Effect.of_ackSent {event : HandshakeEvent} {before : Option HandshakeContext} {sent : handshake.AckSent}
    (h : event.Effect before (some (.Server (.AckSent sent)))) : event = .probeAccepted := by
  cases h with
  | probeAccepted => rfl

/-- Only the probe with its nonce leaves a client waiting for the acknowledgement. -/
theorem Effect.of_probeSent {event : HandshakeEvent} {before : Option HandshakeContext} {sent : handshake.ProbeSent}
    (h : event.Effect before (some (.Client (.ProbeSent sent)))) : event = .probeBuilt sent.client_nonce := by
  cases h with
  | probeBuilt => rfl

/-- A client waits for the finish-ack only after it has accepted the acknowledgement of
    its own probe, by the nonce of that probe. -/
theorem Effect.of_finishSent {event : HandshakeEvent} {before : Option HandshakeContext}
    {answered : handshake.FinishSent}
    (h : event.Effect before (some (.Client (.FinishSent answered)))) :
    ∃ sent : handshake.ProbeSent,
      event = .ackAccepted sent.client_nonce ∧ before = some (.Client (.ProbeSent sent)) := by
  cases h with
  | ackAccepted sent => exact ⟨sent, rfl, rfl⟩

end HandshakeEvent

/-- The step that handshake bytes stand for once they are accepted. -/
def acceptedEvent (bytes : Bytes) : Option HandshakeEvent :=
  match classify_incoming bytes with
  | .HandshakeProbe => some .probeAccepted
  | .HandshakeAck => (HandshakeAck.codec.decodePrefix bytes).map fun ack => .ackAccepted ack.client_nonce
  | .HandshakeFinish => some .serverCompleted
  | .HandshakeFinishAck => some .clientCompleted
  | .GossipEnvelope => none

/-- The handshake step that an operation succeeds in, with the peer it is for. -/
def EngineOp.event (engine : GossipEngine crates) : EngineOp crates → Option (Str × HandshakeEvent)
  | .connect_peer peer_addr getrandom now_ms =>
    match GossipEngine.connect_peer peer_addr getrandom now_ms engine with
    | .ok probe_bytes _ =>
      (HandshakeProbe.codec.decodePrefix probe_bytes).map fun probe => (peer_addr, .probeBuilt probe.client_nonce)
    | .error _ _ => none
  | .process_handshake_bytes peer_addr bytes getrandom rng now_ms =>
    match GossipEngine.process_handshake_bytes peer_addr bytes getrandom rng now_ms engine with
    | .ok _ _ => (acceptedEvent bytes).map fun event => (peer_addr, event)
    | .error _ _ => none
  | .build_handshake_ack peer_addr probe_bytes getrandom now_ms =>
    match GossipEngine.build_handshake_ack peer_addr probe_bytes getrandom now_ms engine with
    | .ok _ _ => some (peer_addr, .probeAccepted)
    | .error _ _ => none
  | .build_finish_ack peer_addr finish_bytes now_ms =>
    match GossipEngine.build_finish_ack peer_addr finish_bytes now_ms engine with
    | .ok _ _ => some (peer_addr, .serverCompleted)
    | .error _ _ => none
  | _ => none

def EngineCall.event (engine : GossipEngine crates) : EngineCall crates → Option (Str × HandshakeEvent)
  | .operation op => op.event engine
  | _ => none

/-- A handshake step that failed: no session, nothing counted, and the context of
    the peer is as it was or gone. -/
structure Refused (peer_addr : Str) (engine after : GossipEngine crates) : Prop where
  sessions : after.sessions = engine.sessions
  completed : after.stats.handshakes_completed = engine.stats.handshakes_completed
  handshakes : after.handshakes = engine.handshakes ∨ after.handshakes = engine.handshakes.dropPending peer_addr

/-- A handshake step that succeeded. -/
structure Effected (peer_addr : Str) (event : HandshakeEvent) (engine after : GossipEngine crates) : Prop where
  context : event.Effect engine.handshakes.pending[peer_addr]? after.handshakes.pending[peer_addr]?
  completed : after.stats.handshakes_completed =
    engine.stats.handshakes_completed + if event.completes then 1 else 0

/-- No handshake moved on: contexts may be gone, but none is new. -/
structure Idle (engine after : GossipEngine crates) : Prop where
  contexts : ∀ addr : Str, after.handshakes.pending[addr]? = engine.handshakes.pending[addr]? ∨
    after.handshakes.pending[addr]? = none
  completed : after.stats.handshakes_completed = engine.stats.handshakes_completed

end witan.gossip
