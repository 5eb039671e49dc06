import Witan.Gossip.Correspondence
import Witan.Gossip.Deduplication
import Witan.Handshake.Freshness

open bincode fallible
open witan.types witan.error witan.identity witan.session
open witan.handshake (HandshakeManager HandlerCall)

namespace witan.handshake

/-- The peer that a handler is called for. -/
def HandlerCall.peer_addr {crates : Crates} : HandlerCall crates → Str
  | .process_probe_build_ack peer_addr _ _ _ _ => peer_addr
  | .process_ack_build_finish peer_addr _ _ _ _ => peer_addr
  | .process_finish_build_finish_ack peer_addr _ _ _ => peer_addr
  | .process_finish_ack peer_addr _ _ => peer_addr

end witan.handshake

namespace witan.gossip

open GossipEngine

variable {crates : Crates}

namespace EngineCall

/-- The handler that completes a handshake, if the call runs one. -/
def completion (engine : GossipEngine crates) : EngineCall crates → Option (HandlerCall crates)
  | .operation (.process_handshake_bytes peer_addr bytes _ _ now_ms) =>
    match classify_incoming bytes with
    | .HandshakeFinish => some (.process_finish_build_finish_ack peer_addr bytes engine.identity now_ms)
    | .HandshakeFinishAck => some (.process_finish_ack peer_addr bytes now_ms)
    | _ => none
  | .operation (.build_finish_ack peer_addr finish_bytes now_ms) =>
    some (.process_finish_build_finish_ack peer_addr finish_bytes engine.identity now_ms)
  | _ => none

end EngineCall

open EngineCall

section Steps

variable {engine after : GossipEngine crates} {peer_addr addr : Str} {now_ms : UInt64} {event : HandshakeEvent}
  {call : EngineCall crates} {handler : HandlerCall crates}

/-! A handshake is completed exactly where the handler succeeds. -/

theorem completion_eq_some (h : call.completion engine = some handler) :
    call.address = some handler.peer_addr ∧ call.clock = some handler.now := by
  unfold EngineCall.completion at h
  split at h
  · split at h
    · obtain rfl := Option.some.inj h
      exact ⟨rfl, rfl⟩
    · obtain rfl := Option.some.inj h
      exact ⟨rfl, rfl⟩
    · cases h
  · obtain rfl := Option.some.inj h
    exact ⟨rfl, rfl⟩
  · cases h

theorem event_of_succeeds (h : call.completion engine = some handler) (hsucceeds : handler.Succeeds engine.handshakes) :
    ∃ event, call.event engine = some (handler.peer_addr, event) ∧ event.completes = true := by
  unfold EngineCall.completion at h
  split at h
  · rename_i peer_addr bytes getrandom rng now_ms
    split at h
    · rename_i hkind
      obtain rfl := Option.some.inj h
      obtain ⟨⟨finish_ack_bytes, session⟩, handshakes, hrun⟩ := hsucceeds
      refine ⟨.serverCompleted, ?_, rfl⟩
      unfold EngineCall.event EngineOp.event acceptedEvent
      dsimp only
      rw [process_finish_eq_ok getrandom rng hkind hrun, hkind]
      rfl
    · rename_i hkind
      obtain rfl := Option.some.inj h
      obtain ⟨session, handshakes, hrun⟩ := hsucceeds
      refine ⟨.clientCompleted, ?_, rfl⟩
      unfold EngineCall.event EngineOp.event acceptedEvent
      dsimp only
      rw [process_finish_ack_eq_ok getrandom rng hkind hrun, hkind]
      rfl
    · cases h
  · obtain rfl := Option.some.inj h
    obtain ⟨⟨finish_ack_bytes, session⟩, handshakes, hrun⟩ := hsucceeds
    refine ⟨.serverCompleted, ?_, rfl⟩
    unfold EngineCall.event EngineOp.event
    dsimp only
    rw [build_finish_ack_eq_ok hrun]
    rfl
  · cases h

theorem finish_succeeds {bytes : Bytes} {identity : NodeIdentity crates} {answer : Bytes × SessionRecord}
    (h : withHandshakes (HandshakeManager.process_finish_build_finish_ack peer_addr bytes identity now_ms) engine =
      .ok answer after) :
    (HandlerCall.process_finish_build_finish_ack peer_addr bytes identity now_ms).Succeeds engine.handshakes := by
  obtain ⟨handshakes, hrun, _⟩ := onPart_eq_ok_iff.mp h
  exact ⟨answer, handshakes, hrun⟩

theorem exists_completion_of_bytes {bytes : Bytes} {getrandom : Except String Bytes32} {rng : crates.OsRng}
    {answer : Option Bytes}
    (h : process_handshake_bytes peer_addr bytes getrandom rng now_ms engine = .ok answer after)
    (hevent : acceptedEvent bytes = some event) (hcompletes : event.completes = true) :
    ∃ handler,
      completion engine (.operation (.process_handshake_bytes peer_addr bytes getrandom rng now_ms)) = some handler ∧
        handler.peer_addr = peer_addr ∧ handler.Succeeds engine.handshakes := by
  unfold acceptedEvent at hevent
  unfold process_handshake_bytes at h
  unfold completion
  rw [get_bind] at h
  dsimp only
  cases hkind : classify_incoming bytes with
  | HandshakeProbe =>
    rw [hkind] at hevent
    obtain rfl := Option.some.inj hevent
    cases hcompletes
  | HandshakeAck =>
    rw [hkind] at hevent
    obtain ⟨_, _, rfl⟩ := Option.map_eq_some_iff.mp hevent
    cases hcompletes
  | HandshakeFinish =>
    rw [hkind] at h
    obtain ⟨answer, middle, hfinish, _⟩ := bind_eq_ok_iff.mp h
    exact ⟨_, rfl, rfl, finish_succeeds hfinish⟩
  | HandshakeFinishAck =>
    rw [hkind] at h
    obtain ⟨session, middle, hfinish_ack, _⟩ := bind_eq_ok_iff.mp h
    obtain ⟨handshakes, hrun, _⟩ := onPart_eq_ok_iff.mp hfinish_ack
    exact ⟨_, rfl, rfl, session, handshakes, hrun⟩
  | GossipEnvelope =>
    rw [hkind] at hevent
    cases hevent

theorem EngineOp.exists_completion {op : EngineOp crates} (h : op.event engine = some (addr, event))
    (hcompletes : event.completes = true) :
    ∃ handler, completion engine (.operation op) = some handler ∧ handler.peer_addr = addr ∧
      handler.Succeeds engine.handshakes := by
  unfold EngineOp.event at h
  cases op with
  | connect_peer peer_addr getrandom now_ms =>
    dsimp only at h
    split at h
    · obtain ⟨_, _, hpair⟩ := Option.map_eq_some_iff.mp h
      cases hpair
      cases hcompletes
    · cases h
  | process_handshake_bytes peer_addr bytes getrandom rng now_ms =>
    dsimp only at h
    split at h
    · rename_i hresult
      obtain ⟨event', hevent, hpair⟩ := Option.map_eq_some_iff.mp h
      cases hpair
      exact exists_completion_of_bytes hresult hevent hcompletes
    · cases h
  | build_handshake_ack peer_addr probe_bytes getrandom now_ms =>
    dsimp only at h
    split at h
    · cases h
      cases hcompletes
    · cases h
  | build_finish_ack peer_addr finish_bytes now_ms =>
    dsimp only at h
    split at h
    · rename_i hresult
      cases h
      unfold GossipEngine.build_finish_ack at hresult
      rw [get_bind] at hresult
      obtain ⟨answer, middle, hfinish, _⟩ := bind_eq_ok_iff.mp hresult
      exact ⟨_, rfl, rfl, finish_succeeds hfinish⟩
    · cases h
  | disconnect_peer peer_addr => cases h
  | publish payload_type payload now_ms => cases h
  | encode_envelope payload_type payload now_ms => cases h
  | verify_envelope_bytes bytes now_ms => cases h
  | verify_envelope_from_lineage lineage envelope_bytes now_ms => cases h
  | heartbeat order now_ms => cases h

theorem EngineCall.exists_completion (h : call.event engine = some (addr, event))
    (hcompletes : event.completes = true) :
    ∃ handler, call.completion engine = some handler ∧ handler.peer_addr = addr ∧
      handler.Succeeds engine.handshakes := by
  cases call with
  | operation op => exact op.exists_completion h hcompletes
  | rotate_keys key_epoch kem_rng sig_rng => cases h
  | rotate_keys_under_id lineage next next_key_commitment now_ms => cases h
  | record_ack message_id peer_addr => cases h

theorem address_of_event (h : call.event engine = some (addr, event)) : call.address = some addr := by
  rcases call.event_cases engine with ⟨peer_addr, event', hevent, haddress, _⟩ | ⟨hnone, _⟩
  · rw [h] at hevent
    cases hevent
    exact haddress
  · rw [h] at hnone
    cases hnone

end Steps

/-- A finish that is accepted completes the peer's handshake on the server's side. -/
theorem event_of_finish {engine : GossipEngine crates} {peer_addr : Str} {bytes answer : Bytes}
    {session : SessionRecord} {handshakes : HandshakeManager} {now_ms : UInt64} (getrandom : Except String Bytes32)
    (rng : crates.OsRng) (hkind : classify_incoming bytes = .HandshakeFinish)
    (hrun : HandshakeManager.process_finish_build_finish_ack peer_addr bytes engine.identity now_ms
      engine.handshakes = .ok (answer, session) handshakes) :
    (EngineCall.operation (.process_handshake_bytes peer_addr bytes getrandom rng now_ms)).event engine =
      some (peer_addr, .serverCompleted) := by
  unfold EngineCall.event EngineOp.event acceptedEvent
  dsimp only
  rw [process_finish_eq_ok getrandom rng hkind hrun, hkind]
  rfl

end witan.gossip
