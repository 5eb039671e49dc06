import Witan.Gossip.Correspondence
import Witan.Gossip.Deduplication

open bincode fallible
open witan.types witan.error witan.identity witan.session
open witan.handshake (HandshakeManager HandshakeContext HANDSHAKE_TIMEOUT_MS)

namespace witan.handshake

/-- The time at which the context was stored. -/
def HandshakeContext.sentAt : HandshakeContext → Option UInt64
  | .Client (.ProbeSent state) => some state.sent_at_ms
  | .Client (.FinishSent state) => some state.sent_at_ms
  | .Server (.AckSent state) => some state.sent_at_ms
  | _ => none

theorem HandshakeContext.is_timed_out_eq_false_iff {context : HandshakeContext} {sent_at_ms now_ms : UInt64}
    (h : context.sentAt = some sent_at_ms) :
    context.is_timed_out now_ms = false ↔ now_ms.toNat ≤ sent_at_ms.toNat + HANDSHAKE_TIMEOUT_MS := by
  have hage : decide (now_ms.toNat - sent_at_ms.toNat > HANDSHAKE_TIMEOUT_MS) = false ↔
      now_ms.toNat ≤ sent_at_ms.toNat + HANDSHAKE_TIMEOUT_MS := by
    rw [decide_eq_false_iff_not]
    omega
  unfold sentAt at h
  split at h
  · obtain rfl := Option.some.inj h
    exact hage
  · obtain rfl := Option.some.inj h
    exact hage
  · obtain rfl := Option.some.inj h
    exact hage
  · cases h

end witan.handshake

namespace witan.gossip

open GossipEngine EngineCall

variable {crates : Crates}

section Steps

variable {engine after : GossipEngine crates} {peer_addr addr : Str} {now_ms : UInt64} {event : HandshakeEvent}
  {context : HandshakeContext} {call : EngineCall crates}

/-! A context is stored with the time of the call that stores it. -/

theorem connect_peer_stored {getrandom : Except String Bytes32} {probe_bytes : Bytes}
    (h : connect_peer peer_addr getrandom now_ms engine = .ok probe_bytes after)
    (hstored : after.handshakes.pending[peer_addr]? = some context) : context.sentAt = some now_ms := by
  unfold connect_peer at h
  rw [get_bind, attempt_bind_eq_ok_iff] at h
  obtain ⟨_, _, h⟩ := h
  obtain ⟨handshakes, hbuild, rfl⟩ := onPart_eq_ok_iff.mp h
  obtain ⟨client_nonce, _, rfl, rfl⟩ := HandshakeManager.build_probe_eq_ok_iff.mp hbuild
  dsimp only at hstored
  rw [HandshakeManager.pending_setPending_self] at hstored
  obtain rfl := Option.some.inj hstored
  rfl

theorem process_probe_stored {identity : NodeIdentity crates} {getrandom : Except String Bytes32}
    {probe_bytes ack_bytes : Bytes}
    (h : withHandshakes (HandshakeManager.process_probe_build_ack peer_addr probe_bytes identity getrandom now_ms)
      engine = .ok ack_bytes after)
    (hstored : after.handshakes.pending[peer_addr]? = some context) : context.sentAt = some now_ms := by
  obtain ⟨handshakes, hanswer, rfl⟩ := onPart_eq_ok_iff.mp h
  obtain ⟨_, _, _, _, _, _, _, _, rfl⟩ := HandshakeManager.process_probe_build_ack_eq_ok_iff.mp hanswer
  dsimp only at hstored
  rw [HandshakeManager.pending_setPending_self] at hstored
  obtain rfl := Option.some.inj hstored
  rfl

theorem process_ack_stored {identity : NodeIdentity crates} {rng : crates.OsRng} {ack_bytes finish_bytes : Bytes}
    (h : withHandshakes (HandshakeManager.process_ack_build_finish peer_addr ack_bytes identity rng now_ms)
      engine = .ok finish_bytes after)
    (hstored : after.handshakes.pending[peer_addr]? = some context) : context.sentAt = some now_ms := by
  obtain ⟨handshakes, hanswer, rfl⟩ := onPart_eq_ok_iff.mp h
  obtain ⟨_, _, _, _, _, _, _, _, _, rfl⟩ := HandshakeManager.process_ack_build_finish_eq_ok_iff.mp hanswer
  dsimp only at hstored
  rw [HandshakeManager.pending_setPending_self] at hstored
  obtain rfl := Option.some.inj hstored
  rfl

theorem process_handshake_bytes_stored {bytes : Bytes} {getrandom : Except String Bytes32} {rng : crates.OsRng}
    {answer : Option Bytes}
    (h : process_handshake_bytes peer_addr bytes getrandom rng now_ms engine = .ok answer after)
    (hstored : after.handshakes.pending[peer_addr]? = some context) : context.sentAt = some now_ms := by
  obtain ⟨event, hevent, heffected⟩ := process_handshake_bytes_effected h
  -- A completion leaves no context.
  have hstores : event.completes = false := by
    by_contra hcompletes
    rw [(heffected.context.used (Bool.eq_true_of_not_eq_false hcompletes)).2] at hstored
    cases hstored
  unfold process_handshake_bytes at h
  rw [get_bind] at h
  unfold acceptedEvent at hevent
  cases hkind : classify_incoming bytes with
  | HandshakeProbe =>
    rw [hkind] at h
    obtain ⟨ack_bytes, middle, hprobe, hrest⟩ := bind_eq_ok_iff.mp h
    obtain ⟨_, rfl⟩ := EStateM.Result.ok.inj hrest
    exact process_probe_stored hprobe hstored
  | HandshakeAck =>
    rw [hkind] at h
    obtain ⟨finish_bytes, middle, hack, hrest⟩ := bind_eq_ok_iff.mp h
    obtain ⟨_, rfl⟩ := EStateM.Result.ok.inj hrest
    exact process_ack_stored hack hstored
  | HandshakeFinish =>
    rw [hkind] at hevent
    obtain rfl := Option.some.inj hevent
    cases hstores
  | HandshakeFinishAck =>
    rw [hkind] at hevent
    obtain rfl := Option.some.inj hevent
    cases hstores
  | GossipEnvelope =>
    rw [hkind] at hevent
    cases hevent

theorem EngineOp.stored_at {op : EngineOp crates} (h : op.event engine = some (addr, event))
    (hstored : (op.run engine).handshakes.pending[addr]? = some context) :
    ∃ now_ms, (EngineCall.operation op).clock = some now_ms ∧ context.sentAt = some now_ms := by
  have hcall : (EngineCall.operation op).event engine = some (addr, event) := h
  have heffect := (effected_of_event hcall).context
  cases op with
  | connect_peer peer_addr getrandom now_ms =>
    unfold EngineOp.event at h
    unfold EngineOp.run at hstored
    dsimp only at h hstored
    cases hresult : GossipEngine.connect_peer peer_addr getrandom now_ms engine with
    | ok probe_bytes after =>
      rw [hresult] at h hstored
      obtain ⟨_, _, hpair⟩ := Option.map_eq_some_iff.mp h
      cases hpair
      exact ⟨now_ms, rfl, connect_peer_stored hresult hstored⟩
    | error error after =>
      rw [hresult] at h
      cases h
  | process_handshake_bytes peer_addr bytes getrandom rng now_ms =>
    unfold EngineOp.event at h
    unfold EngineOp.run at hstored
    dsimp only at h hstored
    cases hresult : GossipEngine.process_handshake_bytes peer_addr bytes getrandom rng now_ms engine with
    | ok answer after =>
      rw [hresult] at h hstored
      obtain ⟨_, _, hpair⟩ := Option.map_eq_some_iff.mp h
      cases hpair
      exact ⟨now_ms, rfl, process_handshake_bytes_stored hresult hstored⟩
    | error error after =>
      rw [hresult] at h
      cases h
  | build_handshake_ack peer_addr probe_bytes getrandom now_ms =>
    unfold EngineOp.event at h
    unfold EngineOp.run at hstored
    dsimp only at h hstored
    cases hresult : GossipEngine.build_handshake_ack peer_addr probe_bytes getrandom now_ms engine with
    | ok answer after =>
      rw [hresult] at h hstored
      cases h
      exact ⟨now_ms, rfl, process_probe_stored hresult hstored⟩
    | error error after =>
      rw [hresult] at h
      cases h
  | build_finish_ack peer_addr finish_bytes now_ms =>
    unfold EngineOp.event at h
    dsimp only at h
    cases hresult : GossipEngine.build_finish_ack peer_addr finish_bytes now_ms engine with
    | ok answer after =>
      rw [hresult] at h
      cases h
      exact absurd (hstored.symm.trans (heffect.used rfl).2) nofun
    | error error after =>
      rw [hresult] at h
      cases h
  | disconnect_peer peer_addr => cases h
  | publish payload_type payload now_ms => cases h
  | encode_envelope payload_type payload now_ms => cases h
  | verify_envelope_bytes bytes now_ms => cases h
  | verify_envelope_from_lineage lineage envelope_bytes now_ms => cases h
  | heartbeat order now_ms => cases h

theorem EngineCall.stored_at (h : call.event engine = some (addr, event))
    (hstored : (call.run engine).handshakes.pending[addr]? = some context) :
    ∃ now_ms, call.clock = some now_ms ∧ context.sentAt = some now_ms := by
  cases call with
  | operation op => exact op.stored_at h hstored
  | rotate_keys key_epoch kem_rng sig_rng => cases h
  | rotate_keys_under_id lineage next next_key_commitment now_ms => cases h
  | record_ack message_id peer_addr => cases h

end Steps

end witan.gossip
