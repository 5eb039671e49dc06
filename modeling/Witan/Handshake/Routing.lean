import Witan.Handshake.Freshness
import Witan.Handshake.Splice

open bincode fallible
open witan.types witan.error witan.identity witan.session

namespace witan.handshake

/-- The bytes start with a message of this kind that has the kind's magic. -/
def DecodesAs (bytes : Bytes) : MessageKind → Prop
  | .HandshakeProbe =>
    ∃ probe, HandshakeProbe.codec.decodePrefix bytes = some probe ∧ probe.magic = HANDSHAKE_PROBE_MAGIC
  | .HandshakeAck => ∃ ack, HandshakeAck.codec.decodePrefix bytes = some ack ∧ ack.magic = HANDSHAKE_ACK_MAGIC
  | .HandshakeFinish =>
    ∃ finish, HandshakeFinish.codec.decodePrefix bytes = some finish ∧ finish.magic = HANDSHAKE_FINISH_MAGIC
  | .HandshakeFinishAck =>
    ∃ finish_ack, HandshakeFinishAck.codec.decodePrefix bytes = some finish_ack ∧
      finish_ack.magic = HANDSHAKE_FINISH_ACK_MAGIC
  | .GossipEnvelope => False

/-- The bytes are the encoding of a message of this kind, with the kind's magic and
    whatever else in its fields. -/
def Encodes (bytes : Bytes) : MessageKind → Prop
  | .HandshakeProbe => ∃ probe, probe.magic = HANDSHAKE_PROBE_MAGIC ∧ bytes = HandshakeProbe.codec.encode probe
  | .HandshakeAck => ∃ ack, ack.magic = HANDSHAKE_ACK_MAGIC ∧ bytes = HandshakeAck.codec.encode ack
  | .HandshakeFinish => ∃ finish, finish.magic = HANDSHAKE_FINISH_MAGIC ∧ bytes = HandshakeFinish.codec.encode finish
  | .HandshakeFinishAck =>
    ∃ finish_ack, finish_ack.magic = HANDSHAKE_FINISH_ACK_MAGIC ∧ bytes = HandshakeFinishAck.codec.encode finish_ack
  | .GossipEnvelope => False

/-- Some call of the handler that writes messages of this kind returned the bytes. -/
def Emitted (crates : Crates) (bytes : Bytes) : MessageKind → Prop
  | .HandshakeProbe => ∃ (peer_addr : Str) (identity : NodeIdentity crates) (getrandom : Except String Bytes32)
      (now_ms : UInt64) (self after : HandshakeManager),
      HandshakeManager.build_probe peer_addr identity getrandom now_ms self = .ok bytes after
  | .HandshakeAck => ∃ (peer_addr : Str) (probe_bytes : Bytes) (identity : NodeIdentity crates)
      (getrandom : Except String Bytes32) (now_ms : UInt64) (self after : HandshakeManager),
      HandshakeManager.process_probe_build_ack peer_addr probe_bytes identity getrandom now_ms self = .ok bytes after
  | .HandshakeFinish => ∃ (peer_addr : Str) (ack_bytes : Bytes) (identity : NodeIdentity crates)
      (rng : crates.OsRng) (now_ms : UInt64) (self after : HandshakeManager),
      HandshakeManager.process_ack_build_finish peer_addr ack_bytes identity rng now_ms self = .ok bytes after
  | .HandshakeFinishAck => ∃ (peer_addr : Str) (finish_bytes : Bytes) (identity : NodeIdentity crates)
      (now_ms : UInt64) (self : HandshakeManager) (session : SessionRecord) (after : HandshakeManager),
      HandshakeManager.process_finish_build_finish_ack peer_addr finish_bytes identity now_ms self =
        .ok (bytes, session) after
  | .GossipEnvelope => False

variable {crates : Crates}

/-- What the router does with bytes that it takes for a message of the kind. -/
def HandshakeManager.handler (kind : MessageKind) (peer_addr : Str) (bytes : Bytes) (identity : NodeIdentity crates)
    (getrandom : Except String Bytes32) (rng : crates.OsRng) (now_ms : UInt64) :
    EStateM GossipError HandshakeManager Bytes := do
  match kind with
  | .HandshakeProbe => process_probe_build_ack peer_addr bytes identity getrandom now_ms
  | .HandshakeAck => process_ack_build_finish peer_addr bytes identity rng now_ms
  | .HandshakeFinish =>
    let (finish_ack_bytes, session) ← process_finish_build_finish_ack peer_addr bytes identity now_ms
    modify (·.keepCompleted peer_addr session)
    return finish_ack_bytes
  | .HandshakeFinishAck =>
    let session ← process_finish_ack crates peer_addr bytes now_ms
    modify (·.keepCompleted peer_addr session)
    return []
  | .GossipEnvelope => throw (.HandshakeError "expected handshake message, got gossip envelope")

theorem HandshakeManager.process_incoming_eq_handler (peer_addr : Str) (bytes : Bytes) (identity : NodeIdentity crates)
    (getrandom : Except String Bytes32) (rng : crates.OsRng) (now_ms : UInt64) :
    process_incoming peer_addr bytes identity getrandom rng now_ms =
      handler (classify_incoming bytes) peer_addr bytes identity getrandom rng now_ms := rfl

namespace HandlerCall

/-- The kind of message that the handler is for. -/
def kind : HandlerCall crates → MessageKind
  | .process_probe_build_ack .. => .HandshakeProbe
  | .process_ack_build_finish .. => .HandshakeAck
  | .process_finish_build_finish_ack .. => .HandshakeFinish
  | .process_finish_ack .. => .HandshakeFinishAck

def bytes : HandlerCall crates → Bytes
  | .process_probe_build_ack _ probe_bytes _ _ _ => probe_bytes
  | .process_ack_build_finish _ ack_bytes _ _ _ => ack_bytes
  | .process_finish_build_finish_ack _ finish_bytes _ _ => finish_bytes
  | .process_finish_ack _ finish_ack_bytes _ => finish_ack_bytes

/-- Every handler decodes first and then checks the magic of its kind. -/
theorem decodesAs_of_passesOtherwise {self : HandshakeManager} {call : HandlerCall crates}
    (h : call.PassesOtherwise self) : DecodesAs call.bytes call.kind := by
  cases call with
  | process_probe_build_ack =>
    obtain ⟨probe, _, _, hdecode, hmagic, _⟩ := h
    exact ⟨probe, hdecode, hmagic⟩
  | process_ack_build_finish =>
    obtain ⟨ack, _, hdecode, hmagic, _⟩ := h
    exact ⟨ack, hdecode, hmagic⟩
  | process_finish_build_finish_ack =>
    obtain ⟨finish, _, _, hdecode, hmagic, _⟩ := h
    exact ⟨finish, hdecode, hmagic⟩
  | process_finish_ack =>
    obtain ⟨finish_ack, _, hdecode, hmagic, _⟩ := h
    exact ⟨finish_ack, hdecode, hmagic⟩

end HandlerCall

variable {bytes : Bytes} {kind : MessageKind}

theorem DecodesAs.classify_incoming (h : DecodesAs bytes kind) : types.classify_incoming bytes = kind := by
  cases kind with
  | HandshakeProbe =>
    obtain ⟨probe, hdecode, hmagic⟩ := h
    exact classify_incoming_of_probe hdecode hmagic
  | HandshakeAck =>
    obtain ⟨ack, hdecode, hmagic⟩ := h
    exact classify_incoming_of_ack hdecode hmagic
  | HandshakeFinish =>
    obtain ⟨finish, hdecode, hmagic⟩ := h
    exact classify_incoming_of_finish hdecode hmagic
  | HandshakeFinishAck =>
    obtain ⟨finish_ack, hdecode, hmagic⟩ := h
    exact classify_incoming_of_finish_ack hdecode hmagic
  | GossipEnvelope => exact h.elim

theorem Encodes.decodesAs (h : Encodes bytes kind) : DecodesAs bytes kind := by
  cases kind with
  | HandshakeProbe =>
    obtain ⟨probe, hmagic, rfl⟩ := h
    exact ⟨probe, HandshakeProbe.codec.decodePrefix_encode_nil probe, hmagic⟩
  | HandshakeAck =>
    obtain ⟨ack, hmagic, rfl⟩ := h
    exact ⟨ack, HandshakeAck.codec.decodePrefix_encode_nil ack, hmagic⟩
  | HandshakeFinish =>
    obtain ⟨finish, hmagic, rfl⟩ := h
    exact ⟨finish, HandshakeFinish.codec.decodePrefix_encode_nil finish, hmagic⟩
  | HandshakeFinishAck =>
    obtain ⟨finish_ack, hmagic, rfl⟩ := h
    exact ⟨finish_ack, HandshakeFinishAck.codec.decodePrefix_encode_nil finish_ack, hmagic⟩
  | GossipEnvelope => exact h.elim

theorem Emitted.encodes (h : Emitted crates bytes kind) : Encodes bytes kind := by
  cases kind with
  | HandshakeProbe =>
    obtain ⟨_, _, _, _, _, _, hok⟩ := h
    obtain ⟨_, _, rfl, _⟩ := HandshakeManager.build_probe_eq_ok_iff.mp hok
    exact ⟨_, rfl, rfl⟩
  | HandshakeAck =>
    obtain ⟨_, _, _, _, _, _, _, hok⟩ := h
    obtain ⟨_, _, _, _, _, _, _, rfl, _⟩ := HandshakeManager.process_probe_build_ack_eq_ok_iff.mp hok
    exact ⟨_, rfl, rfl⟩
  | HandshakeFinish =>
    obtain ⟨_, _, _, _, _, _, _, hok⟩ := h
    obtain ⟨_, _, _, _, _, _, _, _, rfl, _⟩ := HandshakeManager.process_ack_build_finish_eq_ok_iff.mp hok
    exact ⟨_, rfl, rfl⟩
  | HandshakeFinishAck =>
    obtain ⟨_, _, _, _, _, _, _, hok⟩ := h
    obtain ⟨_, _, _, _, _, _, _, _, _, rfl, _⟩ :=
      HandshakeManager.process_finish_build_finish_ack_eq_ok_iff.mp hok
    exact ⟨_, rfl, rfl⟩
  | GossipEnvelope => exact h.elim

/-- The router and the decoders agree on every byte string: what a decoder reads with
    the magic of its kind is classified as that kind, what the handlers write goes to
    the handler it is for, and no handler accepts what is classified as another kind. -/
theorem classification_agrees (crates : Crates) :
    (∀ (bytes : Bytes) (kind : MessageKind), DecodesAs bytes kind → classify_incoming bytes = kind) ∧
      (∀ (bytes : Bytes) (kind : MessageKind), Emitted crates bytes kind → Encodes bytes kind) ∧
      (∀ (bytes : Bytes) (kind : MessageKind), Encodes bytes kind →
        ∀ (peer_addr : Str) (identity : NodeIdentity crates) (getrandom : Except String Bytes32) (rng : crates.OsRng)
          (now_ms : UInt64), HandshakeManager.process_incoming peer_addr bytes identity getrandom rng now_ms =
            HandshakeManager.handler kind peer_addr bytes identity getrandom rng now_ms) ∧
      ∀ (call : HandlerCall crates) (self : HandshakeManager), call.Succeeds self →
        classify_incoming call.bytes = call.kind := by
  refine ⟨fun bytes kind h => h.classify_incoming, fun bytes kind h => h.encodes, ?_, ?_⟩
  · intro bytes kind h peer_addr identity getrandom rng now_ms
    rw [HandshakeManager.process_incoming_eq_handler, h.decodesAs.classify_incoming]
  · intro call self h
    have hpasses := ((call.succeeds_iff self).mp h).1
    exact (HandlerCall.decodesAs_of_passesOtherwise hpasses).classify_incoming

/-- The client's probe: written and read as one, and answered as one whatever follows it. -/
theorem classification_agrees_probe :
    classify_incoming Splice.probeBytes = .HandshakeProbe ∧
      HandshakeManager.process_incoming Splice.clientAddr Splice.probeBytes Splice.server (.ok Splice.serverNonce)
          (9 : UInt8) 0 =
        HandshakeManager.process_probe_build_ack Splice.clientAddr Splice.probeBytes Splice.server
          (.ok Splice.serverNonce) 0 ∧
      classify_incoming (Splice.probeBytes ++ [0]) = .HandshakeProbe := by
  obtain ⟨hclassify, hencodes, hrouted, haccepted⟩ := classification_agrees reference.crates
  have hwritten : Emitted reference.crates Splice.probeBytes .HandshakeProbe :=
    ⟨Splice.serverAddr, Splice.client, .ok Splice.clientNonce, 0, .new, _,
      HandshakeManager.build_probe_eq_ok_iff.mpr ⟨Splice.clientNonce, rfl, rfl, rfl⟩⟩
  have hprobe := hencodes Splice.probeBytes .HandshakeProbe hwritten
  have hanswered : (HandlerCall.process_probe_build_ack Splice.clientAddr (Splice.probeBytes ++ [0]) Splice.server
      (.ok Splice.serverNonce) 0).Succeeds .new := ⟨_, _, Splice.server_acks [0]⟩
  have hkind := haccepted _ _ hanswered
  unfold HandlerCall.bytes HandlerCall.kind at hkind
  exact ⟨hclassify _ _ hprobe.decodesAs, hrouted _ _ hprobe _ _ _ _ _, hkind⟩

end witan.handshake
