import Witan.Api.Concerns

open bincode fallible
open witan.types witan.error witan.identity witan.session witan.config witan.rotation witan.gossip
open witan.handshake (HandshakeManager)

namespace witan.api

variable {crates : Crates}

/-! What the calls look at: the peers, or the messages. -/

section Peers

open GossipEngine

variable {first second : GossipEngine crates} {peer_addr : Str} {lineage : Option KeyLineage}

/-- An action of the handshake manager on the same handshakes. -/
theorem SamePeers.withHandshakes {α : Type} (h : SamePeers first second)
    (action : EStateM GossipError HandshakeManager α) :
    Alike SamePeers (withHandshakes action) (withHandshakes action) first second := by
  refine .onPart ?_ fun _ _ hnew => ⟨h.config, h.identity, h.sessions, hnew, h.mesh_peers⟩
  rw [h.handshakes]
  exact ⟨rfl, rfl⟩

theorem SamePeers.complete_handshake (h : SamePeers first second) (peer_addr : Str) (session : SessionRecord) :
    SamePeers (first.complete_handshake peer_addr session) (second.complete_handshake peer_addr session) := by
  obtain ⟨config, identity, sessions, handshakes, _, _, _, mesh_peers⟩ := first
  obtain ⟨config', identity', sessions', handshakes', _, _, _, mesh_peers'⟩ := second
  obtain ⟨rfl, rfl, rfl, rfl, rfl⟩ := h
  unfold GossipEngine.complete_handshake add_to_mesh
  dsimp only
  by_cases henters : peer_addr ∉ mesh_peers ∧ mesh_peers.length < config.mesh_n_high.toNat
  · rw [if_pos henters, if_pos henters]
    exact ⟨rfl, rfl, rfl, rfl, rfl⟩
  · rw [if_neg henters, if_neg henters]
    exact ⟨rfl, rfl, rfl, rfl, rfl⟩

theorem SamePeers.connect_peer (h : SamePeers first second) (getrandom : Except String Bytes32) (now_ms : UInt64) :
    Alike SamePeers (connect_peer peer_addr getrandom now_ms) (connect_peer peer_addr getrandom now_ms)
      first second := by
  unfold GossipEngine.connect_peer
  refine .get_bind (.attempt_bind (by rw [h.sessions]) h fun _ _ => ?_)
  rw [h.identity]
  exact h.withHandshakes _

theorem SamePeers.process_handshake_bytes (h : SamePeers first second) (bytes : Bytes)
    (getrandom : Except String Bytes32) (rng : crates.OsRng) (now_ms : UInt64) :
    Alike SamePeers (process_handshake_bytes peer_addr bytes getrandom rng now_ms)
      (process_handshake_bytes peer_addr bytes getrandom rng now_ms) first second := by
  unfold GossipEngine.process_handshake_bytes
  refine .get_bind ?_
  rw [h.identity]
  cases classify_incoming bytes with
  | HandshakeProbe => exact .bind (h.withHandshakes _) fun _ _ _ _ _ hmiddle => .pure hmiddle
  | HandshakeAck => exact .bind (h.withHandshakes _) fun _ _ _ _ _ hmiddle => .pure hmiddle
  | HandshakeFinish =>
    refine .bind (h.withHandshakes _) ?_
    rintro ⟨finish_ack_bytes, session⟩ middle middle' _ _ hmiddle
    exact .modify_bind (.pure (hmiddle.complete_handshake peer_addr session))
  | HandshakeFinishAck =>
    refine .bind (h.withHandshakes _) ?_
    intro session middle middle' _ _ hmiddle
    exact .modify_bind (.pure (hmiddle.complete_handshake peer_addr session))
  | GossipEnvelope => exact .throw h

theorem SamePeers.build_handshake_ack (h : SamePeers first second) (probe_bytes : Bytes)
    (getrandom : Except String Bytes32) (now_ms : UInt64) :
    Alike SamePeers (build_handshake_ack peer_addr probe_bytes getrandom now_ms)
      (build_handshake_ack peer_addr probe_bytes getrandom now_ms) first second := by
  unfold GossipEngine.build_handshake_ack
  refine .get_bind ?_
  rw [h.identity]
  exact h.withHandshakes _

theorem SamePeers.build_finish_ack (h : SamePeers first second) (finish_bytes : Bytes) (now_ms : UInt64) :
    Alike SamePeers (build_finish_ack peer_addr finish_bytes now_ms) (build_finish_ack peer_addr finish_bytes now_ms)
      first second := by
  unfold GossipEngine.build_finish_ack
  refine .get_bind ?_
  rw [h.identity]
  refine .bind (h.withHandshakes _) ?_
  rintro ⟨finish_ack_bytes, session⟩ middle middle' _ _ hmiddle
  refine .modify_bind (.modify_bind (.pure ?_))
  exact ⟨hmiddle.config, hmiddle.identity, congrArg (·.insert session) hmiddle.sessions, hmiddle.handshakes,
    hmiddle.mesh_peers⟩

theorem SamePeers.disconnect_peer (h : SamePeers first second) :
    Alike SamePeers (disconnect_peer peer_addr) (disconnect_peer peer_addr) first second := by
  unfold GossipEngine.disconnect_peer
  refine .get_bind ?_
  rw [h.sessions]
  have hremoved : SamePeers { first with sessions := (second.sessions.remove peer_addr).2 }
      { second with sessions := (second.sessions.remove peer_addr).2 } :=
    ⟨h.config, h.identity, rfl, h.handshakes, h.mesh_peers⟩
  refine .set_bind (.attempt_bind rfl hremoved fun _ _ => .modify_bind (.modify_bind (.modify ?_)))
  exact ⟨h.config, h.identity, rfl, congrArg (·.remove peer_addr) h.handshakes,
    congrArg (List.filter (· ≠ peer_addr)) h.mesh_peers⟩

/-- A heartbeat treats the same peers in the same way, whatever the caches hold. -/
theorem SamePeers.heartbeat (h : SamePeers first second) (order : IterationOrder) (now_ms : UInt64) :
    SamePeers (first.heartbeat order now_ms) (second.heartbeat order now_ms) := by
  obtain ⟨config, identity, sessions, handshakes, _, _, _, mesh_peers⟩ := first
  obtain ⟨config', identity', sessions', handshakes', _, _, _, mesh_peers'⟩ := second
  obtain ⟨rfl, rfl, rfl, rfl, rfl⟩ := h
  rw [heartbeat_eq, heartbeat_eq]
  exact ⟨rfl, rfl, rfl, rfl, rfl⟩

/-- The calls about peers look at nothing else. -/
theorem SamePeers.alike (h : SamePeers first second) (call : ApiCall crates) (hconcern : call.concern = .peers) :
    Alike (ApiState.Related SamePeers) call.perform call.perform ⟨some first, lineage⟩ ⟨some second, lineage⟩ := by
  cases call with
  | gossip_connect_peer peer_addr getrandom now_ms =>
    exact answering_alike (onEngine_alike (h.connect_peer getrandom now_ms))
  | gossip_disconnect_peer peer_addr => exact answering_alike (onEngine_alike h.disconnect_peer)
  | gossip_get_peers order =>
    refine answering_alike (query_alike h ?_)
    obtain ⟨_, _, sessions, _, _, _, _, _⟩ := first
    obtain ⟨_, _, sessions', _, _, _, _, _⟩ := second
    obtain rfl : sessions = sessions' := h.sessions
    rfl
  | gossip_process_handshake_bytes peer_addr bytes getrandom rng now_ms =>
    exact answering_alike (onEngine_alike (h.process_handshake_bytes bytes getrandom rng now_ms))
  | gossip_build_handshake_ack peer_addr probe_bytes getrandom now_ms =>
    exact answering_alike (onEngine_alike (h.build_handshake_ack probe_bytes getrandom now_ms))
  | gossip_build_finish_ack peer_addr finish_bytes now_ms =>
    exact answering_alike (onEngine_alike (h.build_finish_ack finish_bytes now_ms))
  | gossip_get_session peer_addr =>
    refine answering_alike (query_alike h ?_)
    unfold get_session_json
    rw [h.sessions]
  | _ => cases hconcern

end Peers

section Messages

open GossipEngine

variable {first second : GossipEngine crates} {lineage : Option KeyLineage}

theorem SameMessages.publish (h : SameMessages first second) (payload_type : UInt8) (payload : ByteVec)
    (now_ms : UInt64) :
    Alike SameMessages (publish payload_type payload now_ms) (publish payload_type payload now_ms) first second := by
  unfold GossipEngine.publish
  refine .get_bind (.attempt_bind rfl h fun kind _ => .attempt_bind (by rw [h.config]) h fun _ _ => ?_)
  rw [h.config, h.identity, h.dedup]
  dsimp only
  refine .set_bind ?_
  split
  · exact .modify_bind (.throw ⟨rfl, rfl, rfl⟩)
  · exact .modify_bind (.attempt_bind rfl ⟨rfl, rfl, rfl⟩ fun _ _ => .modify_bind (.pure ⟨rfl, rfl, rfl⟩))

theorem SameMessages.encode_envelope (h : SameMessages first second) (payload_type : UInt8) (payload : ByteVec)
    (now_ms : UInt64) :
    Alike SameMessages (encode_envelope payload_type payload now_ms) (encode_envelope payload_type payload now_ms)
      first second := by
  unfold GossipEngine.encode_envelope
  refine .get_bind (.attempt_bind rfl h fun kind _ => .attempt_bind ?_ h fun env _ => .attempt h)
  rw [h.config, h.identity]

theorem SameMessages.verify_envelope_bytes (h : SameMessages first second) (bytes : Bytes) (now_ms : UInt64) :
    Alike SameMessages (verify_envelope_bytes bytes now_ms) (verify_envelope_bytes bytes now_ms) first second := by
  unfold GossipEngine.verify_envelope_bytes
  refine .get_bind (.attempt_bind rfl h fun env _ => ?_)
  rw [h.config]
  split
  · exact .modify_bind (.pure ⟨h.config, h.identity, h.dedup⟩)
  · exact .modify_bind (.pure ⟨h.config, h.identity, h.dedup⟩)
  · exact .modify_bind (.throw ⟨h.config, h.identity, h.dedup⟩)

theorem SameMessages.verify_envelope_from_lineage (h : SameMessages first second) (checked : KeyLineage)
    (bytes : Bytes) (now_ms : UInt64) :
    Alike SameMessages (verify_envelope_from_lineage checked bytes now_ms)
      (verify_envelope_from_lineage checked bytes now_ms) first second := by
  unfold GossipEngine.verify_envelope_from_lineage
  refine .attempt_bind rfl h fun env _ => ?_
  split
  · exact .modify_bind (.throw ⟨h.config, h.identity, h.dedup⟩)
  · exact h.verify_envelope_bytes bytes now_ms

theorem SameMessages.heartbeat (h : SameMessages first second) (order : IterationOrder) (now_ms : UInt64) :
    SameMessages (first.heartbeat order now_ms) (second.heartbeat order now_ms) := by
  rw [heartbeat_eq, heartbeat_eq]
  exact ⟨h.config, h.identity, congrArg (·.evict_expired now_ms) h.dedup⟩

/-- The calls about messages look at the configuration, the identity and the cache
    of message ids only. -/
theorem SameMessages.alike (h : SameMessages first second) (call : ApiCall crates)
    (hconcern : call.concern = .messages) :
    Alike (ApiState.Related SameMessages) call.perform call.perform ⟨some first, lineage⟩ ⟨some second, lineage⟩ := by
  cases call with
  | gossip_publish payload_type payload now_ms =>
    exact answering_alike (onEngine_alike (h.publish payload_type payload now_ms))
  | gossip_verify_envelope bytes now_ms => exact answering_alike (onEngine_alike (h.verify_envelope_bytes bytes now_ms))
  | gossip_encode_envelope payload_type payload now_ms =>
    exact answering_alike (onEngine_alike (h.encode_envelope payload_type payload now_ms))
  | gossip_decode_envelope bytes => exact answering_alike (query_alike h rfl)
  | gossip_verify_envelope_from_lineage bytes lineage_bytes now_ms =>
    refine answering_alike ?_
    unfold gossip_verify_envelope_from_lineage
    exact .attempt_bind rfl ⟨rfl, .some h⟩ fun checked _ =>
      onEngine_alike (h.verify_envelope_from_lineage checked bytes now_ms)
  | _ => cases hconcern

end Messages

end witan.api
