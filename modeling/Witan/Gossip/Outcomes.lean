import Witan.Gossip.Operations

open bincode fallible
open witan.types witan.error witan.identity witan.session witan.rotation
open witan.handshake (HandshakeManager HandshakeContext)

namespace witan.gossip

variable {crates : Crates}

open GossipEngine

/-- The counters of messages are all that may differ. -/
structure SamePeerStats (before after : GossipStats) : Prop where
  active_peers : after.active_peers = before.active_peers
  mesh_peers : after.mesh_peers = before.mesh_peers
  handshakes_completed : after.handshakes_completed = before.handshakes_completed

/-- What an operation can make of an engine, whether it ends well or not. -/
inductive EngineOp.Outcome (engine : GossipEngine crates) : EngineOp crates → GossipEngine crates → Prop
  | published {payload_type payload now_ms dedup stats} (hstats : SamePeerStats engine.stats stats) :
    Outcome engine (.publish payload_type payload now_ms) { engine with dedup, stats }
  | counted {op stats} (haddress : op.address = none) (hstats : SamePeerStats engine.stats stats) :
    Outcome engine op { engine with stats }
  | moved {op peer_addr handshakes} (haddress : op.address = some peer_addr)
    (honly : HandshakeManager.OnlyAt peer_addr engine.handshakes handshakes) :
      Outcome engine op { engine with handshakes }
  | completed {op peer_addr handshakes session} (haddress : op.address = some peer_addr)
    (honly : HandshakeManager.OnlyAt peer_addr engine.handshakes handshakes)
    (hpeer : session.peer_addr = peer_addr) (hactive : session.is_active = true) :
    Outcome engine op ({ engine with handshakes }.complete_handshake peer_addr session)
  | answered {peer_addr finish_bytes now_ms handshakes session}
    (honly : HandshakeManager.OnlyAt peer_addr engine.handshakes handshakes)
    (hpeer : session.peer_addr = peer_addr) (hactive : session.is_active = true) :
    Outcome engine (.build_finish_ack peer_addr finish_bytes now_ms)
      { engine with
        handshakes
        sessions := engine.sessions.insert session
        stats := { engine.stats with
          handshakes_completed := engine.stats.handshakes_completed + 1
          active_peers := UInt32.ofNat (engine.sessions.insert session).count } }
  | disconnected {peer_addr} :
    Outcome engine (.disconnect_peer peer_addr)
      { engine with
        sessions := (engine.sessions.remove peer_addr).2
        mesh_peers := engine.mesh_peers.filter (· ≠ peer_addr)
        handshakes := engine.handshakes.remove peer_addr }.updatePeerStats
  | beat {order now_ms} : Outcome engine (.heartbeat order now_ms) (engine.heartbeat order now_ms)

namespace EngineOp

section Outcomes

variable {op : EngineOp crates} {peer_addr : Str} {engine : GossipEngine crates}

theorem Outcome.idle (haddress : op.address = none) : Outcome engine op engine := .counted haddress ⟨rfl, rfl, rfl⟩

theorem Outcome.unmoved (haddress : op.address = some peer_addr) : Outcome engine op engine :=
  .moved haddress (.refl peer_addr engine.handshakes)

theorem withHandshakes_outcome {α : Type} {action : EStateM GossipError HandshakeManager α}
    (haddress : op.address = some peer_addr)
    (haction : Leaves action engine.handshakes (HandshakeManager.OnlyAt peer_addr engine.handshakes)) :
    Leaves (withHandshakes action) engine (Outcome engine op) :=
  .onPart (.moved haddress haction)

/-- An action of the handshake manager, and what the engine does with its answer. -/
theorem withHandshakes_bind_outcome {α β : Type} {action : EStateM GossipError HandshakeManager α}
    {rest : α → EStateM GossipError (GossipEngine crates) β} (haddress : op.address = some peer_addr)
    (haction : Leaves action engine.handshakes (HandshakeManager.OnlyAt peer_addr engine.handshakes))
    (hrest : ∀ value handshakes, action engine.handshakes = .ok value handshakes →
      HandshakeManager.OnlyAt peer_addr engine.handshakes handshakes →
      Leaves (rest value) { engine with handshakes } (Outcome engine op)) :
    Leaves (withHandshakes action >>= rest) engine (Outcome engine op) := by
  refine .bind (withHandshakes_outcome haddress haction) fun value middle hok _ => ?_
  obtain ⟨handshakes, hrun, rfl⟩ := onPart_eq_ok_iff.mp hok
  exact hrest value handshakes hrun (haction.of_ok hrun)

theorem process_handshake_bytes_outcome {bytes : Bytes} {getrandom : Except String Bytes32} {rng : crates.OsRng}
    {now_ms : UInt64} (haddress : op.address = some peer_addr) :
    Leaves (GossipEngine.process_handshake_bytes peer_addr bytes getrandom rng now_ms) engine (Outcome engine op) := by
  unfold GossipEngine.process_handshake_bytes
  refine .get_bind ?_
  cases classify_incoming bytes with
  | HandshakeProbe =>
    exact withHandshakes_bind_outcome haddress HandshakeManager.process_probe_build_ack_onlyAt
      fun _ _ _ honly => .pure (.moved haddress honly)
  | HandshakeAck =>
    exact withHandshakes_bind_outcome haddress HandshakeManager.process_ack_build_finish_onlyAt
      fun _ _ _ honly => .pure (.moved haddress honly)
  | HandshakeFinish =>
    refine withHandshakes_bind_outcome haddress HandshakeManager.process_finish_build_finish_ack_onlyAt ?_
    rintro ⟨finish_ack_bytes, session⟩ handshakes hrun honly
    obtain ⟨_, _, _, _, _, _, _, _, _, _, rfl, _⟩ :=
      HandshakeManager.process_finish_build_finish_ack_eq_ok_iff.mp hrun
    exact .modify_bind (.pure (.completed haddress honly rfl rfl))
  | HandshakeFinishAck =>
    refine withHandshakes_bind_outcome haddress HandshakeManager.process_finish_ack_onlyAt ?_
    intro session handshakes hrun honly
    obtain ⟨_, _, _, _, _, _, _, _, rfl, _⟩ := HandshakeManager.process_finish_ack_eq_ok_iff.mp hrun
    exact .modify_bind (.pure (.completed haddress honly rfl rfl))
  | GossipEnvelope => exact .throw (.unmoved haddress)

theorem build_finish_ack_outcome {finish_bytes : Bytes} {now_ms : UInt64} :
    Leaves (GossipEngine.build_finish_ack peer_addr finish_bytes now_ms) engine
      (Outcome engine (.build_finish_ack peer_addr finish_bytes now_ms)) := by
  unfold GossipEngine.build_finish_ack
  refine .get_bind ?_
  refine withHandshakes_bind_outcome rfl HandshakeManager.process_finish_build_finish_ack_onlyAt ?_
  rintro ⟨finish_ack_bytes, session⟩ handshakes hrun honly
  obtain ⟨_, _, _, _, _, _, _, _, _, _, rfl, _⟩ :=
    HandshakeManager.process_finish_build_finish_ack_eq_ok_iff.mp hrun
  exact .modify_bind (.modify_bind (.pure (.answered honly rfl rfl)))

/-- Without a session there is nothing to remove. -/
theorem disconnect_peer_outcome :
    Leaves (GossipEngine.disconnect_peer peer_addr) engine (Outcome engine (.disconnect_peer peer_addr)) := by
  unfold GossipEngine.disconnect_peer
  refine .get_bind (.set_bind ?_)
  cases hget : engine.sessions.get peer_addr with
  | none =>
    have hunmoved : Outcome engine (.disconnect_peer peer_addr)
        { engine with sessions := (engine.sessions.remove peer_addr).2 } := by
      rw [SessionStore.remove_of_get_eq_none hget]
      exact .unmoved rfl
    refine .attempt_bind hunmoved fun removed hremoved => ?_
    have hfound : engine.sessions.get peer_addr = some removed := orFail_eq_ok_iff.mp hremoved
    rw [hget] at hfound
    cases hfound
  | some session =>
    refine .attempt_ok_bind (orFail_eq_ok_iff.mpr hget) (.modify_bind (.modify_bind (.modify ?_)))
    exact .disconnected

theorem publish_outcome {payload_type : UInt8} {payload : ByteVec} {now_ms : UInt64} :
    Leaves (GossipEngine.publish payload_type payload now_ms) engine
      (Outcome engine (.publish payload_type payload now_ms)) := by
  unfold GossipEngine.publish
  refine .get_bind (.attempt_bind (.idle rfl) fun _ _ => .attempt_bind (.idle rfl) fun _ _ => .set_bind ?_)
  split
  · exact .modify_bind (.throw (.published ⟨rfl, rfl, rfl⟩))
  · refine .modify_bind (.attempt_bind (.published ⟨rfl, rfl, rfl⟩) fun _ _ => ?_)
    exact .modify_bind (.pure (.published ⟨rfl, rfl, rfl⟩))

theorem verify_envelope_bytes_outcome {bytes : Bytes} {now_ms : UInt64} (haddress : op.address = none) :
    Leaves (GossipEngine.verify_envelope_bytes bytes now_ms) engine (Outcome engine op) := by
  unfold GossipEngine.verify_envelope_bytes
  refine .get_bind (.attempt_bind (.idle haddress) fun _ _ => ?_)
  split
  · exact .modify_bind (.pure (.counted haddress ⟨rfl, rfl, rfl⟩))
  · exact .modify_bind (.pure (.counted haddress ⟨rfl, rfl, rfl⟩))
  · exact .modify_bind (.throw (.counted haddress ⟨rfl, rfl, rfl⟩))

/-- Every operation has one of the outcomes. What all operations preserve is shown
    for these. -/
theorem run_outcome (op : EngineOp crates) (engine : GossipEngine crates) : Outcome engine op (op.run engine) := by
  cases op with
  | connect_peer peer_addr getrandom now_ms =>
    have hleaves : Leaves (GossipEngine.connect_peer peer_addr getrandom now_ms) engine
        (Outcome engine (.connect_peer peer_addr getrandom now_ms)) := by
      unfold GossipEngine.connect_peer
      refine .get_bind (.attempt_bind (.unmoved rfl) fun _ _ => ?_)
      exact withHandshakes_outcome rfl HandshakeManager.build_probe_onlyAt
    exact hleaves
  | process_handshake_bytes peer_addr bytes getrandom rng now_ms => exact process_handshake_bytes_outcome rfl
  | build_handshake_ack peer_addr probe_bytes getrandom now_ms =>
    have hleaves : Leaves (GossipEngine.build_handshake_ack peer_addr probe_bytes getrandom now_ms) engine
        (Outcome engine (.build_handshake_ack peer_addr probe_bytes getrandom now_ms)) := by
      unfold GossipEngine.build_handshake_ack
      exact .get_bind (withHandshakes_outcome rfl HandshakeManager.process_probe_build_ack_onlyAt)
    exact hleaves
  | build_finish_ack peer_addr finish_bytes now_ms => exact build_finish_ack_outcome
  | disconnect_peer peer_addr => exact disconnect_peer_outcome
  | publish payload_type payload now_ms => exact publish_outcome
  | encode_envelope payload_type payload now_ms =>
    have hleaves : Leaves (GossipEngine.encode_envelope payload_type payload now_ms) engine
        (Outcome engine (.encode_envelope payload_type payload now_ms)) := by
      unfold GossipEngine.encode_envelope
      exact .get_bind (.attempt_bind (.idle rfl) fun _ _ => .attempt_bind (.idle rfl) fun _ _ => .attempt (.idle rfl))
    exact hleaves
  | verify_envelope_bytes bytes now_ms => exact verify_envelope_bytes_outcome rfl
  | verify_envelope_from_lineage lineage envelope_bytes now_ms =>
    have hleaves : Leaves (GossipEngine.verify_envelope_from_lineage lineage envelope_bytes now_ms) engine
        (Outcome engine (.verify_envelope_from_lineage lineage envelope_bytes now_ms)) := by
      unfold GossipEngine.verify_envelope_from_lineage
      refine .attempt_bind (.idle rfl) fun _ _ => ?_
      split
      · exact .modify_bind (.throw (.counted rfl ⟨rfl, rfl, rfl⟩))
      · exact verify_envelope_bytes_outcome rfl
    exact hleaves
  | heartbeat order now_ms => exact .beat

end Outcomes

end EngineOp

end witan.gossip
