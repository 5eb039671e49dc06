import Witan.Gossip.Events

open bincode fallible maps
open witan.types witan.error witan.identity witan.session witan.rotation
open witan.handshake (HandshakeManager HandshakeContext)

namespace witan.gossip

open GossipEngine

variable {crates : Crates}

section Steps

variable {engine after : GossipEngine crates} {peer_addr : Str} {now_ms : UInt64}

theorem Refused.refl (engine : GossipEngine crates) : Refused peer_addr engine engine := ⟨rfl, rfl, .inl rfl⟩

/-- Where the handshake manager fails and keeps its contexts but for the peer's own,
    the engine refuses the step. The engine adds nothing to a failed call. -/
theorem withHandshakes_refused {α : Type} {action : EStateM GossipError HandshakeManager α}
    (h : FailsIn action engine.handshakes
      (fun handshakes => handshakes = engine.handshakes ∨ handshakes = engine.handshakes.dropPending peer_addr)) :
    FailsIn (withHandshakes action) engine (Refused peer_addr engine) :=
  .onPart fun error handshakes hfail => ⟨rfl, rfl, h error handshakes hfail⟩

/-! How each handler fails. The first three keep all contexts; the two that complete a
handshake may have removed the context of their peer before they fail. -/

theorem build_probe_refused {identity : NodeIdentity crates} {getrandom : Except String Bytes32} :
    FailsIn (withHandshakes (HandshakeManager.build_probe peer_addr identity getrandom now_ms)) engine
      (Refused peer_addr engine) :=
  withHandshakes_refused fun error handshakes h => .inl (HandshakeManager.build_probe_failsIn error handshakes h)

theorem process_probe_refused {identity : NodeIdentity crates} {getrandom : Except String Bytes32}
    {probe_bytes : Bytes} :
    FailsIn (withHandshakes (HandshakeManager.process_probe_build_ack peer_addr probe_bytes identity getrandom now_ms))
      engine (Refused peer_addr engine) :=
  withHandshakes_refused fun error handshakes h =>
    .inl (HandshakeManager.process_probe_build_ack_failsIn error handshakes h)

theorem process_ack_refused {identity : NodeIdentity crates} {rng : crates.OsRng} {ack_bytes : Bytes} :
    FailsIn (withHandshakes (HandshakeManager.process_ack_build_finish peer_addr ack_bytes identity rng now_ms))
      engine (Refused peer_addr engine) :=
  withHandshakes_refused fun error handshakes h =>
    .inl (HandshakeManager.process_ack_build_finish_failsIn error handshakes h)

/-- A finish that is refused late takes the server's context with it: the handler
    removes the context before it derives the session. -/
theorem process_finish_refused {identity : NodeIdentity crates} {finish_bytes : Bytes} :
    FailsIn (withHandshakes (HandshakeManager.process_finish_build_finish_ack peer_addr finish_bytes identity now_ms))
      engine (Refused peer_addr engine) :=
  withHandshakes_refused fun error handshakes h =>
    (HandshakeManager.process_finish_build_finish_ack_failsIn error handshakes h).imp_right And.right

theorem process_finish_ack_refused {finish_ack_bytes : Bytes} :
    FailsIn (withHandshakes (HandshakeManager.process_finish_ack crates peer_addr finish_ack_bytes now_ms))
      engine (Refused peer_addr engine) :=
  withHandshakes_refused fun error handshakes h =>
    (HandshakeManager.process_finish_ack_failsIn error handshakes h).imp_right And.right

/-- A connection that cannot be started leaves everything as it was. -/
theorem connect_peer_refused {getrandom : Except String Bytes32} :
    FailsIn (connect_peer peer_addr getrandom now_ms) engine (Refused peer_addr engine) := by
  unfold connect_peer
  exact .get_bind (.attempt_bind (.refl engine) fun _ _ => build_probe_refused)

theorem build_handshake_ack_refused {probe_bytes : Bytes} {getrandom : Except String Bytes32} :
    FailsIn (build_handshake_ack peer_addr probe_bytes getrandom now_ms) engine (Refused peer_addr engine) := by
  unfold build_handshake_ack
  exact .get_bind process_probe_refused

theorem build_finish_ack_refused {finish_bytes : Bytes} :
    FailsIn (build_finish_ack peer_addr finish_bytes now_ms) engine (Refused peer_addr engine) := by
  unfold build_finish_ack
  exact .get_bind (.bind process_finish_refused fun _ _ _ => .modify_bind (.modify_bind (.pure _)))

/-- Whatever kind of bytes it is that the engine cannot accept, the step is refused. -/
theorem process_handshake_bytes_refused {bytes : Bytes} {getrandom : Except String Bytes32} {rng : crates.OsRng} :
    FailsIn (process_handshake_bytes peer_addr bytes getrandom rng now_ms) engine (Refused peer_addr engine) := by
  unfold process_handshake_bytes
  refine .get_bind ?_
  cases classify_incoming bytes with
  | HandshakeProbe => exact .bind process_probe_refused fun _ _ _ => .pure _
  | HandshakeAck => exact .bind process_ack_refused fun _ _ _ => .pure _
  | HandshakeFinish => exact .bind process_finish_refused fun _ _ _ => .modify_bind (.pure _)
  | HandshakeFinishAck => exact .bind process_finish_ack_refused fun _ _ _ => .modify_bind (.pure _)
  | GossipEnvelope => exact .throw _ (.refl engine)

/-- A refused step moves no handshake on: at most the context of its own peer is
    gone. -/
theorem Refused.idle (h : Refused peer_addr engine after) : Idle engine after := by
  refine ⟨fun addr => ?_, h.completed⟩
  rcases h.handshakes with hsame | hdropped
  · exact .inl (by rw [hsame])
  · rw [hdropped]
    by_cases heq : peer_addr = addr
    · subst heq
      exact .inr Std.ExtHashMap.getElem?_erase_self
    · exact .inl (HandshakeManager.pending_dropPending_of_ne engine.handshakes heq)

theorem pending_dropPending_self (self : HandshakeManager) :
    (self.dropPending peer_addr).pending[peer_addr]? = none := Std.ExtHashMap.getElem?_erase_self

/-- A probe that the engine hands out carries the nonce of the context that is stored
    for its peer from then on. -/
theorem connect_peer_effected {getrandom : Except String Bytes32} {probe_bytes : Bytes}
    (h : connect_peer peer_addr getrandom now_ms engine = .ok probe_bytes after) :
    ∃ probe, HandshakeProbe.codec.decodePrefix probe_bytes = some probe ∧
      Effected peer_addr (.probeBuilt probe.client_nonce) engine after := by
  unfold connect_peer at h
  rw [get_bind, attempt_bind_eq_ok_iff] at h
  obtain ⟨_, _, h⟩ := h
  obtain ⟨handshakes, hbuild, rfl⟩ := onPart_eq_ok_iff.mp h
  obtain ⟨client_nonce, _, rfl, rfl⟩ := HandshakeManager.build_probe_eq_ok_iff.mp hbuild
  refine ⟨_, HandshakeProbe.codec.decodePrefix_encode_nil _, ?_, (UInt32.add_zero _).symm⟩
  dsimp only
  rw [HandshakeManager.pending_setPending_self]
  exact .probeBuilt ⟨client_nonce, _, now_ms⟩

/-- An answered probe stores the server's context, whatever was there before. -/
theorem process_probe_effected {identity : NodeIdentity crates} {getrandom : Except String Bytes32}
    {probe_bytes ack_bytes : Bytes}
    (h : withHandshakes (HandshakeManager.process_probe_build_ack peer_addr probe_bytes identity getrandom now_ms)
      engine = .ok ack_bytes after) : Effected peer_addr .probeAccepted engine after := by
  obtain ⟨handshakes, hanswer, rfl⟩ := onPart_eq_ok_iff.mp h
  obtain ⟨_, _, _, _, _, _, _, _, rfl⟩ := HandshakeManager.process_probe_build_ack_eq_ok_iff.mp hanswer
  refine ⟨?_, (UInt32.add_zero _).symm⟩
  dsimp only
  rw [HandshakeManager.pending_setPending_self]
  exact .probeAccepted _

/-- An accepted acknowledgement carries the nonce of the probe it answers, and the
    context moves on to the finish. -/
theorem process_ack_effected {identity : NodeIdentity crates} {rng : crates.OsRng} {ack_bytes finish_bytes : Bytes}
    (h : withHandshakes (HandshakeManager.process_ack_build_finish peer_addr ack_bytes identity rng now_ms)
      engine = .ok finish_bytes after) :
    ∃ ack, HandshakeAck.codec.decodePrefix ack_bytes = some ack ∧
      Effected peer_addr (.ackAccepted ack.client_nonce) engine after := by
  obtain ⟨handshakes, hanswer, rfl⟩ := onPart_eq_ok_iff.mp h
  obtain ⟨ack, sent, _, hdecode, _, _, hsent, hnonce, _, rfl⟩ :=
    HandshakeManager.process_ack_build_finish_eq_ok_iff.mp hanswer
  refine ⟨ack, hdecode, ?_, (UInt32.add_zero _).symm⟩
  dsimp only
  rw [HandshakeManager.pending_setPending_self, hsent, hnonce]
  exact .ackAccepted sent _

/-- A finish is answered from the context that it uses up; the engine then counts
    the handshake. -/
theorem process_finish_effected {identity : NodeIdentity crates} {finish_bytes : Bytes}
    {answer : Bytes × SessionRecord} {middle : GossipEngine crates}
    (h : withHandshakes (HandshakeManager.process_finish_build_finish_ack peer_addr finish_bytes identity now_ms)
      engine = .ok answer middle) (hhandshakes : after.handshakes = middle.handshakes)
    (hcompleted : after.stats.handshakes_completed = middle.stats.handshakes_completed + 1) :
    Effected peer_addr .serverCompleted engine after := by
  obtain ⟨handshakes, hanswer, rfl⟩ := onPart_eq_ok_iff.mp h
  obtain ⟨_, sent, _, _, _, _, _, hsent, _, _, _, rfl⟩ :=
    HandshakeManager.process_finish_build_finish_ack_eq_ok_iff.mp hanswer
  refine ⟨?_, hcompleted⟩
  rw [hhandshakes, hsent]
  dsimp only
  rw [pending_dropPending_self]
  exact .serverCompleted sent

/-- An accepted finish-ack uses up the client's context; the engine then counts the
    handshake. -/
theorem process_finish_ack_effected {finish_ack_bytes : Bytes} {session : SessionRecord} {middle : GossipEngine crates}
    (h : withHandshakes (HandshakeManager.process_finish_ack crates peer_addr finish_ack_bytes now_ms)
      engine = .ok session middle) (hhandshakes : after.handshakes = middle.handshakes)
    (hcompleted : after.stats.handshakes_completed = middle.stats.handshakes_completed + 1) :
    Effected peer_addr .clientCompleted engine after := by
  obtain ⟨handshakes, hanswer, rfl⟩ := onPart_eq_ok_iff.mp h
  obtain ⟨_, sent, _, _, hsent, _, _, _, _, rfl⟩ := HandshakeManager.process_finish_ack_eq_ok_iff.mp hanswer
  refine ⟨?_, hcompleted⟩
  rw [hhandshakes, hsent]
  dsimp only
  rw [pending_dropPending_self]
  exact .clientCompleted sent

/-- Completing counts one handshake, whether or not the peer enters the mesh. -/
theorem complete_handshake_completed (engine : GossipEngine crates) (session : SessionRecord) :
    (engine.complete_handshake peer_addr session).stats.handshakes_completed =
      engine.stats.handshakes_completed + 1 := by
  unfold complete_handshake add_to_mesh
  dsimp only
  split <;> rfl

/-- The dispatcher: accepted bytes are one step of the handshake with the peer, and
    their kind tells which one. An envelope is never accepted here. -/
theorem process_handshake_bytes_effected {bytes : Bytes} {getrandom : Except String Bytes32} {rng : crates.OsRng}
    {answer : Option Bytes}
    (h : process_handshake_bytes peer_addr bytes getrandom rng now_ms engine = .ok answer after) :
    ∃ event, acceptedEvent bytes = some event ∧ Effected peer_addr event engine after := by
  unfold process_handshake_bytes at h
  rw [get_bind] at h
  unfold acceptedEvent
  cases hkind : classify_incoming bytes with
  | HandshakeProbe =>
    rw [hkind] at h
    obtain ⟨ack_bytes, middle, hprobe, hrest⟩ := bind_eq_ok_iff.mp h
    obtain ⟨_, rfl⟩ := EStateM.Result.ok.inj hrest
    exact ⟨_, rfl, process_probe_effected hprobe⟩
  | HandshakeAck =>
    rw [hkind] at h
    obtain ⟨finish_bytes, middle, hack, hrest⟩ := bind_eq_ok_iff.mp h
    obtain ⟨_, rfl⟩ := EStateM.Result.ok.inj hrest
    obtain ⟨ack, hdecode, heffected⟩ := process_ack_effected hack
    exact ⟨_, by rw [hdecode]; rfl, heffected⟩
  | HandshakeFinish =>
    rw [hkind] at h
    obtain ⟨⟨finish_ack_bytes, session⟩, middle, hfinish, hrest⟩ := bind_eq_ok_iff.mp h
    obtain ⟨_, rfl⟩ := EStateM.Result.ok.inj hrest
    exact ⟨_, rfl, process_finish_effected hfinish (complete_handshake_keeps middle peer_addr session).2.2
      (complete_handshake_completed middle session)⟩
  | HandshakeFinishAck =>
    rw [hkind] at h
    obtain ⟨session, middle, hfinish_ack, hrest⟩ := bind_eq_ok_iff.mp h
    obtain ⟨_, rfl⟩ := EStateM.Result.ok.inj hrest
    exact ⟨_, rfl, process_finish_ack_effected hfinish_ack (complete_handshake_keeps middle peer_addr session).2.2
      (complete_handshake_completed middle session)⟩
  | GossipEnvelope =>
    rw [hkind] at h
    cases h

/-- The export that answers a finish by itself takes the same step as the dispatcher. -/
theorem build_finish_ack_effected {finish_bytes answer : Bytes}
    (h : build_finish_ack peer_addr finish_bytes now_ms engine = .ok answer after) :
    Effected peer_addr .serverCompleted engine after := by
  unfold build_finish_ack at h
  rw [get_bind] at h
  obtain ⟨⟨finish_ack_bytes, session⟩, middle, hfinish, hrest⟩ := bind_eq_ok_iff.mp h
  obtain ⟨_, rfl⟩ := EStateM.Result.ok.inj hrest
  exact process_finish_effected hfinish rfl rfl

/-- A disconnection removes the context of the peer, with or without a session. -/
theorem disconnect_peer_idle : Leaves (disconnect_peer peer_addr) engine (Idle engine) := by
  unfold disconnect_peer
  refine .get_bind (.set_bind (.attempt_bind ⟨fun _ => .inl rfl, rfl⟩ fun _ _ => ?_))
  refine .modify_bind (.modify_bind (.modify ⟨?_, rfl⟩))
  exact (Refused.mk rfl rfl (.inr rfl) :
    Refused peer_addr engine { engine with handshakes := engine.handshakes.dropPending peer_addr }).idle.contexts

/-- A heartbeat removes the contexts that are timed out, and adds none. -/
theorem heartbeat_idle (engine : GossipEngine crates) (order : IterationOrder) (now_ms : UInt64) :
    Idle engine (engine.heartbeat order now_ms) := by
  refine ⟨fun addr => ?_, ?_⟩
  · rw [(heartbeat_keeps engine order now_ms).2.2]
    cases hafter : (engine.handshakes.evict_timed_out now_ms (order.pending _)).2.pending[addr]? with
    | none => exact .inr rfl
    | some context => exact .inl (getElem?_filter_eq_some_iff.mp hafter).1.symm
  · rw [heartbeat_eq]

/-- An operation that names no peer is no handshake step. -/
theorem EngineOp.run_idle (op : EngineOp crates) (engine : GossipEngine crates) (h : op.address = none) :
    Idle engine (op.run engine) := by
  have houtcome := op.run_outcome engine
  generalize op.run engine = after at houtcome ⊢
  cases houtcome with
  | published hstats => exact ⟨fun _ => .inl rfl, hstats.handshakes_completed⟩
  | counted haddress hstats => exact ⟨fun _ => .inl rfl, hstats.handshakes_completed⟩
  | moved haddress honly =>
    rw [h] at haddress
    cases haddress
  | completed haddress honly hpeer hactive =>
    rw [h] at haddress
    cases haddress
  | answered honly hpeer hactive => cases h
  | disconnected => cases h
  | beat => exact heartbeat_idle engine _ _

end Steps

/-- What an operation does to the handshakes: one step with the peer that it names,
    or none at all. -/
theorem EngineOp.event_cases (op : EngineOp crates) (engine : GossipEngine crates) :
    (∃ peer_addr event, op.event engine = some (peer_addr, event) ∧ op.address = some peer_addr ∧
        Effected peer_addr event engine (op.run engine)) ∨
      op.event engine = none ∧ Idle engine (op.run engine) := by
  cases op with
  | connect_peer peer_addr getrandom now_ms =>
    unfold EngineOp.event EngineOp.run
    dsimp only
    cases hresult : GossipEngine.connect_peer peer_addr getrandom now_ms engine with
    | ok probe_bytes after =>
      obtain ⟨probe, hdecode, heffected⟩ := connect_peer_effected hresult
      exact .inl ⟨peer_addr, _, by simp [hdecode], rfl, heffected⟩
    | error error after => exact .inr ⟨rfl, (connect_peer_refused error after hresult).idle⟩
  | process_handshake_bytes peer_addr bytes getrandom rng now_ms =>
    unfold EngineOp.event EngineOp.run
    dsimp only
    cases hresult : GossipEngine.process_handshake_bytes peer_addr bytes getrandom rng now_ms engine with
    | ok answer after =>
      obtain ⟨event, hevent, heffected⟩ := process_handshake_bytes_effected hresult
      exact .inl ⟨peer_addr, event, by simp [hevent], rfl, heffected⟩
    | error error after => exact .inr ⟨rfl, (process_handshake_bytes_refused error after hresult).idle⟩
  | build_handshake_ack peer_addr probe_bytes getrandom now_ms =>
    unfold EngineOp.event EngineOp.run
    dsimp only
    cases hresult : GossipEngine.build_handshake_ack peer_addr probe_bytes getrandom now_ms engine with
    | ok answer after => exact .inl ⟨peer_addr, _, rfl, rfl, process_probe_effected hresult⟩
    | error error after => exact .inr ⟨rfl, (build_handshake_ack_refused error after hresult).idle⟩
  | build_finish_ack peer_addr finish_bytes now_ms =>
    unfold EngineOp.event EngineOp.run
    dsimp only
    cases hresult : GossipEngine.build_finish_ack peer_addr finish_bytes now_ms engine with
    | ok answer after => exact .inl ⟨peer_addr, _, rfl, rfl, build_finish_ack_effected hresult⟩
    | error error after => exact .inr ⟨rfl, (build_finish_ack_refused error after hresult).idle⟩
  | disconnect_peer peer_addr => exact .inr ⟨rfl, disconnect_peer_idle⟩
  | publish payload_type payload now_ms => exact .inr ⟨rfl, EngineOp.run_idle _ engine rfl⟩
  | encode_envelope payload_type payload now_ms => exact .inr ⟨rfl, EngineOp.run_idle _ engine rfl⟩
  | verify_envelope_bytes bytes now_ms => exact .inr ⟨rfl, EngineOp.run_idle _ engine rfl⟩
  | verify_envelope_from_lineage lineage envelope_bytes now_ms => exact .inr ⟨rfl, EngineOp.run_idle _ engine rfl⟩
  | heartbeat order now_ms => exact .inr ⟨rfl, EngineOp.run_idle _ engine rfl⟩

namespace EngineCall

/-- The same over all calls of the engine: rotations and recorded acknowledgements are
    no handshake steps either. -/
theorem event_cases (call : EngineCall crates) (engine : GossipEngine crates) :
    (∃ peer_addr event, call.event engine = some (peer_addr, event) ∧ call.address = some peer_addr ∧
        Effected peer_addr event engine (call.run engine)) ∨
      call.event engine = none ∧ Idle engine (call.run engine) := by
  cases call with
  | operation op => exact op.event_cases engine
  | rotate_keys key_epoch kem_rng sig_rng =>
    obtain ⟨identity, hrun⟩ := run_rotate_keys key_epoch kem_rng sig_rng engine
    rw [hrun]
    exact .inr ⟨rfl, fun _ => .inl rfl, rfl⟩
  | rotate_keys_under_id lineage next next_key_commitment now_ms =>
    obtain ⟨identity, hrun⟩ := run_rotate_keys_under_id lineage next next_key_commitment now_ms engine
    rw [hrun]
    exact .inr ⟨rfl, fun _ => .inl rfl, rfl⟩
  | record_ack message_id peer_addr => exact .inr ⟨rfl, fun _ => .inl rfl, rfl⟩

/-- The step that an event stands for has taken place. -/
theorem effected_of_event {call : EngineCall crates} {engine : GossipEngine crates} {addr : Str}
    {event : HandshakeEvent}
    (h : call.event engine = some (addr, event)) : Effected addr event engine (call.run engine) := by
  rcases call.event_cases engine with ⟨peer_addr, event', hevent, _, heffected⟩ | ⟨hnone, _⟩
  · rw [hevent] at h
    cases h
    exact heffected
  · rw [hnone] at h
    cases h

/-- Without a step for the address, its context is as it was or gone. -/
theorem quiet {call : EngineCall crates} {engine : GossipEngine crates} {addr : Str}
    (h : ∀ event, call.event engine = some event → event.1 ≠ addr) :
    (call.run engine).handshakes.pending[addr]? = engine.handshakes.pending[addr]? ∨
      (call.run engine).handshakes.pending[addr]? = none := by
  rcases call.event_cases engine with ⟨peer_addr, event, hevent, haddress, _⟩ | ⟨_, hidle⟩
  · have hne : peer_addr ≠ addr := h _ hevent
    have helsewhere : call.concerns addr = false := by
      unfold EngineCall.concerns
      rw [haddress]
      exact decide_eq_false hne
    exact .inl ((call.run_elsewhere helsewhere engine).2.context trivial)
  · exact hidle.contexts addr

/-- A call counts at most one handshake, and none unless it completes one. -/
theorem completed_le (engine : GossipEngine crates) (call : EngineCall crates) :
    (call.run engine).stats.handshakes_completed.toNat ≤ engine.stats.handshakes_completed.toNat +
      if (call.event engine).any (·.2.completes) then 1 else 0 := by
  rcases call.event_cases engine with ⟨peer_addr, event, hevent, _, heffected⟩ | ⟨hnone, hidle⟩
  · rw [heffected.completed, hevent, Option.any_some]
    split
    · rw [UInt32.toNat_add]
      exact Nat.mod_le _ _
    · rw [UInt32.add_zero, Nat.add_zero]
  · rw [hidle.completed, hnone]
    exact Nat.le_add_right _ _

end EngineCall

end witan.gossip
