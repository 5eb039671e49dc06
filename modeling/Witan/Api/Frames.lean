import Witan.Api.Observation

open bincode fallible
open witan.types witan.error witan.identity witan.session witan.config witan.rotation witan.gossip

namespace witan.api

variable {crates : Crates}

/-! What the calls leave alone. -/

section Frames

variable {engine : GossipEngine crates}

/-- An operation on messages leaves the peers alone. -/
theorem EngineOp.run_samePeers (op : EngineOp crates) (haddress : op.address = none) (hbeat : op.heartbeatTime = none) :
    SamePeers (op.run engine) engine := by
  have houtcome := op.run_outcome engine
  generalize op.run engine = after at houtcome ⊢
  cases houtcome with
  | published hstats => exact ⟨rfl, rfl, rfl, rfl, rfl⟩
  | counted hnone hstats => exact ⟨rfl, rfl, rfl, rfl, rfl⟩
  | moved hsome honly =>
    rw [haddress] at hsome
    cases hsome
  | completed hsome honly hpeer hactive =>
    rw [haddress] at hsome
    cases hsome
  | answered honly hpeer hactive => cases haddress
  | disconnected => cases haddress
  | beat => cases hbeat

/-- An operation that names a peer leaves the cache of message ids alone. -/
theorem EngineOp.run_sameMessages {peer_addr : Str} (op : EngineOp crates) (haddress : op.address = some peer_addr) :
    SameMessages (op.run engine) engine := by
  have houtcome := op.run_outcome engine
  generalize op.run engine = after at houtcome ⊢
  cases houtcome with
  | published hstats => cases haddress
  | counted hnone hstats =>
    rw [haddress] at hnone
    cases hnone
  | moved hsome honly => exact ⟨rfl, rfl, rfl⟩
  | completed hsome honly hpeer hactive =>
    unfold GossipEngine.complete_handshake GossipEngine.add_to_mesh
    dsimp only
    split <;> exact ⟨rfl, rfl, rfl⟩
  | answered honly hpeer hactive => exact ⟨rfl, rfl, rfl⟩
  | disconnected => exact ⟨rfl, rfl, rfl⟩
  | beat => cases haddress

/-- A received envelope is only counted. -/
theorem verify_envelope_bytes_related {engine' : GossipEngine crates} {bytes : Bytes} {now_ms : UInt64}
    (h : SameMessages engine engine') :
    Leaves (GossipEngine.verify_envelope_bytes bytes now_ms) engine (SameMessages · engine') := by
  unfold GossipEngine.verify_envelope_bytes
  refine .get_bind (.attempt_bind h fun env _ => ?_)
  split
  · exact .modify_bind (.pure ⟨h.config, h.identity, h.dedup⟩)
  · exact .modify_bind (.pure ⟨h.config, h.identity, h.dedup⟩)
  · exact .modify_bind (.throw ⟨h.config, h.identity, h.dedup⟩)

theorem verify_envelope_from_lineage_related {engine' : GossipEngine crates} {checked : KeyLineage} {bytes : Bytes}
    {now_ms : UInt64} (h : SameMessages engine engine') :
    Leaves (GossipEngine.verify_envelope_from_lineage checked bytes now_ms) engine (SameMessages · engine') := by
  unfold GossipEngine.verify_envelope_from_lineage
  refine .attempt_bind h fun env _ => ?_
  split
  · exact .modify_bind (.throw ⟨h.config, h.identity, h.dedup⟩)
  · exact verify_envelope_bytes_related h

end Frames

section Steps

variable {related : GossipEngine crates → GossipEngine crates → Prop} {first second : ApiState crates}

theorem SameNode.refl_states (hnode : SameNode related) (state : ApiState crates) :
    ApiState.Related related state state := by
  obtain ⟨gossip_state, lineage⟩ := state
  cases gossip_state with
  | none => exact ⟨rfl, .none⟩
  | some engine => exact ⟨rfl, .some (hnode.equivalence.refl engine)⟩

/-- A rule for related states: it is enough to look at related engines. -/
theorem SameNode.alike_of_engines (hnode : SameNode related) (h : ApiState.Related related first second)
    {call : ApiCall crates}
    (hengines : ∀ engine engine' lineage, related engine engine' →
      Alike (ApiState.Related related) call.perform call.perform ⟨some engine, lineage⟩ ⟨some engine', lineage⟩) :
    Alike (ApiState.Related related) call.perform call.perform first second := by
  rcases h.cases with rfl | ⟨engine, engine', lineage, rfl, rfl, hrelated⟩
  · exact ⟨rfl, hnode.refl_states _⟩
  · exact hengines engine engine' lineage hrelated

/-- A call that leaves related engines related to others. -/
theorem run_related (h : ApiState.Related related first second) {call : ApiCall crates}
    (hnone : ∀ lineage, call.run ⟨none, lineage⟩ = ⟨none, lineage⟩)
    (hengine : ∀ engine engine' lineage, related engine engine' →
      ApiState.Related related (call.run ⟨some engine, lineage⟩) ⟨some engine', lineage⟩) :
    ApiState.Related related (call.run first) second := by
  obtain ⟨gossip_state, lineage⟩ := first
  obtain ⟨gossip_state', lineage'⟩ := second
  obtain ⟨rfl, hrel⟩ := h
  cases hrel with
  | none =>
    rw [hnone]
    exact ⟨rfl, .none⟩
  | some hrelated => exact hengine _ _ lineage hrelated

theorem onEngine_related {α : Type} {f : EStateM GossipError (GossipEngine crates) α}
    {engine engine' : GossipEngine crates} {lineage : Option KeyLineage} (h : Leaves f engine (related · engine')) :
    Leaves (with_engine (onEngine f)) ⟨some engine, lineage⟩ (ApiState.Related related · ⟨some engine', lineage⟩) :=
  with_engine_leaves (.onPart ⟨rfl, .some h⟩)

theorem verify_envelope_from_lineage_uninitialized {bytes lineage_bytes : Bytes} {now_ms : UInt64}
    {lineage : Option KeyLineage} :
    Leaves (gossip_verify_envelope_from_lineage bytes lineage_bytes now_ms) (⟨none, lineage⟩ : ApiState crates)
      (· = ⟨none, lineage⟩) := by
  unfold gossip_verify_envelope_from_lineage
  exact .attempt_bind rfl fun _ _ => rfl

/-- A call about messages leaves the peers alone. -/
theorem run_messages (call : ApiCall crates) (hconcern : call.concern = .messages)
    (h : ApiState.Related SamePeers first second) : ApiState.Related SamePeers (call.run first) second := by
  have hframe (op : EngineOp crates) (haddress : op.address = none) (hbeat : op.heartbeatTime = none)
      {engine engine' : GossipEngine crates} (hrelated : SamePeers engine engine') :
      SamePeers (op.run engine) engine' :=
    samePeers_sameNode.equivalence.trans (EngineOp.run_samePeers op haddress hbeat) hrelated
  cases call with
  | gossip_publish payload_type payload now_ms =>
    exact run_related h (fun _ => rfl) fun _ _ _ hrelated =>
      onEngine_related (hframe (.publish payload_type payload now_ms) rfl rfl hrelated)
  | gossip_verify_envelope bytes now_ms =>
    exact run_related h (fun _ => rfl) fun _ _ _ hrelated =>
      onEngine_related (hframe (.verify_envelope_bytes bytes now_ms) rfl rfl hrelated)
  | gossip_encode_envelope payload_type payload now_ms =>
    exact run_related h (fun _ => rfl) fun _ _ _ hrelated =>
      onEngine_related (hframe (.encode_envelope payload_type payload now_ms) rfl rfl hrelated)
  | gossip_decode_envelope bytes =>
    exact run_related h (fun _ => rfl) fun _ _ _ hrelated =>
      onEngine_related (.get_bind (.attempt hrelated))
  | gossip_verify_envelope_from_lineage bytes lineage_bytes now_ms =>
    refine run_related h (fun _ => verify_envelope_from_lineage_uninitialized) fun engine engine' lineage hrelated => ?_
    have hleaves : Leaves (gossip_verify_envelope_from_lineage bytes lineage_bytes now_ms) ⟨some engine, lineage⟩
        (ApiState.Related SamePeers · ⟨some engine', lineage⟩) := by
      unfold gossip_verify_envelope_from_lineage
      exact .attempt_bind ⟨rfl, .some hrelated⟩ fun checked _ =>
        onEngine_related (hframe (.verify_envelope_from_lineage checked bytes now_ms) rfl rfl hrelated)
    exact hleaves
  | _ => cases hconcern

/-- A call about peers leaves the messages alone. -/
theorem run_peers (call : ApiCall crates) (hconcern : call.concern = .peers)
    (h : ApiState.Related SameMessages first second) : ApiState.Related SameMessages (call.run first) second := by
  have hframe {peer_addr : Str} (op : EngineOp crates) (haddress : op.address = some peer_addr)
      {engine engine' : GossipEngine crates} (hrelated : SameMessages engine engine') :
      SameMessages (op.run engine) engine' :=
    sameMessages_sameNode.equivalence.trans (EngineOp.run_sameMessages op haddress) hrelated
  cases call with
  | gossip_connect_peer peer_addr getrandom now_ms =>
    exact run_related h (fun _ => rfl) fun _ _ _ hrelated =>
      onEngine_related (hframe (.connect_peer peer_addr getrandom now_ms) rfl hrelated)
  | gossip_disconnect_peer peer_addr =>
    exact run_related h (fun _ => rfl) fun _ _ _ hrelated =>
      onEngine_related (hframe (.disconnect_peer peer_addr) rfl hrelated)
  | gossip_process_handshake_bytes peer_addr bytes getrandom rng now_ms =>
    exact run_related h (fun _ => rfl) fun _ _ _ hrelated =>
      onEngine_related (hframe (.process_handshake_bytes peer_addr bytes getrandom rng now_ms) rfl hrelated)
  | gossip_build_handshake_ack peer_addr probe_bytes getrandom now_ms =>
    exact run_related h (fun _ => rfl) fun _ _ _ hrelated =>
      onEngine_related (hframe (.build_handshake_ack peer_addr probe_bytes getrandom now_ms) rfl hrelated)
  | gossip_build_finish_ack peer_addr finish_bytes now_ms =>
    exact run_related h (fun _ => rfl) fun _ _ _ hrelated =>
      onEngine_related (hframe (.build_finish_ack peer_addr finish_bytes now_ms) rfl hrelated)
  | gossip_get_peers order =>
    exact run_related h (fun _ => rfl) fun _ _ _ hrelated => onEngine_related (.get_bind (.attempt hrelated))
  | gossip_get_session peer_addr =>
    exact run_related h (fun _ => rfl) fun _ _ _ hrelated => onEngine_related (.get_bind (.attempt hrelated))
  | _ => cases hconcern

theorem SameNode.symm_states (hnode : SameNode related) (h : ApiState.Related related first second) :
    ApiState.Related related second first := by
  rcases h.cases with rfl | ⟨engine, engine', lineage, rfl, rfl, hrelated⟩
  · exact h
  · exact ⟨rfl, .some (hnode.equivalence.symm hrelated)⟩

/-- A poll of the statistics runs a heartbeat in both states. -/
theorem run_statistics (hbeat : ∀ engine engine' order now_ms, related engine engine' →
      related (GossipEngine.heartbeat engine order now_ms) (GossipEngine.heartbeat engine' order now_ms))
    (call : ApiCall crates) (hconcern : call.concern = .statistics) (h : ApiState.Related related first second) :
    ApiState.Related related (call.run first) (call.run second) := by
  cases call with
  | gossip_get_stats order now_ms =>
    obtain ⟨gossip_state, lineage⟩ := first
    obtain ⟨gossip_state', lineage'⟩ := second
    obtain ⟨rfl, hrel⟩ := h
    cases hrel with
    | none => exact ⟨rfl, .none⟩
    | @some engine engine' hrelated =>
      have hstate (started : GossipEngine crates) :
        (ApiCall.gossip_get_stats order now_ms).run ⟨some started, lineage⟩ =
          ⟨some (started.heartbeat order now_ms), lineage⟩ := by
        have hpolled : Leaves (do
            modify (·.heartbeat order now_ms)
            let engine ← get
            attempt engine.get_stats_json) started (· = started.heartbeat order now_ms) :=
          .modify_bind (.get_bind (.attempt rfl))
        have hleaves : Leaves (gossip_get_stats order now_ms) ⟨some started, lineage⟩
            (· = ⟨some (started.heartbeat order now_ms), lineage⟩) :=
          with_engine_leaves (.onPart (congrArg (fun after => (⟨some after, lineage⟩ : ApiState crates)) hpolled))
        exact hleaves
      rw [hstate, hstate]
      exact ⟨rfl, .some (hbeat engine engine' order now_ms hrelated)⟩
  | _ => cases hconcern

/-- A call about the node or its peers answers the same where the peers are the same. -/
theorem alike_samePeers (call : ApiCall crates) (hconcern : call.concern = .node ∨ call.concern = .peers)
    (h : ApiState.Related SamePeers first second) :
    Alike (ApiState.Related SamePeers) call.perform call.perform first second := by
  refine samePeers_sameNode.alike_of_engines h fun _ _ _ hrelated => ?_
  rcases hconcern with hnode | hpeers
  · exact samePeers_sameNode.alike hrelated call hnode
  · exact hrelated.alike call hpeers

theorem alike_sameMessages (call : ApiCall crates) (hconcern : call.concern = .node ∨ call.concern = .messages)
    (h : ApiState.Related SameMessages first second) :
    Alike (ApiState.Related SameMessages) call.perform call.perform first second := by
  refine sameMessages_sameNode.alike_of_engines h fun _ _ _ hrelated => ?_
  rcases hconcern with hnode | hmessages
  · exact sameMessages_sameNode.alike hrelated call hnode
  · exact hrelated.alike call hmessages

theorem step_of_alike {call : ApiCall crates}
    (h : Alike (ApiState.Related related) call.perform call.perform first second) :
    ApiState.Related related (call.run first) (call.run second) := by
  rw [← call.final_perform, ← call.final_perform]
  exact h.final

/-- Any call, in states with the same peers. -/
theorem step_samePeers (call : ApiCall crates) (h : ApiState.Related SamePeers first second) :
    ApiState.Related SamePeers (call.run first) (call.run second) := by
  cases hconcern : call.concern with
  | node => exact step_of_alike (alike_samePeers call (.inl hconcern) h)
  | peers => exact step_of_alike (alike_samePeers call (.inr hconcern) h)
  | messages =>
    have hfirst := samePeers_sameNode.symm_states (run_messages call hconcern h)
    exact samePeers_sameNode.symm_states (run_messages call hconcern hfirst)
  | statistics =>
    exact run_statistics (fun _ _ order now_ms hrelated => hrelated.heartbeat order now_ms) call hconcern h

/-- Any call, in states with the same messages. -/
theorem step_sameMessages (call : ApiCall crates) (h : ApiState.Related SameMessages first second) :
    ApiState.Related SameMessages (call.run first) (call.run second) := by
  cases hconcern : call.concern with
  | node => exact step_of_alike (alike_sameMessages call (.inl hconcern) h)
  | peers =>
    have hfirst := sameMessages_sameNode.symm_states (run_peers call hconcern h)
    exact sameMessages_sameNode.symm_states (run_peers call hconcern hfirst)
  | messages => exact step_of_alike (alike_sameMessages call (.inr hconcern) h)
  | statistics =>
    exact run_statistics (fun _ _ order now_ms hrelated => hrelated.heartbeat order now_ms) call hconcern h

/-- A received envelope leaves even the messages alone. -/
theorem run_received (call : ApiCall crates) (hreceives : call.receives = true)
    (h : ApiState.Related SameMessages first second) : ApiState.Related SameMessages (call.run first) second := by
  cases call with
  | gossip_verify_envelope bytes now_ms =>
    exact run_related h (fun _ => rfl) fun _ _ _ hrelated => onEngine_related (verify_envelope_bytes_related hrelated)
  | gossip_verify_envelope_from_lineage bytes lineage_bytes now_ms =>
    refine run_related h (fun _ => verify_envelope_from_lineage_uninitialized) fun engine engine' lineage hrelated => ?_
    have hleaves : Leaves (gossip_verify_envelope_from_lineage bytes lineage_bytes now_ms) ⟨some engine, lineage⟩
        (ApiState.Related SameMessages · ⟨some engine', lineage⟩) := by
      unfold gossip_verify_envelope_from_lineage
      exact .attempt_bind ⟨rfl, .some hrelated⟩ fun checked _ =>
        onEngine_related (verify_envelope_from_lineage_related hrelated)
    exact hleaves
  | _ => cases hreceives

end Steps

end witan.api
