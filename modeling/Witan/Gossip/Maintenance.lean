import Witan.Gossip.Completion
import Witan.Gossip.Mesh
import Witan.Handshake.Splice

open bincode fallible maps
open witan.types witan.error witan.identity witan.session witan.config
open witan.handshake (HandshakeManager finishMessage)

namespace witan.gossip

variable {crates : Crates}

/-- Every session that the engine stores is active. -/
def AllActive (engine : GossipEngine crates) : Prop :=
  ∀ addr session, engine.sessions.get addr = some session → session.is_active = true

open GossipEngine

section Active

variable {engine after : GossipEngine crates} {session : SessionRecord}

theorem AllActive.of_eq (h : AllActive engine) (hsessions : after.sessions = engine.sessions) : AllActive after := by
  unfold AllActive
  rw [hsessions]
  exact h

theorem AllActive.of_insert (h : AllActive engine) (hactive : session.is_active = true)
    (hsessions : after.sessions = engine.sessions.insert session) : AllActive after := by
  intro addr found hfound
  rw [hsessions] at hfound
  rcases SessionStore.get_insert_cases hfound with ⟨_, rfl⟩ | hold
  · exact hactive
  · exact h addr found hold

/-- Sessions are stored as active ones, and nothing deactivates them. -/
theorem EngineOp.run_allActive (op : EngineOp crates) (h : AllActive engine) : AllActive (op.run engine) := by
  have houtcome := op.run_outcome engine
  generalize op.run engine = after at houtcome ⊢
  cases houtcome with
  | completed haddress honly hpeer hactive => exact h.of_insert hactive (complete_handshake_keeps _ _ _).2.1
  | answered honly hpeer hactive => exact h.of_insert hactive rfl
  | disconnected =>
    intro addr session hfound
    exact h addr session (SessionStore.get_of_get_remove hfound)
  | beat => exact h.of_eq (heartbeat_keeps engine _ _).2.1
  | _ => exact h.of_eq rfl

theorem EngineCall.run_allActive (call : EngineCall crates) (engine : GossipEngine crates) (h : AllActive engine) :
    AllActive (call.run engine) := by
  cases call with
  | operation op => exact op.run_allActive h
  | rotate_keys key_epoch kem_rng sig_rng =>
    obtain ⟨identity, hrun⟩ := EngineCall.run_rotate_keys key_epoch kem_rng sig_rng engine
    rw [hrun]
    exact h.of_eq rfl
  | rotate_keys_under_id lineage next next_key_commitment now_ms =>
    obtain ⟨identity, hrun⟩ :=
      EngineCall.run_rotate_keys_under_id lineage next next_key_commitment now_ms engine
    rw [hrun]
    exact h.of_eq rfl
  | record_ack message_id peer_addr => exact h.of_eq rfl

theorem allActive_new (resolved : ResolvedConfig) (identity : NodeIdentity crates) :
    AllActive (GossipEngine.new resolved identity) := by
  intro addr session hfound
  rw [GossipEngine.sessions_new] at hfound
  cases hfound

end Active

section Degree

variable {resolved : ResolvedConfig} {engine : GossipEngine crates} (order : IterationOrder)

/-- Every peer with a session that is outside the mesh is a candidate. -/
theorem length_candidates (h : Placed resolved engine) (hactive : AllActive engine) :
    (((engine.sessions.active_peers (order.sessions _)).map (·.addr)).filter (· ∉ engine.mesh_peers)).length +
      engine.mesh_peers.length = engine.sessions.count := by
  have hall : ((order.sessions engine.sessions.sessions).keys.filter
      fun addr => (engine.sessions.get addr).any (·.is_active)) = (order.sessions engine.sessions.sessions).keys := by
    refine List.filter_eq_self.mpr fun addr hmem => ?_
    have hstored : addr ∈ engine.sessions.sessions := ((order.sessions _).mem_iff addr).mp hmem
    obtain ⟨session, hsession⟩ := Option.isSome_iff_exists.mp (Std.ExtHashMap.isSome_getElem?_iff_mem.mpr hstored)
    have hget : engine.sessions.get addr = some session := hsession
    rw [hget]
    exact hactive addr session hget
  rw [SessionStore.active_peers_addrs engine.sessions _ h.stored, hall]
  refine (length_filter_notMem (order.sessions _).nodup h.nodup ?_).trans (order.sessions _).length_keys
  intro addr hmem
  obtain ⟨session, hget⟩ := h.connected addr hmem
  refine ((order.sessions _).mem_iff addr).mpr (Std.ExtHashMap.isSome_getElem?_iff_mem.mp ?_)
  exact Option.isSome_of_eq_some hget

/-- A mesh below its lower bound is filled up to the target, as far as there are
    sessions. -/
theorem length_grafted (h : Placed resolved engine) (hactive : AllActive engine)
    (hlow : resolved.mesh_n_low.toNat ≤ resolved.mesh_n.toNat)
    (hhigh : resolved.mesh_n.toNat ≤ resolved.mesh_n_high.toNat)
    (hneeds : engine.mesh_peers.length < resolved.mesh_n_low.toNat) :
    (engine.mesh_peers ++ grafted engine order).length = min resolved.mesh_n.toNat engine.sessions.count := by
  have hcandidates := length_candidates order h hactive
  have hneeded : engine.mesh_needs_peers = true := by
    unfold mesh_needs_peers
    rw [h.config]
    exact decide_eq_true hneeds
  unfold grafted
  rw [if_pos hneeded, h.config, List.length_append, List.length_take, List.length_take]
  omega

/-- A mesh at its lower bound takes in nobody. -/
theorem grafted_eq_nil (h : Placed resolved engine) (hdone : resolved.mesh_n_low.toNat ≤ engine.mesh_peers.length) :
    grafted engine order = [] := by
  have hneeds : engine.mesh_needs_peers = false := by
    unfold mesh_needs_peers
    rw [h.config]
    exact decide_eq_false (Nat.not_lt.mpr hdone)
  unfold grafted
  rw [hneeds]
  rfl

end Degree

/-- A heartbeat at this time finds nothing to do: no entry and no handshake is
    expired, only cached messages have acknowledgements, no peer is missing from the
    mesh, and the gauges are right. -/
structure Settled (now_ms : UInt64) (engine : GossipEngine crates) : Prop where
  entries : ∀ (message_id : Bytes32) (ts : UInt64), engine.dedup.entries[message_id]? = some ts →
    now_ms.toNat - ts.toNat ≤ engine.dedup.ttl_ms.toNat
  pending : ∀ (addr : Str) context, engine.handshakes.pending[addr]? = some context →
    context.is_timed_out now_ms = false
  acks : ∀ (message_id : Bytes32) ackers,
    engine.quorum.acks[message_id]? = some ackers → message_id ∈ engine.dedup.entries
  mesh : engine.mesh_peers.length < engine.config.mesh_n_low.toNat →
    engine.mesh_peers.length < engine.config.mesh_n.toNat →
    engine.mesh_peers.length < engine.config.mesh_n_high.toNat →
    ∀ addr session, engine.sessions.get addr = some session → session.is_active = true →
      session.peer_addr ∈ engine.mesh_peers
  active_peers : engine.stats.active_peers = UInt32.ofNat engine.sessions.count
  mesh_peers : engine.stats.mesh_peers = UInt32.ofNat engine.mesh_peers.length
  dedup_cache_size : engine.stats.dedup_cache_size = UInt32.ofNat engine.dedup.len

section Settled

variable {engine : GossipEngine crates} (order : IterationOrder) (now_ms : UInt64)

/-- After grafting, either the mesh is large enough or no candidate is left. -/
theorem grafted_complete {addr : Str} {session : SessionRecord}
    (hneeds : (engine.mesh_peers ++ grafted engine order).length < engine.config.mesh_n_low.toNat)
    (htarget : (engine.mesh_peers ++ grafted engine order).length < engine.config.mesh_n.toNat)
    (hroom : (engine.mesh_peers ++ grafted engine order).length < engine.config.mesh_n_high.toNat)
    (hget : engine.sessions.get addr = some session) (hactive : session.is_active = true) :
    session.peer_addr ∈ engine.mesh_peers ++ grafted engine order := by
  by_cases hold : session.peer_addr ∈ engine.mesh_peers
  · exact List.mem_append_left _ hold
  apply List.mem_append_right
  have hcandidate : session.peer_addr ∈
      ((engine.sessions.active_peers (order.sessions _)).map (·.addr)).filter (· ∉ engine.mesh_peers) := by
    refine List.mem_filter.mpr ⟨?_, decide_eq_true hold⟩
    exact SessionStore.mem_active_peers_addrs.mpr ⟨addr, session, hget, hactive, rfl⟩
  have hneeded : engine.mesh_needs_peers = true := by
    rw [List.length_append] at hneeds
    exact decide_eq_true (Nat.lt_of_le_of_lt (Nat.le_add_right _ _) hneeds)
  unfold grafted at htarget hroom ⊢
  rw [if_pos hneeded] at htarget hroom ⊢
  rw [List.length_append, List.length_take, List.length_take] at htarget hroom
  -- Neither bound was reached, so both of them cut off nothing.
  rwa [List.take_of_length_le, List.take_of_length_le]
  · omega
  · rw [List.length_take]
    omega

theorem heartbeat_settled : Settled now_ms (engine.heartbeat order now_ms) := by
  rw [heartbeat_eq]
  constructor
  · intro message_id ts hentry
    exact of_decide_eq_true (getElem?_filter_eq_some_iff.mp hentry).2
  · intro addr context hcontext
    have hkept := (getElem?_filter_eq_some_iff.mp hcontext).2
    rwa [Bool.not_eq_true'] at hkept
  · intro message_id ackers hacks
    have hknown := (getElem?_filter_eq_some_iff.mp hacks).2
    exact ((order.entries _).mem_iff message_id).mp (List.contains_iff_mem.mp hknown)
  · intro hneeds htarget hroom addr session hget hactive
    exact grafted_complete order hneeds htarget hroom hget hactive
  · rfl
  · rfl
  · rfl

theorem Settled.evict_timed_out (h : Settled now_ms engine) :
    engine.handshakes.evict_timed_out now_ms (order.pending _) = ([], engine.handshakes) := by
  have hnone : ((order.pending engine.handshakes.pending).keys.filter
      fun addr => (engine.handshakes.pending[addr]?).any (·.is_timed_out now_ms)) = [] := by
    refine List.filter_eq_nil_iff.mpr fun addr _ => ?_
    cases hcontext : engine.handshakes.pending[addr]? with
    | none => exact Bool.false_ne_true
    | some context =>
      rw [Option.any_some, h.pending addr context hcontext]
      exact Bool.false_ne_true
  have hkept : (engine.handshakes.pending.filter fun _ context => !context.is_timed_out now_ms) =
      engine.handshakes.pending := by
    refine filter_eq_self fun addr context hcontext => ?_
    rw [h.pending addr context hcontext]
    rfl
  unfold HandshakeManager.evict_timed_out
  rw [hnone, hkept]

theorem Settled.grafted (h : Settled now_ms engine) : grafted engine order = [] := by
  unfold gossip.grafted
  split
  · rename_i hneeded
    have hneeds : engine.mesh_peers.length < engine.config.mesh_n_low.toNat := of_decide_eq_true hneeded
    by_cases htarget : engine.mesh_peers.length < engine.config.mesh_n.toNat
    · by_cases hroom : engine.mesh_peers.length < engine.config.mesh_n_high.toNat
      · have hnone : ((engine.sessions.active_peers (order.sessions _)).map (·.addr)).filter
            (· ∉ engine.mesh_peers) = [] := by
          refine List.filter_eq_nil_iff.mpr fun peer hpeer hnew => ?_
          obtain ⟨addr, session, hget, hactive, rfl⟩ := SessionStore.mem_active_peers_addrs.mp hpeer
          exact of_decide_eq_true hnew (h.mesh hneeds htarget hroom addr session hget hactive)
        rw [hnone, List.take_nil, List.take_nil]
      · rw [Nat.sub_eq_zero_of_le (Nat.not_lt.mp hroom), List.take_zero]
    · rw [Nat.sub_eq_zero_of_le (Nat.not_lt.mp htarget), List.take_zero, List.take_nil]
  · rfl

/-- An engine with nothing left to do stays as it is. -/
theorem Settled.heartbeat (h : Settled now_ms engine) : engine.heartbeat order now_ms = engine := by
  have hdedup : engine.dedup.evict_expired now_ms = engine.dedup := by
    unfold dedup.DedupCache.evict_expired
    rw [filter_eq_self fun message_id ts hentry => decide_eq_true (h.entries message_id ts hentry)]
  have hquorum : engine.quorum.prune (engine.dedup.active_ids (order.entries _)) = engine.quorum := by
    unfold quorum.QuorumTracker.prune dedup.DedupCache.active_ids
    rw [filter_eq_self fun message_id ackers hacks =>
      List.contains_iff_mem.mpr (((order.entries _).mem_iff message_id).mpr (h.acks message_id ackers hacks))]
  rw [heartbeat_eq, hdedup, h.evict_timed_out, hquorum, h.grafted, List.append_nil, ← h.active_peers, ← h.mesh_peers,
    ← h.dedup_cache_size]
  dsimp only
  rw [List.length_nil]
  exact congrArg (fun failed => { engine with stats := { engine.stats with handshakes_failed := failed } })
    (UInt32.add_zero engine.stats.handshakes_failed)

end Settled

/-- A heartbeat brings the mesh to its target: it drops nobody, does nothing at or
    above the lower bound, and below it fills the mesh up to the target with distinct
    connected peers, as far as there are any. -/
theorem heartbeat_reaches_degree {config : GossipConfig} {resolved : ResolvedConfig}
    (hresolve : config.resolve crates = .ok resolved) (identity : NodeIdentity crates)
    (calls : List (EngineCall crates)) (order : IterationOrder) (now_ms : UInt64) :
    let engine := EngineCall.runAll calls (GossipEngine.new resolved identity)
    let after := engine.heartbeat order now_ms
    (∀ addr ∈ engine.mesh_peers, addr ∈ after.mesh_peers) ∧
      (resolved.mesh_n_low.toNat ≤ engine.mesh_peers.length → after.mesh_peers = engine.mesh_peers) ∧
      (engine.mesh_peers.length < resolved.mesh_n_low.toNat →
        after.mesh_peers.length = min resolved.mesh_n.toNat engine.sessions.count ∧
          after.mesh_peers.Nodup ∧
          ∀ addr ∈ after.mesh_peers, ∃ session, after.sessions.get addr = some session) := by
  intro engine after
  have h : Represented resolved engine :=
    EngineCall.runAll_keeps EngineCall.run_represented calls (represented_new resolved identity)
  have hactive : AllActive engine :=
    EngineCall.runAll_keeps EngineCall.run_allActive calls (allActive_new resolved identity)
  have hafter : Represented resolved after := heartbeat_represented h
  have hmesh : after.mesh_peers = engine.mesh_peers ++ grafted engine order := by
    change (engine.heartbeat order now_ms).mesh_peers = _
    rw [heartbeat_eq]
  obtain ⟨hlow, hhigh⟩ := GossipConfig.resolve_mesh crates hresolve
  refine ⟨fun addr hmem => ?_, fun hdone => ?_, fun hneeds => ⟨?_, hafter.nodup, hafter.connected⟩⟩
  · rw [hmesh]
    exact List.mem_append_left _ hmem
  · rw [hmesh, grafted_eq_nil order h.toPlaced hdone, List.append_nil]
  · rw [hmesh]
    exact length_grafted order h.toPlaced hactive (UInt8.le_iff_toNat_le.mp hlow) (UInt8.le_iff_toNat_le.mp hhigh)
      hneeds

namespace reference

open witan.handshake

/-- Node 2 answers a probe in node 1's name at time 0. -/
def probed : EngineCall reference.crates :=
  .operation (.process_handshake_bytes Splice.clientAddr Splice.probeBytes (.ok Splice.serverNonce) (9 : UInt8) 0)

def answered : AckSent := ⟨Splice.clientNonce, Splice.serverNonce, Splice.probeBytes, Splice.ackBytes 2, 0⟩

/-- Node 2 while it waits for the finish. -/
def waiting : GossipEngine reference.crates :=
  { engine 2 with handshakes := HandshakeManager.new.setPending Splice.clientAddr (.Server (.AckSent answered)) }

/-- Whatever it did before, it then waits for the finish. -/
theorem run_probed_of {before : GossipEngine reference.crates} {key_epoch : Str}
    (hidentity : before.identity = reference.nodeAt 2 key_epoch) :
    probed.run before = { before with
      handshakes := before.handshakes.setPending Splice.clientAddr (.Server (.AckSent answered)) } := by
  have hack : HandshakeManager.process_probe_build_ack Splice.clientAddr Splice.probeBytes before.identity
      (.ok Splice.serverNonce) 0 before.handshakes =
        .ok (Splice.ackBytes 2) (before.handshakes.setPending Splice.clientAddr (.Server (.AckSent answered))) := by
    rw [hidentity]
    exact HandshakeManager.process_probe_build_ack_eq_ok_iff.mpr ⟨_, Splice.serverNonce, Splice.keyJson 2,
      HandshakeProbe.codec.decodePrefix_encode_nil _, ⟨rfl, rfl, Splice.fresh⟩, rfl, rfl, rfl, rfl⟩
  have hkind : classify_incoming Splice.probeBytes = .HandshakeProbe := classify_incoming_probe _ rfl
  unfold probed EngineCall.run EngineOp.run
  dsimp only
  rw [process_probe_eq_ok (9 : UInt8) hkind hack]
  rfl

theorem run_probed : probed.run (engine 2) = waiting := run_probed_of rfl

/-- The finish that node 1 would send at a time. -/
def finishAt (now_ms : UInt64) : Bytes :=
  HandshakeFinish.codec.encode (finishMessage Splice.client (Splice.ciphertextJson 2) now_ms)

theorem classify_incoming_finishAt (now_ms : UInt64) : classify_incoming (finishAt now_ms) = .HandshakeFinish :=
  classify_incoming_finish _ rfl

/-- The finish is accepted, however late it comes. -/
theorem finish_accepted_of {handshakes : HandshakeManager} (key_epoch : Str)
    (hserved : handshakes.pending[Splice.clientAddr]? = some (.Server (.AckSent answered))) (now_ms : UInt64) :
    ∃ answer session,
      HandshakeManager.process_finish_build_finish_ack Splice.clientAddr (finishAt now_ms)
          (reference.nodeAt 2 key_epoch) now_ms handshakes =
            .ok (answer, session) (handshakes.dropPending Splice.clientAddr) ∧
        session.peer_addr = Splice.clientAddr := by
  have hfresh : now_ms.toNat - now_ms.toNat ≤ 30000 := by omega
  have hrun := HandshakeManager.process_finish_build_finish_ack_eq_ok_iff.mpr
    ⟨_, answered, Splice.decapsulation 2, _, HandshakeFinish.codec.decodePrefix_encode_nil
      (finishMessage Splice.client (Splice.ciphertextJson 2) now_ms), ⟨rfl, rfl, hfresh⟩,
      reference.keyLengths.sig Splice.client.sig_keypair, hserved, rfl, rfl, rfl, rfl⟩
  exact ⟨_, _, hrun, rfl⟩

theorem finish_accepted (now_ms : UInt64) :
    ∃ answer session,
      HandshakeManager.process_finish_build_finish_ack Splice.clientAddr (finishAt now_ms) waiting.identity now_ms
          waiting.handshakes = .ok (answer, session) (waiting.handshakes.dropPending Splice.clientAddr) ∧
        session.peer_addr = Splice.clientAddr :=
  finish_accepted_of reference.firstEpoch (HandshakeManager.pending_setPending_self _ _) now_ms

/-- The finish, processed by the dispatcher. -/
def finishProcessed : EngineCall reference.crates :=
  .operation (.process_handshake_bytes Splice.clientAddr (finishAt 0) (.ok Splice.serverNonce) (9 : UInt8) 0)

/-- It lets node 1 into the mesh, if there is room. -/
theorem run_finishProcessed {before : GossipEngine reference.crates} (key_epoch : Str)
    (hidentity : before.identity = reference.nodeAt 2 key_epoch)
    (hserved : before.handshakes.pending[Splice.clientAddr]? = some (.Server (.AckSent answered)))
    (hroom : Splice.clientAddr ∉ before.mesh_peers ∧ before.mesh_peers.length < before.config.mesh_n_high.toNat) :
    (finishProcessed.run before).identity = before.identity ∧
      (finishProcessed.run before).mesh_peers = before.mesh_peers ++ [Splice.clientAddr] ∧
      ((finishProcessed.run before).sessions.get Splice.clientAddr).isSome = true := by
  obtain ⟨answer, session, hrun, hpeer⟩ := finish_accepted_of key_epoch hserved 0
  rw [← hidentity] at hrun
  unfold finishProcessed EngineCall.run EngineOp.run
  dsimp only
  rw [process_finish_eq_ok (.ok Splice.serverNonce) (9 : UInt8) (classify_incoming_finishAt 0) hrun, final_ok]
  refine ⟨(complete_handshake_keeps _ _ _).1, ?_, ?_⟩
  · unfold complete_handshake add_to_mesh
    dsimp only
    rw [if_pos hroom]
    rfl
  · rw [complete_handshake_get hpeer]
    rfl

/-- Answering the probe and accepting the finish makes a session. -/
theorem run_connected {before : GossipEngine reference.crates} {key_epoch : Str}
    (hidentity : before.identity = reference.nodeAt 2 key_epoch)
    (hroom : Splice.clientAddr ∉ before.mesh_peers ∧ before.mesh_peers.length < before.config.mesh_n_high.toNat) :
    ((EngineCall.runAll [probed, finishProcessed] before).sessions.get Splice.clientAddr).isSome = true := by
  unfold EngineCall.runAll
  rw [List.foldl_cons, List.foldl_cons, List.foldl_nil, run_probed_of hidentity]
  refine (run_finishProcessed key_epoch ?_ ?_ ?_).2.2
  · exact hidentity
  · exact HandshakeManager.pending_setPending_self _ _
  · exact hroom

theorem run_waiting :
    (finishProcessed.run waiting).identity = reference.node 2 ∧
      (finishProcessed.run waiting).mesh_peers = [Splice.clientAddr] := by
  obtain ⟨hidentity, hmesh, _⟩ := run_finishProcessed reference.firstEpoch (rfl : waiting.identity = _)
    (HandshakeManager.pending_setPending_self _ _) ⟨List.not_mem_nil, by decide⟩
  exact ⟨hidentity, hmesh⟩

/-- The finish, processed by the call that only stores the session. -/
def finished : EngineCall reference.crates := .operation (.build_finish_ack Splice.clientAddr (finishAt 0) 0)

/-- It leaves a session outside the mesh. -/
theorem run_finished :
    (EngineCall.runAll [probed, finished] (engine 2)).mesh_peers = [] ∧
      (EngineCall.runAll [probed, finished] (engine 2)).sessions.count = 1 := by
  obtain ⟨answer, session, hrun, _⟩ := finish_accepted 0
  have hcount : (waiting.sessions.insert session).count = 1 := by
    have hnew : session.peer_addr ∉ waiting.sessions.sessions := Std.ExtHashMap.not_mem_empty
    unfold SessionStore.insert SessionStore.count
    rw [Std.ExtHashMap.size_insert, if_neg hnew]
    rfl
  have hengine := build_finish_ack_eq_ok hrun
  unfold EngineCall.runAll
  rw [List.foldl_cons, List.foldl_cons, List.foldl_nil, run_probed]
  unfold finished EngineCall.run EngineOp.run
  dsimp only
  rw [hengine]
  exact ⟨rfl, hcount⟩

end reference

theorem heartbeat_reaches_degree_reference :
    let engine := EngineCall.runAll [reference.probed, reference.finished] (reference.engine 2)
    engine.mesh_peers = [] ∧ engine.sessions.count = 1 ∧
      ∃ order, (engine.heartbeat order 0).mesh_peers.length = 1 := by
  dsimp only
  obtain ⟨order⟩ := exists_order
  obtain ⟨hmesh, hcount⟩ := reference.run_finished
  obtain ⟨_, _, hgrafts⟩ := heartbeat_reaches_degree (witan.reference.resolve_config 2) (witan.reference.node 2)
    [reference.probed, reference.finished] order 0
  have hengine : GossipEngine.new (witan.reference.resolved 2) (witan.reference.node 2) = reference.engine 2 := rfl
  have hlow : (witan.reference.resolved 2).mesh_n_low.toNat = 4 := rfl
  have hdegree : (witan.reference.resolved 2).mesh_n.toNat = 8 := rfl
  rw [hengine, hlow, hdegree, hmesh, hcount] at hgrafts
  exact ⟨hmesh, hcount, order, (hgrafts (by decide)).1⟩

end witan.gossip
