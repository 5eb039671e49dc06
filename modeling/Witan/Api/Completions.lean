import Witan.Api.Calls
import Witan.Gossip.Maintenance
import Witan.Handshake.Freshness

open bincode fallible
open witan.types witan.error witan.identity witan.session witan.config witan.rotation witan.gossip
open witan.handshake (HandshakeManager HandlerCall)

namespace witan.api

variable {crates : Crates}

/-- `gossip_build_finish_ack` and `gossip_process_handshake_bytes` return the same
    finish-ack or both fail, and leave the same state. -/
structure CompletesAlike (peer_addr : Str) (bytes : Bytes) (getrandom : Except String Bytes32) (rng : crates.OsRng)
    (now_ms : UInt64) (state : ApiState crates) : Prop where
  answer : ∀ answer,
    (∃ after, gossip_process_handshake_bytes peer_addr bytes getrandom rng now_ms state = .ok answer after) ↔
      ∃ finish_ack_bytes after, gossip_build_finish_ack peer_addr bytes now_ms state = .ok finish_ack_bytes after ∧
        answer = some finish_ack_bytes
  state : final (gossip_process_handshake_bytes peer_addr bytes getrandom rng now_ms state) =
    final (gossip_build_finish_ack peer_addr bytes now_ms state)

/-- The engine accepts the bytes as the finish of a pending handshake: they pass
    every check of the handler, the one on their age included. -/
def AcceptsFinish (peer_addr : Str) (bytes : Bytes) (now_ms : UInt64) (engine : GossipEngine crates) : Prop :=
  let call : HandlerCall crates := .process_finish_build_finish_ack peer_addr bytes engine.identity now_ms
  call.PassesOtherwise engine.handshakes ∧
    ∃ stamp, call.timestamp = some stamp ∧ now_ms.toNat - stamp.toNat ≤ 30000

section Paths

open GossipEngine

variable {engine : GossipEngine crates} {lineage : Option KeyLineage} {peer_addr : Str} {bytes : Bytes}
  {getrandom : Except String Bytes32} {rng : crates.OsRng} {now_ms : UInt64}

/-- Only the mesh tells the two completions apart, and it does so exactly if the peer
    can enter it. -/
theorem complete_handshake_eq_iff (handshakes : HandshakeManager) (session : SessionRecord)
    (hgauge : engine.stats.mesh_peers = UInt32.ofNat engine.mesh_peers.length) :
    { engine with handshakes }.complete_handshake peer_addr session =
        { engine with
          handshakes
          sessions := engine.sessions.insert session
          stats := { engine.stats with
            handshakes_completed := engine.stats.handshakes_completed + 1
            active_peers := UInt32.ofNat (engine.sessions.insert session).count } } ↔
      peer_addr ∈ engine.mesh_peers ∨ engine.config.mesh_n_high.toNat ≤ engine.mesh_peers.length := by
  unfold complete_handshake add_to_mesh
  dsimp only
  split
  · rename_i henters
    constructor
    · intro heq
      have hmesh : engine.mesh_peers ++ [peer_addr] = engine.mesh_peers :=
        congrArg GossipEngine.mesh_peers heq
      simp at hmesh
    · rintro (hmem | hfull)
      · exact absurd hmem henters.1
      · exact absurd henters.2 (Nat.not_lt.mpr hfull)
  · rename_i hstays
    refine iff_of_true ?_ ?_
    · unfold updatePeerStats
      dsimp only
      rw [hgauge]
    · by_cases hmem : peer_addr ∈ engine.mesh_peers
      · exact .inl hmem
      · exact .inr (Nat.not_lt.mp fun hroom => hstays ⟨hmem, hroom⟩)

theorem acceptsFinish_iff :
    AcceptsFinish peer_addr bytes now_ms engine ↔
      ∃ answer handshakes, HandshakeManager.process_finish_build_finish_ack peer_addr bytes engine.identity now_ms
        engine.handshakes = .ok answer handshakes :=
  (HandlerCall.succeeds_iff engine.handshakes
    (.process_finish_build_finish_ack peer_addr bytes engine.identity now_ms)).symm

/-- A finish that is refused is refused in the same way on both paths. -/
theorem completesAlike_of_refused (hkind : classify_incoming bytes = .HandshakeFinish)
    (hrefused : ¬ AcceptsFinish peer_addr bytes now_ms engine) :
    CompletesAlike peer_addr bytes getrandom rng now_ms ⟨some engine, lineage⟩ := by
  rw [acceptsFinish_iff] at hrefused
  cases hrun : HandshakeManager.process_finish_build_finish_ack peer_addr bytes engine.identity now_ms
    engine.handshakes with
  | ok answer handshakes => exact absurd ⟨answer, handshakes, hrun⟩ hrefused
  | error error handshakes =>
    have hpart :
        withHandshakes (HandshakeManager.process_finish_build_finish_ack peer_addr bytes engine.identity now_ms)
        engine = .error error { engine with handshakes } := onPart_eq_error_iff.mpr ⟨handshakes, hrun, rfl⟩
    have hbuild : build_finish_ack peer_addr bytes now_ms engine = .error error { engine with handshakes } := by
      unfold build_finish_ack
      rw [get_bind]
      exact bind_of_error hpart
    have hprocess : process_handshake_bytes peer_addr bytes getrandom rng now_ms engine =
        .error error { engine with handshakes } := by
      unfold process_handshake_bytes
      simp only [get_bind, hkind]
      exact bind_of_error hpart
    have hbuilt : gossip_build_finish_ack peer_addr bytes now_ms ⟨some engine, lineage⟩ = _ :=
      with_engine_onEngine_error hbuild
    have hprocessed : gossip_process_handshake_bytes peer_addr bytes getrandom rng now_ms ⟨some engine, lineage⟩ = _ :=
      with_engine_onEngine_error hprocess
    constructor
    · intro answer
      rw [hbuilt, hprocessed]
      simp
    · rw [hbuilt, hprocessed]
      rfl

/-- Where the finish is accepted, the answers are the same, so it is up to the mesh. -/
theorem completesAlike_of_accepted (hkind : classify_incoming bytes = .HandshakeFinish)
    (haccepted : AcceptsFinish peer_addr bytes now_ms engine)
    (hgauge : engine.stats.mesh_peers = UInt32.ofNat engine.mesh_peers.length) :
    CompletesAlike peer_addr bytes getrandom rng now_ms ⟨some engine, lineage⟩ ↔
      peer_addr ∈ engine.mesh_peers ∨ engine.config.mesh_n_high.toNat ≤ engine.mesh_peers.length := by
  obtain ⟨⟨finish_ack_bytes, session⟩, handshakes, hrun⟩ := acceptsFinish_iff.mp haccepted
  have hbuilt : gossip_build_finish_ack peer_addr bytes now_ms ⟨some engine, lineage⟩ = _ :=
    with_engine_onEngine_ok (build_finish_ack_eq_ok hrun)
  have hprocessed : gossip_process_handshake_bytes peer_addr bytes getrandom rng now_ms ⟨some engine, lineage⟩ = _ :=
    with_engine_onEngine_ok (process_finish_eq_ok getrandom rng hkind hrun)
  rw [← complete_handshake_eq_iff handshakes session hgauge]
  constructor
  · intro halike
    have hstate := halike.state
    rw [hbuilt, hprocessed] at hstate
    exact Option.some.inj (congrArg ApiState.gossip_state hstate)
  · intro hengine
    constructor
    · intro answer
      rw [hbuilt, hprocessed]
      simp [eq_comm]
    · rw [hbuilt, hprocessed, hengine]
      rfl

end Paths

/-- The two ways to complete a handshake as its server agree exactly where the finish
    is refused, or the peer is in the mesh already, or the mesh is full: one of them
    lets the peer into the mesh, the other leaves that to a later heartbeat. -/
theorem finish_paths_agree_iff (resolved : ResolvedConfig) (identity : NodeIdentity crates)
    (calls : List (EngineCall crates)) (lineage : Option KeyLineage) (peer_addr : Str) {bytes : Bytes}
    (hkind : classify_incoming bytes = .HandshakeFinish) (getrandom : Except String Bytes32) (rng : crates.OsRng)
    (now_ms : UInt64) :
    let engine := EngineCall.runAll calls (GossipEngine.new resolved identity)
    CompletesAlike peer_addr bytes getrandom rng now_ms ⟨some engine, lineage⟩ ↔
      ¬ AcceptsFinish peer_addr bytes now_ms engine ∨ peer_addr ∈ engine.mesh_peers ∨
        resolved.mesh_n_high.toNat ≤ engine.mesh_peers.length := by
  intro engine
  have h : Represented resolved engine :=
    EngineCall.runAll_keeps EngineCall.run_represented calls (represented_new resolved identity)
  by_cases haccepted : AcceptsFinish peer_addr bytes now_ms engine
  · rw [completesAlike_of_accepted hkind haccepted h.mesh_peers, h.config]
    exact (or_iff_right (not_not.mpr haccepted)).symm
  · exact iff_of_true (completesAlike_of_refused hkind haccepted) (.inl haccepted)

namespace reference

/-- Node 1 has a session with node 2 and starts another handshake. -/
def again : List (EngineCall reference.crates) :=
  [gossip.reference.probed, gossip.reference.finishProcessed, gossip.reference.probed]

theorem runAll_again :
    EngineCall.runAll again (gossip.reference.engine 2) =
      gossip.reference.probed.run (gossip.reference.finishProcessed.run gossip.reference.waiting) := by
  unfold again EngineCall.runAll
  rw [List.foldl_cons, List.foldl_cons, List.foldl_cons, List.foldl_nil, gossip.reference.run_probed]

/-- Once it has answered the probe, node 2 accepts the finish. The mesh stays as it is. -/
theorem probed_accepts {before : GossipEngine reference.crates} (key_epoch : Str)
    (hidentity : before.identity = witan.reference.nodeAt 2 key_epoch) :
    AcceptsFinish handshake.Splice.clientAddr (gossip.reference.finishAt 0) 0 (gossip.reference.probed.run before) ∧
      (gossip.reference.probed.run before).mesh_peers = before.mesh_peers := by
  have hserved : (before.handshakes.setPending handshake.Splice.clientAddr
      (.Server (.AckSent gossip.reference.answered))).pending[handshake.Splice.clientAddr]? = some _ :=
    HandshakeManager.pending_setPending_self _ _
  obtain ⟨answer, session, hrun, _⟩ := gossip.reference.finish_accepted_of key_epoch hserved 0
  rw [← hidentity] at hrun
  rw [gossip.reference.run_probed_of hidentity]
  exact ⟨acceptsFinish_iff.mpr ⟨_, _, hrun⟩, rfl⟩

end reference

/-- A finish of a second handshake, with the peer already in the mesh, is accepted
    alike on both paths. -/
theorem finish_paths_agree_iff_reference :
    classify_incoming (gossip.reference.finishAt 0) = .HandshakeFinish ∧
      AcceptsFinish handshake.Splice.clientAddr (gossip.reference.finishAt 0) 0
        (EngineCall.runAll reference.again (gossip.reference.engine 2)) ∧
      CompletesAlike handshake.Splice.clientAddr (gossip.reference.finishAt 0) (.error "") (9 : UInt8) 0
        ⟨some (EngineCall.runAll reference.again (gossip.reference.engine 2)), none⟩ := by
  have hkind := gossip.reference.classify_incoming_finishAt 0
  obtain ⟨hidentity, hmesh⟩ := gossip.reference.run_waiting
  obtain ⟨haccepts, hkept⟩ := reference.probed_accepts witan.reference.firstEpoch hidentity
  rw [← reference.runAll_again] at haccepts hkept
  have hagree := finish_paths_agree_iff (witan.reference.resolved 2) (witan.reference.node 2) reference.again none
    handshake.Splice.clientAddr hkind (.error "") (9 : UInt8) 0
  refine ⟨hkind, haccepts, hagree.mpr (.inr (.inl ?_))⟩
  change _ ∈ (EngineCall.runAll reference.again (gossip.reference.engine 2)).mesh_peers
  rw [hkept, hmesh]
  exact List.mem_singleton_self _

/-- A server that has answered a probe and has room in its mesh accepts the finish on
    both paths and ends up in different states. -/
theorem finish_paths_disagree :
    classify_incoming (reference.finishAt 0) = .HandshakeFinish ∧
      ¬ CompletesAlike handshake.Splice.clientAddr (reference.finishAt 0) (.error "") (9 : UInt8) 0
        ⟨some (EngineCall.runAll [reference.probed] (reference.engine 2)), none⟩ := by
  have hkind := reference.classify_incoming_finishAt 0
  refine ⟨hkind, ?_⟩
  have hengine : EngineCall.runAll [reference.probed] (reference.engine 2) = reference.waiting := by
    unfold EngineCall.runAll
    rw [List.foldl_cons, List.foldl_nil]
    exact reference.run_probed
  obtain ⟨answer, session, hrun, _⟩ := reference.finish_accepted 0
  have hgauge : reference.waiting.stats.mesh_peers = UInt32.ofNat reference.waiting.mesh_peers.length := rfl
  have haccepted : AcceptsFinish handshake.Splice.clientAddr (reference.finishAt 0) 0 reference.waiting :=
    acceptsFinish_iff.mpr ⟨_, _, hrun⟩
  rw [hengine]
  intro halike
  rcases (completesAlike_of_accepted hkind haccepted hgauge).mp halike with hmem | hfull
  · exact List.not_mem_nil hmem
  · exact absurd hfull (by decide)

end witan.api
