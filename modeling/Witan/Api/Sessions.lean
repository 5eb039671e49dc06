import Witan.Api.Lifecycle
import Witan.Fallible.Relational
import Witan.Gossip.Sessions
import Witan.Runs.LastWrite
import Mathlib.Tactic.TFAE

open bincode fallible maps runs
open witan.types witan.error witan.identity witan.session witan.config witan.rotation witan.gossip
open witan.handshake (HandshakeManager)

namespace witan.api

variable {crates : Crates}

/-- The session that the component holds for a peer. -/
def ApiState.session (state : ApiState crates) (peer_addr : Str) : Option SessionRecord :=
  state.gossip_state.bind (·.sessions.get peer_addr)

/-- The session of the handshake that a call completes. -/
def ApiCall.establishes (state : ApiState crates) (call : ApiCall crates) : Option SessionRecord :=
  state.gossip_state.bind fun engine => (call.engineCall engine state.lineage).bind (·.establishes engine)

section Sessions

variable {engine : GossipEngine crates} {lineage : Option KeyLineage} {peer_addr : Str}

theorem engineCall_disconnects_iff (call : ApiCall crates) :
    (call.engineCall engine lineage).bind (·.disconnects) = some peer_addr ↔
      call = .gossip_disconnect_peer peer_addr := by
  cases call with
  | gossip_disconnect_peer gone => simp [ApiCall.engineCall, EngineCall.disconnects]
  | gossip_rotate_keys_under_id kem_seed sig_seed key_epoch next_key_commitment now_ms =>
    refine iff_of_false ?_ nofun
    unfold ApiCall.engineCall
    dsimp only
    split <;> exact nofun
  | gossip_verify_envelope_from_lineage envelope_bytes lineage_bytes now_ms =>
    refine iff_of_false ?_ nofun
    unfold ApiCall.engineCall
    dsimp only
    split <;> exact nofun
  | _ => exact iff_of_false nofun nofun

/-- Without an engine there is no session, and a call leaves none. -/
theorem run_uninitialized (call : ApiCall crates) :
    (call.run ⟨none, lineage⟩).session peer_addr = none := by
  cases call with
  | gossip_init config_json kem_rng sig_rng =>
    unfold ApiCall.run
    dsimp only
    cases hinit : gossip_init config_json kem_rng sig_rng (⟨none, lineage⟩ : ApiState crates) with
    | ok value after =>
      obtain ⟨resolved, identity, _, _, rfl⟩ := gossip_init_eq_ok hinit
      exact GossipEngine.sessions_new resolved identity peer_addr
    | error error after =>
      rw [final_error, gossip_init_failsIn error after hinit]
      rfl
  | gossip_init_with_lineage config_json lineage_bytes =>
    unfold ApiCall.run
    dsimp only
    cases hinit : gossip_init_with_lineage config_json lineage_bytes (⟨none, lineage⟩ : ApiState crates) with
    | ok value after =>
      obtain ⟨_, resolved, identity, _, _, _, _, rfl⟩ := gossip_init_with_lineage_eq_ok_iff.mp hinit
      exact GossipEngine.sessions_new resolved _ peer_addr
    | error error after =>
      rw [final_error, gossip_init_with_lineage_failsIn error after hinit]
      rfl
  | gossip_rotate_keys_under_id kem_seed sig_seed key_epoch next_key_commitment now_ms =>
    have hleaves : Leaves (gossip_rotate_keys_under_id kem_seed sig_seed key_epoch next_key_commitment now_ms)
        (⟨none, lineage⟩ : ApiState crates) (·.session peer_addr = none) := by
      unfold gossip_rotate_keys_under_id
      exact .attempt_bind rfl fun _ _ => .attempt_bind rfl fun _ _ => rfl
    exact hleaves
  | gossip_verify_envelope_from_lineage envelope_bytes lineage_bytes now_ms =>
    have hleaves : Leaves (gossip_verify_envelope_from_lineage envelope_bytes lineage_bytes now_ms)
        (⟨none, lineage⟩ : ApiState crates) (·.session peer_addr = none) := by
      unfold gossip_verify_envelope_from_lineage
      exact .attempt_bind rfl fun _ _ => rfl
    exact hleaves
  | gossip_get_key_lineage =>
    unfold ApiCall.run gossip_get_key_lineage with_lineage
    dsimp only
    rw [final_onPart]
    rfl
  | _ => rfl

/-- What a call leaves for one peer. -/
theorem session_run_iff (state : ApiState crates) (call : ApiCall crates) (session : SessionRecord) :
    (call.run state).session peer_addr = some session ↔
      call.establishes state = some session ∧ session.peer_addr = peer_addr ∨
        (∀ other, ¬ (call.establishes state = some other ∧ other.peer_addr = peer_addr)) ∧
          state.session peer_addr = some session ∧ call ≠ .gossip_disconnect_peer peer_addr := by
  obtain ⟨gossip_state, lineage⟩ := state
  cases gossip_state with
  | none =>
    rw [run_uninitialized]
    simp [ApiCall.establishes, ApiState.session]
  | some engine =>
    have hdisconnects : (call.engineCall engine lineage).bind (·.disconnects) = some peer_addr ↔
        call = .gossip_disconnect_peer peer_addr := engineCall_disconnects_iff call
    unfold ApiState.session ApiCall.establishes
    rw [call.run_engine, ne_eq, ← hdisconnects]
    dsimp only [Option.bind_some]
    cases call.engineCall engine lineage with
    | none => simp [EngineCall.runAll]
    | some engineCall => exact engineCall.get_run_iff engine peer_addr session

/-- The session of one peer, as a value that completed handshakes write. -/
def sessionSlot (crates : Crates) (peer_addr : Str) :
    Slot (fun (state : ApiState crates) (call : ApiCall crates) => call.run state) SessionRecord where
  read state := state.session peer_addr
  writes state call session := call.establishes state = some session ∧ session.peer_addr = peer_addr
  keeps _ call _ := call ≠ .gossip_disconnect_peer peer_addr
  spec := session_run_iff

end Sessions

/-- A session is the one of the last handshake. In every run of the API, the session
    that is found for a peer was made by the last call that completed a handshake
    with it, and the peer was not disconnected since. Nothing else ends a session. -/
theorem session_of_last_handshake (calls : List (ApiCall crates)) (peer_addr : Str) (session : SessionRecord) :
    (ApiCall.runAll calls .fresh).session peer_addr = some session ↔
      ∃ before call since, calls = before ++ call :: since ∧
        (call.establishes (ApiCall.runAll before .fresh) = some session ∧ session.peer_addr = peer_addr) ∧
        ∀ earlier other rest, since = earlier ++ other :: rest →
          (∀ newer, ¬ (other.establishes (ApiCall.runAll (before ++ call :: earlier) .fresh) = some newer ∧
            newer.peer_addr = peer_addr)) ∧ other ≠ .gossip_disconnect_peer peer_addr :=
  (sessionSlot crates peer_addr).read_foldl_iff_of_none rfl calls session

/-- An engine that was started and then only called. -/
def Reached (engine : GossipEngine crates) : Prop :=
  ∃ (resolved : ResolvedConfig) (identity : NodeIdentity crates) (calls : List (EngineCall crates)),
    engine = EngineCall.runAll calls (.new resolved identity)

section Views

open GossipEngine

variable {engine : GossipEngine crates} {lineage : Option KeyLineage} {peer_addr : Str}

theorem run_reached {state : ApiState crates}
    (h : state = .fresh ∨ ∃ engine, state.gossip_state = some engine ∧ Reached engine) (call : ApiCall crates) :
    call.run state = .fresh ∨ ∃ engine, (call.run state).gossip_state = some engine ∧ Reached engine := by
  rcases h with rfl | ⟨engine, hengine, resolved, identity, calls, rfl⟩
  · rcases start_cases call with hsame | ⟨_, resolved, identity, lineage, hperform⟩
    · exact .inl hsame
    · refine .inr ⟨.new resolved identity, ?_, resolved, identity, [], rfl⟩
      rw [← ApiCall.final_perform, hperform]
      rfl
  · obtain ⟨gossip_state, lineage⟩ := state
    subst hengine
    let engine := EngineCall.runAll calls (.new resolved identity)
    refine .inr ⟨_, call.run_engine, resolved, identity, calls ++ (call.engineCall engine lineage).toList, ?_⟩
    exact (EngineCall.runAll_append calls _ _).symm

/-- The engine that a run of the API ends with. -/
theorem runAll_reached (calls : List (ApiCall crates)) :
    ApiCall.runAll calls .fresh = .fresh ∨
      ∃ engine, (ApiCall.runAll calls .fresh).gossip_state = some engine ∧ Reached engine := by
  suffices ∀ state : ApiState crates, (state = .fresh ∨ ∃ engine, state.gossip_state = some engine ∧ Reached engine) →
      ApiCall.runAll calls state = .fresh ∨
        ∃ engine, (ApiCall.runAll calls state).gossip_state = some engine ∧ Reached engine from this .fresh (.inl rfl)
  induction calls with
  | nil => exact fun _ h => h
  | cons call calls ih => exact fun state h => ih (call.run state) (run_reached h call)

/-- The addresses that `gossip_get_peers` lists. -/
def listed (engine : GossipEngine crates) (order : IterationOrder) : List Str :=
  (engine.sessions.active_peers (order.sessions _)).map (·.addr)

theorem Reached.mem_listed_iff (h : Reached engine) (order : IterationOrder) :
    peer_addr ∈ listed engine order ↔ (engine.sessions.get peer_addr).isSome = true := by
  obtain ⟨resolved, identity, calls, rfl⟩ := h
  have hstored := (EngineCall.runAll_keeps EngineCall.run_represented calls (represented_new resolved identity)).stored
  have hactive := EngineCall.runAll_keeps EngineCall.run_allActive calls (allActive_new resolved identity)
  generalize EngineCall.runAll calls (.new resolved identity) = engine at *
  unfold listed
  rw [SessionStore.mem_active_peers_addrs, Option.isSome_iff_exists]
  constructor
  · rintro ⟨addr, session, hget, _, rfl⟩
    exact ⟨session, by rw [hstored addr session hget, hget]⟩
  · rintro ⟨session, hget⟩
    exact ⟨peer_addr, session, hget, hactive peer_addr session hget, hstored peer_addr session hget⟩

/-- No peer is listed twice. -/
theorem Reached.listed_nodup (h : Reached engine) (order : IterationOrder) : (listed engine order).Nodup := by
  obtain ⟨resolved, identity, calls, rfl⟩ := h
  have hstored := (EngineCall.runAll_keeps EngineCall.run_represented calls (represented_new resolved identity)).stored
  generalize EngineCall.runAll calls (.new resolved identity) = engine at *
  unfold listed
  rw [SessionStore.active_peers_addrs engine.sessions _ hstored]
  exact (order.sessions _).nodup.filter _

theorem outcome_onEngine {α : Type} (f : EStateM GossipError (GossipEngine crates) α) :
    outcome (with_engine (onEngine f) ⟨some engine, lineage⟩) = outcome (f engine) := by
  unfold with_engine onEngine onPart
  dsimp only
  cases f engine <;> rfl

/-- Serialization has an error of its own. -/
theorem to_json_found (json : Json) : to_json crates json ≠ .error (.SessionNotFound peer_addr.val) := by
  unfold to_json
  cases crates.json_to_string json <;> exact nofun

theorem get_session_outcome_iff :
    outcome (gossip_get_session peer_addr ⟨some engine, lineage⟩) ≠ .error (.SessionNotFound peer_addr.val) ↔
      (engine.sessions.get peer_addr).isSome = true := by
  unfold gossip_get_session query
  rw [outcome_onEngine, get_bind, outcome_attempt]
  unfold get_session_json
  dsimp only
  cases engine.sessions.get peer_addr with
  | none => exact iff_of_false (not_not.mpr rfl) Bool.false_ne_true
  | some session => exact iff_of_true (to_json_found _) rfl

theorem connect_peer_outcome_iff (getrandom : Except String Bytes32) (now_ms : UInt64) :
    outcome (gossip_connect_peer peer_addr getrandom now_ms ⟨some engine, lineage⟩) =
        .error (.HandshakeError s!"already connected to {peer_addr}") ↔
      (engine.sessions.get peer_addr).isSome = true := by
  unfold gossip_connect_peer connect_peer
  rw [outcome_onEngine, get_bind]
  cases hget : engine.sessions.get peer_addr with
  | some session => exact iff_of_true rfl rfl
  | none =>
    refine iff_of_false ?_ Bool.false_ne_true
    cases getrandom <;> exact nofun

theorem disconnect_peer_outcome_iff :
    outcome (gossip_disconnect_peer peer_addr ⟨some engine, lineage⟩) = .ok () ↔
      (engine.sessions.get peer_addr).isSome = true := by
  unfold gossip_disconnect_peer disconnect_peer SessionStore.remove
  rw [outcome_onEngine, get_bind]
  dsimp only
  rw [set_bind]
  have hfound : engine.sessions.sessions[peer_addr]? = engine.sessions.get peer_addr := rfl
  rw [hfound]
  cases engine.sessions.get peer_addr with
  | none => exact iff_of_false nofun Bool.false_ne_true
  | some session => exact iff_of_true rfl rfl

end Views

/-- All calls agree on who is connected. In every state of a run, the same peers are
    listed, have a session to show, are refused a second connection, and can be
    disconnected. -/
theorem peer_views_agree (calls : List (ApiCall crates)) {engine : GossipEngine crates}
    (hengine : (ApiCall.runAll calls .fresh).gossip_state = some engine) (peer_addr : Str) (order : IterationOrder)
    (getrandom : Except String Bytes32) (now_ms : UInt64) :
    List.TFAE [
      ((ApiCall.runAll calls .fresh).session peer_addr).isSome = true,
      peer_addr ∈ listed engine order,
      outcome (gossip_get_session peer_addr (ApiCall.runAll calls .fresh)) ≠ .error (.SessionNotFound peer_addr.val),
      outcome (gossip_connect_peer peer_addr getrandom now_ms (ApiCall.runAll calls .fresh)) =
        .error (.HandshakeError s!"already connected to {peer_addr}"),
      outcome (gossip_disconnect_peer peer_addr (ApiCall.runAll calls .fresh)) = .ok ()] := by
  have hreached : Reached engine := by
    rcases runAll_reached calls with hfresh | ⟨found, hfound, hreached⟩
    · rw [hfresh] at hengine
      cases hengine
    · rw [hfound] at hengine
      cases hengine
      exact hreached
  generalize ApiCall.runAll calls .fresh = state at hengine ⊢
  obtain ⟨gossip_state, lineage⟩ := state
  subst hengine
  tfae_have 2 ↔ 1 := hreached.mem_listed_iff order
  tfae_have 3 ↔ 1 := get_session_outcome_iff
  tfae_have 4 ↔ 1 := connect_peer_outcome_iff getrandom now_ms
  tfae_have 5 ↔ 1 := disconnect_peer_outcome_iff
  tfae_finish

namespace reference

/-- Node 2 is started, answers a probe and accepts the finish. -/
def connectedCalls : List (ApiCall reference.crates) :=
  [.gossip_init (hex.encodeString [2]) (0 : UInt8) (0 : UInt8),
    .gossip_process_handshake_bytes handshake.Splice.clientAddr handshake.Splice.probeBytes
      (.ok handshake.Splice.serverNonce) (9 : UInt8) 0,
    .gossip_process_handshake_bytes handshake.Splice.clientAddr (gossip.reference.finishAt 0)
      (.ok handshake.Splice.serverNonce) (9 : UInt8) 0]

theorem run_handshake_bytes (bytes : Bytes) (engine : GossipEngine reference.crates) (lineage : Option KeyLineage) :
    (ApiCall.gossip_process_handshake_bytes handshake.Splice.clientAddr bytes (.ok handshake.Splice.serverNonce)
        (9 : UInt8) 0).run ⟨some engine, lineage⟩ =
      ⟨some ((EngineCall.operation (.process_handshake_bytes handshake.Splice.clientAddr bytes
        (.ok handshake.Splice.serverNonce) (9 : UInt8) 0)).run engine), lineage⟩ := by
  unfold ApiCall.run gossip_process_handshake_bytes EngineCall.run EngineOp.run
  dsimp only
  cases hrun : GossipEngine.process_handshake_bytes handshake.Splice.clientAddr bytes
      (.ok handshake.Splice.serverNonce) (9 : UInt8) 0 engine with
  | ok answer after => rw [with_engine_onEngine_ok hrun, final_ok, final_ok]
  | error error after => rw [with_engine_onEngine_error hrun, final_error, final_error]

theorem runAll_connectedCalls :
    ApiCall.runAll connectedCalls .fresh =
      ⟨some (EngineCall.runAll [gossip.reference.probed, gossip.reference.finishProcessed] (startEngine 2)),
        some (startLineage 2)⟩ := by
  have hinit : (ApiCall.gossip_init (hex.encodeString [2]) (0 : UInt8) (0 : UInt8)).run .fresh = started 2 := by
    unfold ApiCall.run
    dsimp only
    rw [init_started, final_ok]
  unfold connectedCalls ApiCall.runAll EngineCall.runAll gossip.reference.probed gossip.reference.finishProcessed
  rw [List.foldl_cons, List.foldl_cons, List.foldl_cons, List.foldl_nil, hinit, started, run_handshake_bytes,
    run_handshake_bytes, List.foldl_cons, List.foldl_cons, List.foldl_nil]

end reference

/-- Node 2 lists node 1 as its peer, refuses to connect to it again, and can
    disconnect it. -/
theorem peer_views_agree_reference :
    ∃ engine, (ApiCall.runAll reference.connectedCalls .fresh).gossip_state = some engine ∧
      (∀ order, handshake.Splice.clientAddr ∈ listed engine order) ∧
      outcome (gossip_connect_peer handshake.Splice.clientAddr (.error "") 0
        (ApiCall.runAll reference.connectedCalls .fresh)) =
          .error (.HandshakeError s!"already connected to {handshake.Splice.clientAddr}") ∧
      outcome (gossip_disconnect_peer handshake.Splice.clientAddr (ApiCall.runAll reference.connectedCalls .fresh)) =
        .ok () := by
  have hengine : (ApiCall.runAll reference.connectedCalls .fresh).gossip_state = some
      (EngineCall.runAll [gossip.reference.probed, gossip.reference.finishProcessed] (reference.startEngine 2)) := by
    rw [reference.runAll_connectedCalls]
  have hsession : ((ApiCall.runAll reference.connectedCalls .fresh).session handshake.Splice.clientAddr).isSome =
      true := by
    unfold ApiState.session
    rw [hengine, Option.bind_some]
    exact gossip.reference.run_connected (rfl : (reference.startEngine 2).identity = _)
      ⟨List.not_mem_nil, by decide⟩
  have hviews (order : IterationOrder) :=
    peer_views_agree reference.connectedCalls hengine handshake.Splice.clientAddr order (.error "") 0
  obtain ⟨order⟩ := exists_order
  exact ⟨_, hengine, fun order => ((hviews order).out 0 1).mp hsession, ((hviews order).out 0 3).mp hsession,
    ((hviews order).out 0 4).mp hsession⟩

end witan.api
