import Witan.Gossip.Runs
import Witan.Maps.Members

open bincode fallible maps
open witan.types witan.error witan.identity witan.session witan.config witan.rotation
open witan.handshake (HandshakeManager)

namespace witan.gossip

variable {crates : Crates}

/-- Maps have iteration orders. -/
theorem exists_order : Nonempty IterationOrder :=
  ⟨⟨fun m => (exists_visit m).choose, fun m => (exists_visit m).choose, fun m => (exists_visit m).choose⟩⟩

/-- The engine has the configuration it was made with, every session is stored under
    its own address, and the mesh is a set of connected peers within its bound. -/
structure Placed (resolved : ResolvedConfig) (engine : GossipEngine crates) : Prop where
  config : engine.config = resolved
  stored : ∀ addr session, engine.sessions.get addr = some session → session.peer_addr = addr
  nodup : engine.mesh_peers.Nodup
  connected : ∀ addr ∈ engine.mesh_peers, ∃ session, engine.sessions.get addr = some session
  bounded : engine.mesh_peers.length ≤ resolved.mesh_n_high.toNat

/-- The two gauges also show the number of sessions and the size of the mesh. -/
structure Represented (resolved : ResolvedConfig) (engine : GossipEngine crates) : Prop
    extends Placed resolved engine where
  active_peers : engine.stats.active_peers = UInt32.ofNat engine.sessions.count
  mesh_peers : engine.stats.mesh_peers = UInt32.ofNat engine.mesh_peers.length

open GossipEngine

section Steps

variable {resolved : ResolvedConfig} {engine after : GossipEngine crates} {addr peer_addr : Str}
  {session : SessionRecord}

theorem Placed.of_eq (h : Placed resolved engine) (hconfig : after.config = engine.config)
    (hsessions : after.sessions = engine.sessions) (hmesh : after.mesh_peers = engine.mesh_peers) :
    Placed resolved after := by
  constructor
  · rw [hconfig]
    exact h.config
  · rw [hsessions]
    exact h.stored
  · rw [hmesh]
    exact h.nodup
  · rw [hmesh, hsessions]
    exact h.connected
  · rw [hmesh]
    exact h.bounded

/-- Only the bound, the sessions, the mesh and the two gauges count. -/
theorem Represented.of_eq (h : Represented resolved engine) (hconfig : after.config = engine.config)
    (hsessions : after.sessions = engine.sessions) (hmesh : after.mesh_peers = engine.mesh_peers)
    (hactive_peers : after.stats.active_peers = engine.stats.active_peers)
    (hmesh_peers : after.stats.mesh_peers = engine.stats.mesh_peers) : Represented resolved after := by
  refine ⟨h.toPlaced.of_eq hconfig hsessions hmesh, ?_, ?_⟩
  · rw [hactive_peers, hsessions, h.active_peers]
  · rw [hmesh_peers, hmesh, h.mesh_peers]

theorem represented_new (resolved : ResolvedConfig) (identity : NodeIdentity crates) :
    Represented resolved (GossipEngine.new resolved identity) where
  config := rfl
  stored addr session h := by
    rw [GossipEngine.sessions_new] at h
    cases h
  nodup := List.nodup_nil
  connected addr h := by cases h
  bounded := Nat.zero_le _
  active_peers := by
    have hsize : (GossipEngine.new resolved identity).sessions.count = 0 := Std.ExtHashMap.size_empty
    rw [hsize]
    rfl
  mesh_peers := rfl

/-- A new session is stored under its own address, and no peer loses its session. -/
theorem Placed.insert (h : Placed resolved engine) (session : SessionRecord) :
    Placed resolved { engine with sessions := engine.sessions.insert session } where
  config := h.config
  stored addr found hfound := by
    rcases SessionStore.get_insert_cases hfound with ⟨haddr, rfl⟩ | hold
    · exact haddr
    · exact h.stored addr found hold
  nodup := h.nodup
  connected addr hmem := by
    obtain ⟨old, hold⟩ := h.connected addr hmem
    by_cases haddr : session.peer_addr = addr
    · subst haddr
      exact ⟨session, SessionStore.get_insert_self engine.sessions session⟩
    · exact ⟨old, (SessionStore.get_insert_of_ne engine.sessions haddr).trans hold⟩
  bounded := h.bounded

/-- Connected peers enter a mesh that has room for them. -/
theorem Placed.enter {added : List Str} (h : Placed resolved engine) (hnodup : added.Nodup)
    (hnew : ∀ addr ∈ added, addr ∉ engine.mesh_peers)
    (hsession : ∀ addr ∈ added, ∃ session, engine.sessions.get addr = some session)
    (hroom : (engine.mesh_peers ++ added).length ≤ engine.config.mesh_n_high.toNat) :
    Placed resolved { engine with mesh_peers := engine.mesh_peers ++ added } where
  config := h.config
  stored := h.stored
  nodup := by
    refine List.nodup_append.mpr ⟨h.nodup, hnodup, ?_⟩
    rintro peer hold addr hadded rfl
    exact hnew peer hadded hold
  connected peer hmem := by
    rcases List.mem_append.mp hmem with hold | hadded
    · exact h.connected peer hold
    · exact hsession peer hadded
  bounded := by
    rw [← h.config]
    exact hroom

theorem Placed.add_to_mesh (h : Placed resolved engine)
    (hsession : ∃ session, engine.sessions.get addr = some session) :
    Placed resolved (engine.add_to_mesh addr) := by
  unfold GossipEngine.add_to_mesh
  split
  · rename_i hadds
    refine h.enter (List.pairwise_singleton _ addr) ?_ ?_ ?_
    · simpa using hadds.1
    · simpa using hsession
    · rw [List.length_append, List.length_singleton]
      exact hadds.2
  · exact h

/-- Setting the gauges makes them right, whatever they showed before. -/
theorem Placed.updatePeerStats (h : Placed resolved engine) : Represented resolved engine.updatePeerStats :=
  ⟨h.of_eq rfl rfl rfl, rfl, rfl⟩

/-- Both sides complete a handshake in this way. -/
theorem Placed.complete_handshake (h : Placed resolved engine) (haddr : session.peer_addr = peer_addr) :
    Represented resolved (engine.complete_handshake peer_addr session) := by
  unfold GossipEngine.complete_handshake
  refine Placed.updatePeerStats (Placed.of_eq ((h.insert session).add_to_mesh ?_) rfl rfl rfl)
  subst haddr
  exact ⟨session, SessionStore.get_insert_self engine.sessions session⟩

/-- A disconnected peer leaves the mesh before its session is gone. -/
theorem Placed.disconnect (h : Placed resolved engine) (peer_addr : Str) :
    Placed resolved
      { engine with
        sessions := (engine.sessions.remove peer_addr).2
        mesh_peers := engine.mesh_peers.filter (· ≠ peer_addr) } where
  config := h.config
  stored addr found hfound := h.stored addr found (SessionStore.get_of_get_remove hfound)
  nodup := h.nodup.filter _
  connected addr hmem := by
    obtain ⟨hmesh, hne⟩ := List.mem_filter.mp hmem
    have hother : peer_addr ≠ addr := fun heq => of_decide_eq_true hne heq.symm
    obtain ⟨other, hfound⟩ := h.connected addr hmesh
    exact ⟨other, (SessionStore.get_remove_of_ne engine.sessions hother).trans hfound⟩
  bounded := (List.length_filter_le _ _).trans h.bounded

section Grafting

variable (order : IterationOrder)

/-- Where the sessions stand under their own addresses, a heartbeat grafts some of
    the active ones from outside the mesh, in the order of its visit. -/
theorem Placed.grafted_sublist (h : Placed resolved engine) :
    (grafted engine order).Sublist (((order.sessions engine.sessions.sessions).keys.filter
      fun addr => (engine.sessions.get addr).any (·.is_active)).filter (· ∉ engine.mesh_peers)) := by
  unfold grafted
  split
  · rw [SessionStore.active_peers_addrs engine.sessions _ h.stored]
    exact (List.take_sublist _ _).trans (List.take_sublist _ _)
  · exact List.nil_sublist _

theorem Placed.grafted_nodup (h : Placed resolved engine) : (grafted engine order).Nodup :=
  (((order.sessions _).nodup.filter _).filter _).sublist (h.grafted_sublist order)

theorem Placed.grafted_new (h : Placed resolved engine) (hmem : addr ∈ grafted engine order) :
    addr ∉ engine.mesh_peers ∧ ∃ session, engine.sessions.get addr = some session := by
  obtain ⟨hactive, hnew⟩ := List.mem_filter.mp ((h.grafted_sublist order).subset hmem)
  refine ⟨of_decide_eq_true hnew, ?_⟩
  cases hget : engine.sessions.get addr with
  | none =>
    rw [List.mem_filter, hget] at hactive
    cases hactive.2
  | some session => exact ⟨session, rfl⟩

theorem Placed.grafted_fits (h : Placed resolved engine) :
    (engine.mesh_peers ++ grafted engine order).length ≤ engine.config.mesh_n_high.toNat := by
  have hbounded := h.bounded
  rw [← h.config] at hbounded
  unfold grafted
  rw [List.length_append]
  split
  · rw [List.length_take]
    omega
  · exact hbounded

end Grafting

theorem heartbeat_represented {order : IterationOrder} {now_ms : UInt64} (h : Represented resolved engine) :
    Represented resolved (engine.heartbeat order now_ms) := by
  have hplaced := h.enter (h.grafted_nodup order) (fun addr hmem => (h.grafted_new order hmem).1)
    (fun addr hmem => (h.grafted_new order hmem).2) (h.grafted_fits order)
  rw [heartbeat_eq]
  exact ⟨hplaced.of_eq rfl rfl rfl, rfl, rfl⟩

end Steps

theorem EngineOp.run_represented {resolved : ResolvedConfig} (op : EngineOp crates) (engine : GossipEngine crates)
    (h : Represented resolved engine) : Represented resolved (op.run engine) := by
  have houtcome := op.run_outcome engine
  generalize op.run engine = after at houtcome ⊢
  cases houtcome with
  | published hstats => exact h.of_eq rfl rfl rfl hstats.active_peers hstats.mesh_peers
  | counted haddress hstats => exact h.of_eq rfl rfl rfl hstats.active_peers hstats.mesh_peers
  | moved haddress honly => exact h.of_eq rfl rfl rfl rfl rfl
  | completed haddress honly hpeer hactive =>
    exact Placed.complete_handshake (h.toPlaced.of_eq rfl rfl rfl) hpeer
  | @answered _ _ _ _ session honly hpeer hactive =>
    -- This completion leaves the mesh alone, so it sets one gauge only.
    exact ⟨(h.toPlaced.insert session).of_eq rfl rfl rfl, rfl, h.mesh_peers⟩
  | @disconnected peer_addr => exact Placed.updatePeerStats ((h.toPlaced.disconnect peer_addr).of_eq rfl rfl rfl)
  | beat => exact heartbeat_represented h

theorem EngineCall.run_represented {resolved : ResolvedConfig} (call : EngineCall crates) (engine : GossipEngine crates)
    (h : Represented resolved engine) : Represented resolved (call.run engine) := by
  cases call with
  | operation op => exact op.run_represented engine h
  | rotate_keys key_epoch kem_rng sig_rng =>
    obtain ⟨identity, hrun⟩ := EngineCall.run_rotate_keys key_epoch kem_rng sig_rng engine
    rw [hrun]
    exact h.of_eq rfl rfl rfl rfl rfl
  | rotate_keys_under_id lineage next next_key_commitment now_ms =>
    obtain ⟨identity, hrun⟩ :=
      EngineCall.run_rotate_keys_under_id lineage next next_key_commitment now_ms engine
    rw [hrun]
    exact h.of_eq rfl rfl rfl rfl rfl
  | record_ack message_id peer_addr => exact h.of_eq rfl rfl rfl rfl rfl

/-- The engine's view of its peers over every run of calls, whatever its
    configuration and identity: sessions stand under their own addresses, the mesh is
    a bounded set of connected peers, and as long as the session count fits its gauge
    both gauges are exact. -/
theorem mesh_and_sessions_agree (resolved : ResolvedConfig) (identity : NodeIdentity crates)
    (calls : List (EngineCall crates)) :
    let engine := EngineCall.runAll calls (GossipEngine.new resolved identity)
    (∀ addr session, engine.sessions.get addr = some session → session.peer_addr = addr) ∧
      engine.mesh_peers.Nodup ∧
      (∀ addr ∈ engine.mesh_peers, ∃ session, engine.sessions.get addr = some session) ∧
      engine.mesh_peers.length ≤ resolved.mesh_n_high.toNat ∧
      (engine.sessions.count < 2 ^ 32 →
        engine.stats.active_peers.toNat = engine.sessions.count ∧
          engine.stats.mesh_peers.toNat = engine.mesh_peers.length) := by
  intro engine
  have h : Represented resolved engine :=
    EngineCall.runAll_keeps EngineCall.run_represented calls (represented_new resolved identity)
  refine ⟨h.stored, h.nodup, h.connected, h.bounded, fun hcount => ⟨?_, ?_⟩⟩
  · rw [h.active_peers]
    exact UInt32.toNat_ofNat_of_lt hcount
  · have hlength : engine.mesh_peers.length < 2 ^ 8 := Nat.lt_of_le_of_lt h.bounded resolved.mesh_n_high.toNat_lt
    rw [h.mesh_peers]
    exact UInt32.toNat_ofNat_of_lt (hlength.trans (by decide))

end witan.gossip
