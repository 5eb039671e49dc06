import Witan.Gossip.Outcomes

open Std (ExtHashMap)
open bincode fallible maps
open witan.types witan.error witan.identity witan.session
open witan.handshake (HandshakeManager HandshakeContext)

namespace witan.gossip

variable {crates : Crates}

open GossipEngine

/-- Completing a handshake stores the session; otherwise only the mesh and the
    stats change. -/
theorem complete_handshake_keeps (engine : GossipEngine crates) (peer_addr : Str) (session : SessionRecord) :
    (engine.complete_handshake peer_addr session).identity = engine.identity ∧
      (engine.complete_handshake peer_addr session).sessions = engine.sessions.insert session ∧
      (engine.complete_handshake peer_addr session).handshakes = engine.handshakes := by
  unfold complete_handshake add_to_mesh
  dsimp only
  split <;> exact ⟨rfl, rfl, rfl⟩

theorem complete_handshake_get {engine : GossipEngine crates} {peer_addr : Str} {session : SessionRecord}
    (haddr : session.peer_addr = peer_addr) :
    (engine.complete_handshake peer_addr session).sessions.get peer_addr = some session := by
  obtain ⟨_, hsessions, _⟩ := complete_handshake_keeps engine peer_addr session
  rw [hsessions, ← haddr]
  exact SessionStore.get_insert_self engine.sessions session

/-- Grafting takes in candidates from the front, as many as the mesh has room for. -/
theorem graft_eq (engine : GossipEngine crates) (candidates : List Str) :
    engine.graft candidates =
      { engine with
        mesh_peers := engine.mesh_peers ++
          candidates.take (engine.config.mesh_n_high.toNat - engine.mesh_peers.length) } := by
  unfold graft
  induction candidates generalizing engine with
  | nil => simp
  | cons candidate candidates ih =>
    rw [List.foldl_cons]
    split
    · rename_i hfull
      have hroom : engine.config.mesh_n_high.toNat - engine.mesh_peers.length = 0 :=
        Nat.sub_eq_zero_of_le (by simpa [mesh_is_full] using hfull)
      rw [ih engine, hroom, List.take_zero, List.take_zero]
    · rename_i hroom
      have hless : engine.mesh_peers.length < engine.config.mesh_n_high.toNat := by
        simpa [mesh_is_full] using hroom
      obtain ⟨room, hsub⟩ : ∃ room, engine.config.mesh_n_high.toNat - engine.mesh_peers.length = room + 1 :=
        Nat.exists_eq_add_one.mpr (Nat.sub_pos_of_lt hless)
      have hrest : engine.config.mesh_n_high.toNat - (engine.mesh_peers ++ [candidate]).length = room := by
        rw [List.length_append, List.length_singleton]
        omega
      rw [ih { engine with mesh_peers := engine.mesh_peers ++ [candidate] }]
      dsimp only
      rw [hrest, hsub, List.take_succ_cons, List.append_assoc, List.singleton_append]

/-- The peers that a heartbeat takes into the mesh. -/
def grafted (engine : GossipEngine crates) (order : IterationOrder) : List Str :=
  if engine.mesh_needs_peers then
    ((((engine.sessions.active_peers (order.sessions _)).map (·.addr)).filter (· ∉ engine.mesh_peers)).take
      (engine.config.mesh_n.toNat - engine.mesh_peers.length)).take
        (engine.config.mesh_n_high.toNat - engine.mesh_peers.length)
  else []

/-- Everything that a heartbeat changes. -/
theorem heartbeat_eq (engine : GossipEngine crates) (order : IterationOrder) (now_ms : UInt64) :
    engine.heartbeat order now_ms =
      { engine with
        dedup := engine.dedup.evict_expired now_ms
        handshakes := (engine.handshakes.evict_timed_out now_ms (order.pending _)).2
        quorum := engine.quorum.prune ((engine.dedup.evict_expired now_ms).active_ids (order.entries _))
        mesh_peers := engine.mesh_peers ++ grafted engine order
        stats := { engine.stats with
          handshakes_failed := engine.stats.handshakes_failed +
            UInt32.ofNat (engine.handshakes.evict_timed_out now_ms (order.pending _)).1.length
          active_peers := UInt32.ofNat engine.sessions.count
          mesh_peers := UInt32.ofNat (engine.mesh_peers ++ grafted engine order).length
          dedup_cache_size := UInt32.ofNat (engine.dedup.evict_expired now_ms).len } } := by
  unfold heartbeat grafted mesh_needs_peers
  dsimp only
  split
  · rw [graft_eq]
    rfl
  · rw [List.append_nil]
    rfl

/-- A heartbeat evicts handshakes and keeps the identity and the sessions. -/
theorem heartbeat_keeps (engine : GossipEngine crates) (order : IterationOrder) (now_ms : UInt64) :
    (engine.heartbeat order now_ms).identity = engine.identity ∧
      (engine.heartbeat order now_ms).sessions = engine.sessions ∧
      (engine.heartbeat order now_ms).handshakes =
        (engine.handshakes.evict_timed_out now_ms (order.pending _)).2 := by
  rw [heartbeat_eq]
  exact ⟨rfl, rfl, rfl⟩

/-- The identity is as before, and so is what the engine holds for one address: its
    session and, while a handshake there waits for an answer, its context. -/
structure Untouched (addr : Str) (waits : Prop) (before after : GossipEngine crates) : Prop where
  identity : after.identity = before.identity
  session : after.sessions.get addr = before.sessions.get addr
  context : waits → after.handshakes.pending[addr]? = before.handshakes.pending[addr]?

theorem Untouched.refl {addr : Str} {waits : Prop} (engine : GossipEngine crates) :
    Untouched addr waits engine engine :=
  ⟨rfl, rfl, fun _ => rfl⟩

/-- The operation does not name the address, and as a heartbeat it does not find
    the context of a handshake that waits there timed out. -/
structure EngineOp.Spares (addr : Str) (waits : Prop) (engine : GossipEngine crates) (op : EngineOp crates) :
    Prop where
  address : op.address ≠ some addr
  fresh : waits → ∀ now_ms context, op.heartbeatTime = some now_ms →
    engine.handshakes.pending[addr]? = some context → context.is_timed_out now_ms = false

/-- An operation elsewhere leaves the address untouched. -/
theorem EngineOp.Spares.untouched {addr : Str} {waits : Prop} {engine : GossipEngine crates} {op : EngineOp crates}
    (h : op.Spares addr waits engine) : Untouched addr waits engine (op.run engine) := by
  have hne (peer_addr : Str) (haddress : op.address = some peer_addr) : peer_addr ≠ addr := by
    rintro rfl
    exact h.address haddress
  have houtcome := op.run_outcome engine
  generalize op.run engine = after at houtcome ⊢
  cases houtcome with
  | published hstats => exact ⟨rfl, rfl, fun _ => rfl⟩
  | counted haddress hstats => exact ⟨rfl, rfl, fun _ => rfl⟩
  | moved haddress honly => exact ⟨rfl, rfl, fun _ => honly addr (hne _ haddress)⟩
  | @completed _ peer_addr handshakes session haddress honly hpeer hactive =>
    subst hpeer
    obtain ⟨hidentity, hsessions, hhandshakes⟩ :=
      complete_handshake_keeps { engine with handshakes } session.peer_addr session
    refine ⟨hidentity, ?_, fun _ => ?_⟩
    · rw [hsessions]
      exact SessionStore.get_insert_of_ne engine.sessions (hne _ haddress)
    · rw [hhandshakes]
      exact honly addr (hne _ haddress)
  | answered honly hpeer hactive =>
    subst hpeer
    exact ⟨rfl, SessionStore.get_insert_of_ne engine.sessions (hne _ rfl), fun _ => honly addr (hne _ rfl)⟩
  | disconnected =>
    exact ⟨rfl, SessionStore.get_remove_of_ne engine.sessions (hne _ rfl),
      fun _ => HandshakeManager.pending_dropPending_of_ne engine.handshakes (hne _ rfl)⟩
  | @beat order now_ms =>
    obtain ⟨hidentity, hsessions, hhandshakes⟩ := heartbeat_keeps engine order now_ms
    refine ⟨hidentity, by rw [hsessions], fun hwaits => ?_⟩
    rw [hhandshakes]
    exact HandshakeManager.evict_timed_out_keeps _ fun context => h.fresh hwaits now_ms context rfl

/-- None of these operations changes the identity. -/
theorem EngineOp.run_identity (op : EngineOp crates) (engine : GossipEngine crates) :
    (op.run engine).identity = engine.identity := by
  have houtcome := op.run_outcome engine
  generalize op.run engine = after at houtcome ⊢
  cases houtcome with
  | completed haddress honly hpeer hactive => exact (complete_handshake_keeps _ _ _).1
  | beat => exact (heartbeat_keeps engine _ _).1
  | _ => rfl

end witan.gossip
