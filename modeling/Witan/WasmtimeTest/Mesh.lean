import Witan.Api.Sessions
import Witan.WasmtimeTest.Cluster

open bincode fallible maps
open witan.types witan.error witan.identity witan.session witan.config witan.gossip
open witan.api (ApiState Reached listed)

namespace witan.wasmtime_test

variable {crates : Crates}

/-- The handshakes of a full mesh, in the driver's order: every node with all that
    follow it. -/
def meshOf (draws : Str → Str → Draws crates) : List Str → List (Handshake crates)
  | [] => []
  | addr :: rest => rest.map (fun peer_addr => ⟨addr, peer_addr, draws addr peer_addr⟩) ++ meshOf draws rest

section FullMesh

variable {draws : Str → Str → Draws crates} {addrs : List Str}

theorem mem_meshOf {handshake : Handshake crates} (h : handshake ∈ meshOf draws addrs) :
    handshake.client ∈ addrs ∧ handshake.server ∈ addrs ∧
      handshake.draws = draws handshake.client handshake.server := by
  induction addrs with
  | nil => cases h
  | cons addr rest ih =>
    rcases List.mem_append.mp h with hfirst | hrest
    · obtain ⟨peer_addr, hpeer, rfl⟩ := List.mem_map.mp hfirst
      exact ⟨List.mem_cons_self, List.mem_cons_of_mem _ hpeer, rfl⟩
    · obtain ⟨hclient, hserver, hdraws⟩ := ih hrest
      exact ⟨List.mem_cons_of_mem _ hclient, List.mem_cons_of_mem _ hserver, hdraws⟩

theorem meshOf_distinct (hnodup : addrs.Nodup) {handshake : Handshake crates} (h : handshake ∈ meshOf draws addrs) :
    handshake.client ≠ handshake.server := by
  induction addrs with
  | nil => cases h
  | cons addr rest ih =>
    obtain ⟨hnew, hrest⟩ := List.nodup_cons.mp hnodup
    rcases List.mem_append.mp h with hfirst | hlater
    · obtain ⟨peer_addr, hpeer, rfl⟩ := List.mem_map.mp hfirst
      intro heq
      obtain rfl : addr = peer_addr := heq
      exact hnew hpeer
    · exact ih hrest hlater

/-- Every two nodes have a handshake. -/
theorem exists_meshOf (draws : Str → Str → Draws crates) {addr peer_addr : Str} (haddr : addr ∈ addrs)
    (hpeer : peer_addr ∈ addrs) (hne : addr ≠ peer_addr) :
    ∃ handshake ∈ meshOf draws addrs, handshake.Joins addr peer_addr := by
  induction addrs with
  | nil => cases haddr
  | cons first rest ih =>
    rcases List.mem_cons.mp haddr with rfl | haddr'
    · rcases List.mem_cons.mp hpeer with rfl | hpeer
      · exact absurd rfl hne
      · exact ⟨_, List.mem_append_left _ (List.mem_map_of_mem hpeer), .inl ⟨rfl, rfl⟩⟩
    · rcases List.mem_cons.mp hpeer with rfl | hpeer
      · exact ⟨_, List.mem_append_left _ (List.mem_map_of_mem haddr'), .inr ⟨rfl, rfl⟩⟩
      · obtain ⟨handshake, hmem, hjoins⟩ := ih haddr' hpeer
        exact ⟨handshake, List.mem_append_right _ hmem, hjoins⟩

/-- No two nodes have more than one. -/
theorem meshOf_apart (hnodup : addrs.Nodup) :
    (meshOf draws addrs).Pairwise fun first second => ¬ first.Joins second.client second.server := by
  induction addrs with
  | nil => exact .nil
  | cons addr rest ih =>
    obtain ⟨hnew, hrest⟩ := List.nodup_cons.mp hnodup
    refine List.pairwise_append.mpr ⟨?_, ih hrest, ?_⟩
    · refine List.pairwise_map.mpr (hrest.imp_of_mem fun {first second} hfirst hsecond hne hjoins => ?_)
      rcases hjoins with ⟨_, heq⟩ | ⟨heq, _⟩
      · exact hne heq.symm
      · obtain rfl : addr = first := heq
        exact hnew hfirst
    · intro first hfirst second hsecond hjoins
      obtain ⟨peer_addr, _, rfl⟩ := List.mem_map.mp hfirst
      obtain ⟨hclient, hserver, _⟩ := mem_meshOf hsecond
      rcases hjoins with ⟨heq, _⟩ | ⟨_, heq⟩
      · rw [heq] at hclient
        exact hnew hclient
      · rw [heq] at hserver
        exact hnew hserver

end FullMesh

/-- A node that was started and then only called reports the peers it has sessions
    for, each once. -/
theorem listed_perm {engine : GossipEngine crates} {resolved : ResolvedConfig} {identity : NodeIdentity crates}
    (hprogress : Progress (.new resolved identity) engine) (order : IterationOrder) {expected : List Str}
    (hnodup : expected.Nodup)
    (hsessions : ∀ addr, (engine.sessions.get addr).isSome = true ↔ addr ∈ expected) :
    (listed engine order).Perm expected := by
  obtain ⟨calls, hcalls⟩ := hprogress.calls
  have hreached : Reached engine := ⟨resolved, identity, calls, hcalls⟩
  exact (List.perm_ext_iff_of_nodup (hreached.listed_nodup order) hnodup).mpr fun addr =>
    (hreached.mem_listed_iff order).trans (hsessions addr)

theorem Paired.symm {identity_a identity_b : NodeIdentity crates} {session_a session_b : SessionRecord}
    (h : Paired identity_a identity_b session_a session_b) : Paired identity_b identity_a session_b session_a :=
  ⟨h.session_id.symm, h.transcript_hash.symm, h.names_a, h.key_a, h.names_b, h.key_b⟩

/-- A node that was just started. -/
theorem started_new {state : ApiState crates} (h : api.Initializes .fresh state) :
    ∃ resolved identity, state.gossip_state = some (.new resolved identity) := by
  rcases h with ⟨config_json, kem_rng, sig_rng, hinit⟩ | ⟨config_json, lineage_bytes, hinit⟩
  · obtain ⟨resolved, identity, lineage, _, rfl⟩ := api.gossip_init_eq_ok hinit
    exact ⟨resolved, identity, rfl⟩
  · obtain ⟨_, resolved, identity, lineage, _, _, _, rfl⟩ := api.gossip_init_with_lineage_eq_ok_iff.mp hinit
    exact ⟨resolved, _, rfl⟩

theorem started_session {cluster : Cluster crates} {addr : Str} (h : api.Initializes .fresh (cluster addr))
    (peer_addr : Str) : cluster.session addr peer_addr = none := by
  obtain ⟨resolved, identity, hnew⟩ := started_new h
  rw [Cluster.session, hnew]
  exact GossipEngine.sessions_new resolved identity peer_addr

/-- The sessions of a handshake, seen from either of its nodes. -/
theorem Connects.joined {handshakes : List (Handshake crates)} {before after : Cluster crates}
    (h : Connects handshakes before after) {handshake : Handshake crates} (hmem : handshake ∈ handshakes)
    {addr peer_addr : Str} (hjoins : handshake.Joins addr peer_addr) {engine peer : GossipEngine crates}
    (hengine : (before addr).gossip_state = some engine) (hpeer : (before peer_addr).gossip_state = some peer) :
    ∃ session session', after.session addr peer_addr = some session ∧ after.session peer_addr addr = some session' ∧
      Paired engine.identity peer.identity session session' := by
  rcases hjoins with ⟨rfl, rfl⟩ | ⟨rfl, rfl⟩
  · exact h.paired handshake hmem engine peer hengine hpeer
  · obtain ⟨session_a, session_b, hsession_a, hsession_b, hpaired⟩ := h.paired handshake hmem peer engine hpeer hengine
    exact ⟨session_b, session_a, hsession_b, hsession_a, hpaired.symm⟩

/-- A driver that starts any number of nodes and runs the handshakes of a full mesh
    gets one: every call succeeds, every two nodes hold the two sessions of one
    handshake, and every node reports exactly the others as its peers. -/
theorem mesh_connects (hsignature : crates.SignatureCorrect) (hlengths : crates.KeyLengths)
    (hkem : crates.KemCorrect) (hjson : crates.KemRoundTrip) {draws : Str → Str → Draws crates}
    (htimely : ∀ addr peer_addr, (draws addr peer_addr).Timely) {addrs : List Str} (hnodup : addrs.Nodup)
    {cluster : Cluster crates} (hstarted : ∀ addr ∈ addrs, api.Initializes .fresh (cluster addr)) :
    ∃ after, Handshake.performAll (meshOf draws addrs) cluster = .ok () after ∧
      ∀ addr ∈ addrs, ∃ engine, (after addr).gossip_state = some engine ∧
        (∀ order, (listed engine order).Perm (addrs.erase addr)) ∧
        ∀ peer_addr ∈ addrs, addr ≠ peer_addr → ∃ peer session session',
          (after peer_addr).gossip_state = some peer ∧ engine.sessions.get peer_addr = some session ∧
            peer.sessions.get addr = some session' ∧ Paired engine.identity peer.identity session session' := by
  have hready (handshake : Handshake crates) (hmem : handshake ∈ meshOf draws addrs) : handshake.Ready cluster := by
    obtain ⟨hclient, hserver, hdraws⟩ := mem_meshOf hmem
    obtain ⟨_, _, hnew⟩ := started_new (hstarted _ hclient)
    obtain ⟨_, _, hnew'⟩ := started_new (hstarted _ hserver)
    refine ⟨meshOf_distinct hnodup hmem, ?_, ⟨_, hnew⟩, ⟨_, hnew'⟩, started_session (hstarted _ hclient) _⟩
    rw [hdraws]
    exact htimely _ _
  obtain ⟨after, hrun, hconnects⟩ :=
    performAll_connects hsignature hlengths hkem hjson hready (meshOf_apart hnodup)
  have hsessions {addr peer_addr : Str} (haddr : addr ∈ addrs) (hpeer : peer_addr ∈ addrs) (hne : addr ≠ peer_addr) :
      ∃ engine peer session session', (after addr).gossip_state = some engine ∧
        (after peer_addr).gossip_state = some peer ∧ engine.sessions.get peer_addr = some session ∧
        peer.sessions.get addr = some session' ∧ Paired engine.identity peer.identity session session' := by
    obtain ⟨handshake, hmem, hjoins⟩ := exists_meshOf draws haddr hpeer hne
    obtain ⟨_, _, hnew⟩ := started_new (hstarted _ haddr)
    obtain ⟨_, _, hnew'⟩ := started_new (hstarted _ hpeer)
    obtain ⟨engine, hengine, hprogress⟩ := hconnects.progress _ _ hnew
    obtain ⟨peer, hpeer, hprogress'⟩ := hconnects.progress _ _ hnew'
    obtain ⟨session, session', hsession, hsession', hpaired⟩ := hconnects.joined hmem hjoins hnew hnew'
    rw [Cluster.session, hengine] at hsession
    rw [Cluster.session, hpeer] at hsession'
    rw [← hprogress.identity, ← hprogress'.identity] at hpaired
    exact ⟨engine, peer, session, session', hengine, hpeer, hsession, hsession', hpaired⟩
  refine ⟨after, hrun, fun addr haddr => ?_⟩
  obtain ⟨resolved, identity, hnew⟩ := started_new (hstarted _ haddr)
  obtain ⟨engine, hengine, hprogress⟩ := hconnects.progress _ _ hnew
  refine ⟨engine, hengine, fun order => ?_, fun peer_addr hpeer hne => ?_⟩
  · refine listed_perm hprogress order (hnodup.erase _) fun peer_addr => ?_
    rw [hnodup.mem_erase_iff]
    constructor
    · intro hsome
      -- without a handshake the session would have been there from the start
      by_contra hnot
      have hnone : after.session addr peer_addr = none := by
        rw [hconnects.elsewhere, started_session (hstarted _ haddr)]
        intro handshake hmem hjoins
        obtain ⟨hclient, hserver, _⟩ := mem_meshOf hmem
        have hdistinct := meshOf_distinct hnodup hmem
        rcases hjoins with ⟨rfl, rfl⟩ | ⟨rfl, rfl⟩
        · exact hnot ⟨hdistinct.symm, hserver⟩
        · exact hnot ⟨hdistinct, hclient⟩
      rw [Cluster.session, hengine] at hnone
      rw [Option.bind_some] at hnone
      rw [hnone] at hsome
      cases hsome
    · intro h
      obtain ⟨engine', _, session, _, hengine', _, hsession, _, _⟩ := hsessions haddr h.2 (Ne.symm h.1)
      obtain rfl : engine = engine' := Option.some.inj (hengine.symm.trans hengine')
      rw [hsession]
      rfl
  · obtain ⟨engine', peer, session, session', hengine', hrest⟩ := hsessions haddr hpeer hne
    obtain rfl : engine = engine' := Option.some.inj (hengine.symm.trans hengine')
    exact ⟨peer, session, session', hrest⟩

namespace reference

/-! Three nodes, as in the driver. -/

def addrs : List Str := [⟨"node-a", by decide⟩, ⟨"node-b", by decide⟩, ⟨"node-c", by decide⟩]

/-- A node with the address at position `i` has the key `i`. -/
def cluster : Cluster reference.crates := fun addr => api.reference.started (UInt8.ofNat (addrs.idxOf addr))

def draws : Draws reference.crates :=
  ⟨.ok (witan.reference.nonce 7), .ok (witan.reference.nonce 8), (9 : UInt8), 0, 10, 20, 30, 40⟩

theorem draws_timely : draws.Timely := ⟨⟨_, rfl⟩, ⟨_, rfl⟩, by decide, by decide, by decide, by decide⟩

end reference

theorem mesh_connects_three : reference.addrs.Nodup ∧
    ∃ after,
      Handshake.performAll (meshOf (fun _ _ => reference.draws) reference.addrs) reference.cluster = .ok () after ∧
      ∀ addr ∈ reference.addrs, ∃ engine, (after addr).gossip_state = some engine ∧
        ∀ order, (listed engine order).Perm (reference.addrs.erase addr) := by
  have hnodup : reference.addrs.Nodup := by decide
  refine ⟨hnodup, ?_⟩
  obtain ⟨after, hrun, hpeers⟩ := mesh_connects witan.reference.signatureCorrect witan.reference.keyLengths
    witan.reference.kemCorrect witan.reference.kemRoundTrip (fun _ _ => reference.draws_timely) hnodup
    (fun addr _ => .inl ⟨_, _, _, api.reference.init_started _⟩ : ∀ addr ∈ reference.addrs,
      api.Initializes .fresh (reference.cluster addr))
  refine ⟨after, hrun, fun addr hmem => ?_⟩
  obtain ⟨engine, hengine, hperm, _⟩ := hpeers addr hmem
  exact ⟨engine, hengine, hperm⟩

end witan.wasmtime_test
