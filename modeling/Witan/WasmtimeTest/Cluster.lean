import Witan.WasmtimeTest

open bincode fallible maps
open witan.types witan.error witan.identity witan.session witan.config witan.gossip
open witan.api (ApiState)

namespace witan.wasmtime_test

variable {crates : Crates}

/-- The nodes of a driver, by address. -/
abbrev Cluster (crates : Crates) := Str → ApiState crates

def Cluster.session (cluster : Cluster crates) (addr peer_addr : Str) : Option SessionRecord :=
  (cluster addr).gossip_state.bind (·.sessions.get peer_addr)

/-- A handshake that the driver makes. -/
structure Handshake (crates : Crates) where
  client : Str
  server : Str
  draws : Draws crates

namespace Handshake

def perform (self : Handshake crates) : EStateM Failure (Cluster crates) Unit :=
  onPart (fun cluster => (⟨self.client, cluster self.client⟩, ⟨self.server, cluster self.server⟩))
    (fun cluster nodes =>
      Function.update (Function.update cluster self.client nodes.1.state) self.server nodes.2.state)
    (do_handshake self.draws)

/-- The handshakes of the driver, one after the other. -/
def performAll : List (Handshake crates) → EStateM Failure (Cluster crates) Unit
  | [] => pure ()
  | handshake :: rest => do
    handshake.perform
    performAll rest

/-- The handshake is one between the two nodes, in either direction. -/
def Joins (self : Handshake crates) (addr peer_addr : Str) : Prop :=
  addr = self.client ∧ peer_addr = self.server ∨ addr = self.server ∧ peer_addr = self.client

theorem Joins.symm {self : Handshake crates} {addr peer_addr : Str} (h : self.Joins addr peer_addr) :
    self.Joins peer_addr addr := by
  rcases h with ⟨rfl, rfl⟩ | ⟨rfl, rfl⟩
  · exact .inr ⟨rfl, rfl⟩
  · exact .inl ⟨rfl, rfl⟩

/-- Two handshakes between the same nodes. -/
theorem Joins.comm {self other : Handshake crates} (h : self.Joins other.client other.server) :
    other.Joins self.client self.server := by
  rcases h with ⟨hclient, hserver⟩ | ⟨hclient, hserver⟩
  · exact .inl ⟨hclient.symm, hserver.symm⟩
  · exact .inr ⟨hserver.symm, hclient.symm⟩

/-- Two initialized nodes without a session, and timely messages. -/
structure Ready (cluster : Cluster crates) (handshake : Handshake crates) : Prop where
  distinct : handshake.client ≠ handshake.server
  timely : handshake.draws.Timely
  client : ∃ engine, (cluster handshake.client).gossip_state = some engine
  server : ∃ engine, (cluster handshake.server).gossip_state = some engine
  new : cluster.session handshake.client handshake.server = none

end Handshake

/-- What a node keeps while the driver goes on: its engine has only been called, and
    its identity is the same. -/
structure Progress (before after : GossipEngine crates) : Prop where
  identity : after.identity = before.identity
  calls : ∃ calls : List (EngineCall crates), after = EngineCall.runAll calls before

theorem Progress.refl (engine : GossipEngine crates) : Progress engine engine := ⟨rfl, [], rfl⟩

theorem Progress.trans {first second third : GossipEngine crates} (h : Progress first second)
    (h' : Progress second third) : Progress first third := by
  obtain ⟨calls, rfl⟩ := h.calls
  obtain ⟨more, rfl⟩ := h'.calls
  exact ⟨h'.identity.trans h.identity, calls ++ more, (EngineCall.runAll_append calls more first).symm⟩

/-- What handshakes make of a cluster: each leaves the two sessions of one handshake
    at its nodes, and no other session changes. -/
structure Connects (handshakes : List (Handshake crates)) (before after : Cluster crates) : Prop where
  paired : ∀ handshake ∈ handshakes, ∀ a b, (before handshake.client).gossip_state = some a →
    (before handshake.server).gossip_state = some b → ∃ session_a session_b,
      after.session handshake.client handshake.server = some session_a ∧
      after.session handshake.server handshake.client = some session_b ∧
      Paired a.identity b.identity session_a session_b
  elsewhere : ∀ addr peer_addr, (∀ handshake ∈ handshakes, ¬ handshake.Joins addr peer_addr) →
    after.session addr peer_addr = before.session addr peer_addr
  progress : ∀ addr engine, (before addr).gossip_state = some engine →
    ∃ engine', (after addr).gossip_state = some engine' ∧ Progress engine engine'

section Runs

theorem Connects.nil (cluster : Cluster crates) : Connects [] cluster cluster :=
  ⟨nofun, fun _ _ _ => rfl, fun _ engine h => ⟨engine, h, .refl engine⟩⟩

variable {handshake : Handshake crates} {rest : List (Handshake crates)} {before middle after : Cluster crates}

/-- One handshake before others, none of which is between the same nodes. -/
theorem Connects.cons (h : Connects [handshake] before middle) (h' : Connects rest middle after)
    (hapart : ∀ other ∈ rest, ¬ handshake.Joins other.client other.server) :
    Connects (handshake :: rest) before after := by
  refine ⟨?_, ?_, ?_⟩
  · intro chosen hmem a b ha hb
    rcases List.mem_cons.mp hmem with rfl | hrest
    · obtain ⟨session_a, session_b, hsession_a, hsession_b, hpaired⟩ :=
        h.paired chosen (List.mem_singleton.mpr rfl) a b ha hb
      have hapart' (other : Handshake crates) (hother : other ∈ rest) : ¬ other.Joins chosen.client chosen.server :=
        fun hjoins => hapart other hother hjoins.comm
      refine ⟨session_a, session_b, ?_, ?_, hpaired⟩
      · rw [h'.elsewhere _ _ hapart', hsession_a]
      · rw [h'.elsewhere _ _ fun other hother hjoins => hapart' other hother hjoins.symm, hsession_b]
    · obtain ⟨a', ha', hprogress_a⟩ := h.progress _ a ha
      obtain ⟨b', hb', hprogress_b⟩ := h.progress _ b hb
      obtain ⟨session_a, session_b, hsession_a, hsession_b, hpaired⟩ := h'.paired chosen hrest a' b' ha' hb'
      rw [hprogress_a.identity, hprogress_b.identity] at hpaired
      exact ⟨session_a, session_b, hsession_a, hsession_b, hpaired⟩
  · intro addr peer_addr hnone
    rw [h'.elsewhere addr peer_addr fun other hother => hnone other (List.mem_cons_of_mem _ hother)]
    refine h.elsewhere addr peer_addr fun other hother => ?_
    rw [List.mem_singleton.mp hother]
    exact hnone handshake List.mem_cons_self
  · intro addr engine hengine
    obtain ⟨engine', hengine', hprogress⟩ := h.progress addr engine hengine
    obtain ⟨engine'', hengine'', hprogress'⟩ := h'.progress addr engine' hengine'
    exact ⟨engine'', hengine'', hprogress.trans hprogress'⟩

/-- Handshakes between other nodes leave a handshake ready. -/
theorem Handshake.Ready.of_connects {other : Handshake crates} (h : other.Ready before)
    (hconnects : Connects [handshake] before middle) (hapart : ¬ handshake.Joins other.client other.server) :
    other.Ready middle := by
  obtain ⟨a, ha⟩ := h.client
  obtain ⟨b, hb⟩ := h.server
  obtain ⟨a', ha', _⟩ := hconnects.progress _ a ha
  obtain ⟨b', hb', _⟩ := hconnects.progress _ b hb
  refine ⟨h.distinct, h.timely, ⟨a', ha'⟩, ⟨b', hb'⟩, ?_⟩
  rw [hconnects.elsewhere, h.new]
  intro chosen hmem
  rw [List.mem_singleton.mp hmem]
  exact hapart

theorem Joined.progress {peer_addr : Str} {session : SessionRecord} {engine engine' : GossipEngine crates}
    (h : Joined peer_addr session engine engine') : Progress engine engine' := ⟨h.identity, h.calls⟩

/-- The cluster with the two nodes as a handshake left them. -/
theorem Connects.of_joined {a a' b b' : GossipEngine crates} {session_a session_b : SessionRecord}
    {lineage_a lineage_b : Option rotation.KeyLineage} (hdistinct : handshake.client ≠ handshake.server)
    (ha : (before handshake.client).gossip_state = some a) (hb : (before handshake.server).gossip_state = some b)
    (hjoined_a : Joined handshake.server session_a a a') (hjoined_b : Joined handshake.client session_b b b')
    (hpaired : Paired a.identity b.identity session_a session_b) :
    Connects [handshake] before
      (Function.update (Function.update before handshake.client ⟨some a', lineage_a⟩) handshake.server
        ⟨some b', lineage_b⟩) := by
  generalize hafter : Function.update (Function.update before handshake.client ⟨some a', lineage_a⟩) handshake.server
    ⟨some b', lineage_b⟩ = after
  have hclient : (after handshake.client).gossip_state = some a' := by
    rw [← hafter, Function.update_of_ne hdistinct, Function.update_self]
  have hserver : (after handshake.server).gossip_state = some b' := by rw [← hafter, Function.update_self]
  have hother (addr : Str) (hne : addr ≠ handshake.client) (hne' : addr ≠ handshake.server) :
      after addr = before addr := by
    rw [← hafter, Function.update_of_ne hne', Function.update_of_ne hne]
  refine ⟨?_, ?_, ?_⟩
  · intro chosen hmem a₀ b₀ ha₀ hb₀
    obtain rfl := List.mem_singleton.mp hmem
    obtain rfl : a = a₀ := Option.some.inj (ha.symm.trans ha₀)
    obtain rfl : b = b₀ := Option.some.inj (hb.symm.trans hb₀)
    refine ⟨session_a, session_b, ?_, ?_, hpaired⟩
    · rw [Cluster.session, hclient]
      exact hjoined_a.session
    · rw [Cluster.session, hserver]
      exact hjoined_b.session
  · intro addr peer_addr hnone
    have hapart : ¬ handshake.Joins addr peer_addr := hnone handshake (List.mem_singleton.mpr rfl)
    unfold Cluster.session
    by_cases hat_client : addr = handshake.client
    · subst hat_client
      rw [hclient, ha]
      exact hjoined_a.elsewhere peer_addr fun hpeer => hapart (.inl ⟨rfl, hpeer⟩)
    · by_cases hat_server : addr = handshake.server
      · subst hat_server
        rw [hserver, hb]
        exact hjoined_b.elsewhere peer_addr fun hpeer => hapart (.inr ⟨rfl, hpeer⟩)
      · rw [hother addr hat_client hat_server]
  · intro addr engine hengine
    by_cases hat_client : addr = handshake.client
    · subst hat_client
      obtain rfl : a = engine := Option.some.inj (ha.symm.trans hengine)
      exact ⟨a', hclient, hjoined_a.progress⟩
    · by_cases hat_server : addr = handshake.server
      · subst hat_server
        obtain rfl : b = engine := Option.some.inj (hb.symm.trans hengine)
        exact ⟨b', hserver, hjoined_b.progress⟩
      · refine ⟨engine, ?_, .refl engine⟩
        rw [hother addr hat_client hat_server, hengine]

variable (hsignature : crates.SignatureCorrect) (hlengths : crates.KeyLengths) (hkem : crates.KemCorrect)
  (hjson : crates.KemRoundTrip)

include hsignature hlengths hkem hjson

theorem Handshake.Ready.perform (h : handshake.Ready before) :
    ∃ after, handshake.perform before = .ok () after ∧ Connects [handshake] before after := by
  obtain ⟨a, ha⟩ := h.client
  obtain ⟨b, hb⟩ := h.server
  have hnew : a.sessions.get handshake.server = none := by
    have hnone := h.new
    unfold Cluster.session at hnone
    rwa [ha] at hnone
  let client : GossipNode crates := ⟨handshake.client, before handshake.client⟩
  let server : GossipNode crates := ⟨handshake.server, before handshake.server⟩
  obtain ⟨a', b', session_a, session_b, hrun, hjoined_a, hjoined_b, hpaired⟩ :
      ∃ a' b' session_a session_b, do_handshake handshake.draws (client, server) = .ok ()
        ({ client with state := ⟨some a', client.state.lineage⟩ },
          { server with state := ⟨some b', server.state.lineage⟩ }) ∧
        Joined server.addr session_a a a' ∧ Joined client.addr session_b b b' ∧
        Paired a.identity b.identity session_a session_b :=
    do_handshake_completes hsignature hlengths hkem hjson ha hb hnew h.timely
  exact ⟨_, onPart_eq_ok_iff.mpr ⟨_, hrun, rfl⟩, .of_joined h.distinct ha hb hjoined_a hjoined_b hpaired⟩

/-- Handshakes between different nodes all succeed. -/
theorem performAll_connects {handshakes : List (Handshake crates)}
    (hready : ∀ handshake ∈ handshakes, handshake.Ready before)
    (hapart : handshakes.Pairwise fun first second => ¬ first.Joins second.client second.server) :
    ∃ after, Handshake.performAll handshakes before = .ok () after ∧ Connects handshakes before after := by
  induction handshakes generalizing before with
  | nil => exact ⟨before, rfl, .nil before⟩
  | cons handshake rest ih =>
    obtain ⟨hfirst, hrest⟩ := List.pairwise_cons.mp hapart
    obtain ⟨middle, hperform, hmiddle⟩ :=
      (hready handshake List.mem_cons_self).perform hsignature hlengths hkem hjson
    have hready' (other : Handshake crates) (hmem : other ∈ rest) : other.Ready middle :=
      (hready other (List.mem_cons_of_mem _ hmem)).of_connects hmiddle (hfirst other hmem)
    obtain ⟨after, hrun, hafter⟩ := ih hready' hrest
    exact ⟨after, (bind_of_ok hperform).trans hrun, hmiddle.cons hafter hfirst⟩

end Runs

end witan.wasmtime_test
