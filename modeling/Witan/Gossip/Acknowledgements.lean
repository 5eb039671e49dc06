import Witan.Gossip.Completion
import Witan.Gossip.Deduplication
import Witan.Gossip.Replay
import Witan.Quorum.Intersection

open Std (ExtHashMap)
open bincode fallible maps
open witan.types witan.error witan.identity witan.config
open witan.quorum (QuorumTracker)

namespace witan.gossip

variable {crates : Crates}

open GossipEngine EngineCall

namespace EngineCall

/-- The call receives an envelope with this message id and verifies it, with or
    without a lineage. -/
def Receives (engine : GossipEngine crates) (message_id : Bytes32) (now_ms : UInt64)
    (call : EngineCall crates) : Prop :=
  Verifies engine message_id now_ms call ∨
    ∃ lineage bytes env after, call = .operation (.verify_envelope_from_lineage lineage bytes now_ms) ∧
      envelope.decode_envelope crates bytes = .ok env ∧ env.message_id = message_id ∧
      GossipEngine.verify_envelope_from_lineage lineage bytes now_ms engine = .ok true after

/-- The call is a heartbeat, and the message is not in the cache once that has
    evicted. -/
def Forgets (message_id : Bytes32) (engine : GossipEngine crates) (call : EngineCall crates) : Prop :=
  ∃ order now_ms, call = .operation (.heartbeat order now_ms) ∧
    message_id ∉ (engine.dedup.evict_expired now_ms).entries

/-- All clock readings lie within the time to live after this one. -/
def Within (ttl_ms now_ms : UInt64) (calls : List (EngineCall crates)) : Prop :=
  ∀ call ∈ calls, ∀ later_ms, call.clock = some later_ms → later_ms.toNat ≤ now_ms.toNat + ttl_ms.toNat

end EngineCall

/-- A peer that acknowledges a published or received message is counted for it as
    long as the message is live. -/
def KeepsAcks (start : GossipEngine crates) (calls : List (EngineCall crates)) : Prop :=
  ∀ before first middle peer_addr after rest message_id now_ms,
    calls = before ++ first :: (middle ++ .record_ack message_id peer_addr :: (after ++ rest)) →
    Publishes (runAll before start) message_id now_ms first ∨ Receives (runAll before start) message_id now_ms first →
    Within start.dedup.ttl_ms now_ms (middle ++ after) →
    peer_addr ∈ (runAll (before ++ first :: (middle ++ .record_ack message_id peer_addr :: after))
      start).quorum.ackers message_id

/-- Every heartbeat that comes while a received and acknowledged message is live
    finds an entry for that message in the cache that is not expired. -/
def HeartbeatsFindReceived (start : GossipEngine crates) (calls : List (EngineCall crates)) : Prop :=
  ∀ before first middle order beat_ms rest message_id now_ms peer_addr,
    calls = before ++ first :: (middle ++ .operation (.heartbeat order beat_ms) :: rest) →
    Receives (runAll before start) message_id now_ms first → .record_ack message_id peer_addr ∈ middle →
    beat_ms.toNat ≤ now_ms.toNat + start.dedup.ttl_ms.toNat →
    ∃ stamp, (runAll (before ++ first :: middle) start).dedup.entries[message_id]? = some stamp ∧
      beat_ms.toNat - stamp.toNat ≤ start.dedup.ttl_ms.toNat

section Calls

variable {engine : GossipEngine crates} {message_id : Bytes32} {peer_addr : Str}

/-- A heartbeat keeps the acknowledgements of exactly the messages that the cache
    holds after the eviction. -/
theorem mem_ackers_heartbeat_iff {order : IterationOrder} {now_ms : UInt64} :
    peer_addr ∈ (engine.heartbeat order now_ms).quorum.ackers message_id ↔
      peer_addr ∈ engine.quorum.ackers message_id ∧
        ∃ stamp, engine.dedup.entries[message_id]? = some stamp ∧
          now_ms.toNat - stamp.toNat ≤ engine.dedup.ttl_ms.toNat := by
  rw [(heartbeat_records engine order now_ms).quorum, QuorumTracker.mem_ackers_prune, ← mem_evict_expired_iff]
  exact and_congr_right fun _ => (order.entries _).mem_iff message_id

/-- What a call makes of an acknowledgement. -/
theorem mem_ackers_run_iff (engine : GossipEngine crates) (call : EngineCall crates) :
    peer_addr ∈ (call.run engine).quorum.ackers message_id ↔
      call = .record_ack message_id peer_addr ∨
        peer_addr ∈ engine.quorum.ackers message_id ∧ ¬ call.Forgets message_id engine := by
  by_cases hack : call = .record_ack message_id peer_addr
  · subst hack
    refine iff_of_true ?_ (.inl rfl)
    change peer_addr ∈ (engine.quorum.record_ack message_id peer_addr).ackers message_id
    rw [QuorumTracker.ackers_record_ack_self]
    exact Finset.mem_insert_self _ _
  -- Any other call can only forget.
  rw [or_iff_right hack]
  have hkept (hsame : peer_addr ∈ (call.run engine).quorum.ackers message_id ↔
        peer_addr ∈ engine.quorum.ackers message_id)
      (hbeat : ∀ order now_ms, call ≠ .operation (.heartbeat order now_ms)) :
      peer_addr ∈ (call.run engine).quorum.ackers message_id ↔
        peer_addr ∈ engine.quorum.ackers message_id ∧ ¬ call.Forgets message_id engine := by
    rw [hsame]
    refine (and_iff_left ?_).symm
    rintro ⟨order, now_ms, hcall, _⟩
    exact hbeat order now_ms hcall
  rcases call.records_cases with ⟨payload_type, payload, now_ms, rfl⟩ | ⟨order, now_ms, rfl⟩ |
    ⟨id, peer, rfl⟩ | ⟨_, hheartbeat, hsame⟩
  · refine hkept ?_ nofun
    change peer_addr ∈ ((EngineOp.publish payload_type payload now_ms).run engine).quorum.ackers message_id ↔ _
    rcases publish_cases payload_type payload now_ms engine with
      ⟨_, hsame⟩ | ⟨_, _, ⟨_, hsame⟩ | ⟨_, hsame⟩⟩ <;> rw [hsame.quorum]
  · have hforgets : (EngineCall.operation (.heartbeat order now_ms)).Forgets message_id engine ↔
        message_id ∉ (engine.dedup.evict_expired now_ms).entries := by
      constructor
      · rintro ⟨_, _, ⟨⟩, hgone⟩
        exact hgone
      · exact fun hgone => ⟨order, now_ms, rfl, hgone⟩
    rw [hforgets, not_not, mem_evict_expired_iff]
    exact mem_ackers_heartbeat_iff
  · refine hkept ?_ nofun
    change peer_addr ∈ (engine.quorum.record_ack id peer).ackers message_id ↔ _
    by_cases hid : id = message_id
    · subst hid
      have hother : peer_addr ≠ peer := fun hsame => hack (by rw [hsame])
      rw [QuorumTracker.ackers_record_ack_self, Finset.mem_insert, or_iff_right hother]
    · rw [QuorumTracker.ackers_record_ack_of_ne _ peer hid]
  · exact hkept (by rw [(hsame engine).quorum]) hheartbeat

/-- Only a heartbeat can drop an acknowledgement. -/
theorem mem_ackers_run {call : EngineCall crates} (h : peer_addr ∈ engine.quorum.ackers message_id)
    (hbeat : ∀ order now_ms, call = .operation (.heartbeat order now_ms) →
      ∃ stamp, engine.dedup.entries[message_id]? = some stamp ∧
        now_ms.toNat - stamp.toNat ≤ engine.dedup.ttl_ms.toNat) :
    peer_addr ∈ (call.run engine).quorum.ackers message_id := by
  refine (mem_ackers_run_iff engine call).mpr (.inr ⟨h, ?_⟩)
  rintro ⟨order, now_ms, hcall, hgone⟩
  exact hgone (mem_evict_expired_iff.mpr (hbeat order now_ms hcall))

theorem mem_ackers_runAll {calls : List (EngineCall crates)} (h : peer_addr ∈ engine.quorum.ackers message_id)
    (hbeats : ∀ earlier order now_ms rest, calls = earlier ++ .operation (.heartbeat order now_ms) :: rest →
      ∃ stamp, (runAll earlier engine).dedup.entries[message_id]? = some stamp ∧
        now_ms.toNat - stamp.toNat ≤ engine.dedup.ttl_ms.toNat) :
    peer_addr ∈ (runAll calls engine).quorum.ackers message_id := by
  induction calls generalizing engine with
  | nil => exact h
  | cons call calls ih =>
    refine ih (mem_ackers_run h ?_) ?_
    · rintro order now_ms rfl
      exact hbeats [] order now_ms calls rfl
    · rintro earlier order now_ms rest rfl
      rw [(run_settings call engine).2]
      exact hbeats (call :: earlier) order now_ms rest rfl

end Calls

section Runs

variable {start : GossipEngine crates} {before since : List (EngineCall crates)} {first : EngineCall crates}
  {message_id : Bytes32} {now_ms beat_ms : UInt64}

theorem EngineCall.Publishes.clock_eq {engine : GossipEngine crates} {call : EngineCall crates}
    (h : Publishes engine message_id now_ms call) : call.clock = some now_ms := by
  obtain ⟨_, _, _, rfl, _⟩ := h
  rfl

theorem EngineCall.Receives.clock_eq {engine : GossipEngine crates} {call : EngineCall crates}
    (h : Receives engine message_id now_ms call) : call.clock = some now_ms := by
  rcases h with ⟨_, _, _, rfl, _⟩ | ⟨_, _, _, _, rfl, _⟩
  · rfl
  · rfl

/-- A published message is in the cache while it is live. -/
theorem entry_of_published (hpublishes : Publishes (runAll before start) message_id now_ms first)
    (hclock : NonDecreasing (before ++ first :: since)) (hwithin : Within start.dedup.ttl_ms now_ms since)
    (hbeat : beat_ms.toNat ≤ now_ms.toNat + start.dedup.ttl_ms.toNat) :
    ∃ stamp, (runAll (before ++ first :: since) start).dedup.entries[message_id]? = some stamp ∧
      beat_ms.toNat - stamp.toNat ≤ start.dedup.ttl_ms.toNat := by
  have hpasses : Passes (runAll before start) message_id now_ms first := by
    obtain ⟨_, _, _, rfl, hpublish⟩ := hpublishes
    exact passes_of_publish hpublish
  have hentry : ∃ stamp, (first.run (runAll before start)).dedup.entries[message_id]? = some stamp ∧ now_ms ≤ stamp :=
    ⟨now_ms, (entries_run_iff first).mpr (.inl hpasses), UInt64.le_refl _⟩
  have httl : (first.run (runAll before start)).dedup.ttl_ms = start.dedup.ttl_ms :=
    (run_settings first _).2.trans (runAll_settings before start).2
  obtain ⟨stamp, hstamp, hlate⟩ := entry_lasts since hentry fun call hmem later_ms hcall => by
    have hbound := hwithin call hmem later_ms hcall
    rw [httl]
    exact ⟨hclock.le hpublishes.clock_eq hmem hcall, by omega⟩
  refine ⟨stamp, ?_, ?_⟩
  · rw [runAll_append]
    exact hstamp
  · have hlate' := UInt64.le_iff_toNat_le.mp hlate
    omega

theorem mem_ackers_of_record_ack (calls : List (EngineCall crates)) (start : GossipEngine crates)
    (message_id : Bytes32) (peer_addr : Str) :
    peer_addr ∈ (runAll (calls ++ [.record_ack message_id peer_addr]) start).quorum.ackers message_id := by
  rw [runAll_append]
  change peer_addr ∈ ((runAll calls start).quorum.record_ack message_id peer_addr).ackers message_id
  rw [QuorumTracker.ackers_record_ack_self]
  exact Finset.mem_insert_self _ _

/-- Acknowledgements that are still counted after a heartbeat were found in the cache. -/
theorem KeepsAcks.heartbeatsFindReceived {calls : List (EngineCall crates)} (hclock : NonDecreasing calls)
    (hkeeps : KeepsAcks start calls) : HeartbeatsFindReceived start calls := by
  intro before first middle order beat_ms rest message_id now_ms peer_addr hsplit hreceives hmem hbeat
  obtain ⟨earlier, later, rfl⟩ := List.append_of_mem hmem
  rw [hsplit] at hclock
  have hwithin : Within start.dedup.ttl_ms now_ms (earlier ++ (later ++ [.operation (.heartbeat order beat_ms)])) := by
    -- Up to the heartbeat no reading is later than its own.
    intro call hcall later_ms hlater
    rw [← List.append_assoc, List.mem_append, List.mem_singleton] at hcall
    rcases hcall with hcall | rfl
    · have hmiddle : call ∈ earlier ++ .record_ack message_id peer_addr :: later := by
        rw [List.mem_append] at hcall ⊢
        exact hcall.imp_right (List.mem_cons_of_mem _)
      have hle := (hclock.between hreceives.clock_eq rfl hmiddle hlater).2
      exact (UInt64.le_iff_toNat_le.mp hle).trans hbeat
    · cases hlater
      exact hbeat
  have hcounted := hkeeps before first earlier peer_addr (later ++ [.operation (.heartbeat order beat_ms)]) rest
    message_id now_ms (by simp [hsplit]) (.inr hreceives) hwithin
  have hrun : before ++ first :: (earlier ++ .record_ack message_id peer_addr ::
      (later ++ [.operation (.heartbeat order beat_ms)])) =
      (before ++ first :: (earlier ++ .record_ack message_id peer_addr :: later)) ++
        [.operation (.heartbeat order beat_ms)] := by simp
  rw [hrun, runAll_append] at hcounted
  obtain ⟨_, stamp, hstamp, hfresh⟩ := mem_ackers_heartbeat_iff.mp hcounted
  rw [(runAll_settings _ start).2] at hfresh
  exact ⟨stamp, hstamp, hfresh⟩

/-- A heartbeat that comes while the message is live finds it in the cache: a published
    one was entered there, a received one is found by assumption. -/
theorem HeartbeatsFindReceived.entry {calls middle rest : List (EngineCall crates)} {order : IterationOrder}
    {peer_addr : Str} (hfind : HeartbeatsFindReceived start calls) (hclock : NonDecreasing calls)
    (hsplit : calls = before ++ first :: (middle ++ .operation (.heartbeat order beat_ms) :: rest))
    (haccepted : Publishes (runAll before start) message_id now_ms first ∨
      Receives (runAll before start) message_id now_ms first)
    (hacked : .record_ack message_id peer_addr ∈ middle) (hwithin : Within start.dedup.ttl_ms now_ms middle)
    (hbeat : beat_ms.toNat ≤ now_ms.toNat + start.dedup.ttl_ms.toNat) :
    ∃ stamp, (runAll (before ++ first :: middle) start).dedup.entries[message_id]? = some stamp ∧
      beat_ms.toNat - stamp.toNat ≤ start.dedup.ttl_ms.toNat := by
  rcases haccepted with hpublishes | hreceives
  · have hcalls : calls = (before ++ first :: middle) ++ .operation (.heartbeat order beat_ms) :: rest := by
      simp [hsplit]
    rw [hcalls] at hclock
    exact entry_of_published hpublishes hclock.of_append hwithin hbeat
  · exact hfind before first middle order beat_ms rest message_id now_ms peer_addr hsplit hreceives hacked hbeat

theorem HeartbeatsFindReceived.keepsAcks {calls : List (EngineCall crates)} (hclock : NonDecreasing calls)
    (hfind : HeartbeatsFindReceived start calls) : KeepsAcks start calls := by
  intro before first middle peer_addr after rest message_id now_ms hsplit haccepted hwithin
  have hrun : before ++ first :: (middle ++ .record_ack message_id peer_addr :: after) =
      (before ++ first :: middle) ++ [.record_ack message_id peer_addr] ++ after := by simp
  rw [hrun, runAll_append]
  refine mem_ackers_runAll (mem_ackers_of_record_ack _ start message_id peer_addr) ?_
  rintro earlier order beat_ms later rfl
  have hbeat : beat_ms.toNat ≤ now_ms.toNat + start.dedup.ttl_ms.toNat :=
    hwithin (.operation (.heartbeat order beat_ms)) (by simp) beat_ms rfl
  have hsince : (before ++ first :: middle) ++ [.record_ack message_id peer_addr] ++ earlier =
      before ++ first :: (middle ++ .record_ack message_id peer_addr :: earlier) := by simp
  rw [(runAll_settings _ start).2, ← runAll_append, hsince]
  have hcalls : calls = before ++ first :: (middle ++ .record_ack message_id peer_addr :: earlier ++
      .operation (.heartbeat order beat_ms) :: (later ++ rest)) := by simp [hsplit]
  have hacked : .record_ack message_id peer_addr ∈ middle ++ .record_ack message_id peer_addr :: earlier :=
    List.mem_append_right _ List.mem_cons_self
  have hsoon : Within start.dedup.ttl_ms now_ms (middle ++ .record_ack message_id peer_addr :: earlier) := by
    intro call hmem later_ms hlater
    rw [List.mem_append, List.mem_cons] at hmem
    rcases hmem with hmiddle | rfl | hearlier
    · exact hwithin call (List.mem_append_left _ hmiddle) later_ms hlater
    · cases hlater
    · exact hwithin call (List.mem_append_right _ (List.mem_append_left _ hearlier)) later_ms hlater
  exact hfind.entry hclock hcalls haccepted hacked hsoon hbeat

/-- On a clock that never goes back, the acknowledgements of live messages are kept
    exactly if every heartbeat finds the received ones in the cache. Only publishing
    enters a message there, so a received message is found if this node published the
    same one. -/
theorem keepsAcks_iff (start : GossipEngine crates) {calls : List (EngineCall crates)} (hclock : NonDecreasing calls) :
    KeepsAcks start calls ↔ HeartbeatsFindReceived start calls := by
  constructor
  · exact KeepsAcks.heartbeatsFindReceived hclock
  · exact HeartbeatsFindReceived.keepsAcks hclock

end Runs

namespace reference

/-- Some call of node 1, then a peer acknowledges the empty transaction, and a
    heartbeat follows, all at time 0. -/
def acknowledged (first : EngineOp reference.crates) (order : IterationOrder) : List (EngineCall reference.crates) :=
  [.operation first, .record_ack (envelope.compute_message_id reference.crates .Transaction []) addrOfB,
    .operation (.heartbeat order 0)]

theorem nonDecreasing_acknowledged {first : EngineOp reference.crates} (order : IterationOrder)
    (h : (EngineCall.operation first).clock = some 0) : NonDecreasing (acknowledged first order) := by
  have hreadings : (acknowledged first order).filterMap EngineCall.clock = [0, 0] := by
    unfold acknowledged
    rw [List.filterMap_cons_some h]
    rfl
  unfold NonDecreasing
  rw [hreadings]
  decide

end reference

/-- The acknowledgement of a message that the node published is kept. -/
theorem keepsAcks_iff_reference :
    ∃ order, KeepsAcks (reference.engine 1)
      (reference.acknowledged (.publish 1 reference.emptyPayload 0) order) := by
  obtain ⟨order⟩ := exists_order
  refine ⟨order, (keepsAcks_iff (reference.engine 1) (reference.nonDecreasing_acknowledged order rfl)).mpr ?_⟩
  intro before first middle order' beat_ms rest message_id now_ms peer_addr hsplit hreceives
  have hmem : first ∈ reference.acknowledged (.publish 1 reference.emptyPayload 0) order := by
    rw [hsplit]
    exact List.mem_append_right _ List.mem_cons_self
  simp only [reference.acknowledged, List.mem_cons, List.not_mem_nil, or_false] at hmem
  rcases hreceives with ⟨_, _, _, rfl, _⟩ | ⟨_, _, _, _, rfl, _⟩ <;> simp at hmem

/-- The acknowledgement of a message that the node received is gone after the next
    heartbeat: nothing entered the message in the cache. -/
theorem received_acknowledgement_dropped :
    ∃ bytes order, NonDecreasing (reference.acknowledged (.verify_envelope_bytes bytes 0) order) ∧
      ¬ KeepsAcks (reference.engine 1) (reference.acknowledged (.verify_envelope_bytes bytes 0) order) := by
  obtain ⟨order⟩ := exists_order
  obtain ⟨bytes, hpresents⟩ := reference_presentable
  have hverifies : Verifies (reference.engine 1) _ 0 _ := (verifies_iff_presents rfl).mpr hpresents
  refine ⟨bytes, order, reference.nonDecreasing_acknowledged order rfl, fun hkeeps => ?_⟩
  have hcounted := hkeeps [] _ [] reference.addrOfB [.operation (.heartbeat order 0)] [] _ 0 rfl
    (.inr (.inl hverifies)) (by simp [Within, EngineCall.clock])
  obtain ⟨_, stamp, hstamp, _⟩ := mem_ackers_heartbeat_iff.mp hcounted
  have hdedup : ((EngineOp.verify_envelope_bytes bytes 0).run (reference.engine 1)).dedup =
      (reference.engine 1).dedup :=
    (EngineOp.run_sameRecords (.verify_envelope_bytes bytes 0) (reference.engine 1) nofun nofun).dedup
  change ((EngineOp.verify_envelope_bytes bytes 0).run (reference.engine 1)).dedup.entries[_]? = some stamp at hstamp
  rw [hdedup] at hstamp
  exact absurd (ExtHashMap.getElem?_empty.symm.trans hstamp) nofun

end witan.gossip
