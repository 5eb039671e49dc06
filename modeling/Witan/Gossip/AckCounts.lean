import Mathlib.Data.Set.Card
import Witan.Gossip.Acknowledgements
import Witan.Runs.Since

open Std (ExtHashMap)
open bincode fallible maps runs
open witan.types witan.error witan.identity witan.config
open witan.quorum (QuorumTracker)

namespace witan.gossip

variable {crates : Crates}

open GossipEngine

namespace EngineCall

/-- The peer acknowledged the message after the last heartbeat that did not find it. -/
def AckedSince (start : GossipEngine crates) (calls : List (EngineCall crates)) (message_id : Bytes32)
    (peer_addr : Str) :
    Prop :=
  Since (fun engine call => run call engine) start (fun _ call => call = .record_ack message_id peer_addr)
    (fun engine call => ¬ call.Forgets message_id engine) calls

end EngineCall

open EngineCall

section Calls

variable {engine : GossipEngine crates} {message_id : Bytes32} {peer_addr : Str} {order : IterationOrder}
  {now_ms : UInt64}

/-- A heartbeat keeps the acknowledgements of a message that it still finds in the
    cache, and forgets those of any other. -/
theorem heartbeat_acks :
    (engine.heartbeat order now_ms).quorum.acks[message_id]? =
      if message_id ∈ (engine.dedup.evict_expired now_ms).entries then engine.quorum.acks[message_id]? else none := by
  have hactive : message_id ∈ (engine.dedup.evict_expired now_ms).active_ids (order.entries _) ↔
      message_id ∈ (engine.dedup.evict_expired now_ms).entries := (order.entries _).mem_iff message_id
  have hfound : (engine.heartbeat order now_ms).quorum.acks[message_id]? =
      (engine.quorum.acks[message_id]?).filter fun _ =>
        ((engine.dedup.evict_expired now_ms).active_ids (order.entries _)).contains message_id := by
    rw [(heartbeat_records engine order now_ms).quorum]
    exact ExtHashMap.getElem?_filter'
  rw [hfound]
  by_cases hheld : message_id ∈ (engine.dedup.evict_expired now_ms).entries
  · cases engine.quorum.acks[message_id]? <;> simp [hheld, hactive, Option.filter]
  · cases engine.quorum.acks[message_id]? <;> simp [hheld, hactive, Option.filter]

theorem heartbeat_entries :
    (engine.heartbeat order now_ms).dedup.entries = (engine.dedup.evict_expired now_ms).entries := by
  rw [(heartbeat_records engine order now_ms).dedup]

end Calls

/-- The tracker counts exactly the peers that acknowledged a message since the last
    heartbeat that did not find it in the cache. A heartbeat that finds it leaves its
    acknowledgements alone, and after any heartbeat only messages in the cache have any. -/
theorem ack_count_exact (resolved : ResolvedConfig) (identity : NodeIdentity crates) (calls : List (EngineCall crates))
    (message_id : Bytes32) :
    (runAll calls (.new resolved identity)).quorum.ack_count message_id =
        {peer_addr | AckedSince (.new resolved identity) calls message_id peer_addr}.ncard ∧
      ∀ (order : IterationOrder) (now_ms : UInt64),
        (message_id ∈ ((runAll calls (.new resolved identity)).dedup.evict_expired now_ms).entries →
          ((runAll calls (.new resolved identity)).heartbeat order now_ms).quorum.acks[message_id]? =
            (runAll calls (.new resolved identity)).quorum.acks[message_id]?) ∧
        (message_id ∉ ((runAll calls (.new resolved identity)).heartbeat order now_ms).dedup.entries →
          ((runAll calls (.new resolved identity)).heartbeat order now_ms).quorum.ack_count message_id = 0) := by
  have hmember (peer_addr : Str) :
      peer_addr ∈ (runAll calls (.new resolved identity)).quorum.ackers message_id ↔
        AckedSince (.new resolved identity) calls message_id peer_addr := by
    refine holds_foldl_iff_since (fun engine : GossipEngine crates => peer_addr ∈ engine.quorum.ackers message_id)
      mem_ackers_run_iff ?_ calls
    exact fun hmem => Finset.notMem_empty _ (QuorumTracker.ackers_new resolved.quorum_fraction message_id ▸ hmem)
  refine ⟨?_, fun order now_ms => ⟨fun hheld => ?_, fun hgone => ?_⟩⟩
  · rw [← QuorumTracker.card_ackers, ← Set.ncard_coe_finset]
    congr 1
    ext peer_addr
    exact hmember peer_addr
  · rw [heartbeat_acks, if_pos hheld]
  · rw [heartbeat_entries] at hgone
    unfold QuorumTracker.ack_count
    rw [heartbeat_acks, if_neg hgone]
    rfl

end witan.gossip
