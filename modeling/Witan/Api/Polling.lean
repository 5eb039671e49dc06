import Witan.Api.Calls
import Witan.Gossip.Maintenance

open bincode fallible
open witan.types witan.error witan.rotation witan.gossip

namespace witan.api

variable {crates : Crates}

/-- A poll makes a heartbeat and then reads the statistics. -/
theorem gossip_get_stats_eq (engine : GossipEngine crates) (lineage : Option KeyLineage) (order : IterationOrder)
    (now_ms : UInt64) :
    gossip_get_stats order now_ms ⟨some engine, lineage⟩ =
      attempt (engine.heartbeat order now_ms).get_stats_json ⟨some (engine.heartbeat order now_ms), lineage⟩ := by
  unfold gossip_get_stats with_engine onEngine onPart
  dsimp only
  rw [modify_bind, get_bind]
  unfold attempt
  cases (engine.heartbeat order now_ms).get_stats_json with
  | ok json => rfl
  | error error => rfl

/-- A poll at the instant of an earlier one answers the same and changes nothing. -/
theorem gossip_get_stats_again (state : ApiState crates) (order order' : IterationOrder) (now_ms : UInt64) :
    gossip_get_stats order' now_ms (final (gossip_get_stats order now_ms state)) =
      gossip_get_stats order now_ms state := by
  obtain ⟨gossip_state, lineage⟩ := state
  cases gossip_state with
  | none =>
    have hfail (poll : IterationOrder) :
        gossip_get_stats poll now_ms (⟨none, lineage⟩ : ApiState crates) = .error .NotInitialized ⟨none, lineage⟩ :=
      rfl
    rw [hfail, final_error, hfail]
  | some engine =>
    have hfinal : final (gossip_get_stats order now_ms ⟨some engine, lineage⟩) =
        ⟨some (engine.heartbeat order now_ms), lineage⟩ := by
      rw [gossip_get_stats_eq, final_attempt]
    rw [hfinal, gossip_get_stats_eq, gossip_get_stats_eq, (heartbeat_settled order now_ms).heartbeat]

/-- A heartbeat is idempotent: after one, another one at the same time changes
    nothing, in whatever orders the two visit the maps. So however often the
    statistics are polled at one instant, only the first poll has an effect. -/
theorem heartbeat_idempotent (engine : GossipEngine crates) (order order' : IterationOrder) (now_ms : UInt64) :
    (engine.heartbeat order now_ms).heartbeat order' now_ms = engine.heartbeat order now_ms ∧
      ∀ (state : ApiState crates) (polls : List IterationOrder),
        let after := final (gossip_get_stats order now_ms state)
        ApiCall.runAll (polls.map fun poll => .gossip_get_stats poll now_ms) after = after ∧
          gossip_get_stats order' now_ms after = gossip_get_stats order now_ms state := by
  refine ⟨(heartbeat_settled order now_ms).heartbeat order' now_ms, fun state polls => ?_⟩
  intro after
  refine ⟨?_, gossip_get_stats_again state order order' now_ms⟩
  induction polls with
  | nil => rfl
  | cons poll polls ih =>
    have hagain : final (gossip_get_stats poll now_ms after) = after :=
      congrArg final (gossip_get_stats_again state order poll now_ms)
    change ApiCall.runAll _ (final (gossip_get_stats poll now_ms after)) = after
    rw [hagain]
    exact ih

end witan.api
