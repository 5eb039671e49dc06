import Witan.Gossip.Deduplication
import Witan.Reference
import Witan.Runs.Events
import Witan.Runs.Windows

open bincode fallible runs
open witan.types witan.error witan.identity witan.config

namespace witan.gossip

variable {crates : Crates}

namespace EngineCall

/-- The time at which a call offers the message to the duplicate check. -/
def offers (resolved : ResolvedConfig) (message_id : Bytes32) : EngineCall crates → Option UInt64
  | .operation (.publish payload_type payload now_ms) =>
    if checkedId crates resolved payload_type payload = some message_id then some now_ms else none
  | _ => none

def offeredAt (resolved : ResolvedConfig) (message_id : Bytes32) (calls : List (EngineCall crates)) (k : Nat) :
    Option Nat :=
  (calls[k]?.bind (offers resolved message_id)).map UInt64.toNat

/-- The engine before the call at a position. -/
def engineAt (calls : List (EngineCall crates)) (start : GossipEngine crates) (k : Nat) : GossipEngine crates :=
  stateAt (fun engine call => call.run engine) start calls k

/-- The call at the position publishes the message, and the duplicate check lets it
    pass. -/
def PassesAt (start : GossipEngine crates) (calls : List (EngineCall crates)) (message_id : Bytes32) (k : Nat) : Prop :=
  ∃ call now_ms, calls[k]? = some call ∧ Passes (engineAt calls start k) message_id now_ms call

/-- The call at the position publishes the message, and is refused as a duplicate. -/
def RefusedAt (start : GossipEngine crates) (calls : List (EngineCall crates)) (message_id : Bytes32)
    (k : Nat) : Prop :=
  ∃ payload_type payload now_ms after, calls[k]? = some (.operation (.publish payload_type payload now_ms)) ∧
    checkedId crates start.config payload_type payload = some message_id ∧
    GossipEngine.publish payload_type payload now_ms (engineAt calls start k) = .error duplicateMessage after

/-- The call at the position publishes the message. -/
def PublishedAt (start : GossipEngine crates) (calls : List (EngineCall crates)) (message_id : Bytes32) (k : Nat) :
    Prop :=
  ∃ payload_type payload now_ms after, calls[k]? = some (.operation (.publish payload_type payload now_ms)) ∧
    GossipEngine.publish payload_type payload now_ms (engineAt calls start k) = .ok message_id after

open Classical in
/-- How many of the first calls publish the message and pass. -/
noncomputable def passedBefore (start : GossipEngine crates) (calls : List (EngineCall crates)) (message_id : Bytes32)
    (n : Nat) : Nat :=
  Nat.count (PassesAt start calls message_id) n

/-- What a longer time to live does to a run. It never lets more publishes of a message
    pass. A publish that was refused is refused again, if the one that it repeated
    passes again, or one since. -/
structure Widens (narrow wide : GossipEngine crates) (calls : List (EngineCall crates)) : Prop where
  passed : ∀ message_id n, passedBefore wide calls message_id n ≤ passedBefore narrow calls message_id n
  refused : ∀ message_id i j k, LastBefore (PassesAt narrow calls message_id) j k →
    RefusedAt narrow calls message_id k → j ≤ i → i < k → PassesAt wide calls message_id i →
    RefusedAt wide calls message_id k

section Positions

variable {resolved : ResolvedConfig} {message_id : Bytes32} {now_ms stamp : UInt64} {call : EngineCall crates}
  {calls : List (EngineCall crates)} {start : GossipEngine crates} {j k : Nat}

theorem offers_eq_some_iff :
    call.offers resolved message_id = some now_ms ↔
      ∃ payload_type payload, call = .operation (.publish payload_type payload now_ms) ∧
        checkedId crates resolved payload_type payload = some message_id := by
  unfold offers
  split
  · rename_i payload_type payload time
    rw [Option.ite_none_right_eq_some]
    constructor
    · rintro ⟨hchecked, htime⟩
      obtain rfl := Option.some.inj htime
      exact ⟨payload_type, payload, rfl, hchecked⟩
    · rintro ⟨_, _, hcall, hchecked⟩
      cases hcall
      exact ⟨hchecked, rfl⟩
  · rename_i hother
    constructor
    · nofun
    · rintro ⟨payload_type, payload, rfl, _⟩
      exact absurd rfl (hother payload_type payload now_ms)

theorem offeredAt_eq_some_iff {time : Nat} :
    offeredAt resolved message_id calls k = some time ↔
      ∃ payload_type payload now_ms, calls[k]? = some (.operation (.publish payload_type payload now_ms)) ∧
        checkedId crates resolved payload_type payload = some message_id ∧ now_ms.toNat = time := by
  unfold offeredAt
  simp only [Option.map_eq_some_iff, Option.bind_eq_some_iff, offers_eq_some_iff]
  constructor
  · rintro ⟨now_ms, ⟨call, hcall, payload_type, payload, rfl, hchecked⟩, htime⟩
    exact ⟨payload_type, payload, now_ms, hcall, hchecked, htime⟩
  · rintro ⟨payload_type, payload, now_ms, hcall, hchecked, htime⟩
    exact ⟨now_ms, ⟨_, hcall, payload_type, payload, rfl, hchecked⟩, htime⟩

theorem engineAt_settings (calls : List (EngineCall crates)) (start : GossipEngine crates) (k : Nat) :
    (engineAt calls start k).config = start.config ∧
      (engineAt calls start k).dedup.ttl_ms = start.dedup.ttl_ms :=
  runAll_settings (calls.take k) start

theorem engineAt_succ_of_some (h : calls[k]? = some call) :
    engineAt calls start (k + 1) = call.run (engineAt calls start k) := stateAt_succ_of_some h

theorem engineAt_succ_of_none (h : calls[k]? = none) : engineAt calls start (k + 1) = engineAt calls start k :=
  stateAt_succ_of_none h

theorem NonDecreasing.get_le {first second : EngineCall crates} {first_ms second_ms : UInt64} (h : NonDecreasing calls)
    (hlt : j < k) (hfirst : calls[j]? = some first) (hsecond : calls[k]? = some second)
    (hfirst_ms : first.clock = some first_ms) (hsecond_ms : second.clock = some second_ms) : first_ms ≤ second_ms := by
  obtain ⟨hj, hget⟩ := List.getElem?_eq_some_iff.mp hfirst
  have hsplit : calls = calls.take j ++ first :: calls.drop (j + 1) := by
    rw [← hget, List.getElem_cons_drop, List.take_append_drop]
  have hlater : second ∈ calls.drop (j + 1) := by
    rw [List.mem_iff_getElem?]
    refine ⟨k - (j + 1), ?_⟩
    rw [List.getElem?_drop, Nat.add_sub_cancel' hlt, hsecond]
  rw [hsplit] at h
  exact h.le hfirst_ms hlater hsecond_ms

/-- An offer either passes or is refused. -/
theorem not_passesAt_iff {time : Nat} (hoffered : offeredAt start.config message_id calls k = some time) :
    ¬ PassesAt start calls message_id k ↔ RefusedAt start calls message_id k := by
  obtain ⟨payload_type, payload, now_ms, hcall, hchecked, _⟩ := offeredAt_eq_some_iff.mp hoffered
  constructor
  · intro hnot
    by_contra hnone
    refine hnot ⟨_, now_ms, hcall, payload_type, payload, rfl, ?_, fun after hfail => ?_⟩
    · rw [(engineAt_settings calls start k).1]
      exact hchecked
    · exact hnone ⟨payload_type, payload, now_ms, after, hcall, hchecked, hfail⟩
  · rintro ⟨_, _, _, after, hcall', _, hfail⟩ ⟨_, _, hcall'', _, _, rfl, _, hpasses⟩
    cases hcall'.symm.trans hcall''
    exact hpasses after hfail

theorem offeredAt_of_passes (hcall : calls[k]? = some call)
    (h : Passes (engineAt calls start k) message_id now_ms call) :
    offeredAt start.config message_id calls k = some now_ms.toNat := by
  obtain ⟨payload_type, payload, rfl, hchecked, _⟩ := h
  rw [(engineAt_settings calls start k).1] at hchecked
  exact offeredAt_eq_some_iff.mpr ⟨payload_type, payload, now_ms, hcall, hchecked, rfl⟩

theorem not_passesAt_of_none (h : calls[k]? = none) : ¬ PassesAt start calls message_id k := by
  rintro ⟨call, _, hcall, _⟩
  rw [h] at hcall
  cases hcall

theorem passesAt_iff (hcall : calls[k]? = some call) :
    PassesAt start calls message_id k ↔ ∃ now_ms, Passes (engineAt calls start k) message_id now_ms call := by
  constructor
  · rintro ⟨other, now_ms, hother, hpasses⟩
    rw [hcall] at hother
    obtain rfl := Option.some.inj hother
    exact ⟨now_ms, hpasses⟩
  · rintro ⟨now_ms, hpasses⟩
    exact ⟨call, now_ms, hcall, hpasses⟩

/-- Where signing works, a publish that passes succeeds. -/
theorem PassesAt.published (hcorrect : crates.SignatureCorrect) (h : PassesAt start calls message_id k) :
    PublishedAt start calls message_id k := by
  obtain ⟨_, now_ms, hcall, hpasses⟩ := h
  obtain ⟨payload_type, payload, rfl, hchecked, _⟩ := id hpasses
  have hnew := (passes_publish_iff.mp hpasses).2.2
  obtain ⟨kind, hkind, hsize, rfl⟩ := checkedId_eq_some_iff.mp hchecked
  obtain ⟨signature, hsign, _⟩ := hcorrect.sign (engineAt calls start k).identity.sig_keypair _
  obtain ⟨env, hbuild⟩ := envelope.exists_build_envelope_iff.mpr ⟨signature, hsign⟩
  have hpublish := publish_unseen hkind hsize hnew
  rw [hbuild] at hpublish
  exact ⟨payload_type, payload, now_ms, _, hcall, hpublish⟩

/-- A publish is refused if the cache holds an entry for it that is not expired. -/
theorem refusedAt_iff {payload_type : UInt8} {payload : ByteVec}
    (hcall : calls[k]? = some (.operation (.publish payload_type payload now_ms)))
    (hchecked : checkedId crates start.config payload_type payload = some message_id) :
    RefusedAt start calls message_id k ↔
      ∃ stamp, (engineAt calls start k).dedup.entries[message_id]? = some stamp ∧
        now_ms.toNat - stamp.toNat ≤ start.dedup.ttl_ms.toNat := by
  obtain ⟨hconfig, httl⟩ := engineAt_settings calls start k
  have hrefused := publish_refused_iff (hconfig ▸ hchecked) now_ms
  rw [httl] at hrefused
  rw [← hrefused]
  constructor
  · rintro ⟨_, _, _, after, hcall', _, hfail⟩
    cases hcall'.symm.trans hcall
    exact ⟨after, hfail⟩
  · rintro ⟨after, hfail⟩
    exact ⟨payload_type, payload, now_ms, after, hcall, hchecked, hfail⟩

/-- What the cache holds for the message was entered by the last publish that passed. -/
theorem entry_passed (hempty : start.dedup.entries[message_id]? = none)
    (hentry : (engineAt calls start k).dedup.entries[message_id]? = some stamp) :
    ∃ j, LastBefore (PassesAt start calls message_id) j k ∧
      offeredAt start.config message_id calls j = some stamp.toNat := by
  induction k with
  | zero =>
    change start.dedup.entries[message_id]? = some stamp at hentry
    rw [hempty] at hentry
    cases hentry
  | succ k ih =>
    cases hcall : calls[k]? with
    | none =>
      rw [engineAt_succ_of_none hcall] at hentry
      obtain ⟨j, hlast, htime⟩ := ih hentry
      exact ⟨j, hlast.succ (not_passesAt_of_none hcall), htime⟩
    | some call =>
      rw [engineAt_succ_of_some hcall] at hentry
      rcases (entries_run_iff call).mp hentry with hpasses | ⟨hsilent, hkept, _⟩
      · exact ⟨k, .self ((passesAt_iff hcall).mpr ⟨stamp, hpasses⟩), offeredAt_of_passes hcall hpasses⟩
      · obtain ⟨j, hlast, htime⟩ := ih hkept
        refine ⟨j, hlast.succ ?_, htime⟩
        rw [passesAt_iff hcall]
        exact not_exists.mpr hsilent

/-- The entry of the last publish that passed stands while the clock is within the time
    to live. -/
theorem entry_stands (hlast : LastBefore (PassesAt start calls message_id) j k)
    (htime : offeredAt start.config message_id calls j = some stamp.toNat)
    (hrecent : ∀ i other now_ms, j < i → i < k → calls[i]? = some other → other.clock = some now_ms →
      now_ms.toNat - stamp.toNat ≤ start.dedup.ttl_ms.toNat) :
    (engineAt calls start k).dedup.entries[message_id]? = some stamp := by
  induction k with
  | zero => exact absurd hlast.lt (Nat.not_lt_zero j)
  | succ k ih =>
    rcases Nat.lt_succ_iff_lt_or_eq.mp hlast.lt with hjk | rfl
    · have hstands := ih ⟨hjk, hlast.here, fun i hji hik => hlast.silent i hji (Nat.lt_succ_of_lt hik)⟩
        fun i other now_ms hji hik => hrecent i other now_ms hji (Nat.lt_succ_of_lt hik)
      cases hcall : calls[k]? with
      | none =>
        rw [engineAt_succ_of_none hcall]
        exact hstands
      | some call =>
        rw [engineAt_succ_of_some hcall]
        have hsilent := hlast.silent k hjk (Nat.lt_succ_self k)
        rw [passesAt_iff hcall] at hsilent
        refine (entries_run_iff call).mpr (.inr ⟨not_exists.mp hsilent, hstands, fun now_ms hevicts => ?_⟩)
        rw [(engineAt_settings calls start k).2]
        exact hrecent k call now_ms hjk (Nat.lt_succ_self k) hcall hevicts.clock_eq
    · obtain ⟨call, now_ms, hcall, hpasses⟩ := hlast.here
      rw [offeredAt_of_passes hcall hpasses] at htime
      obtain rfl := UInt64.toNat_inj.mp (Option.some.inj htime)
      rw [engineAt_succ_of_some hcall]
      exact (entries_run_iff call).mpr (.inl hpasses)

/-- On a clock that never goes back, the cache is a window over the publishes of each
    message, as wide as its time to live. -/
theorem windowed (start : GossipEngine crates) (message_id : Bytes32)
    (hempty : start.dedup.entries[message_id]? = none) (hclock : NonDecreasing calls) :
    Windowed (offeredAt start.config message_id calls) start.dedup.ttl_ms.toNat
      (PassesAt start calls message_id) := by
  constructor
  · rintro k ⟨call, now_ms, hcall, hpasses⟩
    exact ⟨_, offeredAt_of_passes hcall hpasses⟩
  · intro k time htime
    obtain ⟨payload_type, payload, now_ms, hcall, hchecked, rfl⟩ := offeredAt_eq_some_iff.mp htime
    rw [not_passesAt_iff htime, refusedAt_iff hcall hchecked]
    constructor
    · rintro ⟨stamp, hentry, hrecent⟩
      obtain ⟨j, hlast, hstamp⟩ := entry_passed hempty hentry
      exact ⟨j, stamp.toNat, hlast, hstamp, hrecent⟩
    · rintro ⟨j, _, hlast, hstamp, hrecent⟩
      obtain ⟨_, _, stamp, _, _, rfl⟩ := offeredAt_eq_some_iff.mp hstamp
      refine ⟨stamp, entry_stands hlast hstamp fun i other other_ms hji hik hother hother_ms => ?_, hrecent⟩
      have hle := UInt64.le_iff_toNat_le.mp (hclock.get_le hik hother hcall hother_ms rfl)
      omega

theorem ordered_offeredAt (resolved : ResolvedConfig) (message_id : Bytes32) (hclock : NonDecreasing calls) :
    Ordered (offeredAt resolved message_id calls) := by
  intro j k s t hjk hs ht
  obtain ⟨_, _, first_ms, hfirst, _, rfl⟩ := offeredAt_eq_some_iff.mp hs
  obtain ⟨_, _, second_ms, hsecond, _, rfl⟩ := offeredAt_eq_some_iff.mp ht
  exact UInt64.le_iff_toNat_le.mp (hclock.get_le hjk hfirst hsecond rfl rfl)

theorem RefusedAt.offered (h : RefusedAt start calls message_id k) :
    ∃ time, offeredAt start.config message_id calls k = some time := by
  obtain ⟨payload_type, payload, now_ms, _, hcall, hchecked, _⟩ := h
  exact ⟨_, offeredAt_eq_some_iff.mpr ⟨payload_type, payload, now_ms, hcall, hchecked, rfl⟩⟩

/-- Two engines that were started with configurations that differ in the time to live
    only. -/
theorem widens_of_le {secs secs' : UInt64} (identity : NodeIdentity crates) (hclock : NonDecreasing calls)
    (hwidth : (secs * 1000).toNat ≤ (secs' * 1000).toNat) :
    Widens (.new { resolved with dedup_cache_secs := secs } identity)
      (.new { resolved with dedup_cache_secs := secs' } identity) calls := by
  let engine (secs : UInt64) : GossipEngine crates := .new { resolved with dedup_cache_secs := secs } identity
  -- The offers are the same: the checks before the duplicate check do not look at the
  -- time to live.
  have hwindow (secs : UInt64) (message_id : Bytes32) :
      Windowed (offeredAt resolved message_id calls) (secs * 1000).toNat (PassesAt (engine secs) calls message_id) :=
    windowed (engine secs) message_id Std.ExtHashMap.getElem?_empty hclock
  have hordered (message_id : Bytes32) := ordered_offeredAt resolved message_id hclock
  constructor
  · intro message_id n
    classical
    exact (hwindow secs message_id).count_le (hwindow secs' message_id) hwidth (hordered message_id) n
  · intro message_id i j k hlast hrefused hji hik hpasses
    obtain ⟨time, htime⟩ := hrefused.offered
    have hwide : ¬ PassesAt (engine secs') calls message_id k ↔ RefusedAt (engine secs') calls message_id k :=
      not_passesAt_iff htime
    rw [← not_passesAt_iff htime] at hrefused
    refine hwide.mp ?_
    exact (hwindow secs message_id).refused_of_wider (hwindow secs' message_id) hwidth (hordered message_id) htime
      hrefused hlast hji hik hpasses

end Positions

end EngineCall

open EngineCall

theorem ttl_ms_new (secs : UInt64) (h : 1000 * secs.toNat < 2 ^ 64) :
    (dedup.DedupCache.new secs).ttl_ms.toNat = 1000 * secs.toNat := by
  change (secs * 1000).toNat = _
  rw [UInt64.toNat_mul, Nat.mul_comm]
  exact Nat.mod_eq_of_lt h

/-- Below the overflow, the time to live is 1000 ms for every second that is set, and
    raising it never lets more publishes of a message pass on the same clock readings.
    It only lets one pass that was refused if it refuses the one that was repeated, and
    all since. -/
theorem raising_dedup_cache_secs {config : GossipConfig} {resolved : ResolvedConfig}
    (hresolve : config.resolve crates = .ok resolved) (raised : UInt64) (hraised : resolved.dedup_cache_secs ≤ raised)
    (hfits : 1000 * raised.toNat < 2 ^ 64) (identity : NodeIdentity crates) :
    ∃ wide, ({ config with dedup_cache_secs := some raised } : GossipConfig).resolve crates = .ok wide ∧
      (GossipEngine.new resolved identity).dedup.ttl_ms.toNat = 1000 * resolved.dedup_cache_secs.toNat ∧
      (GossipEngine.new wide identity).dedup.ttl_ms.toNat = 1000 * raised.toNat ∧
      ∀ calls, NonDecreasing calls → Widens (.new resolved identity) (.new wide identity) calls := by
  have hle := UInt64.le_iff_toNat_le.mp hraised
  have hnarrow := ttl_ms_new resolved.dedup_cache_secs (by omega)
  have hwide := ttl_ms_new raised hfits
  refine ⟨{ resolved with dedup_cache_secs := raised }, config.resolve_dedup_cache_secs crates hresolve raised,
    hnarrow, hwide, fun calls hclock => ?_⟩
  exact widens_of_le identity hclock (hnarrow.trans_le ((Nat.mul_le_mul_left 1000 hle).trans_eq hwide.symm))

namespace reference

/-- Node 1 with this time to live. -/
def timed (secs : UInt64) : GossipEngine reference.crates :=
  .new { reference.resolved 1 with dedup_cache_secs := secs } (reference.nodeAt 1 ephemeralRuntime)

/-- The empty transaction, published again and again. -/
def repeated (times : List UInt64) : List (EngineCall reference.crates) :=
  times.map fun now_ms => .operation (.publish 0 reference.emptyPayload now_ms)

def repeatedId : Bytes32 := envelope.compute_message_id reference.crates .Transaction []

theorem nonDecreasing_repeated {times : List UInt64} (h : times.Pairwise (· ≤ ·)) : NonDecreasing (repeated times) := by
  unfold NonDecreasing repeated
  rw [List.filterMap_map]
  change (times.filterMap some).Pairwise (· ≤ ·)
  rw [List.filterMap_some]
  exact h

theorem offeredAt_repeated (secs : UInt64) (times : List UInt64) (k : Nat) :
    offeredAt (timed secs).config repeatedId (repeated times) k = times[k]?.map UInt64.toNat := by
  unfold offeredAt repeated
  rw [List.getElem?_map]
  cases times[k]? with
  | none => rfl
  | some now_ms =>
    have hchecked : checkedId reference.crates (timed secs).config 0 reference.emptyPayload = some repeatedId :=
      checkedId_eq_some_iff.mpr ⟨.Transaction, rfl, Nat.zero_le _, rfl⟩
    rw [Option.map_some, Option.bind_some, offers_eq_some_iff.mpr ⟨0, reference.emptyPayload, rfl, hchecked⟩]

theorem windowed_repeated (secs : UInt64) {times : List UInt64} (h : times.Pairwise (· ≤ ·)) :
    Windowed (fun k => times[k]?.map UInt64.toNat) (secs * 1000).toNat
      (PassesAt (timed secs) (repeated times) repeatedId) := by
  have hwindow := windowed (timed secs) repeatedId Std.ExtHashMap.getElem?_empty (nonDecreasing_repeated h)
  rw [funext (offeredAt_repeated secs times)] at hwindow
  exact hwindow

end reference

/-- Raised to 120 s, the time to live still refuses the empty transaction 5 s after it
    was published. -/
theorem raising_dedup_cache_secs_reference :
    (reference.timed 120).dedup.ttl_ms.toNat = 120000 ∧
      RefusedAt (reference.timed 120) (reference.repeated [0, 5000]) reference.repeatedId 1 := by
  have htimes : [(0 : UInt64), 5000].Pairwise (· ≤ ·) := by decide
  obtain ⟨wide, hwide, _, httl, hwidens⟩ := raising_dedup_cache_secs (reference.resolve_config 1) 120 (by decide)
    (by decide) (reference.nodeAt 1 ephemeralRuntime)
  rw [GossipConfig.resolve_dedup_cache_secs reference.crates (reference.resolve_config 1) 120] at hwide
  obtain rfl := Except.ok.inj hwide
  have hnarrow := reference.windowed_repeated 60 htimes
  have hfirst := hnarrow.passes_of_first (k := 0) rfl nofun
  have hsecond := (hnarrow.refused_iff_of_last (.self hfirst) rfl rfl).mpr (by decide)
  have hfirst' := (reference.windowed_repeated 120 htimes).passes_of_first (k := 0) rfl nofun
  refine ⟨httl, ?_⟩
  exact (hwidens _ (reference.nonDecreasing_repeated htimes)).refused _ 0 0 1 (.self hfirst)
    ((not_passesAt_iff (reference.offeredAt_repeated 60 _ 1)).mp hsecond) le_rfl Nat.zero_lt_one hfirst'

/-- The empty transaction at 0 s, 12 s and 20 s. A time to live of 10 s lets it pass at
    12 s and then refuses it, and one of 15 s refuses it at 12 s and lets it pass then. -/
theorem wider_window_publishes_refused :
    ({ reference.config 1 with dedup_cache_secs := some 10 } : GossipConfig).resolve reference.crates =
        .ok (reference.timed 10).config ∧
      ({ reference.config 1 with dedup_cache_secs := some 15 } : GossipConfig).resolve reference.crates =
        .ok (reference.timed 15).config ∧
      NonDecreasing (reference.repeated [0, 12000, 20000]) ∧
      RefusedAt (reference.timed 10) (reference.repeated [0, 12000, 20000]) reference.repeatedId 2 ∧
      PublishedAt (reference.timed 15) (reference.repeated [0, 12000, 20000]) reference.repeatedId 2 := by
  have htimes : [(0 : UInt64), 12000, 20000].Pairwise (· ≤ ·) := by decide
  have hnarrow := reference.windowed_repeated 10 htimes
  have hfirst := hnarrow.passes_of_first (k := 0) rfl nofun
  have hsecond : PassesAt (reference.timed 10) (reference.repeated [0, 12000, 20000]) reference.repeatedId 1 := by
    by_contra hrefused
    have hrecent := (hnarrow.refused_iff_of_last (.self hfirst) rfl rfl).mp hrefused
    revert hrecent
    decide
  have hthird := (hnarrow.refused_iff_of_last (.self hsecond) rfl rfl).mpr (by decide)
  have hwide := reference.windowed_repeated 15 htimes
  have hfirst' := hwide.passes_of_first (k := 0) rfl nofun
  have hsecond' := (hwide.refused_iff_of_last (.self hfirst') rfl rfl).mpr (by decide)
  have hthird' : PassesAt (reference.timed 15) (reference.repeated [0, 12000, 20000]) reference.repeatedId 2 := by
    by_contra hrefused
    have hrecent := (hwide.refused_iff_of_last ((LastBefore.self hfirst').succ hsecond') rfl rfl).mp hrefused
    revert hrecent
    decide
  exact ⟨GossipConfig.resolve_dedup_cache_secs _ (reference.resolve_config 1) 10,
    GossipConfig.resolve_dedup_cache_secs _ (reference.resolve_config 1) 15, reference.nonDecreasing_repeated htimes,
    (not_passesAt_iff (reference.offeredAt_repeated 10 _ 2)).mp hthird, hthird'.published reference.signatureCorrect⟩

end witan.gossip
