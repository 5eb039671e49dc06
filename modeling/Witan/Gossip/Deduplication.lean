import Witan.Gossip.Records
import Witan.Runs.LastWrite

open Std (ExtHashMap)
open bincode fallible maps runs
open witan.types witan.error witan.identity witan.config
open witan.dedup (DedupCache)

namespace witan.gossip

variable {crates : Crates}

open GossipEngine

namespace EngineCall

/-- The clock reading that a call is made with. -/
def clock : EngineCall crates → Option UInt64
  | .operation (.connect_peer _ _ now_ms) => some now_ms
  | .operation (.process_handshake_bytes _ _ _ _ now_ms) => some now_ms
  | .operation (.build_handshake_ack _ _ _ now_ms) => some now_ms
  | .operation (.build_finish_ack _ _ now_ms) => some now_ms
  | .operation (.disconnect_peer _) => none
  | .operation (.publish _ _ now_ms) => some now_ms
  | .operation (.encode_envelope _ _ now_ms) => some now_ms
  | .operation (.verify_envelope_bytes _ now_ms) => some now_ms
  | .operation (.verify_envelope_from_lineage _ _ now_ms) => some now_ms
  | .operation (.heartbeat _ now_ms) => some now_ms
  | .rotate_keys _ _ _ => none
  | .rotate_keys_under_id _ _ _ now_ms => some now_ms
  | .record_ack _ _ => none

/-- The clock readings of a run never go back. -/
def NonDecreasing (calls : List (EngineCall crates)) : Prop := (calls.filterMap clock).Pairwise (· ≤ ·)

/-- The call publishes a message with this id, and the duplicate check lets it pass. -/
def Passes (engine : GossipEngine crates) (message_id : Bytes32) (now_ms : UInt64) (call : EngineCall crates) : Prop :=
  ∃ payload_type payload, call = .operation (.publish payload_type payload now_ms) ∧
    checkedId crates engine.config payload_type payload = some message_id ∧
    ∀ after, GossipEngine.publish payload_type payload now_ms engine ≠ .error duplicateMessage after

/-- The call evicts expired ids: a heartbeat, or a publish that gets to the
    duplicate check. -/
def Evicts (resolved : ResolvedConfig) (now_ms : UInt64) (call : EngineCall crates) : Prop :=
  (∃ order, call = .operation (.heartbeat order now_ms)) ∨
    ∃ payload_type payload message_id, call = .operation (.publish payload_type payload now_ms) ∧
      checkedId crates resolved payload_type payload = some message_id

end EngineCall

open EngineCall

section Cache

variable {self : DedupCache} {message_id : Bytes32} {now_ms stamp : UInt64}

theorem entries_evict_expired_eq_some_iff :
    (self.evict_expired now_ms).entries[message_id]? = some stamp ↔
      self.entries[message_id]? = some stamp ∧ now_ms.toNat - stamp.toNat ≤ self.ttl_ms.toNat := by
  unfold DedupCache.evict_expired
  rw [getElem?_filter_eq_some_iff, decide_eq_true_eq]

theorem mem_evict_expired_iff :
    message_id ∈ (self.evict_expired now_ms).entries ↔
      ∃ stamp, self.entries[message_id]? = some stamp ∧ now_ms.toNat - stamp.toNat ≤ self.ttl_ms.toNat := by
  rw [ExtHashMap.mem_iff_isSome_getElem?, Option.isSome_iff_exists]
  exact exists_congr fun _ => entries_evict_expired_eq_some_iff

end Cache

section Calls

variable {engine : GossipEngine crates} {resolved : ResolvedConfig} {message_id : Bytes32} {now_ms stamp : UInt64}
  {payload_type : UInt8} {payload : ByteVec} {call : EngineCall crates}

/-- A publish passes if it gets to the duplicate check and the cache does not hold
    its message after the eviction. -/
theorem passes_publish_iff :
    Passes engine message_id stamp (.operation (.publish payload_type payload now_ms)) ↔
      stamp = now_ms ∧ checkedId crates engine.config payload_type payload = some message_id ∧
        message_id ∉ (engine.dedup.evict_expired now_ms).entries := by
  constructor
  · rintro ⟨_, _, hcall, hchecked, hpasses⟩
    cases hcall
    refine ⟨rfl, hchecked, fun hheld => ?_⟩
    obtain ⟨after, hfail, _⟩ := publish_held hchecked hheld
    exact hpasses after hfail
  · rintro ⟨rfl, hchecked, hnew⟩
    exact ⟨payload_type, payload, rfl, hchecked, (publish_new hchecked hnew).1⟩

theorem not_passes (h : ∀ payload_type payload now_ms, call ≠ .operation (.publish payload_type payload now_ms))
    (engine : GossipEngine crates) (message_id : Bytes32) (now_ms : UInt64) :
    ¬ Passes engine message_id now_ms call := by
  rintro ⟨payload_type, payload, hcall, _⟩
  exact h payload_type payload now_ms hcall

theorem evicts_publish_iff :
    Evicts resolved stamp (.operation (.publish payload_type payload now_ms) : EngineCall crates) ↔
      stamp = now_ms ∧ ∃ message_id, checkedId crates resolved payload_type payload = some message_id := by
  constructor
  · rintro (⟨order, hcall⟩ | ⟨_, _, message_id, hcall, hchecked⟩)
    · cases hcall
    · cases hcall
      exact ⟨rfl, message_id, hchecked⟩
  · rintro ⟨rfl, message_id, hchecked⟩
    exact .inr ⟨payload_type, payload, message_id, rfl, hchecked⟩

theorem evicts_heartbeat_iff {order : IterationOrder} :
    Evicts resolved stamp (.operation (.heartbeat order now_ms) : EngineCall crates) ↔ stamp = now_ms := by
  constructor
  · rintro (⟨_, hcall⟩ | ⟨_, _, _, hcall, _⟩)
    · cases hcall
      rfl
    · cases hcall
  · rintro rfl
    exact .inl ⟨order, rfl⟩

theorem not_evicts (hpublish : ∀ payload_type payload now_ms, call ≠ .operation (.publish payload_type payload now_ms))
    (hheartbeat : ∀ order now_ms, call ≠ .operation (.heartbeat order now_ms)) (resolved : ResolvedConfig)
    (now_ms : UInt64) : ¬ Evicts resolved now_ms call := by
  rintro (⟨order, hcall⟩ | ⟨payload_type, payload, _, hcall, _⟩)
  · exact hheartbeat order now_ms hcall
  · exact hpublish payload_type payload now_ms hcall

/-- A publish enters its message if it passes, and evicts if it gets to the check. -/
theorem entries_publish_iff :
    ((EngineOp.publish payload_type payload now_ms).run engine).dedup.entries[message_id]? = some stamp ↔
      Passes engine message_id stamp (.operation (.publish payload_type payload now_ms)) ∨
        (∀ other, ¬ Passes engine message_id other (.operation (.publish payload_type payload now_ms))) ∧
          engine.dedup.entries[message_id]? = some stamp ∧
          ∀ time, Evicts engine.config time (.operation (.publish payload_type payload now_ms) : EngineCall crates) →
            time.toNat - stamp.toNat ≤ engine.dedup.ttl_ms.toNat := by
  simp only [passes_publish_iff, evicts_publish_iff]
  rcases publish_cases payload_type payload now_ms engine with
    ⟨hchecked, hsame⟩ | ⟨id, hchecked, ⟨hheld, hsame⟩ | ⟨hnew, hsame⟩⟩
  · rw [hsame.dedup]
    simp [hchecked]
  · rw [hsame.dedup, entries_evict_expired_eq_some_iff]
    simp only [hchecked, Option.some.injEq]
    grind
  · rw [hsame.dedup]
    by_cases hid : id = message_id
    · subst hid
      have hfound : ((engine.dedup.evict_expired now_ms).insert id now_ms).entries[id]? = some now_ms :=
        ExtHashMap.getElem?_insert_self
      rw [hfound, Option.some.injEq]
      grind
    · have hfound : ((engine.dedup.evict_expired now_ms).insert id now_ms).entries[message_id]? =
          (engine.dedup.evict_expired now_ms).entries[message_id]? := getElem?_insert_of_ne _ now_ms hid
      rw [hfound, entries_evict_expired_eq_some_iff]
      simp only [hchecked, Option.some.injEq]
      grind

theorem entries_idle_iff (hsame : (call.run engine).dedup = engine.dedup)
    (hsilent : ∀ now_ms, ¬ Evicts engine.config now_ms call) :
    (call.run engine).dedup.entries[message_id]? = some stamp ↔
      engine.dedup.entries[message_id]? = some stamp ∧
        ∀ now_ms, Evicts engine.config now_ms call → now_ms.toNat - stamp.toNat ≤ engine.dedup.ttl_ms.toNat := by
  rw [hsame]
  exact ⟨fun h => ⟨h, fun now_ms hevicts => absurd hevicts (hsilent now_ms)⟩, And.left⟩

/-- Any other call is decided by its evictions alone. -/
theorem entries_unpublished_iff
    (hpublish : ∀ payload_type payload now_ms, call ≠ .operation (.publish payload_type payload now_ms)) :
    (call.run engine).dedup.entries[message_id]? = some stamp ↔
      engine.dedup.entries[message_id]? = some stamp ∧
        ∀ now_ms, Evicts engine.config now_ms call → now_ms.toNat - stamp.toNat ≤ engine.dedup.ttl_ms.toNat := by
  rcases call.records_cases with ⟨payload_type, payload, now_ms, rfl⟩ | ⟨order, now_ms, rfl⟩ |
    ⟨id, peer_addr, rfl⟩ | ⟨_, hheartbeat, hsame⟩
  · exact absurd rfl (hpublish payload_type payload now_ms)
  · have hafter : (EngineCall.run (.operation (.heartbeat order now_ms)) engine).dedup =
        engine.dedup.evict_expired now_ms := (heartbeat_records engine order now_ms).dedup
    rw [hafter, entries_evict_expired_eq_some_iff]
    simp only [evicts_heartbeat_iff, forall_eq]
  · exact entries_idle_iff rfl (not_evicts hpublish nofun engine.config)
  · exact entries_idle_iff (hsame engine).dedup (not_evicts hpublish hheartbeat engine.config)

/-- What a call makes of the cache's entry for a message. -/
theorem entries_run_iff (call : EngineCall crates) :
    (call.run engine).dedup.entries[message_id]? = some stamp ↔
      Passes engine message_id stamp call ∨
        (∀ other, ¬ Passes engine message_id other call) ∧ engine.dedup.entries[message_id]? = some stamp ∧
          ∀ now_ms, Evicts engine.config now_ms call → now_ms.toNat - stamp.toNat ≤ engine.dedup.ttl_ms.toNat := by
  by_cases hpublish : ∀ payload_type payload now_ms, call ≠ .operation (.publish payload_type payload now_ms)
  · have hnone := not_passes hpublish engine message_id
    simp only [hnone, false_or, not_false_eq_true, implies_true, true_and]
    exact entries_unpublished_iff hpublish
  · push Not at hpublish
    obtain ⟨payload_type, payload, now_ms, rfl⟩ := hpublish
    exact entries_publish_iff

end Calls

/-- What the cache holds for a message: written by the publishes that pass, kept
    until an eviction finds it expired. -/
def dedupSlot (message_id : Bytes32) :
    Slot (fun (engine : GossipEngine crates) (call : EngineCall crates) => call.run engine) UInt64 where
  read engine := engine.dedup.entries[message_id]?
  writes engine call now_ms := call.Passes engine message_id now_ms
  keeps engine call stamp := ∀ now_ms, call.Evicts engine.config now_ms →
    now_ms.toNat - stamp.toNat ≤ engine.dedup.ttl_ms.toNat
  spec _ call _ := entries_run_iff call

/-- A call that evicts or publishes carries a clock reading. -/
theorem EngineCall.Evicts.clock_eq {resolved : ResolvedConfig} {now_ms : UInt64} {call : EngineCall crates}
    (h : call.Evicts resolved now_ms) : call.clock = some now_ms := by
  rcases h with ⟨order, rfl⟩ | ⟨payload_type, payload, message_id, rfl, _⟩
  · rfl
  · rfl

theorem EngineCall.Passes.clock_eq {engine : GossipEngine crates} {message_id : Bytes32} {now_ms : UInt64}
    {call : EngineCall crates} (h : call.Passes engine message_id now_ms) : call.clock = some now_ms := by
  obtain ⟨payload_type, payload, rfl, _⟩ := h
  rfl

theorem EngineCall.NonDecreasing.of_append {calls more : List (EngineCall crates)}
    (h : NonDecreasing (calls ++ more)) : NonDecreasing calls := by
  unfold NonDecreasing at h ⊢
  rw [List.filterMap_append] at h
  exact (List.pairwise_append.mp h).1

/-- On a clock that never goes back, later calls are made at later times. -/
theorem EngineCall.NonDecreasing.le {before after : List (EngineCall crates)} {call later : EngineCall crates}
    {now_ms later_ms : UInt64} (h : NonDecreasing (before ++ call :: after)) (hcall : call.clock = some now_ms)
    (hmem : later ∈ after) (hlater : later.clock = some later_ms) : now_ms ≤ later_ms := by
  unfold NonDecreasing at h
  rw [List.filterMap_append, List.filterMap_cons_some hcall] at h
  have htail := (List.pairwise_append.mp h).2.1
  exact (List.pairwise_cons.mp htail).1 later_ms (List.mem_filterMap.mpr ⟨later, hmem, hlater⟩)

theorem EngineCall.NonDecreasing.between {before middle rest : List (EngineCall crates)}
    {first second call : EngineCall crates} {first_ms second_ms now_ms : UInt64}
    (h : NonDecreasing (before ++ first :: (middle ++ second :: rest))) (hfirst : first.clock = some first_ms)
    (hsecond : second.clock = some second_ms) (hmem : call ∈ middle) (hcall : call.clock = some now_ms) :
    first_ms ≤ now_ms ∧ now_ms ≤ second_ms := by
  refine ⟨h.le hfirst (List.mem_append_left _ hmem) hcall, ?_⟩
  obtain ⟨earlier, later, rfl⟩ := List.append_of_mem hmem
  have hsplit : before ++ first :: ((earlier ++ call :: later) ++ second :: rest) =
      (before ++ first :: earlier) ++ call :: (later ++ second :: rest) := by simp
  rw [hsplit] at h
  exact h.le hcall (List.mem_append_right later List.mem_cons_self) hsecond

/-- The cache holds a message exactly if the last publish of it that passed is not
    expired at any eviction since. -/
theorem entries_runAll_iff (resolved : ResolvedConfig) (identity : NodeIdentity crates)
    (calls : List (EngineCall crates)) {message_id : Bytes32} {stamp : UInt64} :
    (runAll calls (GossipEngine.new resolved identity)).dedup.entries[message_id]? = some stamp ↔
      ∃ before call since, calls = before ++ call :: since ∧
        Passes (runAll before (GossipEngine.new resolved identity)) message_id stamp call ∧
        (∀ earlier other rest, since = earlier ++ other :: rest → ∀ now_ms,
          ¬ Passes (runAll (before ++ call :: earlier) (GossipEngine.new resolved identity)) message_id now_ms other) ∧
        ∀ other ∈ since, ∀ now_ms, Evicts resolved now_ms other →
          now_ms.toNat - stamp.toNat ≤ (GossipEngine.new resolved identity).dedup.ttl_ms.toNat := by
  have hempty : (GossipEngine.new resolved identity).dedup.entries[message_id]? = none := ExtHashMap.getElem?_empty
  have hsettings (calls : List (EngineCall crates)) := runAll_settings calls (GossipEngine.new resolved identity)
  refine ((dedupSlot message_id).read_foldl_iff_of_none hempty calls stamp).trans ?_
  refine exists_congr fun before => exists_congr fun call => exists_congr fun since => ?_
  refine and_congr_right fun _ => and_congr_right fun _ => ?_
  constructor
  · intro hstands
    refine ⟨fun earlier other rest hsplit => (hstands earlier other rest hsplit).1, ?_⟩
    intro other hmem now_ms hevicts
    obtain ⟨earlier, rest, hsplit⟩ := List.append_of_mem hmem
    have hkept := (hstands earlier other rest hsplit).2 now_ms
    change Evicts (runAll _ _).config now_ms other → _ ≤ (runAll _ _).dedup.ttl_ms.toNat at hkept
    rw [(hsettings _).1, (hsettings _).2] at hkept
    exact hkept hevicts
  · rintro ⟨hsilent, hfresh⟩ earlier other rest hsplit
    refine ⟨hsilent earlier other rest hsplit, ?_⟩
    change ∀ now_ms, Evicts (runAll _ _).config now_ms other → _ ≤ (runAll _ _).dedup.ttl_ms.toNat
    rw [(hsettings _).1, (hsettings _).2]
    have hmem : other ∈ since := by
      rw [hsplit]
      exact List.mem_append_right _ List.mem_cons_self
    exact hfresh other hmem

/-- A publish is refused as a duplicate if the cache holds an entry for its message
    that is not expired. -/
theorem publish_refused_iff {engine : GossipEngine crates} {payload_type : UInt8} {payload : ByteVec}
    {message_id : Bytes32} (hchecked : checkedId crates engine.config payload_type payload = some message_id)
    (now_ms : UInt64) :
    (∃ after, GossipEngine.publish payload_type payload now_ms engine = .error duplicateMessage after) ↔
      ∃ stamp, engine.dedup.entries[message_id]? = some stamp ∧
        now_ms.toNat - stamp.toNat ≤ engine.dedup.ttl_ms.toNat := by
  rw [← mem_evict_expired_iff]
  constructor
  · rintro ⟨after, hfail⟩
    by_contra hnew
    exact (publish_new hchecked hnew).1 after hfail
  · intro hmem
    obtain ⟨after, hfail, _⟩ := publish_held hchecked hmem
    exact ⟨after, hfail⟩

/-- An entry outlives all calls whose clock readings lie within its time to live,
    if only because a later publish renews it. -/
theorem entry_lasts {message_id : Bytes32} {first_ms : UInt64} (calls : List (EngineCall crates))
    {engine : GossipEngine crates}
    (hentry : ∃ stamp, engine.dedup.entries[message_id]? = some stamp ∧ first_ms ≤ stamp)
    (htimes : ∀ call ∈ calls, ∀ now_ms, call.clock = some now_ms →
      first_ms ≤ now_ms ∧ now_ms.toNat - first_ms.toNat ≤ engine.dedup.ttl_ms.toNat) :
    ∃ stamp, (runAll calls engine).dedup.entries[message_id]? = some stamp ∧ first_ms ≤ stamp := by
  induction calls generalizing engine with
  | nil => exact hentry
  | cons call calls ih =>
    obtain ⟨hconfig, httl⟩ := run_settings call engine
    refine ih ?_ ?_
    · by_cases hpasses : ∃ stamp, Passes engine message_id stamp call
      · obtain ⟨stamp, hstamp⟩ := hpasses
        exact ⟨stamp, (entries_run_iff call).mpr (.inl hstamp),
          (htimes call List.mem_cons_self stamp hstamp.clock_eq).1⟩
      · obtain ⟨stamp, hstamp, hle⟩ := hentry
        refine ⟨stamp, (entries_run_iff call).mpr (.inr ⟨not_exists.mp hpasses, hstamp, ?_⟩), hle⟩
        intro now_ms hevicts
        have hbound := (htimes call List.mem_cons_self now_ms hevicts.clock_eq).2
        have hlater := UInt64.le_iff_toNat_le.mp hle
        omega
    · intro later hmem now_ms hclock
      rw [httl]
      exact htimes later (List.mem_cons_of_mem call hmem) now_ms hclock

theorem passes_of_publish {engine after : GossipEngine crates} {payload_type : UInt8} {payload : ByteVec}
    {now_ms : UInt64} {message_id : Bytes32}
    (h : GossipEngine.publish payload_type payload now_ms engine = .ok message_id after) :
    Passes engine message_id now_ms (.operation (.publish payload_type payload now_ms)) := by
  refine ⟨payload_type, payload, rfl, checkedId_of_publish h, fun after' hfail => ?_⟩
  rw [h] at hfail
  cases hfail

/-- On a clock that never goes back, two successful publishes of one message are
    more than the time to live apart: the first one enters the message, and until the
    time to live is over no eviction finds it expired. -/
theorem successful_publishes_apart {start after after' : GossipEngine crates}
    {before middle rest : List (EngineCall crates)} {payload_type : UInt8} {payload : ByteVec}
    {first_ms second_ms : UInt64} {first_id second_id : Bytes32}
    (hclock : NonDecreasing (before ++ .operation (.publish payload_type payload first_ms) ::
      (middle ++ .operation (.publish payload_type payload second_ms) :: rest)))
    (hfirst : GossipEngine.publish payload_type payload first_ms (runAll before start) = .ok first_id after)
    (hsecond : GossipEngine.publish payload_type payload second_ms
      (runAll (before ++ .operation (.publish payload_type payload first_ms) :: middle) start) =
        .ok second_id after') :
    start.dedup.ttl_ms.toNat < second_ms.toNat - first_ms.toNat := by
  by_contra hclose
  let first : EngineCall crates := .operation (.publish payload_type payload first_ms)
  have hrun : runAll (before ++ first :: middle) start = runAll middle (first.run (runAll before start)) :=
    runAll_append before (first :: middle) start
  have hsettings := runAll_settings before start
  have hsettings' := runAll_settings (before ++ first :: middle) start
  have hfirstId := checkedId_of_publish hfirst
  have hsecondId := checkedId_of_publish hsecond
  rw [hsettings.1] at hfirstId
  rw [hsettings'.1] at hsecondId
  obtain rfl : first_id = second_id := Option.some.inj (hfirstId.symm.trans hsecondId)
  have hentry : ∃ stamp, (first.run (runAll before start)).dedup.entries[first_id]? = some stamp ∧
      first_ms ≤ stamp :=
    ⟨first_ms, (entries_run_iff first).mpr (.inl (passes_of_publish hfirst)), UInt64.le_refl _⟩
  have hlasts := entry_lasts middle hentry
  rw [(run_settings first (runAll before start)).2, hsettings.2, ← hrun] at hlasts
  obtain ⟨stamp, hstamp, hlate⟩ := hlasts fun call hmem now_ms hcall => by
    obtain ⟨hlow, hhigh⟩ := hclock.between rfl rfl hmem hcall
    have hhigh' := UInt64.le_iff_toNat_le.mp hhigh
    exact ⟨hlow, by omega⟩
  obtain ⟨refused, hrefused⟩ := (publish_refused_iff (checkedId_of_publish hsecond) second_ms).mpr
    ⟨stamp, hstamp, by
      have hlate' := UInt64.le_iff_toNat_le.mp hlate
      rw [hsettings'.2]
      omega⟩
  rw [hsecond] at hrefused
  cases hrefused

/-- A publish that gets to the duplicate check is refused exactly if the last
    publish of the same message that passed it is not expired at any eviction since,
    this one included, whatever the clock readings. So on a clock that never goes
    back, two successful publishes of one message are more than the time to live
    apart. -/
theorem publish_deduplication_exact (resolved : ResolvedConfig) (identity : NodeIdentity crates) :
    let start := GossipEngine.new resolved identity
    (∀ calls payload_type payload message_id now_ms,
      checkedId crates resolved payload_type payload = some message_id →
      ((∃ after, GossipEngine.publish payload_type payload now_ms (runAll calls start) =
          .error (.EnvelopeError "duplicate message") after) ↔
        ∃ before call since last_ms, calls = before ++ call :: since ∧
          Passes (runAll before start) message_id last_ms call ∧
          (∀ earlier other rest, since = earlier ++ other :: rest → ∀ other_ms,
            ¬ Passes (runAll (before ++ call :: earlier) start) message_id other_ms other) ∧
          (∀ other ∈ since, ∀ evict_ms, Evicts resolved evict_ms other →
            evict_ms.toNat - last_ms.toNat ≤ start.dedup.ttl_ms.toNat) ∧
          now_ms.toNat - last_ms.toNat ≤ start.dedup.ttl_ms.toNat)) ∧
    (∀ before middle rest payload_type payload first_ms second_ms first_id second_id after after',
      NonDecreasing (before ++ .operation (.publish payload_type payload first_ms) ::
        (middle ++ .operation (.publish payload_type payload second_ms) :: rest)) →
      GossipEngine.publish payload_type payload first_ms (runAll before start) = .ok first_id after →
      GossipEngine.publish payload_type payload second_ms
        (runAll (before ++ .operation (.publish payload_type payload first_ms) :: middle) start) =
          .ok second_id after' →
      start.dedup.ttl_ms.toNat < second_ms.toNat - first_ms.toNat) := by
  intro start
  constructor
  · intro calls payload_type payload message_id now_ms hchecked
    obtain ⟨hconfig, httl⟩ := runAll_settings calls start
    rw [← show (runAll calls start).config = resolved from hconfig] at hchecked
    have hrefused := publish_refused_iff hchecked now_ms
    rw [httl] at hrefused
    refine hrefused.trans ?_
    constructor
    · rintro ⟨last_ms, hentry, hfresh⟩
      obtain ⟨before, call, since, hsplit, hpasses, hsilent, hkept⟩ :=
        (entries_runAll_iff resolved identity calls).mp hentry
      exact ⟨before, call, since, last_ms, hsplit, hpasses, hsilent, hkept, hfresh⟩
    · rintro ⟨before, call, since, last_ms, hsplit, hpasses, hsilent, hkept, hfresh⟩
      exact ⟨last_ms, (entries_runAll_iff resolved identity calls).mpr
        ⟨before, call, since, hsplit, hpasses, hsilent, hkept⟩, hfresh⟩
  · intro before middle rest payload_type payload first_ms second_ms first_id second_id after after' hclock hfirst
      hsecond
    exact successful_publishes_apart hclock hfirst hsecond

end witan.gossip
