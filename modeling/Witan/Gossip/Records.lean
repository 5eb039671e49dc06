import Witan.Gossip.Runs

open bincode fallible maps
open witan.types witan.error witan.identity witan.session witan.config witan.rotation
open witan.handshake (HandshakeManager)

namespace witan.gossip

variable {crates : Crates}

/-- The configuration, the dedup cache and the quorum tracker are as before. -/
structure SameRecords (before after : GossipEngine crates) : Prop where
  config : after.config = before.config
  dedup : after.dedup = before.dedup
  quorum : after.quorum = before.quorum

open GossipEngine

theorem complete_handshake_sameRecords (engine : GossipEngine crates) (peer_addr : Str) (session : SessionRecord) :
    SameRecords engine (engine.complete_handshake peer_addr session) := by
  unfold complete_handshake add_to_mesh
  dsimp only
  split <;> exact ⟨rfl, rfl, rfl⟩

/-- Only publishes and heartbeats change the records. -/
theorem EngineOp.run_sameRecords (op : EngineOp crates) (engine : GossipEngine crates)
    (hpublish : ∀ payload_type payload now_ms, op ≠ .publish payload_type payload now_ms)
    (hheartbeat : ∀ order now_ms, op ≠ .heartbeat order now_ms) : SameRecords engine (op.run engine) := by
  have houtcome := op.run_outcome engine
  generalize op.run engine = after at houtcome ⊢
  cases houtcome with
  | published hstats => exact absurd rfl (hpublish _ _ _)
  | beat => exact absurd rfl (hheartbeat _ _)
  | @completed _ peer_addr handshakes session haddress honly hpeer hactive =>
    obtain ⟨hconfig, hdedup, hquorum⟩ :=
      complete_handshake_sameRecords { engine with handshakes } peer_addr session
    exact ⟨hconfig, hdedup, hquorum⟩
  | _ => exact ⟨rfl, rfl, rfl⟩

/-- A heartbeat evicts from the cache and prunes the tracker to what is left there. -/
theorem heartbeat_records (engine : GossipEngine crates) (order : IterationOrder) (now_ms : UInt64) :
    SameRecords
      { engine with
        dedup := engine.dedup.evict_expired now_ms
        quorum := engine.quorum.prune
          ((engine.dedup.evict_expired now_ms).active_ids (order.entries _)) }
      (engine.heartbeat order now_ms) := by
  rw [heartbeat_eq]
  exact ⟨rfl, rfl, rfl⟩

/-- A message that gets to the duplicate check: its type is known, and it fits. Its
    id is returned. -/
def checkedId (crates : Crates) (resolved : ResolvedConfig) (payload_type : UInt8) (payload : ByteVec) :
    Option Bytes32 :=
  match PayloadType.from_u8 payload_type with
  | some kind =>
    if payload.val.length ≤ resolved.max_message_bytes then
      some (envelope.compute_message_id crates kind payload.val)
    else none
  | none => none

theorem checkedId_eq_some_iff {resolved : ResolvedConfig} {payload_type : UInt8} {payload : ByteVec}
    {message_id : Bytes32} :
    checkedId crates resolved payload_type payload = some message_id ↔
      ∃ kind, PayloadType.from_u8 payload_type = some kind ∧ payload.val.length ≤ resolved.max_message_bytes ∧
        message_id = envelope.compute_message_id crates kind payload.val := by
  unfold checkedId
  cases PayloadType.from_u8 payload_type with
  | none => simp
  | some kind =>
    by_cases hsize : payload.val.length ≤ resolved.max_message_bytes
    · simp [hsize, eq_comm]
    · simp [hsize]

/-- The error of a publish that finds its message in the cache. -/
def duplicateMessage : GossipError := .EnvelopeError "duplicate message"

section Publish

variable {engine after : GossipEngine crates} {payload_type : UInt8} {payload : ByteVec} {now_ms : UInt64}
  {message_id : Bytes32}

/-- A message that fails a check before the duplicate check changes nothing. -/
theorem publish_unchecked (now_ms : UInt64) (h : checkedId crates engine.config payload_type payload = none) :
    ∃ error, publish payload_type payload now_ms engine = .error error engine ∧ error ≠ duplicateMessage := by
  unfold publish payloadType
  rw [get_bind]
  unfold checkedId at h
  cases hkind : PayloadType.from_u8 payload_type with
  | none => exact ⟨_, rfl, by simp [duplicateMessage]⟩
  | some kind =>
    rw [hkind] at h
    have hsize : payload.val.length > engine.config.max_message_bytes := by simpa using h
    unfold failIf
    rw [if_pos hsize]
    exact ⟨_, rfl, by simp [duplicateMessage]⟩

/-- The checks before the duplicate check, as `publish` makes them. -/
theorem checks_pass {kind : PayloadType} (hkind : PayloadType.from_u8 payload_type = some kind)
    (hsize : payload.val.length ≤ engine.config.max_message_bytes) :
    payloadType payload_type = .ok kind ∧
      ∀ error : GossipError, failIf (payload.val.length > engine.config.max_message_bytes) error = .ok () := by
  refine ⟨?_, fun _ => failIf_eq_ok_iff.mpr (Nat.not_lt.mpr hsize)⟩
  unfold payloadType
  rw [hkind]
  rfl

/-- A message that the cache still holds is refused. -/
theorem publish_held (hchecked : checkedId crates engine.config payload_type payload = some message_id)
    (hheld : message_id ∈ (engine.dedup.evict_expired now_ms).entries) :
    ∃ after, publish payload_type payload now_ms engine = .error duplicateMessage after ∧
      SameRecords { engine with dedup := engine.dedup.evict_expired now_ms } after := by
  obtain ⟨kind, hkind, hsize, rfl⟩ := checkedId_eq_some_iff.mp hchecked
  obtain ⟨hok, hfits⟩ := checks_pass hkind hsize
  have hduplicate : engine.dedup.is_duplicate (envelope.compute_message_id crates kind payload.val) now_ms =
      (true, engine.dedup.evict_expired now_ms) :=
    Prod.ext (Std.ExtHashMap.mem_iff_contains.mp hheld) rfl
  unfold publish
  rw [get_bind, hok, attempt_ok_bind, hfits, attempt_ok_bind, hduplicate]
  exact ⟨_, rfl, rfl, rfl, rfl⟩

/-- Any other message enters the cache before it is signed, and the entry stays if
    the signing fails. -/
theorem publish_unseen {kind : PayloadType} (hkind : PayloadType.from_u8 payload_type = some kind)
    (hsize : payload.val.length ≤ engine.config.max_message_bytes)
    (hnew : envelope.compute_message_id crates kind payload.val ∉ (engine.dedup.evict_expired now_ms).entries) :
    let message_id := envelope.compute_message_id crates kind payload.val
    let dedup := (engine.dedup.evict_expired now_ms).insert message_id now_ms
    publish payload_type payload now_ms engine =
      match envelope.build_envelope kind payload engine.identity engine.config.default_ttl now_ms with
      | .ok _ => .ok message_id
        { engine with
          dedup
          stats := { engine.stats with messages_published := engine.stats.messages_published + 1 } }
      | .error error => .error error { engine with dedup } := by
  obtain ⟨hok, hfits⟩ := checks_pass hkind hsize
  have hduplicate : engine.dedup.is_duplicate (envelope.compute_message_id crates kind payload.val) now_ms =
      (false, engine.dedup.evict_expired now_ms) :=
    Prod.ext (Bool.eq_false_iff.mpr fun hcontains => hnew (Std.ExtHashMap.mem_iff_contains.mpr hcontains)) rfl
  unfold publish
  rw [get_bind, hok, attempt_ok_bind, hfits, attempt_ok_bind, hduplicate]
  cases envelope.build_envelope kind payload engine.identity engine.config.default_ttl now_ms with
  | error error => rfl
  | ok env => rfl

theorem publish_new (hchecked : checkedId crates engine.config payload_type payload = some message_id)
    (hnew : message_id ∉ (engine.dedup.evict_expired now_ms).entries) :
    (∀ after, publish payload_type payload now_ms engine ≠ .error duplicateMessage after) ∧
      Leaves (publish payload_type payload now_ms) engine
        (SameRecords { engine with dedup := (engine.dedup.evict_expired now_ms).insert message_id now_ms }) := by
  obtain ⟨kind, hkind, hsize, rfl⟩ := checkedId_eq_some_iff.mp hchecked
  unfold Leaves
  rw [publish_unseen hkind hsize hnew]
  cases hbuild : envelope.build_envelope kind payload engine.identity engine.config.default_ttl now_ms with
  | error error =>
    refine ⟨?_, rfl, rfl, rfl⟩
    rintro after hfail
    have herror : error = duplicateMessage := (EStateM.Result.error.inj hfail).1
    obtain ⟨message, hmessage⟩ := envelope.build_envelope_error hbuild
    rw [hmessage] at herror
    cases herror
  | ok env =>
    refine ⟨?_, rfl, rfl, rfl⟩
    rintro after hfail
    cases hfail

/-- A message that is published passes the checks, and its envelope can be built. -/
theorem publish_eq_ok (h : publish payload_type payload now_ms engine = .ok message_id after) :
    ∃ kind env, PayloadType.from_u8 payload_type = some kind ∧ payload.val.length ≤ engine.config.max_message_bytes ∧
      message_id = envelope.compute_message_id crates kind payload.val ∧
      envelope.build_envelope kind payload engine.identity engine.config.default_ttl now_ms = .ok env := by
  cases hchecked : checkedId crates engine.config payload_type payload with
  | none =>
    obtain ⟨error, hfail, _⟩ := publish_unchecked now_ms hchecked
    rw [h] at hfail
    cases hfail
  | some checked =>
    obtain ⟨kind, hkind, hsize, rfl⟩ := checkedId_eq_some_iff.mp hchecked
    by_cases hheld : envelope.compute_message_id crates kind payload.val ∈ (engine.dedup.evict_expired now_ms).entries
    · obtain ⟨refused, hfail, _⟩ := publish_held hchecked hheld
      rw [h] at hfail
      cases hfail
    · rw [publish_unseen hkind hsize hheld] at h
      split at h
      · rename_i env hbuild
        obtain ⟨rfl, _⟩ := EStateM.Result.ok.inj h
        exact ⟨kind, env, hkind, hsize, rfl, hbuild⟩
      · cases h

theorem checkedId_of_publish (h : publish payload_type payload now_ms engine = .ok message_id after) :
    checkedId crates engine.config payload_type payload = some message_id := by
  obtain ⟨kind, env, hkind, hsize, hid, _⟩ := publish_eq_ok h
  exact checkedId_eq_some_iff.mpr ⟨kind, hkind, hsize, hid⟩

end Publish

namespace EngineCall

/-- The four things a call can do to the records: publish, beat, count an
    acknowledgement, or leave them alone. -/
theorem records_cases (call : EngineCall crates) :
    (∃ payload_type payload now_ms, call = .operation (.publish payload_type payload now_ms)) ∨
      (∃ order now_ms, call = .operation (.heartbeat order now_ms)) ∨
      (∃ message_id peer_addr, call = .record_ack message_id peer_addr) ∨
      ((∀ payload_type payload now_ms, call ≠ .operation (.publish payload_type payload now_ms)) ∧
        (∀ order now_ms, call ≠ .operation (.heartbeat order now_ms)) ∧
        ∀ engine, SameRecords engine (call.run engine)) := by
  cases call with
  | operation op =>
    by_cases hpublish : ∃ payload_type payload now_ms, op = .publish payload_type payload now_ms
    · obtain ⟨payload_type, payload, now_ms, rfl⟩ := hpublish
      exact .inl ⟨payload_type, payload, now_ms, rfl⟩
    by_cases hheartbeat : ∃ order now_ms, op = .heartbeat order now_ms
    · obtain ⟨order, now_ms, rfl⟩ := hheartbeat
      exact .inr (.inl ⟨order, now_ms, rfl⟩)
    push Not at hpublish hheartbeat
    refine .inr (.inr (.inr ⟨?_, ?_, fun engine => op.run_sameRecords engine hpublish hheartbeat⟩))
    · rintro payload_type payload now_ms hcall
      exact hpublish payload_type payload now_ms (EngineCall.operation.inj hcall)
    · rintro order now_ms hcall
      exact hheartbeat order now_ms (EngineCall.operation.inj hcall)
  | rotate_keys key_epoch kem_rng sig_rng =>
    refine .inr (.inr (.inr ⟨nofun, nofun, fun engine => ?_⟩))
    obtain ⟨identity, hrun⟩ := run_rotate_keys key_epoch kem_rng sig_rng engine
    rw [hrun]
    exact ⟨rfl, rfl, rfl⟩
  | rotate_keys_under_id lineage next next_key_commitment now_ms =>
    refine .inr (.inr (.inr ⟨nofun, nofun, fun engine => ?_⟩))
    obtain ⟨identity, hrun⟩ := run_rotate_keys_under_id lineage next next_key_commitment now_ms engine
    rw [hrun]
    exact ⟨rfl, rfl, rfl⟩
  | record_ack message_id peer_addr => exact .inr (.inr (.inl ⟨message_id, peer_addr, rfl⟩))

/-- A publish evicts and may enter its own message; the tracker stays. -/
theorem publish_cases (payload_type : UInt8) (payload : ByteVec) (now_ms : UInt64) (engine : GossipEngine crates) :
    checkedId crates engine.config payload_type payload = none ∧
        SameRecords engine ((EngineOp.publish payload_type payload now_ms).run engine) ∨
      ∃ message_id, checkedId crates engine.config payload_type payload = some message_id ∧
        (message_id ∈ (engine.dedup.evict_expired now_ms).entries ∧
            SameRecords { engine with dedup := engine.dedup.evict_expired now_ms }
              ((EngineOp.publish payload_type payload now_ms).run engine) ∨
          message_id ∉ (engine.dedup.evict_expired now_ms).entries ∧
            SameRecords { engine with dedup := (engine.dedup.evict_expired now_ms).insert message_id now_ms }
              ((EngineOp.publish payload_type payload now_ms).run engine)) := by
  have hrun : (EngineOp.publish payload_type payload now_ms).run engine =
      final (GossipEngine.publish payload_type payload now_ms engine) := rfl
  rw [hrun]
  cases hchecked : checkedId crates engine.config payload_type payload with
  | none =>
    obtain ⟨error, hfail, _⟩ := publish_unchecked now_ms hchecked
    rw [hfail]
    exact .inl ⟨rfl, rfl, rfl, rfl⟩
  | some message_id =>
    refine .inr ⟨message_id, rfl, ?_⟩
    by_cases hheld : message_id ∈ (engine.dedup.evict_expired now_ms).entries
    · obtain ⟨after, hfail, hsame⟩ := publish_held hchecked hheld
      rw [hfail]
      exact .inl ⟨hheld, hsame⟩
    · exact .inr ⟨hheld, (publish_new hchecked hheld).2⟩

/-- No call changes the configuration or the time to live. -/
theorem run_settings (call : EngineCall crates) (engine : GossipEngine crates) :
    (call.run engine).config = engine.config ∧ (call.run engine).dedup.ttl_ms = engine.dedup.ttl_ms := by
  rcases call.records_cases with ⟨payload_type, payload, now_ms, rfl⟩ | ⟨order, now_ms, rfl⟩ |
    ⟨message_id, peer_addr, rfl⟩ | ⟨_, _, hsame⟩
  · change ((EngineOp.publish payload_type payload now_ms).run engine).config = _ ∧
      ((EngineOp.publish payload_type payload now_ms).run engine).dedup.ttl_ms = _
    rcases publish_cases payload_type payload now_ms engine with
      ⟨_, hsame⟩ | ⟨message_id, _, ⟨_, hsame⟩ | ⟨_, hsame⟩⟩
    · exact ⟨hsame.config, by rw [hsame.dedup]⟩
    · exact ⟨hsame.config, by rw [hsame.dedup]; rfl⟩
    · exact ⟨hsame.config, by rw [hsame.dedup]; rfl⟩
  · have hbeat := heartbeat_records engine order now_ms
    refine ⟨hbeat.config, ?_⟩
    change (engine.heartbeat order now_ms).dedup.ttl_ms = _
    rw [hbeat.dedup]
    rfl
  · exact ⟨rfl, rfl⟩
  · exact ⟨(hsame engine).config, by rw [(hsame engine).dedup]⟩

theorem runAll_settings (calls : List (EngineCall crates)) (engine : GossipEngine crates) :
    (runAll calls engine).config = engine.config ∧ (runAll calls engine).dedup.ttl_ms = engine.dedup.ttl_ms := by
  let kept (after : GossipEngine crates) : Prop :=
    after.config = engine.config ∧ after.dedup.ttl_ms = engine.dedup.ttl_ms
  have hkept (call : EngineCall crates) (before : GossipEngine crates) (h : kept before) : kept (call.run before) := by
    obtain ⟨hconfig, httl⟩ := run_settings call before
    exact ⟨hconfig.trans h.1, httl.trans h.2⟩
  exact runAll_keeps hkept calls ⟨rfl, rfl⟩

end EngineCall

end witan.gossip
