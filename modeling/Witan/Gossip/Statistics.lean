import Witan.Gossip.Effects
import Witan.Gossip.Replay
import Witan.Maps.Members
import Witan.Runs.Counters

open Std (ExtHashMap)
open bincode fallible maps runs
open witan.types witan.error witan.identity witan.session witan.config witan.rotation
open witan.handshake (HandshakeManager HandshakeContext)

namespace witan.gossip

variable {crates : Crates}

/-- The counters among the statistics. -/
inductive Counter where
  | messages_published
  | messages_received
  | messages_deduplicated
  | messages_dropped
  | handshakes_completed
  | handshakes_failed
  deriving DecidableEq

namespace Counter

def read (stats : GossipStats) : Counter → Nat
  | .messages_published => stats.messages_published.toNat
  | .messages_received => stats.messages_received.toNat
  | .messages_deduplicated => stats.messages_deduplicated.toNat
  | .messages_dropped => stats.messages_dropped.toNat
  | .handshakes_completed => stats.handshakes_completed.toNat
  | .handshakes_failed => stats.handshakes_failed.toNat

/-- Message counters have 64 bits, handshake counters 32. -/
def modulus : Counter → Nat
  | .handshakes_completed => 2 ^ 32
  | .handshakes_failed => 2 ^ 32
  | _ => 2 ^ 64

/-- How far a counter is raised. -/
def gain (counter : Counter) : Option (Counter × Nat) → Nat
  | some (raised, amount) => if raised = counter then amount else 0
  | none => 0

theorem read_lt (counter : Counter) (stats : GossipStats) : counter.read stats < counter.modulus := by
  cases counter with
  | handshakes_completed => exact UInt32.toNat_lt _
  | handshakes_failed => exact UInt32.toNat_lt _
  | _ => exact UInt64.toNat_lt _

/-- The statistics with one counter raised. -/
def raise (stats : GossipStats) (amount : Nat) : Counter → GossipStats
  | .messages_published => { stats with messages_published := stats.messages_published + UInt64.ofNat amount }
  | .messages_received => { stats with messages_received := stats.messages_received + UInt64.ofNat amount }
  | .messages_deduplicated => { stats with messages_deduplicated := stats.messages_deduplicated + UInt64.ofNat amount }
  | .messages_dropped => { stats with messages_dropped := stats.messages_dropped + UInt64.ofNat amount }
  | .handshakes_completed => { stats with handshakes_completed := stats.handshakes_completed + UInt32.ofNat amount }
  | .handshakes_failed => { stats with handshakes_failed := stats.handshakes_failed + UInt32.ofNat amount }

theorem read_raise (counter other : Counter) (amount : Nat) (stats : GossipStats) :
    other.read (counter.raise stats amount) =
      (other.read stats + other.gain (some (counter, amount))) % other.modulus := by
  by_cases heq : counter = other
  · subst heq
    cases counter <;> simp [read, raise, gain, modulus]
  · have hsame : other.read (counter.raise stats amount) = other.read stats := by
      cases counter <;> cases other <;> first | rfl | exact absurd rfl heq
    rw [hsame, gain, if_neg heq, Nat.add_zero, Nat.mod_eq_of_lt (other.read_lt stats)]

theorem counts_none {before after : GossipStats} (h : ∀ counter : Counter, counter.read after = counter.read before)
    (counter : Counter) : counter.read after = (counter.read before + counter.gain none) % counter.modulus := by
  rw [h counter]
  exact (Nat.mod_eq_of_lt (counter.read_lt before)).symm

end Counter

/-- The verification of an envelope that says yes. -/
def accepted {σ : Type} : EStateM.Result GossipError σ Bool → Bool
  | .ok true _ => true
  | _ => false

/-- The bytes are an envelope, whatever it is worth. -/
def isEnvelope (crates : Crates) (bytes : Bytes) : Bool := (envelope.decode_envelope crates bytes).toBool

/-- What a verification counts: a yes, or an envelope without one. -/
def verdict {σ : Type} (crates : Crates) (bytes : Bytes) (result : EStateM.Result GossipError σ Bool) :
    Option (Counter × Nat) :=
  if accepted result then some (.messages_received, 1)
  else if isEnvelope crates bytes then some (.messages_dropped, 1)
  else none

/-- What an operation is to count, read off its answer: a publish that returns an
    id, or the duplicate error; the verdict on an envelope; the handshakes that a
    heartbeat gives up; a handshake that completes. -/
def EngineOp.counted (engine : GossipEngine crates) : EngineOp crates → Option (Counter × Nat)
  | .publish payload_type payload now_ms =>
    match GossipEngine.publish payload_type payload now_ms engine with
    | .ok _ _ => some (.messages_published, 1)
    | .error e _ => if e = duplicateMessage then some (.messages_deduplicated, 1) else none
  | .verify_envelope_bytes bytes now_ms =>
    verdict crates bytes (GossipEngine.verify_envelope_bytes bytes now_ms engine)
  | .verify_envelope_from_lineage lineage bytes now_ms =>
    verdict crates bytes (GossipEngine.verify_envelope_from_lineage lineage bytes now_ms engine)
  | .heartbeat order now_ms =>
    some (.handshakes_failed, engine.handshakes.pending.size - (engine.heartbeat order now_ms).handshakes.pending.size)
  | op => if (op.event engine).any (·.2.completes) then some (.handshakes_completed, 1) else none

/-- Key rotations and acknowledgements are not counted. -/
def EngineCall.counted (engine : GossipEngine crates) : EngineCall crates → Option (Counter × Nat)
  | .operation op => op.counted engine
  | _ => none

section Steps

variable {engine : GossipEngine crates} {payload_type : UInt8} {payload : ByteVec} {now_ms : UInt64}

theorem complete_handshake_reads (engine : GossipEngine crates) (peer_addr : Str) (session : SessionRecord)
    {other : Counter} (hne : other ≠ .handshakes_completed) :
    other.read (engine.complete_handshake peer_addr session).stats = other.read engine.stats := by
  unfold GossipEngine.complete_handshake GossipEngine.add_to_mesh
  dsimp only
  split <;> cases other <;> first | rfl | exact absurd rfl hne

/-- Operations that name a peer count completed handshakes only. -/
theorem EngineOp.run_reads {op : EngineOp crates} {peer_addr : Str} (haddress : op.address = some peer_addr)
    {other : Counter} (hne : other ≠ .handshakes_completed) :
    other.read (op.run engine).stats = other.read engine.stats := by
  have houtcome := op.run_outcome engine
  generalize op.run engine = after at houtcome ⊢
  cases houtcome with
  | published hstats => cases haddress
  | counted hnone hstats =>
    rw [haddress] at hnone
    cases hnone
  | moved => rfl
  | @completed _ peer_addr handshakes session =>
    exact complete_handshake_reads { engine with handshakes } peer_addr session hne
  | answered => cases other <;> first | rfl | exact absurd rfl hne
  | disconnected => cases other <;> rfl
  | beat => cases haddress

/-- A publish raises the counter of published messages, that of duplicates, or none. -/
theorem publish_counts (payload_type : UInt8) (payload : ByteVec) (now_ms : UInt64) (engine : GossipEngine crates) :
    (∃ message_id dedup, GossipEngine.publish payload_type payload now_ms engine = .ok message_id
        { engine with
          dedup
          stats := { engine.stats with messages_published := engine.stats.messages_published + 1 } }) ∨
      (∃ dedup, GossipEngine.publish payload_type payload now_ms engine = .error duplicateMessage
        { engine with
          dedup
          stats := { engine.stats with messages_deduplicated := engine.stats.messages_deduplicated + 1 } }) ∨
      ∃ error dedup, error ≠ duplicateMessage ∧
        GossipEngine.publish payload_type payload now_ms engine = .error error { engine with dedup } := by
  cases hchecked : checkedId crates engine.config payload_type payload with
  | none =>
    obtain ⟨error, hfail, hother⟩ := publish_unchecked now_ms hchecked
    exact .inr (.inr ⟨error, engine.dedup, hother, hfail⟩)
  | some message_id =>
    obtain ⟨kind, hkind, hsize, rfl⟩ := checkedId_eq_some_iff.mp hchecked
    by_cases hheld : envelope.compute_message_id crates kind payload.val ∈ (engine.dedup.evict_expired now_ms).entries
    · obtain ⟨hok, hfits⟩ : GossipEngine.payloadType payload_type = .ok kind ∧
          ∀ error : GossipError, failIf (payload.val.length > engine.config.max_message_bytes) error = .ok () :=
        checks_pass hkind hsize
      have hduplicate : engine.dedup.is_duplicate (envelope.compute_message_id crates kind payload.val) now_ms =
          (true, engine.dedup.evict_expired now_ms) :=
        Prod.ext (ExtHashMap.mem_iff_contains.mp hheld) rfl
      refine .inr (.inl ⟨engine.dedup.evict_expired now_ms, ?_⟩)
      unfold GossipEngine.publish
      rw [get_bind, hok, attempt_ok_bind, hfits, attempt_ok_bind, hduplicate]
      rfl
    · have hnew := (publish_new hchecked hheld).1
      rw [publish_unseen hkind hsize hheld] at hnew ⊢
      cases hbuild : envelope.build_envelope kind payload engine.identity engine.config.default_ttl now_ms with
      | ok env => exact .inl ⟨_, _, rfl⟩
      | error error =>
        rw [hbuild] at hnew
        refine .inr (.inr ⟨error, _, ?_, rfl⟩)
        rintro rfl
        exact hnew _ rfl

/-- A verification raises the counter of received messages, that of dropped ones, or
    none, where it was given no envelope. -/
theorem verify_envelope_bytes_counts (bytes : Bytes) (now_ms : UInt64) (engine : GossipEngine crates) :
    (isEnvelope crates bytes = true ∧
        GossipEngine.verify_envelope_bytes bytes now_ms engine = .ok true engine.countReceived) ∨
      (isEnvelope crates bytes = true ∧
        ∃ error, GossipEngine.verify_envelope_bytes bytes now_ms engine = .error error engine.countDropped) ∨
      isEnvelope crates bytes = false ∧
        ∃ error, GossipEngine.verify_envelope_bytes bytes now_ms engine = .error error engine := by
  unfold isEnvelope GossipEngine.verify_envelope_bytes
  rw [get_bind]
  cases hdecode : envelope.decode_envelope crates bytes with
  | error error => exact .inr (.inr ⟨rfl, error, rfl⟩)
  | ok env =>
    rw [attempt_ok_bind]
    cases hverify : envelope.verify_envelope crates env engine.config now_ms with
    | error error => exact .inr (.inl ⟨rfl, error, rfl⟩)
    | ok answer =>
      obtain ⟨rfl, _⟩ := envelope.verify_envelope_eq_ok_iff.mp hverify
      exact .inl ⟨rfl, rfl⟩

theorem verify_envelope_from_lineage_counts (lineage : KeyLineage) (bytes : Bytes) (now_ms : UInt64)
    (engine : GossipEngine crates) :
    (isEnvelope crates bytes = true ∧
        GossipEngine.verify_envelope_from_lineage lineage bytes now_ms engine = .ok true engine.countReceived) ∨
      (isEnvelope crates bytes = true ∧
        ∃ error, GossipEngine.verify_envelope_from_lineage lineage bytes now_ms engine =
          .error error engine.countDropped) ∨
      isEnvelope crates bytes = false ∧
        ∃ error, GossipEngine.verify_envelope_from_lineage lineage bytes now_ms engine = .error error engine := by
  have hplain := verify_envelope_bytes_counts bytes now_ms engine
  unfold GossipEngine.verify_envelope_from_lineage
  cases hdecode : envelope.decode_envelope crates bytes with
  | error error => exact .inr (.inr ⟨by rw [isEnvelope, hdecode]; rfl, error, rfl⟩)
  | ok env =>
    rw [attempt_ok_bind]
    cases hsender : lineage.check_envelope_sender env with
    | error error => exact .inr (.inl ⟨by rw [isEnvelope, hdecode]; rfl, error, rfl⟩)
    | ok _ => exact hplain

/-- What a verification counts, with the answers it can give. -/
theorem verdict_counts {bytes : Bytes} {result : EStateM.Result GossipError (GossipEngine crates) Bool}
    (h : (isEnvelope crates bytes = true ∧ result = .ok true engine.countReceived) ∨
      (isEnvelope crates bytes = true ∧ ∃ error, result = .error error engine.countDropped) ∨
      isEnvelope crates bytes = false ∧ ∃ error, result = .error error engine) (counter : Counter) :
    counter.read (final result).stats =
      (counter.read engine.stats + counter.gain (verdict crates bytes result)) % counter.modulus := by
  rcases h with ⟨_, rfl⟩ | ⟨henvelope, error, rfl⟩ | ⟨hother, error, rfl⟩
  · exact Counter.read_raise .messages_received counter 1 engine.stats
  · have hverdict : verdict crates bytes (.error error engine.countDropped) = some (.messages_dropped, 1) := by
      simp [verdict, accepted, henvelope]
    rw [hverdict]
    exact Counter.read_raise .messages_dropped counter 1 engine.stats
  · have hverdict : verdict crates bytes (.error error engine) = none := by simp [verdict, accepted, hother]
    rw [hverdict]
    exact Counter.counts_none (fun _ => rfl) counter

theorem publish_step (counter : Counter) :
    counter.read (final (GossipEngine.publish payload_type payload now_ms engine)).stats =
      (counter.read engine.stats + counter.gain ((EngineOp.publish payload_type payload now_ms).counted engine)) %
        counter.modulus := by
  unfold EngineOp.counted
  dsimp only
  obtain ⟨message_id, dedup, hok⟩ | ⟨dedup, hduplicate⟩ | ⟨error, dedup, hother, hfail⟩ :=
    publish_counts payload_type payload now_ms engine
  · rw [hok]
    exact Counter.read_raise .messages_published counter 1 engine.stats
  · rw [hduplicate]
    dsimp only
    rw [if_pos rfl]
    exact Counter.read_raise .messages_deduplicated counter 1 engine.stats
  · rw [hfail]
    dsimp only
    rw [if_neg hother]
    exact Counter.counts_none (fun _ => rfl) counter

theorem heartbeat_step (order : IterationOrder) (counter : Counter) :
    counter.read (engine.heartbeat order now_ms).stats =
      (counter.read engine.stats + counter.gain ((EngineOp.heartbeat order now_ms).counted engine)) %
        counter.modulus := by
  have hsize := size_filter_add engine.handshakes.pending (fun context => ! context.is_timed_out now_ms)
    (order.pending _)
  have hfailed : engine.handshakes.pending.size - (engine.heartbeat order now_ms).handshakes.pending.size =
      (engine.handshakes.evict_timed_out now_ms (order.pending _)).1.length := by
    rw [(heartbeat_keeps engine order now_ms).2.2]
    unfold HandshakeManager.evict_timed_out
    simp only [Bool.not_not] at hsize ⊢
    omega
  unfold EngineOp.counted
  dsimp only
  rw [hfailed, heartbeat_eq, ← Counter.read_raise]
  cases counter <;> rfl

/-- A step of a handshake counts if it completes it. -/
theorem handshake_step {op : EngineOp crates} {peer_addr : Str} (haddress : op.address = some peer_addr)
    (hcounted : op.counted engine =
      if (op.event engine).any (·.2.completes) then some (.handshakes_completed, 1) else none) (counter : Counter) :
    counter.read (op.run engine).stats =
      (counter.read engine.stats + counter.gain (op.counted engine)) % counter.modulus := by
  -- the counter of completed handshakes decides about all of them
  have hreads (stats : GossipStats) (hsame : ∀ other : Counter, other ≠ .handshakes_completed →
      other.read stats = other.read engine.stats)
      (hcompleted : (op.run engine).stats.handshakes_completed = stats.handshakes_completed) (other : Counter) :
      other.read (op.run engine).stats = other.read stats := by
    by_cases heq : other = .handshakes_completed
    · rw [heq]
      exact congrArg UInt32.toNat hcompleted
    · rw [hsame other heq]
      exact EngineOp.run_reads haddress heq
  rw [hcounted]
  obtain ⟨addr, event, hevent, _, heffected⟩ | ⟨hevent, hidle⟩ := op.event_cases engine
  · have hraised := heffected.completed
    rw [hevent]
    cases hcompletes : event.completes with
    | true =>
      rw [hcompletes, if_pos rfl] at hraised
      rw [if_pos (by simpa using hcompletes), ← Counter.read_raise]
      refine hreads _ (fun other hne => ?_) hraised counter
      cases other <;> first | rfl | exact absurd rfl hne
    | false =>
      rw [hcompletes, if_neg Bool.false_ne_true, UInt32.add_zero] at hraised
      rw [if_neg (by simp [hcompletes])]
      exact Counter.counts_none (hreads _ (fun _ _ => rfl) hraised) counter
  · rw [hevent]
    exact Counter.counts_none (hreads _ (fun _ _ => rfl) hidle.completed) counter

theorem encode_envelope_leaves (payload_type : UInt8) (payload : ByteVec) (now_ms : UInt64)
    (engine : GossipEngine crates) :
    Leaves (GossipEngine.encode_envelope payload_type payload now_ms) engine (· = engine) := by
  unfold GossipEngine.encode_envelope
  exact .get_bind (.attempt_bind rfl fun _ _ => .attempt_bind rfl fun _ _ => .attempt rfl)

theorem EngineOp.run_counter (op : EngineOp crates) (engine : GossipEngine crates) (counter : Counter) :
    counter.read (op.run engine).stats =
      (counter.read engine.stats + counter.gain (op.counted engine)) % counter.modulus := by
  cases op with
  | publish payload_type payload now_ms => exact publish_step counter
  | verify_envelope_bytes bytes now_ms =>
    exact verdict_counts (verify_envelope_bytes_counts bytes now_ms engine) counter
  | verify_envelope_from_lineage lineage bytes now_ms =>
    exact verdict_counts (verify_envelope_from_lineage_counts lineage bytes now_ms engine) counter
  | heartbeat order now_ms => exact heartbeat_step order counter
  | encode_envelope payload_type payload now_ms =>
    have hsame : (EngineOp.encode_envelope payload_type payload now_ms).run engine = engine :=
      encode_envelope_leaves payload_type payload now_ms engine
    rw [hsame]
    exact Counter.counts_none (fun _ => rfl) counter
  | connect_peer => exact handshake_step rfl rfl counter
  | process_handshake_bytes => exact handshake_step rfl rfl counter
  | build_handshake_ack => exact handshake_step rfl rfl counter
  | build_finish_ack => exact handshake_step rfl rfl counter
  | disconnect_peer => exact handshake_step rfl rfl counter

theorem EngineCall.run_counter (call : EngineCall crates) (engine : GossipEngine crates) (counter : Counter) :
    counter.read (call.run engine).stats =
      (counter.read engine.stats + counter.gain (call.counted engine)) % counter.modulus := by
  cases call with
  | operation op => exact op.run_counter engine counter
  | rotate_keys key_epoch kem_rng sig_rng =>
    obtain ⟨identity, hrun⟩ := run_rotate_keys key_epoch kem_rng sig_rng engine
    rw [hrun]
    exact Counter.counts_none (fun _ => rfl) counter
  | rotate_keys_under_id lineage next next_key_commitment now_ms =>
    obtain ⟨identity, hrun⟩ := run_rotate_keys_under_id lineage next next_key_commitment now_ms engine
    rw [hrun]
    exact Counter.counts_none (fun _ => rfl) counter
  | record_ack message_id peer_addr => exact Counter.counts_none (fun _ => rfl) counter

end Steps

end witan.gossip
