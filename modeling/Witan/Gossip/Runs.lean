import Witan.Gossip.Untouched
import Witan.Rotation.Building

open bincode fallible
open witan.types witan.error witan.identity witan.config witan.rotation

namespace witan.gossip

variable {crates : Crates}

section Rotation

variable {engine after : GossipEngine crates} {lineage lineage' : KeyLineage} {next : NodeIdentity crates}
  {commitment : Option Bytes32} {now_ms : UInt64}

theorem generate_eq_ok {key_epoch : Str} {kem_rng sig_rng : crates.OsRng} {identity : NodeIdentity crates}
    (h : NodeIdentity.generate crates key_epoch kem_rng sig_rng = .ok identity) :
    ∃ kem_keypair sig_keypair, NodeIdentity.of_keypairs crates kem_keypair sig_keypair key_epoch = .ok identity := by
  unfold NodeIdentity.generate at h
  simp only [except_bind_eq_ok_iff] at h
  obtain ⟨kem_keypair, _, sig_keypair, _, hidentity⟩ := h
  exact ⟨kem_keypair, sig_keypair, hidentity⟩

theorem rotate_keys_eq_ok_iff {key_epoch node_id : Str} {kem_rng sig_rng : crates.OsRng} :
    GossipEngine.rotate_keys key_epoch kem_rng sig_rng engine = .ok node_id after ↔
      ∃ identity, NodeIdentity.generate crates key_epoch kem_rng sig_rng = .ok identity ∧
        node_id = identity.node_id ∧ after = { engine with identity } := by
  unfold GossipEngine.rotate_keys
  simp only [attempt_bind_eq_ok_iff, modify_bind, pure_apply, EStateM.Result.ok.injEq]
  refine exists_congr fun identity => and_congr_right fun _ => ?_
  exact and_congr eq_comm eq_comm

theorem rotate_keys_failsIn {key_epoch : Str} {kem_rng sig_rng : crates.OsRng} :
    FailsIn (GossipEngine.rotate_keys key_epoch kem_rng sig_rng) engine (· = engine) := by
  unfold GossipEngine.rotate_keys
  exact .attempt_bind rfl fun _ _ => .modify_bind (.pure _)

/-- The engine takes over the next keys under the id that the lineage has. -/
theorem rotate_keys_under_id_eq_ok_iff {r : KeyRotation} :
    GossipEngine.rotate_keys_under_id next commitment now_ms (engine, lineage) = .ok r (after, lineage') ↔
      lineage.node_id = engine.identity.node_id ∧
        KeyLineage.rotate engine.identity next commitment now_ms lineage = .ok r lineage' ∧
        after = { engine with identity := { next with node_id := lineage'.node_id } } := by
  unfold GossipEngine.rotate_keys_under_id
  simp only [get_bind, attempt_bind_eq_ok_iff, failIf_eq_ok_iff, not_not,
    bind_eq_ok_iff (x := onPart _ _ _), onPart_eq_ok_iff, modify_bind, pure_apply, EStateM.Result.ok.injEq,
    Prod.mk.injEq]
  constructor
  · rintro ⟨_, hid, _, _, ⟨new, hrotate, rfl⟩, rfl, rfl, rfl⟩
    exact ⟨hid, hrotate, rfl⟩
  · rintro ⟨hid, hrotate, rfl⟩
    exact ⟨(), hid, r, _, ⟨lineage', hrotate, rfl⟩, rfl, rfl, rfl⟩

/-- A failed rotation leaves the engine and the lineage as they were. -/
theorem rotate_keys_under_id_failsIn :
    FailsIn (GossipEngine.rotate_keys_under_id next commitment now_ms) (engine, lineage) (· = (engine, lineage)) := by
  unfold GossipEngine.rotate_keys_under_id
  refine .get_bind (.attempt_bind rfl fun _ _ => .bind ?_ ?_)
  · refine .onPart ?_
    intro error after hfail
    rw [KeyLineage.rotate_eq_error hfail]
  · exact fun _ _ _ => .modify_bind (.pure _)

end Rotation

/-- What a host does with an engine: the operations, key rotations, and the acks
    that it records. -/
inductive EngineCall (crates : Crates) where
  | operation (op : EngineOp crates)
  | rotate_keys (key_epoch : Str) (kem_rng sig_rng : crates.OsRng)
  | rotate_keys_under_id (lineage : KeyLineage) (next : NodeIdentity crates)
      (next_key_commitment : Option Bytes32) (now_ms : UInt64)
  | record_ack (message_id : Bytes32) (peer_addr : Str)

namespace EngineCall

/-- The engine after a call, whether it succeeded or not. -/
def run : EngineCall crates → GossipEngine crates → GossipEngine crates
  | .operation op, engine => op.run engine
  | .rotate_keys key_epoch kem_rng sig_rng, engine =>
    final (GossipEngine.rotate_keys key_epoch kem_rng sig_rng engine)
  | .rotate_keys_under_id lineage next next_key_commitment now_ms, engine =>
    (final (GossipEngine.rotate_keys_under_id next next_key_commitment now_ms (engine, lineage))).1
  | .record_ack message_id peer_addr, engine =>
    { engine with quorum := engine.quorum.record_ack message_id peer_addr }

/-- The engine after a run of calls. -/
def runAll (calls : List (EngineCall crates)) (engine : GossipEngine crates) : GossipEngine crates :=
  calls.foldl (fun engine call => call.run engine) engine

theorem runAll_append (calls more : List (EngineCall crates)) (engine : GossipEngine crates) :
    runAll (calls ++ more) engine = runAll more (runAll calls engine) := List.foldl_append

/-- What every call keeps, every run keeps. -/
theorem runAll_keeps {invariant : GossipEngine crates → Prop}
    (hrun : ∀ (call : EngineCall crates) (engine : GossipEngine crates), invariant engine → invariant (call.run engine))
    (calls : List (EngineCall crates)) {engine : GossipEngine crates} (h : invariant engine) :
    invariant (runAll calls engine) := by
  induction calls generalizing engine with
  | nil => exact h
  | cons call calls ih => exact ih (hrun call engine h)

/-- A rotation changes the identity and nothing else. -/
theorem run_rotate_keys (key_epoch : Str) (kem_rng sig_rng : crates.OsRng) (engine : GossipEngine crates) :
    ∃ identity, (EngineCall.rotate_keys key_epoch kem_rng sig_rng).run engine = { engine with identity } := by
  change ∃ identity, final (GossipEngine.rotate_keys key_epoch kem_rng sig_rng engine) = { engine with identity }
  cases hresult : GossipEngine.rotate_keys key_epoch kem_rng sig_rng engine with
  | ok node_id after =>
    obtain ⟨identity, _, _, hafter⟩ := rotate_keys_eq_ok_iff.mp hresult
    exact ⟨identity, hafter⟩
  | error error after => exact ⟨engine.identity, rotate_keys_failsIn error after hresult⟩

theorem run_rotate_keys_under_id (lineage : KeyLineage) (next : NodeIdentity crates)
    (next_key_commitment : Option Bytes32) (now_ms : UInt64) (engine : GossipEngine crates) :
    ∃ identity, (EngineCall.rotate_keys_under_id lineage next next_key_commitment now_ms).run engine =
      { engine with identity } := by
  change ∃ identity, (final (GossipEngine.rotate_keys_under_id next next_key_commitment now_ms
    (engine, lineage))).1 = { engine with identity }
  cases hresult : GossipEngine.rotate_keys_under_id next next_key_commitment now_ms (engine, lineage) with
  | ok r after =>
    obtain ⟨after, lineage'⟩ := after
    obtain ⟨_, _, hafter⟩ := rotate_keys_under_id_eq_ok_iff.mp hresult
    exact ⟨_, hafter⟩
  | error error after =>
    obtain rfl := rotate_keys_under_id_failsIn error after hresult
    exact ⟨engine.identity, rfl⟩

end EngineCall

end witan.gossip
