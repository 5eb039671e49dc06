import Witan.Api.Calls

open bincode fallible
open witan.types witan.error witan.identity witan.config witan.rotation witan.gossip

namespace witan.api

variable {crates : Crates} {state : ApiState crates} {config_json : String}

/-- Without an engine the call changes nothing; otherwise it fails as the action does. -/
theorem with_engine_failsIn {α : Type} {f : EStateM GossipError (GossipEngine crates × Option KeyLineage) α}
    {condition : ApiState crates → Prop} (hstate : condition state)
    (h : ∀ engine, state.gossip_state = some engine →
      FailsIn f (engine, state.lineage) fun after => condition ⟨some after.1, after.2⟩) :
    FailsIn (with_engine f) state condition := by
  intro error after hfail
  unfold with_engine at hfail
  cases hengine : state.gossip_state with
  | none =>
    rw [hengine] at hfail
    cases hfail
    exact hstate
  | some engine =>
    rw [hengine] at hfail
    dsimp only at hfail
    cases hresult : f (engine, state.lineage) with
    | ok value new =>
      rw [hresult] at hfail
      cases hfail
    | error failure new =>
      rw [hresult] at hfail
      cases hfail
      exact h engine hengine error new hresult

/-- Engine and lineage are stored after the last check. -/
theorem install_failsIn {resolved : ResolvedConfig} {identity : NodeIdentity crates} {lineage : KeyLineage} :
    FailsIn (install resolved identity lineage) state (· = state) := by
  unfold install
  refine .get_bind (.attempt_bind rfl fun _ _ => .set_bind (.onPart ?_))
  intro error after hfail
  cases hfail

theorem gossip_init_failsIn {kem_rng sig_rng : crates.OsRng} :
    FailsIn (gossip_init config_json kem_rng sig_rng) state (· = state) := by
  unfold gossip_init
  refine .get_bind (.attempt_bind rfl fun _ _ => .attempt_bind rfl fun _ _ => .attempt_bind rfl fun _ _ => ?_)
  exact .attempt_bind rfl fun _ _ => .attempt_bind rfl fun _ _ => install_failsIn

theorem gossip_init_with_lineage_failsIn {lineage_bytes : Bytes} :
    FailsIn (gossip_init_with_lineage config_json lineage_bytes) state (· = state) := by
  unfold gossip_init_with_lineage
  refine .get_bind (.attempt_bind rfl fun _ _ => .attempt_bind rfl fun _ _ => .attempt_bind rfl fun _ _ => ?_)
  refine .attempt_bind rfl fun _ _ => .attempt_bind rfl fun _ _ => .attempt_bind rfl fun _ _ => ?_
  exact .attempt_bind rfl fun _ _ => .attempt_bind rfl fun _ _ => install_failsIn

/-- The rotation fails before the engine changes, and the copy of the lineage is
    stored only at the end. Encoding it does not fail, so nothing goes wrong between. -/
theorem gossip_rotate_keys_under_id_failsIn {kem_seed sig_seed : Bytes} {key_epoch : Str}
    {next_key_commitment : Option Bytes} {now_ms : UInt64} :
    FailsIn (gossip_rotate_keys_under_id kem_seed sig_seed key_epoch next_key_commitment now_ms) state
      (· = state) := by
  unfold gossip_rotate_keys_under_id
  refine .attempt_bind rfl fun next _ => .attempt_bind rfl fun commitment _ => ?_
  refine with_engine_failsIn rfl ?_
  intro engine hengine
  have hsame : (⟨some engine, state.lineage⟩ : ApiState crates) = state := by rw [← hengine]
  refine .get_bind (.attempt_bind hsame fun lineage _ => .bind (.onPart (.onCopy ?_)) ?_)
  · intro error after hfail
    rw [rotate_keys_under_id_failsIn error after hfail]
    exact hsame
  · intro updated middle _ error after hfail
    cases hfail

/-- Every operation on a lineage, from the lineage's own up to the API's, either
    succeeds or leaves all the state it works on as it was. -/
theorem failed_lineage_operations_change_nothing (crates : Crates) :
    (∀ r lineage, FailsIn (KeyLineage.apply crates r) lineage (· = lineage)) ∧
    (∀ (current next : NodeIdentity crates) next_key_commitment now_ms lineage,
      FailsIn (KeyLineage.rotate current next next_key_commitment now_ms) lineage (· = lineage)) ∧
    (∀ (next : NodeIdentity crates) next_key_commitment now_ms lineage,
      FailsIn (KeyLineage.recover next next_key_commitment now_ms) lineage (· = lineage)) ∧
    (∀ (next : NodeIdentity crates) next_key_commitment now_ms engine lineage,
      FailsIn (GossipEngine.rotate_keys_under_id next next_key_commitment now_ms) (engine, lineage)
        (· = (engine, lineage))) ∧
    (∀ kem_seed sig_seed key_epoch next_key_commitment now_ms (state : ApiState crates),
      FailsIn (gossip_rotate_keys_under_id kem_seed sig_seed key_epoch next_key_commitment now_ms) state
        (· = state)) ∧
    (∀ config_json kem_rng sig_rng (state : ApiState crates),
      FailsIn (gossip_init config_json kem_rng sig_rng) state (· = state)) ∧
    (∀ config_json lineage_bytes (state : ApiState crates),
      FailsIn (gossip_init_with_lineage config_json lineage_bytes) state (· = state)) := by
  refine ⟨?_, ?_, ?_, ?_, ?_, ?_, ?_⟩
  · exact fun r lineage error after h => KeyLineage.apply_eq_error h
  · exact fun current next next_key_commitment now_ms lineage error after h => KeyLineage.rotate_eq_error h
  · exact fun next next_key_commitment now_ms lineage error after h => KeyLineage.recover_eq_error h
  · exact fun next next_key_commitment now_ms engine lineage => rotate_keys_under_id_failsIn
  · exact fun kem_seed sig_seed key_epoch next_key_commitment now_ms state => gossip_rotate_keys_under_id_failsIn
  · exact fun config_json kem_rng sig_rng state => gossip_init_failsIn
  · exact fun config_json lineage_bytes state => gossip_init_with_lineage_failsIn

end witan.api
