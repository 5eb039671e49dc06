import Witan.Api.Answers
import Witan.Api.Restart
import Witan.Gossip.Statistics

open bincode fallible runs
open witan.types witan.error witan.identity witan.config witan.rotation witan.gossip

namespace witan.api

variable {crates : Crates}

namespace ApiCall

/-- What a call makes of the engine, where there is one. -/
def engineCall (engine : GossipEngine crates) (lineage : Option KeyLineage) :
    ApiCall crates → Option (EngineCall crates)
  | gossip_publish payload_type payload now_ms => some (.operation (.publish payload_type payload now_ms))
  | gossip_connect_peer peer_addr getrandom now_ms => some (.operation (.connect_peer peer_addr getrandom now_ms))
  | gossip_disconnect_peer peer_addr => some (.operation (.disconnect_peer peer_addr))
  | gossip_verify_envelope envelope_bytes now_ms => some (.operation (.verify_envelope_bytes envelope_bytes now_ms))
  | gossip_encode_envelope payload_type payload now_ms =>
    some (.operation (.encode_envelope payload_type payload now_ms))
  | gossip_get_stats order now_ms => some (.operation (.heartbeat order now_ms))
  | gossip_process_handshake_bytes peer_addr bytes getrandom rng now_ms =>
    some (.operation (.process_handshake_bytes peer_addr bytes getrandom rng now_ms))
  | gossip_build_handshake_ack peer_addr probe_bytes getrandom now_ms =>
    some (.operation (.build_handshake_ack peer_addr probe_bytes getrandom now_ms))
  | gossip_build_finish_ack peer_addr finish_bytes now_ms =>
    some (.operation (.build_finish_ack peer_addr finish_bytes now_ms))
  | gossip_rotate_keys kem_rng sig_rng => some (.rotate_keys engine.config.key_epoch kem_rng sig_rng)
  | gossip_rotate_keys_under_id kem_seed sig_seed key_epoch next_key_commitment now_ms =>
    match identity_from_seed_bytes crates kem_seed sig_seed key_epoch, parse_commitment next_key_commitment,
      lineage with
    | .ok next, .ok commitment, some lineage => some (.rotate_keys_under_id lineage next commitment now_ms)
    | _, _, _ => none
  | gossip_verify_envelope_from_lineage envelope_bytes lineage_bytes now_ms =>
    match KeyLineage.decode crates lineage_bytes with
    | .ok lineage => some (.operation (.verify_envelope_from_lineage lineage envelope_bytes now_ms))
    | .error _ => none
  | _ => none

/-- The engine calls that a run of API calls comes down to. -/
def engineCalls : List (ApiCall crates) → ApiState crates → List (EngineCall crates)
  | [], _ => []
  | call :: calls, state =>
    (state.gossip_state.bind fun engine => call.engineCall engine state.lineage).toList ++
      engineCalls calls (call.run state)

/-- The two calls that initialize the component. -/
def initializes : ApiCall crates → Bool
  | gossip_init _ _ _ => true
  | gossip_init_with_lineage _ _ => true
  | _ => false

/-- The calls that work without an engine. -/
def standalone : ApiCall crates → Bool
  | gossip_init _ _ _ => true
  | gossip_init_with_lineage _ _ => true
  | gossip_recover_lineage _ _ _ _ _ _ => true
  | gossip_verify_key_lineage _ => true
  | gossip_key_commitment _ => true
  | gossip_verify_signature _ _ _ _ => true
  | _ => false

/-- What is wrong with the arguments that two of the calls check before they look
    for the engine. -/
def argumentError : ApiCall crates → Option GossipError
  | gossip_rotate_keys_under_id kem_seed sig_seed key_epoch next_key_commitment _ =>
    match identity_from_seed_bytes crates kem_seed sig_seed key_epoch, parse_commitment next_key_commitment with
    | .error e, _ => some e
    | .ok _, .error e => some e
    | .ok _, .ok _ => none
  | gossip_verify_envelope_from_lineage _ lineage_bytes _ =>
    match KeyLineage.decode crates lineage_bytes with
    | .error e => some e
    | .ok _ => none
  | _ => none

end ApiCall

section Engine

variable {engine : GossipEngine crates} {lineage : Option KeyLineage}

/-- The engine that an action leaves. -/
theorem onEngine_engine {α : Type} {f : EStateM GossipError (GossipEngine crates) α} {after : GossipEngine crates}
    (h : Leaves f engine (· = after)) :
    Leaves (with_engine (onEngine f)) ⟨some engine, lineage⟩ (·.gossip_state = some after) :=
  with_engine_leaves (.onPart (congrArg some h))

theorem query_engine {α : Type} {answer : GossipEngine crates → Except GossipError α} :
    Leaves (query answer) ⟨some engine, lineage⟩ (·.gossip_state = some engine) :=
  onEngine_engine (.get_bind (.attempt rfl))

/-- New keys are in place before the lineage is made for them. -/
theorem gossip_rotate_keys_engine (kem_rng sig_rng : crates.OsRng) :
    Leaves (gossip_rotate_keys kem_rng sig_rng) ⟨some engine, lineage⟩
      (·.gossip_state = some ((EngineCall.rotate_keys engine.config.key_epoch kem_rng sig_rng).run engine)) := by
  unfold gossip_rotate_keys EngineCall.run
  refine with_engine_leaves (.get_bind ?_)
  refine .bind_cases (.onPart ?_) ?_
  · intro error after hfail
    dsimp only
    rw [hfail]
    rfl
  · intro node_id middle hrotate
    obtain ⟨rotated, hrotated, rfl⟩ := onPart_eq_ok_iff.mp hrotate
    dsimp only at hrotated ⊢
    rw [hrotated]
    exact .get_bind (.attempt_bind rfl fun _ _ => .modify_bind (.pure rfl))

theorem gossip_rotate_keys_under_id_engine {kem_seed sig_seed : Bytes} {key_epoch : Str}
    {next_key_commitment : Option Bytes} {now_ms : UInt64} {next : NodeIdentity crates}
    {commitment : Option Bytes32} {stored : KeyLineage}
    (hnext : identity_from_seed_bytes crates kem_seed sig_seed key_epoch = .ok next)
    (hcommitment : parse_commitment next_key_commitment = .ok commitment) :
    Leaves (gossip_rotate_keys_under_id kem_seed sig_seed key_epoch next_key_commitment now_ms)
      ⟨some engine, some stored⟩
      (·.gossip_state = some ((EngineCall.rotate_keys_under_id stored next commitment now_ms).run engine)) := by
  unfold gossip_rotate_keys_under_id EngineCall.run
  refine .attempt_ok_bind hnext (.attempt_ok_bind hcommitment (with_engine_leaves (.get_bind ?_)))
  refine .attempt_ok_bind rfl (.bind_cases (.onPart (.onCopy ?_)) ?_)
  · intro error after hfail
    dsimp only
    rw [hfail]
    rfl
  · intro updated middle hrotate
    obtain ⟨rotated, hcopy, rfl⟩ := onPart_eq_ok_iff.mp hrotate
    obtain ⟨r, hrotated⟩ := onCopy_eq_ok_iff.mp hcopy
    dsimp only at hrotated ⊢
    rw [hrotated]
    exact .attempt_ok_bind rfl (.modify_bind (.pure rfl))

namespace ApiCall

/-- On the engine, a call is the engine call it stands for. -/
theorem run_engine (call : ApiCall crates) :
    (call.run ⟨some engine, lineage⟩).gossip_state =
      some (EngineCall.runAll (call.engineCall engine lineage).toList engine) := by
  cases call with
  | gossip_init config_json kem_rng sig_rng => rfl
  | gossip_init_with_lineage config_json lineage_bytes => rfl
  | gossip_get_peers order => exact query_engine
  | gossip_get_node_identity => exact query_engine
  | gossip_decode_envelope bytes => exact query_engine
  | gossip_get_session peer_addr => exact query_engine
  | gossip_get_stats order now_ms => exact onEngine_engine (.modify_bind (.get_bind (.attempt rfl)))
  | gossip_rotate_keys kem_rng sig_rng => exact gossip_rotate_keys_engine kem_rng sig_rng
  | gossip_rotate_keys_under_id kem_seed sig_seed key_epoch next_key_commitment now_ms =>
    unfold engineCall
    dsimp only
    cases hnext : identity_from_seed_bytes crates kem_seed sig_seed key_epoch with
    | error e =>
      unfold run api.gossip_rotate_keys_under_id
      dsimp only
      rw [hnext]
      rfl
    | ok next =>
      cases hcommitment : parse_commitment next_key_commitment with
      | error e =>
        unfold run api.gossip_rotate_keys_under_id
        dsimp only
        rw [hnext, hcommitment]
        rfl
      | ok commitment =>
        cases lineage with
        | none =>
          unfold run api.gossip_rotate_keys_under_id
          dsimp only
          rw [hnext, hcommitment]
          rfl
        | some stored => exact gossip_rotate_keys_under_id_engine hnext hcommitment
  | gossip_get_key_lineage =>
    unfold run api.gossip_get_key_lineage with_lineage
    dsimp only
    rw [final_onPart]
    rfl
  | gossip_verify_envelope_from_lineage envelope_bytes lineage_bytes now_ms =>
    unfold engineCall
    dsimp only
    cases hdecode : KeyLineage.decode crates lineage_bytes with
    | error e =>
      unfold run api.gossip_verify_envelope_from_lineage
      dsimp only
      rw [hdecode]
      rfl
    | ok checked =>
      have hleaves : Leaves (api.gossip_verify_envelope_from_lineage envelope_bytes lineage_bytes now_ms)
          ⟨some engine, lineage⟩ (·.gossip_state =
            some ((EngineOp.verify_envelope_from_lineage checked envelope_bytes now_ms).run engine)) := by
        unfold api.gossip_verify_envelope_from_lineage
        exact .attempt_ok_bind hdecode (onEngine_engine rfl)
      exact hleaves
  | gossip_recover_lineage => rfl
  | gossip_verify_key_lineage => rfl
  | gossip_key_commitment => rfl
  | gossip_verify_signature => rfl
  | _ => exact onEngine_engine rfl

theorem runAll_engine (calls : List (ApiCall crates)) :
    (runAll calls ⟨some engine, lineage⟩).gossip_state =
      some (EngineCall.runAll (engineCalls calls ⟨some engine, lineage⟩) engine) := by
  induction calls generalizing engine lineage with
  | nil => rfl
  | cons call calls ih =>
    have hnext : (call.run ⟨some engine, lineage⟩).gossip_state =
        some (EngineCall.runAll (call.engineCall engine lineage).toList engine) := run_engine call
    change (runAll calls (call.run ⟨some engine, lineage⟩)).gossip_state = some (EngineCall.runAll
      ((call.engineCall engine lineage).toList ++ engineCalls calls (call.run ⟨some engine, lineage⟩)) engine)
    generalize call.run ⟨some engine, lineage⟩ = after at hnext ⊢
    obtain ⟨gossip_state, updated⟩ := after
    obtain rfl : gossip_state = _ := hnext
    rw [ih, EngineCall.runAll_append]

end ApiCall

end Engine

/-- Without an engine, a call that needs one fails. -/
theorem perform_fresh (call : ApiCall crates) (h : call.standalone = false) :
    call.perform .fresh = .error (call.argumentError.getD .NotInitialized) .fresh := by
  cases call with
  | gossip_rotate_keys_under_id kem_seed sig_seed key_epoch next_key_commitment now_ms =>
    unfold ApiCall.perform ApiCall.argumentError gossip_rotate_keys_under_id
    dsimp only
    cases identity_from_seed_bytes crates kem_seed sig_seed key_epoch with
    | error e => rfl
    | ok next =>
      cases parse_commitment next_key_commitment with
      | error e => rfl
      | ok commitment => rfl
  | gossip_verify_envelope_from_lineage envelope_bytes lineage_bytes now_ms =>
    unfold ApiCall.perform ApiCall.argumentError gossip_verify_envelope_from_lineage
    dsimp only
    cases KeyLineage.decode crates lineage_bytes with
    | error e => rfl
    | ok lineage => rfl
  | gossip_init => cases h
  | gossip_init_with_lineage => cases h
  | gossip_recover_lineage => cases h
  | gossip_verify_key_lineage => cases h
  | gossip_key_commitment => cases h
  | gossip_verify_signature => cases h
  | _ => rfl

/-- A first call that does not initialize the component leaves it as it was. One
    that does builds a new engine. -/
theorem start_cases (call : ApiCall crates) :
    call.run .fresh = .fresh ∨ call.initializes = true ∧ ∃ resolved identity lineage,
      call.perform .fresh = .ok .unit ⟨some (.new resolved identity), some lineage⟩ := by
  cases call with
  | gossip_init config_json kem_rng sig_rng =>
    unfold ApiCall.run ApiCall.perform answering
    dsimp only
    cases hinit : gossip_init config_json kem_rng sig_rng (.fresh : ApiState crates) with
    | ok value after =>
      obtain ⟨resolved, identity, lineage, _, rfl⟩ := gossip_init_eq_ok hinit
      exact .inr ⟨rfl, resolved, identity, lineage, rfl⟩
    | error error after => exact .inl (gossip_init_failsIn error after hinit)
  | gossip_init_with_lineage config_json lineage_bytes =>
    unfold ApiCall.run ApiCall.perform answering
    dsimp only
    cases hinit : gossip_init_with_lineage config_json lineage_bytes (.fresh : ApiState crates) with
    | ok value after =>
      obtain ⟨_, resolved, identity, lineage, _, _, _, rfl⟩ := gossip_init_with_lineage_eq_ok_iff.mp hinit
      exact .inr ⟨rfl, resolved, _, lineage, rfl⟩
    | error error after => exact .inl (gossip_init_with_lineage_failsIn error after hinit)
  | gossip_recover_lineage => exact .inl rfl
  | gossip_verify_key_lineage => exact .inl rfl
  | gossip_key_commitment => exact .inl rfl
  | gossip_verify_signature => exact .inl rfl
  | _ =>
    refine .inl ?_
    rw [← ApiCall.final_perform, perform_fresh _ rfl]
    rfl

theorem perform_running {state : ApiState crates} {engine : GossipEngine crates} (h : state.gossip_state = some engine)
    (call : ApiCall crates) (hinit : call.initializes = true) :
    call.perform state = .error .AlreadyInitialized state := by
  obtain ⟨gossip_state, lineage⟩ := state
  subst h
  cases call with
  | gossip_init config_json kem_rng sig_rng => rfl
  | gossip_init_with_lineage config_json lineage_bytes => rfl
  | _ => cases hinit

/-- The life of the component. In every run of the API it is still uninitialized,
    and then every call that needs an engine is refused and changes nothing; or one
    call built a new engine, nothing had been stored before it, the engine is now
    where the engine calls behind the later API calls have brought it, and every
    further initialization is refused. -/
theorem component_lives_once (calls : List (ApiCall crates)) :
    (ApiCall.runAll calls .fresh = .fresh ∧ ∀ call : ApiCall crates, call.standalone = false →
      call.perform (ApiCall.runAll calls .fresh) = .error (call.argumentError.getD .NotInitialized) .fresh) ∨
    ∃ before start after resolved identity lineage, calls = before ++ start :: after ∧
      start.initializes = true ∧ ApiCall.runAll before .fresh = .fresh ∧
      start.perform .fresh = .ok .unit ⟨some (.new resolved identity), some lineage⟩ ∧
      (ApiCall.runAll calls .fresh).gossip_state = some (EngineCall.runAll
        (ApiCall.engineCalls after ⟨some (.new resolved identity), some lineage⟩) (.new resolved identity)) ∧
      ∀ call : ApiCall crates, call.initializes = true →
        call.perform (ApiCall.runAll calls .fresh) = .error .AlreadyInitialized (ApiCall.runAll calls .fresh) := by
  induction calls with
  | nil => exact .inl ⟨rfl, perform_fresh⟩
  | cons call calls ih =>
    change (ApiCall.runAll calls (call.run .fresh) = .fresh ∧ ∀ other : ApiCall crates, other.standalone = false →
      other.perform (ApiCall.runAll calls (call.run .fresh)) = _) ∨ _
    rcases start_cases call with hsame | ⟨hinit, resolved, identity, lineage, hperform⟩
    · rw [hsame]
      refine ih.imp_right ?_
      rintro ⟨before, start, after, resolved, identity, lineage, rfl, hinit, hbefore, hperform, hengine, hrefused⟩
      have hrun : ApiCall.runAll (call :: (before ++ start :: after)) .fresh =
          ApiCall.runAll (before ++ start :: after) .fresh := by
        change ApiCall.runAll _ (call.run .fresh) = _
        rw [hsame]
      refine ⟨call :: before, start, after, resolved, identity, lineage, rfl, hinit, ?_, hperform, ?_, ?_⟩
      · change ApiCall.runAll before (call.run .fresh) = .fresh
        rw [hsame, hbefore]
      · rw [hrun, hengine]
      · rw [hrun]
        exact hrefused
    · have hstart : call.run .fresh = ⟨some (.new resolved identity), some lineage⟩ := by
        rw [← ApiCall.final_perform, hperform]
        rfl
      have hengine : (ApiCall.runAll (call :: calls) .fresh).gossip_state = some (EngineCall.runAll
          (ApiCall.engineCalls calls ⟨some (.new resolved identity), some lineage⟩) (.new resolved identity)) := by
        change (ApiCall.runAll calls (call.run .fresh)).gossip_state = _
        rw [hstart]
        exact ApiCall.runAll_engine calls
      exact .inr ⟨[], call, calls, resolved, identity, lineage, rfl, hinit, rfl, hperform, hengine,
        perform_running hengine⟩

section Statistics

/-- The component is uninitialized, or it has an engine. -/
def ApiState.Started (state : ApiState crates) : Prop := state = .fresh ∨ ∃ engine, state.gossip_state = some engine

/-- What a counter of the engine shows. -/
def ApiState.count (state : ApiState crates) (counter : Counter) : Nat :=
  (state.gossip_state.map fun engine => counter.read engine.stats).getD 0

/-- What a call is to count, where there is an engine to serve it. -/
def ApiCall.counted (state : ApiState crates) (call : ApiCall crates) : Option (Counter × Nat) :=
  state.gossip_state.bind fun engine => (call.engineCall engine state.lineage).bind (·.counted engine)

variable {state : ApiState crates}

theorem ApiState.Started.run (h : state.Started) (call : ApiCall crates) : (call.run state).Started := by
  rcases h with rfl | ⟨engine, hengine⟩
  · rcases start_cases call with hsame | ⟨_, resolved, identity, lineage, hperform⟩
    · exact .inl hsame
    · refine .inr ⟨.new resolved identity, ?_⟩
      rw [← ApiCall.final_perform, hperform]
      rfl
  · obtain ⟨gossip_state, lineage⟩ := state
    subst hengine
    exact .inr ⟨_, call.run_engine⟩

theorem ApiState.Started.run_count (h : state.Started) (call : ApiCall crates) (counter : Counter) :
    (call.run state).count counter =
      (state.count counter + counter.gain (call.counted state)) % counter.modulus := by
  rcases h with rfl | ⟨engine, hengine⟩
  · have hzero : (call.run .fresh).count counter = 0 := by
      rcases start_cases call with hsame | ⟨_, resolved, identity, lineage, hperform⟩
      · rw [hsame]
        rfl
      · rw [← ApiCall.final_perform, hperform]
        cases counter <;> rfl
    rw [hzero]
    exact (Nat.zero_mod _).symm
  · obtain ⟨gossip_state, lineage⟩ := state
    subst hengine
    unfold ApiState.count ApiCall.counted
    rw [call.run_engine]
    dsimp only [Option.map_some, Option.getD_some, Option.bind_some]
    cases call.engineCall engine lineage with
    | none => exact Counter.counts_none (fun _ => rfl) counter
    | some engineCall => exact engineCall.run_counter engine counter

/-- The statistics count what happened. In every run of the API, each counter is the
    number of calls whose answer it stands for, or of the handshakes that polls gave
    up, up to its width. -/
theorem statistics_count_calls (calls : List (ApiCall crates)) (counter : Counter) :
    (ApiCall.runAll calls .fresh).count counter =
      total (fun state call => call.run state) (fun state call => counter.gain (call.counted state)) .fresh calls %
        counter.modulus := by
  have hvalid (state : ApiState crates) (call : ApiCall crates) (h : state.Started) : (call.run state).Started :=
    h.run call
  have hstep (state : ApiState crates) (call : ApiCall crates) (h : state.Started) :
      (call.run state).count counter = (state.count counter + counter.gain (call.counted state)) % counter.modulus :=
    h.run_count call counter
  have hfits : (ApiState.fresh : ApiState crates).count counter < counter.modulus :=
    (Nat.zero_le _).trans_lt (counter.read_lt {})
  have hcount := counter_foldl (·.count counter) hvalid hstep calls (.inl rfl) hfits
  exact hcount.trans (congrArg (· % counter.modulus) (Nat.zero_add _))

end Statistics

end witan.api
