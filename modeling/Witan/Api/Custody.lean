import Witan.Api.Acceptance
import Witan.Api.Lifecycle
import Witan.Rotation.Convergence

open bincode fallible
open witan.types witan.error witan.identity witan.config witan.rotation witan.gossip

namespace witan.api

variable {crates : Crates}

/-! A validator over the lives of its process. The operator keeps the lineage that
the component last returned, restarts the process with it, and can extend it with a
key that was committed to. -/

/-- The component, and the lineage that is kept outside of it. -/
structure Validator (crates : Crates) where
  state : ApiState crates
  kept : Bytes

inductive CustodyStep (crates : Crates) where
  | call (call : ApiCall crates)
  | restart (config_json : String)
  | recover (kem_seed sig_seed : Bytes) (key_epoch : Str) (next_key_commitment : Option Bytes) (now_ms : UInt64)

/-- The calls that give up the id: a new one by rotation, or another start. -/
def ApiCall.changesId : ApiCall crates → Bool
  | .gossip_init _ _ _ => true
  | .gossip_init_with_lineage _ _ => true
  | .gossip_rotate_keys _ _ => true
  | _ => false

def CustodyStep.changesId : CustodyStep crates → Bool
  | .call made => made.changesId
  | _ => false

/-- The calls that give a running node other keys. -/
def ApiCall.rekeys : ApiCall crates → Bool
  | .gossip_rotate_keys _ _ => true
  | .gossip_rotate_keys_under_id _ _ _ _ _ => true
  | _ => false

/-- The calls whose answer is this node's lineage. -/
def ApiCall.returnsLineage : ApiCall crates → Bool
  | .gossip_rotate_keys_under_id _ _ _ _ _ => true
  | .gossip_get_key_lineage => true
  | _ => false

def bytesAnswered {σ : Type} : EStateM.Result GossipError σ Answer → Option Bytes
  | .ok (.bytes value) _ => some value
  | _ => none

/-- The lineage that a call returns. -/
def ApiCall.lineageAnswer (call : ApiCall crates) (state : ApiState crates) : Option Bytes :=
  if call.returnsLineage then bytesAnswered (call.perform state) else none

namespace Validator

def step (self : Validator crates) : CustodyStep crates → Validator crates
  | .call call => ⟨call.run self.state, (call.lineageAnswer self.state).getD self.kept⟩
  | .restart config_json => { self with state := final (gossip_init_with_lineage config_json self.kept .fresh) }
  | .recover kem_seed sig_seed key_epoch next_key_commitment now_ms =>
    match gossip_recover_lineage crates self.kept kem_seed sig_seed key_epoch next_key_commitment now_ms with
    | .ok kept => { self with kept }
    | .error _ => self

def run (self : Validator crates) (steps : List (CustodyStep crates)) : Validator crates := steps.foldl step self

/-- The process is down, or it runs under the lineage's id with the lineage's
    current keys. -/
def Serves (first : KeyLineage) (state : ApiState crates) : Prop :=
  state = .fresh ∨ ∃ engine lineage, state = ⟨some engine, some lineage⟩ ∧ Coherent engine lineage ∧
    KeyLineage.Grown crates first lineage

/-- What is kept is the encoding of a lineage that grew out of the first one. -/
def Keeps (crates : Crates) (first : KeyLineage) (kept : Bytes) : Prop :=
  ∃ lineage, lineage.encode = .ok kept ∧ KeyLineage.Grown crates first lineage

/-- The invariant of custody. -/
structure Custody (first : KeyLineage) (validator : Validator crates) : Prop where
  serves : Serves first validator.state
  keeps : Keeps crates first validator.kept

end Validator

section Steps

variable {first lineage : KeyLineage} {engine : GossipEngine crates}

/-- The kept bytes decode to the lineage they were made from, if at all. -/
theorem Validator.Keeps.decode {kept : Bytes} (h : Keeps crates first kept)
    (hdecode : KeyLineage.decode crates kept = .ok lineage) : KeyLineage.Grown crates first lineage := by
  obtain ⟨stored, hencode, hgrown⟩ := h
  obtain ⟨_, rfl⟩ := (decode_encoded_iff hgrown.valid hencode).mp hdecode
  exact hgrown

theorem grown_of_build {self extended : KeyLineage} {current : Option (NodeIdentity crates)}
    {next : NodeIdentity crates}
    {commitment : Option Bytes32} {now_ms : UInt64} {r : KeyRotation} (hvalid : self.Valid crates)
    (h : KeyLineage.build_and_apply current next commitment now_ms self = .ok r extended) :
    KeyLineage.Grown crates self extended := by
  obtain ⟨_, _, _, _, _, _, haccepts, rfl⟩ := KeyLineage.build_and_apply_eq_ok h
  exact hvalid.grown_extend haccepts

/-- The state still holds the lineage, and the engine's keys. -/
def KeepsKeys (engine : GossipEngine crates) (lineage : KeyLineage) (after : ApiState crates) : Prop :=
  ∃ engine', after = ⟨some engine', some lineage⟩ ∧ engine'.identity = engine.identity

/-- All other calls leave the lineage and the keys of a running node as they are. -/
theorem run_keeps_keys {call : ApiCall crates} (h : call.rekeys = false) :
    KeepsKeys engine lineage (call.run ⟨some engine, some lineage⟩) := by
  have hsame : KeepsKeys engine lineage ⟨some engine, some lineage⟩ := ⟨engine, rfl, rfl⟩
  have honEngine {α : Type} {f : EStateM GossipError (GossipEngine crates) α}
      (hidentity : Leaves f engine (·.identity = engine.identity)) :
      Leaves (with_engine (onEngine f)) ⟨some engine, some lineage⟩ (KeepsKeys engine lineage) :=
    with_engine_leaves (.onPart ⟨_, rfl, hidentity⟩)
  have hop (op : EngineOp crates) : (op.run engine).identity = engine.identity := op.run_identity engine
  have hquery {α : Type} {answer : GossipEngine crates → Except GossipError α} :
      Leaves (query answer) ⟨some engine, some lineage⟩ (KeepsKeys engine lineage) :=
        honEngine (.get_bind (.attempt rfl))
  cases call with
  | gossip_init => exact hsame
  | gossip_init_with_lineage => exact hsame
  | gossip_rotate_keys => cases h
  | gossip_rotate_keys_under_id => cases h
  | gossip_publish payload_type payload now_ms => exact honEngine (hop (.publish _ _ _))
  | gossip_connect_peer peer_addr getrandom now_ms => exact honEngine (hop (.connect_peer _ _ _))
  | gossip_disconnect_peer peer_addr => exact honEngine (hop (.disconnect_peer _))
  | gossip_get_peers => exact hquery
  | gossip_get_node_identity => exact hquery
  | gossip_verify_envelope => exact honEngine (hop (.verify_envelope_bytes _ _))
  | gossip_encode_envelope => exact honEngine (hop (.encode_envelope _ _ _))
  | gossip_decode_envelope => exact hquery
  | gossip_get_stats order now_ms =>
    exact honEngine (.modify_bind (.get_bind (.attempt (hop (.heartbeat order now_ms)))))
  | gossip_process_handshake_bytes => exact honEngine (hop (.process_handshake_bytes _ _ _ _ _))
  | gossip_build_handshake_ack => exact honEngine (hop (.build_handshake_ack _ _ _ _))
  | gossip_build_finish_ack => exact honEngine (hop (.build_finish_ack _ _ _))
  | gossip_get_session => exact hquery
  | gossip_verify_envelope_from_lineage envelope_bytes lineage_bytes now_ms =>
    have hleaves : Leaves (api.gossip_verify_envelope_from_lineage envelope_bytes lineage_bytes now_ms)
        ⟨some engine, some lineage⟩ (KeepsKeys engine lineage) := by
      unfold api.gossip_verify_envelope_from_lineage
      exact .attempt_bind hsame fun checked _ => honEngine (hop (.verify_envelope_from_lineage checked _ _))
    exact hleaves
  | gossip_get_key_lineage => exact hsame
  | gossip_recover_lineage => exact hsame
  | gossip_verify_key_lineage => exact hsame
  | gossip_key_commitment => exact hsame
  | gossip_verify_signature => exact hsame

namespace Validator

/-- While the process is down, calls are refused. -/
theorem Custody.call_fresh {kept : Bytes} {call : ApiCall crates} (h : Keeps crates first kept)
    (hid : call.changesId = false) : Custody first (step ⟨.fresh, kept⟩ (.call call)) := by
  have hrun : call.run .fresh = .fresh := by
    rcases start_cases call with hsame | ⟨hinit, _⟩
    · exact hsame
    · cases call with
      | gossip_init => cases hid
      | gossip_init_with_lineage => cases hid
      | _ => cases hinit
  have hanswer : call.lineageAnswer .fresh = none := by
    unfold ApiCall.lineageAnswer
    split
    · next hreturns =>
      rw [perform_fresh call (by cases call <;> first | rfl | cases hreturns)]
      rfl
    · rfl
  refine ⟨.inl hrun, ?_⟩
  unfold step
  dsimp only
  rw [hanswer]
  exact h

/-- The lineage that a rotation under the id returns is kept. -/
theorem step_rotation {state after : ApiState crates} {kept bytes kem_seed sig_seed : Bytes} {key_epoch : Str}
    {next_key_commitment : Option Bytes} {now_ms : UInt64}
    (h : gossip_rotate_keys_under_id kem_seed sig_seed key_epoch next_key_commitment now_ms state = .ok bytes after) :
    step ⟨state, kept⟩ (.call (.gossip_rotate_keys_under_id kem_seed sig_seed key_epoch next_key_commitment now_ms)) =
      ⟨after, bytes⟩ := by
  unfold step ApiCall.run ApiCall.lineageAnswer ApiCall.returnsLineage ApiCall.perform answering
  dsimp only
  rw [if_pos rfl, h]
  rfl

/-- A rotation under the id extends the lineage that runs, and returns it. -/
theorem Custody.call_rotation {kept : Bytes} {kem_seed sig_seed : Bytes} {key_epoch : Str}
    {next_key_commitment : Option Bytes} {now_ms : UInt64} (h : Keeps crates first kept)
    (hcoherent : Coherent engine lineage) (hgrown : KeyLineage.Grown crates first lineage) :
    Custody first (step ⟨⟨some engine, some lineage⟩, kept⟩
      (.call (.gossip_rotate_keys_under_id kem_seed sig_seed key_epoch next_key_commitment now_ms))) := by
  cases hresult : gossip_rotate_keys_under_id kem_seed sig_seed key_epoch next_key_commitment now_ms
      ⟨some engine, some lineage⟩ with
  | error error after =>
    obtain rfl := gossip_rotate_keys_under_id_failsIn error after hresult
    unfold step ApiCall.run ApiCall.lineageAnswer ApiCall.returnsLineage ApiCall.perform answering
    dsimp only
    rw [if_pos rfl, hresult]
    exact ⟨.inr ⟨engine, lineage, rfl, hcoherent, hgrown⟩, h⟩
  | ok bytes after =>
    rw [step_rotation hresult]
    obtain ⟨next, commitment, r, engine', updated, _, _, hrotated, hencode, rfl⟩ :=
      gossip_rotate_keys_under_id_eq_ok_iff.mp hresult
    obtain ⟨_, hrotate, _⟩ := rotate_keys_under_id_eq_ok_iff.mp hrotated
    have hupdated : KeyLineage.Grown crates first updated :=
      hgrown.trans (grown_of_build hgrown.valid (KeyLineage.rotate_eq_ok hrotate).2)
    exact ⟨.inr ⟨engine', updated, rfl, hcoherent.rotated hrotated, hupdated⟩, updated, hencode, hupdated⟩

theorem Custody.call_running (hlengths : crates.KeyLengths) {kept : Bytes} {call : ApiCall crates}
    (h : Keeps crates first kept) (hid : call.changesId = false) (hcoherent : Coherent engine lineage)
    (hgrown : KeyLineage.Grown crates first lineage) :
    Custody first (step ⟨⟨some engine, some lineage⟩, kept⟩ (.call call)) := by
  by_cases hrotation : ∃ kem_seed sig_seed key_epoch next_key_commitment now_ms,
      call = .gossip_rotate_keys_under_id kem_seed sig_seed key_epoch next_key_commitment now_ms
  · obtain ⟨kem_seed, sig_seed, key_epoch, next_key_commitment, now_ms, rfl⟩ := hrotation
    exact call_rotation h hcoherent hgrown
  · have hrunning : Running (⟨some engine, some lineage⟩ : ApiState crates) := ⟨engine, lineage, rfl, hcoherent⟩
    obtain ⟨engine', lineage', hstate, hcoherent'⟩ := hrunning.run hlengths call
    have hkeys : call.rekeys = false := by
      cases call with
      | gossip_rotate_keys => cases hid
      | gossip_rotate_keys_under_id => exact absurd ⟨_, _, _, _, _, rfl⟩ hrotation
      | _ => rfl
    obtain ⟨_, hsame, _⟩ := run_keeps_keys hkeys
    rw [hstate] at hsame
    obtain rfl : lineage' = lineage := Option.some.inj (congrArg ApiState.lineage hsame)
    refine ⟨.inr ⟨engine', lineage', hstate, hcoherent', hgrown⟩, ?_⟩
    unfold step ApiCall.lineageAnswer
    dsimp only
    split
    · next hreturns =>
      cases call with
      | gossip_get_key_lineage => exact ⟨lineage', rfl, hgrown⟩
      | gossip_rotate_keys_under_id => exact absurd ⟨_, _, _, _, _, rfl⟩ hrotation
      | _ => cases hreturns
    · exact h

/-- A new process starts from the kept lineage, or not at all. -/
theorem Custody.restarted {kept : Bytes} (h : Keeps crates first kept) (config_json : String) :
    Serves first (final (gossip_init_with_lineage config_json kept (.fresh : ApiState crates))) := by
  cases hinit : gossip_init_with_lineage config_json kept (.fresh : ApiState crates) with
  | error error after => exact .inl (gossip_init_with_lineage_failsIn error after hinit)
  | ok value after =>
    obtain ⟨_, resolved, identity, lineage, _, hdecode, hcurrent, rfl⟩ :=
      gossip_init_with_lineage_eq_ok_iff.mp hinit
    exact .inr ⟨_, lineage, rfl,
      ⟨.decode hdecode, rfl, hcurrent.sig_public_key.symm, hcurrent.kem_public_key⟩, h.decode hdecode⟩

theorem Keeps.recovered {kept bytes kem_seed sig_seed : Bytes} {key_epoch : Str} {next_key_commitment : Option Bytes}
    {now_ms : UInt64} (h : Keeps crates first kept)
    (hrecover : gossip_recover_lineage crates kept kem_seed sig_seed key_epoch next_key_commitment now_ms = .ok bytes) :
    Keeps crates first bytes := by
  unfold gossip_recover_lineage at hrecover
  simp only [except_bind_eq_ok_iff] at hrecover
  obtain ⟨prior, hdecode, next, _, commitment, _, hencode⟩ := hrecover
  have hprior := h.decode hdecode
  split at hencode
  · next r extended hrecovered =>
    exact ⟨extended, hencode,
      hprior.trans (grown_of_build hprior.valid (KeyLineage.recover_eq_ok hrecovered).2)⟩
  · cases hencode

theorem Custody.step (hlengths : crates.KeyLengths) {validator : Validator crates} (h : Custody first validator)
    {step : CustodyStep crates} (hid : step.changesId = false) : Custody first (validator.step step) := by
  obtain ⟨state, kept⟩ := validator
  obtain ⟨hserves, hkeeps⟩ := h
  cases step with
  | call call =>
    rcases hserves with rfl | ⟨engine, lineage, rfl, hcoherent, hgrown⟩
    · exact call_fresh hkeeps hid
    · exact call_running hlengths hkeeps hid hcoherent hgrown
  | restart config_json => exact ⟨restarted hkeeps config_json, hkeeps⟩
  | recover kem_seed sig_seed key_epoch next_key_commitment now_ms =>
    unfold Validator.step
    dsimp only
    split
    · next bytes hrecover => exact ⟨hserves, hkeeps.recovered hrecover⟩
    · exact ⟨hserves, hkeeps⟩

theorem Custody.run (hlengths : crates.KeyLengths) {validator : Validator crates} (h : Custody first validator)
    {steps : List (CustodyStep crates)} (hid : ∀ step ∈ steps, step.changesId = false) :
    Custody first (validator.run steps) := by
  induction steps generalizing validator with
  | nil => exact h
  | cons step steps ih =>
    exact ih (h.step hlengths (hid step List.mem_cons_self)) fun other hmem => hid other (List.mem_cons_of_mem _ hmem)

end Validator

/-- The records of a valid chain build it from its inception. -/
theorem forM_of_replay {start after : KeyLineage} {records : List KeyRotation}
    (h : start.replay crates records = .ok after) : forM records (KeyLineage.apply crates) start = .ok ⟨⟩ after := by
  induction records generalizing start with
  | nil =>
    obtain rfl : start = after := Except.ok.inj h
    rfl
  | cons r records ih =>
    obtain ⟨haccepts, hrest⟩ := KeyLineage.replay_cons_eq_ok_iff.mp h
    rw [List.forM_cons]
    exact bind_eq_ok_iff.mpr ⟨(), start.extend r, KeyLineage.apply_of_accepts haccepts, ih hrest⟩

/-- A replica that holds the first lineage follows every one that grew out of it. -/
theorem grown_followed (hfirst : first.Valid crates) (h : KeyLineage.Grown crates first lineage) :
    forM lineage.rotations (KeyLineage.apply crates) first = .ok ⟨⟩ lineage := by
  have hstart : first.start.Valid crates := KeyLineage.inception_valid hfirst.inception_eq
  refine KeyLineage.Grown.forM_catches_up hstart ?_ ⟨rfl, List.nil_prefix, hfirst⟩ h.rotations
  rw [← h.start]
  exact forM_of_replay h.valid.replay_eq

end Steps

/-- A validator's id survives. However often its keys are rotated, its process
    crashes and is restarted with the kept lineage, or the kept lineage is recovered
    to a committed key: the process is down, or it runs under its first id with the
    current keys of a lineage that grew out of the first one, and so did the kept
    lineage. A peer that still holds the first lineage follows both. -/
theorem id_survives_custody (hlengths : crates.KeyLengths) (validator : Validator crates)
    (hstart : Initializes .fresh validator.state)
    (hkept : gossip_get_key_lineage validator.state = .ok validator.kept validator.state)
    {steps : List (CustodyStep crates)} (hid : ∀ step ∈ steps, step.changesId = false) :
    ∃ first kept, validator.state.lineage = some first ∧ kept.encode = .ok (validator.run steps).kept ∧
      forM kept.rotations (KeyLineage.apply crates) first = .ok ⟨⟩ kept ∧
      ((validator.run steps).state = .fresh ∨ ∃ engine lineage,
        (validator.run steps).state = ⟨some engine, some lineage⟩ ∧ engine.identity.node_id = first.node_id ∧
          HoldsCurrent engine.identity lineage ∧
          forM lineage.rotations (KeyLineage.apply crates) first = .ok ⟨⟩ lineage) := by
  obtain ⟨state, bytes⟩ := validator
  obtain ⟨engine, first, rfl, hcoherent⟩ := hstart.running
  have hvalid := hcoherent.reachable.valid
  have hencode : first.encode = .ok bytes := gossip_get_key_lineage_eq_ok hkept
  have hcustody : Validator.Custody first (⟨⟨some engine, some first⟩, bytes⟩ : Validator crates) :=
    ⟨.inr ⟨engine, first, rfl, hcoherent, .refl hvalid⟩, first, hencode, .refl hvalid⟩
  obtain ⟨hserves, kept, hencoded, hgrown⟩ := hcustody.run hlengths hid
  refine ⟨first, kept, rfl, hencoded, grown_followed hvalid hgrown, hserves.imp_right ?_⟩
  rintro ⟨engine', lineage, hstate, hcoherent', hgrown'⟩
  refine ⟨engine', lineage, hstate, ?_, ⟨hcoherent'.sig_public_key.symm, hcoherent'.kem_public_key⟩,
    grown_followed hvalid hgrown'⟩
  rw [← hcoherent'.node_id, hgrown'.node_id_eq]

namespace reference

/-- Node 1, rotated to the keys of node 2, starts again from the lineage that it
    returned. -/
theorem restarts_rotated {engine : GossipEngine reference.crates} {lineage : KeyLineage} {lineage_bytes : Bytes}
    {env : GossipEnvelope} (h : Rotated engine lineage lineage_bytes env) :
    ∃ restarted, gossip_init_with_lineage (hex.encodeString [2]) lineage_bytes (.fresh : ApiState reference.crates) =
      .ok () ⟨some restarted, some lineage⟩ := by
  have hrestores : Restores reference.crates (hex.encodeString [2]) (reference.resolved 2)
      (reference.nodeAt 2 ephemeralRuntime) :=
    ⟨reference.config 2, _, _, reference.from_json_text 2, reference.resolve_config 2, rfl, rfl,
      reference.from_seeds_eq 2 _⟩
  exact ⟨_, gossip_init_with_lineage_eq_ok_iff.mpr ⟨rfl, _, _, lineage, hrestores, h.decode, h.current, rfl⟩⟩

def restartSteps : List (CustodyStep reference.crates) :=
  [.call (.gossip_rotate_keys_under_id (reference.kemSeed 2) (reference.sigSeed 2) ephemeralRuntime none 0),
    .restart (hex.encodeString [2])]

end reference

/-- Node 1 rotates to the keys of node 2 and is restarted on them: it runs again, under
    its first id. -/
theorem id_survives_custody_reference :
    ∃ (validator : Validator reference.crates) (first : KeyLineage), Initializes .fresh validator.state ∧
      validator.state.lineage = some first ∧
      ∃ kept, kept.encode = .ok (validator.run reference.restartSteps).kept ∧
        forM kept.rotations (KeyLineage.apply reference.crates) first = .ok ⟨⟩ kept ∧
        ∃ engine lineage, (validator.run reference.restartSteps).state = ⟨some engine, some lineage⟩ ∧
          engine.identity.node_id = first.node_id := by
  have hinit : Initializes .fresh (reference.started 1) := .inl ⟨_, _, _, reference.init_started 1⟩
  have hid : ∀ step ∈ reference.restartSteps, step.changesId = false := by
    intro step hmem
    rcases List.mem_cons.mp hmem with rfl | hmem
    · rfl
    · obtain rfl := List.mem_singleton.mp hmem
      rfl
  obtain ⟨first, kept, hfirst, hencode, hfollowed, hserves⟩ := id_survives_custody reference.keyLengths
    ⟨reference.started 1, LineageWire.codec.encode (reference.startLineage 1).wire⟩ hinit rfl hid
  obtain ⟨engine, lineage, lineage_bytes, env, h⟩ := reference.exists_rotated
  obtain ⟨restarted, hrestart⟩ := reference.restarts_rotated h
  have hstate : (Validator.run ⟨reference.started 1, LineageWire.codec.encode (reference.startLineage 1).wire⟩
      reference.restartSteps).state = ⟨some restarted, some lineage⟩ := by
    unfold Validator.run reference.restartSteps
    rw [List.foldl_cons, Validator.step_rotation h.rotated, List.foldl_cons, List.foldl_nil]
    unfold Validator.step
    dsimp only
    rw [hrestart, final_ok]
  rcases hserves with hdown | ⟨running, held, hrunning, hnode, _⟩
  · rw [hstate] at hdown
    cases hdown
  · exact ⟨_, first, hinit, hfirst, kept, hencode, hfollowed, running, held, hrunning, hnode⟩

end witan.api
