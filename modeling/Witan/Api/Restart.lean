import Witan.Api.Atomicity
import Witan.Api.Coherence
import Witan.Rotation.RoundTrip

open bincode fallible
open witan.types witan.error witan.identity witan.config witan.rotation witan.gossip

namespace witan.api

variable {crates : Crates}

/-- A fresh process restarts from the bytes: they decode to the lineage and, with a
    configuration that carries the seeds of its current keys, the component
    initializes and runs under the lineage's id. -/
def Restarts (crates : Crates) (lineage : KeyLineage) (lineage_bytes : Bytes) : Prop :=
  KeyLineage.decode crates lineage_bytes = .ok lineage ∧
    ∀ config_json resolved identity, Restores crates config_json resolved identity →
      HoldsCurrent identity lineage →
      ∃ engine : GossipEngine crates,
        gossip_init_with_lineage config_json lineage_bytes .fresh = .ok () ⟨some engine, some lineage⟩ ∧
        engine.identity.node_id = lineage.node_id

variable {engine : GossipEngine crates} {lineage : KeyLineage} {state : ApiState crates}

/-- A restart works exactly if the decoder takes the bytes. -/
theorem restarts_iff (hvalid : lineage.Valid crates) {bytes : Bytes} (hencode : lineage.encode = .ok bytes) :
    Restarts crates lineage bytes ↔ lineage.size ≤ MAX_LINEAGE_BYTES := by
  constructor
  · rintro ⟨hdecode, _⟩
    exact (hvalid.decode_iff hencode).mp hdecode
  · intro hsize
    have hdecode := (hvalid.decode_iff hencode).mpr hsize
    refine ⟨hdecode, ?_⟩
    intro config_json resolved identity hrestores hcurrent
    refine ⟨.new resolved { identity with node_id := lineage.node_id }, ?_, rfl⟩
    exact gossip_init_with_lineage_eq_ok_iff.mpr
      ⟨rfl, resolved, identity, lineage, hrestores, hdecode, hcurrent, rfl⟩

section Calls

variable {kem_seed sig_seed : Bytes} {key_epoch : Str} {next_key_commitment : Option Bytes} {now_ms : UInt64}
  {bytes : Bytes}

theorem identity_from_seed_bytes_key_epoch {identity : NodeIdentity crates}
    (h : identity_from_seed_bytes crates kem_seed sig_seed key_epoch = .ok identity) :
    identity.key_epoch = key_epoch := by
  unfold identity_from_seed_bytes NodeIdentity.from_seeds at h
  simp only [except_bind_eq_ok_iff] at h
  obtain ⟨_, _, _, _, _, _, _, _, hkeypairs⟩ := h
  obtain ⟨_, _, rfl⟩ := NodeIdentity.of_keypairs_eq_ok_iff.mp hkeypairs
  rfl

theorem parse_commitment_isSome {commitment : Option Bytes32}
    (h : parse_commitment next_key_commitment = .ok commitment) :
    commitment.isSome = next_key_commitment.isSome := by
  unfold parse_commitment at h
  split at h
  · cases h
    rfl
  · split at h
    · cases h
      rfl
    · cases h

/-- What a rotation under the id went through. -/
theorem gossip_rotate_keys_under_id_eq_ok_iff {after : ApiState crates} :
    gossip_rotate_keys_under_id kem_seed sig_seed key_epoch next_key_commitment now_ms
        ⟨some engine, some lineage⟩ = .ok bytes after ↔
      ∃ next commitment r engine' updated,
        identity_from_seed_bytes crates kem_seed sig_seed key_epoch = .ok next ∧
        parse_commitment next_key_commitment = .ok commitment ∧
        GossipEngine.rotate_keys_under_id next commitment now_ms (engine, lineage) = .ok r (engine', updated) ∧
        updated.encode = .ok bytes ∧ after = ⟨some engine', some updated⟩ := by
  unfold gossip_rotate_keys_under_id
  simp only [attempt_bind_eq_ok_iff, with_engine_eq_ok_iff, get_bind, orFail_eq_ok_iff,
    bind_eq_ok_iff (x := onEngine _), modify_bind, pure_apply, EStateM.Result.ok.injEq]
  constructor
  · rintro ⟨next, hnext, commitment, hcommitment, new, ⟨stored, hstored, updated, middle, hrotate, encoded, hencode,
      rfl, rfl⟩, rfl⟩
    obtain rfl : lineage = stored := Option.some.inj hstored
    obtain ⟨engine', hcopy, rfl⟩ := onPart_eq_ok_iff.mp hrotate
    obtain ⟨r, hrotated⟩ := onCopy_eq_ok_iff.mp hcopy
    exact ⟨next, commitment, r, engine', updated, hnext, hcommitment, hrotated, hencode, rfl⟩
  · rintro ⟨next, commitment, r, engine', updated, hnext, hcommitment, hrotated, hencode, rfl⟩
    exact ⟨next, hnext, commitment, hcommitment, _, ⟨lineage, rfl, updated, _,
      onPart_eq_ok_iff.mpr ⟨engine', onCopy_eq_ok_iff.mpr ⟨r, hrotated⟩, rfl⟩, bytes, hencode, rfl, rfl⟩, rfl⟩

/-- What a rotation returns is the encoding of the lineage that it stores, and its
    size can be told beforehand. -/
theorem Coherent.rotate_updated (hsignatures : crates.SignatureLengths) (h : Coherent engine lineage)
    {after : ApiState crates}
    (hrotate : gossip_rotate_keys_under_id kem_seed sig_seed key_epoch next_key_commitment now_ms
      ⟨some engine, some lineage⟩ = .ok bytes after) :
    ∃ updated, after.lineage = some updated ∧ updated.node_id = engine.identity.node_id ∧
      updated.Valid crates ∧ updated.encode = .ok bytes ∧
      updated.size = lineage.size + lineage.nextRecordSize key_epoch next_key_commitment.isSome := by
  obtain ⟨next, commitment, r, engine', updated, hnext, hcommitment, hrotated, hencode, rfl⟩ :=
    gossip_rotate_keys_under_id_eq_ok_iff.mp hrotate
  obtain ⟨hid, hlineage, hengine⟩ := rotate_keys_under_id_eq_ok_iff.mp hrotated
  have hvalid := (h.rotated hrotated).reachable.valid
  have hbuild := (KeyLineage.rotate_eq_ok hlineage).2
  have hsize := h.reachable.valid.built_size hsignatures hbuild
  rw [identity_from_seed_bytes_key_epoch hnext, parse_commitment_isSome hcommitment] at hsize
  obtain ⟨_, _, _, _, _, _, _, rfl⟩ := KeyLineage.build_and_apply_eq_ok hbuild
  exact ⟨_, rfl, hid, hvalid, hencode, hsize⟩

/-- The lineage that a rotation returns restarts the node if the old one and the new
    record fit the limit together. -/
theorem Coherent.rotate_restarts_iff (hsignatures : crates.SignatureLengths) (h : Coherent engine lineage)
    {after : ApiState crates}
    (hrotate : gossip_rotate_keys_under_id kem_seed sig_seed key_epoch next_key_commitment now_ms
      ⟨some engine, some lineage⟩ = .ok bytes after) :
    ∃ updated, after.lineage = some updated ∧ updated.node_id = engine.identity.node_id ∧
      (Restarts crates updated bytes ↔
        lineage.size + lineage.nextRecordSize key_epoch next_key_commitment.isSome ≤ MAX_LINEAGE_BYTES) := by
  obtain ⟨updated, hafter, hid, hvalid, hencode, hsize⟩ := h.rotate_updated hsignatures hrotate
  refine ⟨updated, hafter, hid, ?_⟩
  rw [restarts_iff hvalid hencode, hsize]

/-- A rotation under the id leaves the node with the keys that it was given. -/
theorem HoldsCurrent.rotated {next : NodeIdentity crates} {commitment : Option Bytes32} {now_ms : UInt64}
    {r : KeyRotation} {engine' : GossipEngine crates} {lineage' : KeyLineage} (h : Coherent engine lineage)
    (hrotate : GossipEngine.rotate_keys_under_id next commitment now_ms (engine, lineage) =
      .ok r (engine', lineage')) : HoldsCurrent next lineage' := by
  have hcoherent := h.rotated hrotate
  obtain ⟨_, _, rfl⟩ := rotate_keys_under_id_eq_ok_iff.mp hrotate
  exact ⟨hcoherent.sig_public_key.symm, hcoherent.kem_public_key⟩

/-- Without a commitment in force, a node rotates to whatever keys it is given. -/
theorem Coherent.rotate_succeeds (hcorrect : crates.SignatureCorrect) (hlengths : crates.KeyLengths)
    (h : Coherent engine lineage) (hcommitment : lineage.current.next_key_commitment = none)
    (hroom : lineage.current.sequence.toNat + 1 < 2 ^ 64) {next : NodeIdentity crates}
    (hnext : identity_from_seed_bytes crates kem_seed sig_seed key_epoch = .ok next) :
    ∃ bytes after, gossip_rotate_keys_under_id kem_seed sig_seed key_epoch none now_ms
      ⟨some engine, some lineage⟩ = .ok bytes after := by
  obtain ⟨r, hrotate⟩ := KeyLineage.rotate_succeeds hcorrect hlengths h.sig_public_key.symm
    (fun value hvalue => absurd (hcommitment.symm.trans hvalue) (Option.some_ne_none value).symm) hroom none now_ms
  exact ⟨_, _, gossip_rotate_keys_under_id_eq_ok_iff.mpr ⟨next, none, r, _, _, hnext, rfl,
    rotate_keys_under_id_eq_ok_iff.mpr ⟨h.node_id, hrotate, rfl⟩, rfl, rfl⟩⟩

/-- Likewise for a recovery, where the old lineage is the one that was passed in. -/
theorem recover_restarts_iff (hsignatures : crates.SignatureLengths) {lineage_bytes : Bytes}
    (hrecover : gossip_recover_lineage crates lineage_bytes kem_seed sig_seed key_epoch next_key_commitment now_ms =
      .ok bytes) :
    ∃ prior extended, KeyLineage.decode crates lineage_bytes = .ok prior ∧ extended.node_id = prior.node_id ∧
      (Restarts crates extended bytes ↔ lineage_bytes.length +
        prior.nextRecordSize key_epoch next_key_commitment.isSome ≤ MAX_LINEAGE_BYTES) := by
  unfold gossip_recover_lineage at hrecover
  simp only [except_bind_eq_ok_iff] at hrecover
  obtain ⟨prior, hdecode, next, hnext, commitment, hcommitment, hencode⟩ := hrecover
  split at hencode
  · next r extended hrecovered =>
    have hprior : prior.Reachable crates := .decode hdecode
    have hvalid := (hprior.recover next commitment now_ms).valid
    rw [hrecovered, final_ok] at hvalid
    have hbuild := (KeyLineage.recover_eq_ok hrecovered).2
    have hsize := hprior.valid.built_size hsignatures hbuild
    rw [identity_from_seed_bytes_key_epoch hnext, parse_commitment_isSome hcommitment,
      ← hprior.valid.encode_length (KeyLineage.encode_decode hdecode)] at hsize
    obtain ⟨_, _, _, _, _, _, _, rfl⟩ := KeyLineage.build_and_apply_eq_ok hbuild
    refine ⟨prior, prior.extend r, hdecode, rfl, ?_⟩
    rw [restarts_iff hvalid hencode, hsize]
  · cases hencode

theorem Coherent.get_restarts_iff (h : Coherent engine lineage) {after : ApiState crates}
    (hget : gossip_get_key_lineage ⟨some engine, some lineage⟩ = .ok bytes after) :
    Restarts crates lineage bytes ↔ lineage.size ≤ MAX_LINEAGE_BYTES := by
  unfold gossip_get_key_lineage with_lineage at hget
  obtain ⟨_, hanswer, _⟩ := onPart_eq_ok_iff.mp hget
  simp only [get_bind, attempt_bind_eq_ok_iff, orFail_eq_ok_iff, attempt_eq_ok_iff] at hanswer
  obtain ⟨stored, hstored, hencode, _⟩ := hanswer
  obtain rfl : lineage = stored := Option.some.inj hstored
  exact restarts_iff h.reachable.valid hencode

end Calls

theorem with_engine_fresh {α : Type} {f : EStateM GossipError (GossipEngine crates × Option KeyLineage) α} :
    Leaves (with_engine f) .fresh (· = .fresh) := rfl

/-- Until it is initialized, the component stores nothing. -/
theorem fresh_run (call : ApiCall crates) : call.run .fresh = .fresh ∨ Running (call.run .fresh) := by
  have hstart {x : EStateM GossipError (ApiState crates) Unit}
      (hok : ∀ value after, x .fresh = .ok value after → Running after)
      (hfails : FailsIn x .fresh (· = .fresh)) : Leaves x .fresh fun after => after = .fresh ∨ Running after :=
    .of_cases (fun value after h => .inr (hok value after h)) fun error after h => .inl (hfails error after h)
  cases call with
  | gossip_init config_json kem_rng sig_rng =>
    exact hstart (fun _ after h => Initializes.running (.inl ⟨_, _, _, h⟩)) gossip_init_failsIn
  | gossip_init_with_lineage config_json lineage_bytes =>
    exact hstart (fun _ after h => Initializes.running (.inr ⟨_, _, h⟩)) gossip_init_with_lineage_failsIn
  | gossip_rotate_keys_under_id kem_seed sig_seed key_epoch next_key_commitment now_ms =>
    have hunchanged : Leaves (gossip_rotate_keys_under_id kem_seed sig_seed key_epoch next_key_commitment now_ms)
        (.fresh : ApiState crates) (· = .fresh) := by
      unfold gossip_rotate_keys_under_id
      exact .attempt_bind rfl fun _ _ => .attempt_bind rfl fun _ _ => with_engine_fresh
    exact .inl hunchanged
  | gossip_verify_envelope_from_lineage envelope_bytes lineage_bytes now_ms =>
    have hunchanged : Leaves (gossip_verify_envelope_from_lineage envelope_bytes lineage_bytes now_ms)
        (.fresh : ApiState crates) (· = .fresh) := by
      unfold gossip_verify_envelope_from_lineage
      exact .attempt_bind rfl fun _ _ => with_engine_fresh
    exact .inl hunchanged
  | _ => exact .inl rfl

/-- In every run the component is uninitialized or coherent. -/
theorem run_fresh_or_running (hlengths : crates.KeyLengths) (calls : List (ApiCall crates)) :
    ApiCall.runAll calls .fresh = .fresh ∨ Running (ApiCall.runAll calls .fresh) := by
  induction calls with
  | nil => exact .inl rfl
  | cons call calls ih =>
    rcases fresh_run call with hsame | hrunning
    · rw [show ApiCall.runAll (call :: calls) .fresh = ApiCall.runAll calls (call.run .fresh) from rfl, hsame]
      exact ih
    · exact .inr (hrunning.runAll hlengths calls)

/-- When a rotated node can restart. In every run, a lineage that the API returns
    restarts the node exactly if it fits the decoder's limit: what was stored or
    passed in, plus the new record. -/
theorem rotated_node_restarts_iff (hlengths : crates.KeyLengths) (hsignatures : crates.SignatureLengths)
    (calls : List (ApiCall crates)) :
    (∀ kem_seed sig_seed key_epoch next_key_commitment now_ms bytes after,
      gossip_rotate_keys_under_id kem_seed sig_seed key_epoch next_key_commitment now_ms
          (ApiCall.runAll calls .fresh) = .ok bytes after →
        ∃ engine lineage updated, ApiCall.runAll calls .fresh = ⟨some engine, some lineage⟩ ∧
          after.lineage = some updated ∧ updated.node_id = engine.identity.node_id ∧
          (Restarts crates updated bytes ↔
            lineage.size + lineage.nextRecordSize key_epoch next_key_commitment.isSome ≤ MAX_LINEAGE_BYTES)) ∧
    (∀ lineage_bytes kem_seed sig_seed key_epoch next_key_commitment now_ms bytes,
      gossip_recover_lineage crates lineage_bytes kem_seed sig_seed key_epoch next_key_commitment now_ms =
          .ok bytes →
        ∃ prior extended, KeyLineage.decode crates lineage_bytes = .ok prior ∧ extended.node_id = prior.node_id ∧
          (Restarts crates extended bytes ↔ lineage_bytes.length +
            prior.nextRecordSize key_epoch next_key_commitment.isSome ≤ MAX_LINEAGE_BYTES)) ∧
    (∀ bytes after, gossip_get_key_lineage (ApiCall.runAll calls .fresh) = .ok bytes after →
      ∃ engine lineage, ApiCall.runAll calls .fresh = ⟨some engine, some lineage⟩ ∧
        lineage.node_id = engine.identity.node_id ∧
        (Restarts crates lineage bytes ↔ lineage.size ≤ MAX_LINEAGE_BYTES)) := by
  have hreached := run_fresh_or_running hlengths calls
  refine ⟨?_, ?_, ?_⟩
  · intro kem_seed sig_seed key_epoch next_key_commitment now_ms bytes after hrotate
    rcases hreached with hfresh | ⟨engine, lineage, hstate, hcoherent⟩
    · rw [hfresh] at hrotate
      unfold gossip_rotate_keys_under_id at hrotate
      simp only [attempt_bind_eq_ok_iff] at hrotate
      obtain ⟨_, _, _, _, huninitialized⟩ := hrotate
      cases huninitialized
    · rw [hstate] at hrotate
      obtain ⟨updated, hafter, hid, hiff⟩ := hcoherent.rotate_restarts_iff hsignatures hrotate
      exact ⟨engine, lineage, updated, hstate, hafter, hid, hiff⟩
  · intro lineage_bytes kem_seed sig_seed key_epoch next_key_commitment now_ms bytes hrecover
    exact recover_restarts_iff hsignatures hrecover
  · intro bytes after hget
    rcases hreached with hfresh | ⟨engine, lineage, hstate, hcoherent⟩
    · rw [hfresh] at hget
      cases hget
    · rw [hstate] at hget
      exact ⟨engine, lineage, hstate, hcoherent.node_id, hcoherent.get_restarts_iff hget⟩

/-! A started node rotates to the keys of node 2, with a label of any length. -/

namespace reference

def startCalls : List (ApiCall reference.crates) := [.gossip_init (hex.encodeString [1]) (0 : UInt8) (0 : UInt8)]

theorem runAll_startCalls : ApiCall.runAll startCalls .fresh = started 1 := by
  unfold startCalls ApiCall.runAll
  rw [List.foldl_cons, List.foldl_nil]
  unfold ApiCall.run
  dsimp only
  rw [init_started, final_ok]

theorem identity_from_seeds (key : UInt8) (key_epoch : Str) :
    identity_from_seed_bytes reference.crates (reference.kemSeed key) (reference.sigSeed key) key_epoch =
      .ok (reference.nodeAt key key_epoch) := by
  unfold identity_from_seed_bytes
  simp only [except_bind_eq_ok_iff, failIf_eq_ok_iff, not_not, exists_const]
  exact ⟨List.length_replicate, List.length_replicate, reference.from_seeds_eq key key_epoch⟩

theorem rotates (key_epoch : Str) :
    ∃ bytes after, gossip_rotate_keys_under_id (reference.kemSeed 2) (reference.sigSeed 2) key_epoch none 0
      (started 1) = .ok bytes after := by
  have hroom : (startLineage 1).current.sequence.toNat + 1 < 2 ^ 64 := by
    change 0 + 1 < 2 ^ 64
    decide
  exact (start_coherent 1).rotate_succeeds reference.signatureCorrect reference.keyLengths rfl hroom
    (identity_from_seeds 2 key_epoch)

theorem exists_label (n : Nat) (h : 2 * n < 2 ^ 64) : ∃ label : Str, label.bytes.val.length = 2 * n := by
  refine ⟨reference.text (List.replicate n 0) (by rw [List.length_replicate]; exact h), ?_⟩
  rw [reference.text_bytes_length, List.length_replicate]

end reference

/-- With a label of six million bytes, the rotation succeeds, but no process can read
    the lineage it returns. -/
theorem long_label_does_not_restart :
    ¬ ∀ (calls : List (ApiCall reference.crates)) (kem_seed sig_seed : Bytes) (key_epoch : Str)
      (next_key_commitment : Option Bytes) (now_ms : UInt64) (bytes : Bytes) (after : ApiState reference.crates),
      gossip_rotate_keys_under_id kem_seed sig_seed key_epoch next_key_commitment now_ms
          (ApiCall.runAll calls .fresh) = .ok bytes after →
        ∃ lineage, KeyLineage.decode reference.crates bytes = .ok lineage := by
  intro hclaim
  obtain ⟨label, hlabel⟩ := reference.exists_label 3000000 (by decide)
  obtain ⟨bytes, after, hrotate⟩ := reference.rotates label
  obtain ⟨lineage, hdecode⟩ := hclaim reference.startCalls _ _ label none 0 bytes after
    (by rw [reference.runAll_startCalls]; exact hrotate)
  obtain ⟨updated, _, _, hvalid, hencode, hsize⟩ :=
    (reference.start_coherent 1).rotate_updated reference.signatureLengths hrotate
  have hlimit := (KeyLineage.decode_eq_ok_iff.mp hdecode).1
  have hmax : MAX_LINEAGE_BYTES = 4194304 := rfl
  rw [hvalid.encode_length hencode, hsize, KeyLineage.nextRecordSize, hlabel, hmax] at hlimit
  omega

theorem rotated_node_restarts_iff_reference :
    ∃ bytes after updated, gossip_rotate_keys_under_id (reference.kemSeed 2) (reference.sigSeed 2)
        ⟨"1", by decide⟩ none 0 (ApiCall.runAll reference.startCalls .fresh) = .ok bytes after ∧
      after.lineage = some updated ∧ Restarts reference.crates updated bytes := by
  obtain ⟨bytes, after, hrotate⟩ := reference.rotates ⟨"1", by decide⟩
  rw [← reference.runAll_startCalls] at hrotate
  obtain ⟨engine, lineage, updated, hstate, hafter, _, hiff⟩ := (rotated_node_restarts_iff reference.keyLengths
    reference.signatureLengths reference.startCalls).1 _ _ _ _ _ _ _ hrotate
  refine ⟨bytes, after, updated, hrotate, hafter, hiff.mpr ?_⟩
  rw [reference.runAll_startCalls] at hstate
  obtain rfl : reference.startLineage 1 = lineage := Option.some.inj (congrArg ApiState.lineage hstate)
  decide +kernel

end witan.api
