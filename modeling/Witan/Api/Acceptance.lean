import Witan.Api.Pinned
import Witan.Gossip.Acceptance
import Witan.Rotation.RoundTrip

open bincode fallible
open witan.types witan.error witan.identity witan.config witan.rotation witan.gossip

namespace witan.api

variable {crates : Crates} {engine : GossipEngine crates} {lineage : KeyLineage}

/-- What the component encodes is signed with the engine's identity. -/
theorem gossip_encode_envelope_eq_ok {payload_type : UInt8} {payload : ByteVec} {sent_ms : UInt64} {bytes : Bytes}
    {after : ApiState crates}
    (h : gossip_encode_envelope payload_type payload sent_ms ⟨some engine, some lineage⟩ = .ok bytes after) :
    ∃ kind env, envelope.build_envelope kind payload engine.identity engine.config.default_ttl sent_ms = .ok env ∧
      bytes = GossipEnvelope.codec.encode env := by
  obtain ⟨new, hengine, _⟩ := with_engine_eq_ok_iff.mp h
  obtain ⟨_, hrun, _⟩ := onPart_eq_ok_iff.mp hengine
  obtain ⟨kind, env, _, hbuild, hbytes, _⟩ := encode_envelope_eq_ok_iff.mp hrun
  exact ⟨kind, env, hbuild, hbytes⟩

theorem gossip_get_key_lineage_eq_ok {lineage_bytes : Bytes} {after : ApiState crates}
    (h : gossip_get_key_lineage ⟨some engine, some lineage⟩ = .ok lineage_bytes after) :
    lineage.encode = .ok lineage_bytes := by
  unfold gossip_get_key_lineage with_lineage at h
  obtain ⟨_, hanswer, _⟩ := onPart_eq_ok_iff.mp h
  simp only [get_bind, attempt_bind_eq_ok_iff, orFail_eq_ok_iff, attempt_eq_ok_iff] at hanswer
  obtain ⟨stored, hstored, hencode, _⟩ := hanswer
  obtain rfl : lineage = stored := Option.some.inj hstored
  exact hencode

theorem gossip_get_key_lineage_of_encode {lineage_bytes : Bytes} (h : lineage.encode = .ok lineage_bytes) :
    gossip_get_key_lineage ⟨some engine, some lineage⟩ = .ok lineage_bytes ⟨some engine, some lineage⟩ := by
  obtain rfl : LineageWire.codec.encode lineage.wire = lineage_bytes := Except.ok.inj h
  rfl

/-- The decoder takes the encoding of a valid lineage exactly if it is small enough,
    and then it gives the lineage. -/
theorem decode_encoded_iff {lineage_bytes : Bytes} {decoded : KeyLineage} (hvalid : lineage.Valid crates)
    (hencode : lineage.encode = .ok lineage_bytes) :
    KeyLineage.decode crates lineage_bytes = .ok decoded ↔
      lineage_bytes.length ≤ MAX_LINEAGE_BYTES ∧ decoded = lineage := by
  constructor
  · intro hdecode
    have hsize := (KeyLineage.decode_eq_ok_iff.mp hdecode).1
    exact ⟨hsize, Except.ok.inj (hdecode.symm.trans (hvalid.decode_encode hencode hsize))⟩
  · rintro ⟨hsize, rfl⟩
    exact hvalid.decode_encode hencode hsize

/-- Who accepts what. An envelope that one node encodes passes under the lineage that
    another run returned exactly if both have the same id and the same signing key at
    these points, the lineage fits the decoder's limit, and the envelope is within the
    limits: the sender's hops, the verifier's window and size. So an envelope from
    before a rotation fails under the lineage from after it, one from after it fails
    under the stale lineage, and no other verifier state matters. -/
theorem envelope_passes_under_lineage_iff (hcorrect : crates.SignatureCorrect) (hlengths : crates.KeyLengths)
    {signer_start holder_start : ApiState crates} (hsigner : Initializes .fresh signer_start)
    (hholder : Initializes .fresh holder_start) (signer_calls holder_calls : List (ApiCall crates))
    {payload_type : UInt8} {payload : ByteVec} {sent_ms : UInt64} {bytes lineage_bytes : Bytes}
    {encoded returned : ApiState crates}
    (hencode : gossip_encode_envelope payload_type payload sent_ms (ApiCall.runAll signer_calls signer_start) =
      .ok bytes encoded)
    (hlineage : gossip_get_key_lineage (ApiCall.runAll holder_calls holder_start) = .ok lineage_bytes returned) :
    ∃ signer holder, (ApiCall.runAll signer_calls signer_start).gossip_state = some signer ∧
      (ApiCall.runAll holder_calls holder_start).gossip_state = some holder ∧
      ∀ (verifier : GossipEngine crates) (stored : Option KeyLineage) (now_ms : UInt64),
        (∃ after, gossip_verify_envelope_from_lineage bytes lineage_bytes now_ms ⟨some verifier, stored⟩ =
            .ok true after) ↔
          signer.identity.node_id = holder.identity.node_id ∧
            signer.identity.sig_public_key_bytes = holder.identity.sig_public_key_bytes ∧
            lineage_bytes.length ≤ MAX_LINEAGE_BYTES ∧
            now_ms.toNat - sent_ms.toNat ≤ verifier.config.replay_window_ms.toNat ∧
            signer.config.default_ttl ≠ 0 ∧ payload.val.length ≤ verifier.config.max_message_bytes := by
  obtain ⟨signer, signer_lineage, hsigner_state, _⟩ := hsigner.running.runAll hlengths signer_calls
  obtain ⟨holder, lineage, hholder_state, hcoherent⟩ := hholder.running.runAll hlengths holder_calls
  rw [hsigner_state] at hencode ⊢
  rw [hholder_state] at hlineage ⊢
  refine ⟨signer, holder, rfl, rfl, fun verifier stored now_ms => ?_⟩
  obtain ⟨kind, env, hbuild, rfl⟩ := gossip_encode_envelope_eq_ok hencode
  have hdecode (decoded : KeyLineage) : KeyLineage.decode crates lineage_bytes = .ok decoded ↔
      lineage_bytes.length ≤ MAX_LINEAGE_BYTES ∧ decoded = lineage :=
    decode_encoded_iff hcoherent.reachable.valid (gossip_get_key_lineage_eq_ok hlineage)
  rw [← build_envelope_verified_iff hcorrect hbuild]
  obtain ⟨signature, _, rfl⟩ := envelope.build_envelope_eq_ok_iff.mp hbuild
  simp only [gossip_verify_envelope_from_lineage_eq_ok_iff, envelope.decode_envelope_encode, Except.ok.injEq,
    hdecode, envelope.verify_envelope_eq_ok_iff]
  constructor
  · rintro ⟨_, _, _, _, _, ⟨hsize, rfl⟩, rfl, hid, hkey, _, hverified⟩
    exact ⟨hid.trans hcoherent.node_id, hkey.trans hcoherent.sig_public_key, hsize, hverified⟩
  · rintro ⟨hid, hkey, hsize, hverified⟩
    exact ⟨_, trivial, rfl, lineage, _, ⟨hsize, rfl⟩, rfl, hid.trans hcoherent.node_id.symm,
      hkey.trans hcoherent.sig_public_key.symm, trivial, hverified⟩

namespace reference

def rotateCalls : List (ApiCall reference.crates) :=
  [.gossip_rotate_keys_under_id (reference.kemSeed 2) (reference.sigSeed 2) ephemeralRuntime none 0]

end reference

/-- Node 2 accepts what node 1 encodes after its rotation under the lineage that node 1
    returns then, but not under the one that node 1 returned before. -/
theorem envelope_passes_under_lineage_reference :
    ∃ bytes lineage_bytes encoded returned,
      gossip_encode_envelope 1 (Vec.ofList [0]) 0 (ApiCall.runAll reference.rotateCalls (reference.started 1)) =
        .ok bytes encoded ∧
      gossip_get_key_lineage (ApiCall.runAll reference.rotateCalls (reference.started 1)) =
        .ok lineage_bytes returned ∧
      (∃ after, gossip_verify_envelope_from_lineage bytes lineage_bytes 0 (reference.started 2) = .ok true after) ∧
      ¬ ∃ after, gossip_verify_envelope_from_lineage bytes (LineageWire.codec.encode (reference.startLineage 1).wire) 0
        (reference.started 2) = .ok true after := by
  have hinit : Initializes .fresh (reference.started 1) := .inl ⟨_, _, _, reference.init_started 1⟩
  obtain ⟨engine, lineage, lineage_bytes, env, h⟩ := reference.exists_rotated
  have hstate : ApiCall.runAll reference.rotateCalls (reference.started 1) = ⟨some engine, some lineage⟩ := by
    unfold reference.rotateCalls ApiCall.runAll
    rw [List.foldl_cons, List.foldl_nil]
    unfold ApiCall.run
    dsimp only
    rw [h.rotated, final_ok]
  have hencode : gossip_encode_envelope 1 (Vec.ofList [0]) 0
      (ApiCall.runAll reference.rotateCalls (reference.started 1)) =
      .ok (GossipEnvelope.codec.encode env) ⟨some engine, some lineage⟩ := by
    rw [hstate]
    exact with_engine_eq_ok_iff.mpr ⟨_, onPart_eq_ok_iff.mpr ⟨_,
      encode_envelope_eq_ok_iff.mpr ⟨.BlockProposal, _, rfl, h.built, rfl, rfl⟩, rfl⟩, rfl⟩
  have hlineage : gossip_get_key_lineage (ApiCall.runAll reference.rotateCalls (reference.started 1)) =
      .ok lineage_bytes ⟨some engine, some lineage⟩ := by
    rw [hstate]
    exact gossip_get_key_lineage_of_encode (KeyLineage.encode_decode h.decode)
  refine ⟨_, _, _, _, hencode, hlineage, ?_, ?_⟩
  · obtain ⟨signer, holder, hsigner, hholder, hpasses⟩ := envelope_passes_under_lineage_iff
      reference.signatureCorrect reference.keyLengths hinit hinit reference.rotateCalls reference.rotateCalls hencode
      hlineage
    obtain rfl : signer = holder := Option.some.inj (hsigner.symm.trans hholder)
    rw [hstate] at hsigner
    obtain rfl : engine = signer := Option.some.inj hsigner
    refine (hpasses (reference.startEngine 2) _ 0).mpr ⟨rfl, rfl, ?_, Nat.zero_le _, ?_, ?_⟩
    · exact (KeyLineage.decode_eq_ok_iff.mp h.decode).1
    · rw [h.config]
      exact show (8 : UInt8) ≠ 0 by decide
    · exact show 1 ≤ 1048576 by decide
  · have hbefore : gossip_get_key_lineage (ApiCall.runAll [] (reference.started 1)) =
        .ok (LineageWire.codec.encode (reference.startLineage 1).wire) (reference.started 1) := rfl
    obtain ⟨signer, holder, hsigner, hholder, hpasses⟩ := envelope_passes_under_lineage_iff
      reference.signatureCorrect reference.keyLengths hinit hinit reference.rotateCalls [] hencode hbefore
    rw [hstate] at hsigner
    obtain rfl : engine = signer := Option.some.inj hsigner
    obtain rfl : reference.startEngine 1 = holder := Option.some.inj hholder
    intro hpassed
    obtain ⟨_, hkey, _⟩ := (hpasses (reference.startEngine 2) _ 0).mp hpassed
    rw [← h.coherent.sig_public_key, ← h.current.sig_public_key] at hkey
    exact reference.sigPublicKey_ne hkey.symm

end witan.api
