import Witan.Handshake.Steps
import Witan.Rotation.Reachability
import Witan.Signing

open bincode fallible
open witan.types witan.error witan.identity witan.envelope witan.rotation witan.handshake

namespace witan.signing

variable {crates : Crates}

/-- The signature that a signing yields. -/
def Signing.sign (self : Signing crates) : Except GossipError ByteVec :=
  self.identity.sign self.input self.purpose.context

/-- The signing, if it yields a signature. -/
def Signing.made (self : Signing crates) : List (Signing crates) :=
  match self.sign with
  | .ok _ => [self]
  | .error _ => []

theorem Signing.mem_made_iff {self other : Signing crates} :
    other ∈ self.made ↔ other = self ∧ ∃ signature, self.sign = .ok signature := by
  unfold Signing.made
  cases hsign : self.sign with
  | ok signature => simp
  | error error => simp

/-- The calls in which a node uses its signing key, with the state they start
    from. -/
inductive HonestCall (crates : Crates) where
  | build_envelope (payload_type : PayloadType) (payload : ByteVec) (identity : NodeIdentity crates)
      (default_ttl : UInt8) (now_ms : UInt64)
  | process_finish_build_finish_ack (self : HandshakeManager) (peer_addr : Str) (finish_bytes : Bytes)
      (identity : NodeIdentity crates) (now_ms : UInt64)
  | build_and_apply (self : KeyLineage) (current : Option (NodeIdentity crates)) (next : NodeIdentity crates)
      (next_key_commitment : Option Bytes32) (now_ms : UInt64)

namespace HonestCall

/-- The signings that a call makes, in order. A signing that fails ends the call. -/
def signings : HonestCall crates → List (Signing crates)
  | .build_envelope payload_type payload identity default_ttl now_ms =>
    (Signing.envelope identity payload_type payload default_ttl now_ms).made
  | .process_finish_build_finish_ack self peer_addr finish_bytes identity now_ms =>
    match HandshakeManager.process_finish_build_finish_ack peer_addr finish_bytes identity now_ms self with
    | .ok (_, session) _ => (Signing.transcript identity session.transcript_hash).made
    | .error _ _ => []
  | .build_and_apply self current next next_key_commitment now_ms =>
    match next.kem_public_key_canonical_bytes with
    | .error _ => []
    | .ok kem =>
      let rotation := self.draft crates kem next.sig_public_key_bytes next.key_epoch next_key_commitment now_ms
      let possession := (Signing.possession next rotation).made
      match self.current.next_key_commitment, current with
      | some _, _ => possession
      | none, some current =>
        let authorization := Signing.authorization current rotation
        match authorization.sign with
        | .ok _ => authorization :: possession
        | .error _ => []
      | none, none => []

/-- The signatures that a call hands out. -/
def released : HonestCall crates → List ByteVec
  | .build_envelope payload_type payload identity default_ttl now_ms =>
    match envelope.build_envelope payload_type payload identity default_ttl now_ms with
    | .ok env => [env.signature]
    | .error _ => []
  | .process_finish_build_finish_ack self peer_addr finish_bytes identity now_ms =>
    match HandshakeManager.process_finish_build_finish_ack peer_addr finish_bytes identity now_ms self with
    | .ok (finish_ack_bytes, _) _ =>
      ((HandshakeFinishAck.codec.decodePrefix finish_ack_bytes).map (·.transcript_signature)).toList
    | .error _ _ => []
  | .build_and_apply self current next next_key_commitment now_ms =>
    match KeyLineage.build_and_apply current next next_key_commitment now_ms self with
    | .ok rotation _ =>
      -- With a commitment in force, the authorization is left empty.
      match self.current.next_key_commitment with
      | some _ => [rotation.possession]
      | none => [rotation.authorization, rotation.possession]
    | .error _ _ => []

theorem released_build_envelope {payload_type : PayloadType} {payload : ByteVec} {identity : NodeIdentity crates}
    {default_ttl : UInt8} {now_ms : UInt64} {signature : ByteVec}
    (h : signature ∈ (HonestCall.build_envelope payload_type payload identity default_ttl now_ms).released) :
    ∃ signing ∈ (HonestCall.build_envelope payload_type payload identity default_ttl now_ms).signings,
      signing.sign = .ok signature := by
  unfold released at h
  cases hbuild : envelope.build_envelope payload_type payload identity default_ttl now_ms with
  | error error =>
    simp only [hbuild] at h
    cases h
  | ok env =>
    simp only [hbuild, List.mem_singleton] at h
    obtain ⟨signature', hsign, rfl⟩ := build_envelope_eq_ok_iff.mp hbuild
    subst h
    exact ⟨_, Signing.mem_made_iff.mpr ⟨rfl, _, hsign⟩, hsign⟩

theorem released_process_finish {self : HandshakeManager} {peer_addr : Str} {finish_bytes : Bytes}
    {identity : NodeIdentity crates} {now_ms : UInt64} {signature : ByteVec}
    (h : signature ∈
      (HonestCall.process_finish_build_finish_ack self peer_addr finish_bytes identity now_ms).released) :
    ∃ signing ∈
        (HonestCall.process_finish_build_finish_ack self peer_addr finish_bytes identity now_ms).signings,
      signing.sign = .ok signature := by
  unfold released at h
  unfold signings
  cases hanswer : HandshakeManager.process_finish_build_finish_ack peer_addr finish_bytes identity now_ms self with
  | error error after =>
    simp only [hanswer] at h
    cases h
  | ok answer after =>
    obtain ⟨finish_ack_bytes, session⟩ := answer
    obtain ⟨_, _, _, transcript_signature, _, _, _, _, hsign, hbytes, hsession, _⟩ :=
      HandshakeManager.process_finish_build_finish_ack_eq_ok_iff.mp hanswer
    simp only [hanswer, hbytes, Codec.decodePrefix_encode_nil, Option.map_some, Option.toList_some,
      List.mem_singleton] at h
    have hmade : (Signing.transcript identity session.transcript_hash).sign = .ok signature := by
      rw [h, hsession]
      exact hsign
    simp only [hanswer]
    exact ⟨_, Signing.mem_made_iff.mpr ⟨rfl, signature, hmade⟩, hmade⟩

theorem released_build_and_apply {self : KeyLineage} {current : Option (NodeIdentity crates)}
    {next : NodeIdentity crates} {next_key_commitment : Option Bytes32} {now_ms : UInt64} {signature : ByteVec}
    (h : signature ∈ (HonestCall.build_and_apply self current next next_key_commitment now_ms).released) :
    ∃ signing ∈ (HonestCall.build_and_apply self current next next_key_commitment now_ms).signings,
      signing.sign = .ok signature := by
  unfold released at h
  unfold signings
  cases hbuild : KeyLineage.build_and_apply current next next_key_commitment now_ms self with
  | error error after =>
    simp only [hbuild] at h
    cases h
  | ok rotation after =>
    obtain ⟨kem, authorization, possession, hkem, rfl, hsigned, _, _⟩ := KeyLineage.build_and_apply_eq_ok hbuild
    have hpossession : (Signing.possession next (self.draft crates kem next.sig_public_key_bytes next.key_epoch
        next_key_commitment now_ms)).sign = .ok possession := hsigned.possession
    have hmade := Signing.mem_made_iff.mpr ⟨rfl, possession, hpossession⟩
    have hauthorization := hsigned.authorization
    simp only [hbuild] at h
    simp only [hkem]
    cases hcommitment : self.current.next_key_commitment with
    | some commitment =>
      simp only [hcommitment, List.mem_singleton] at h
      subst h
      exact ⟨_, hmade, hpossession⟩
    | none =>
      rw [hcommitment] at hauthorization
      cases current with
      | none => cases hauthorization
      | some current =>
        have hauthorized : (Signing.authorization current (self.draft crates kem next.sig_public_key_bytes
            next.key_epoch next_key_commitment now_ms)).sign = .ok authorization := hauthorization
        simp only [hcommitment, List.mem_cons, List.not_mem_nil, or_false] at h
        simp only [hauthorized]
        rcases h with rfl | rfl
        · exact ⟨_, List.mem_cons_self, hauthorized⟩
        · exact ⟨_, List.mem_cons_of_mem _ hmade, hpossession⟩

/-- Every signature that leaves a node was made by one of the signings of the call
    that handed it out. -/
theorem released_made {call : HonestCall crates} {signature : ByteVec} (h : signature ∈ call.released) :
    ∃ signing ∈ call.signings, signing.sign = .ok signature := by
  cases call with
  | build_envelope => exact released_build_envelope h
  | process_finish_build_finish_ack => exact released_process_finish h
  | build_and_apply => exact released_build_and_apply h

end HonestCall

/-- All signings of a history of calls. -/
def signingsOf (calls : List (HonestCall crates)) : List (Signing crates) := calls.flatMap (·.signings)

/-- What a signed purpose and message say about the signing behind them. -/
structure Signing.Covers (signing : Signing crates) (context message : Bytes) : Prop where
  same_context : signing.purpose.context = context
  same_message : signing.input = message
  /-- An envelope: the message id, the payload type and the payload. -/
  envelope : ∀ e, context = SIG_CTX_MESSAGE → message = envelope.signing_input e →
    ∃ identity default_ttl now_ms, signing = .envelope identity e.payload_type e.payload default_ttl now_ms ∧
      e.message_id = compute_message_id crates e.payload_type e.payload.val
  /-- A handshake: the transcript hash. -/
  transcript : ∀ transcript_hash : Bytes32, context = SIG_CTX_HANDSHAKE → message = transcript_hash.val →
    ∃ identity, signing = .transcript identity transcript_hash
  /-- A rotation: every field of the record but the signatures. -/
  authorization : ∀ r : KeyRotation, context = SIG_CTX_KEY_ROTATION → message = r.signing_input →
    ∃ identity signed, signing = .authorization identity signed ∧ signed.unsigned = r.unsigned
  possession : ∀ r : KeyRotation, context = SIG_CTX_KEY_POSSESSION → message = r.signing_input →
    ∃ identity signed, signing = .possession identity signed ∧ signed.unsigned = r.unsigned

/-- A signing is bound to its purpose and its content. -/
theorem Signing.covers (self : Signing crates) : self.Covers self.purpose.context self.input where
  same_context := rfl
  same_message := rfl
  envelope e hcontext hmessage := by
    have hpurpose : self.purpose = .envelope := Purpose.context_injective hcontext
    obtain ⟨identity, payload_type, payload, default_ttl, now_ms, rfl⟩ := Signing.eq_envelope hpurpose
    obtain ⟨hid, htype, hpayload⟩ := signing_input_inj hmessage
    have htype : payload_type = e.payload_type := htype
    have hpayload : payload = e.payload := hpayload
    subst htype hpayload
    exact ⟨identity, default_ttl, now_ms, rfl, hid.symm⟩
  transcript transcript_hash hcontext hmessage := by
    have hpurpose : self.purpose = .transcript := Purpose.context_injective hcontext
    obtain ⟨identity, signed, rfl⟩ := Signing.eq_transcript hpurpose
    have hhash : signed = transcript_hash := Subtype.ext hmessage
    exact ⟨identity, by rw [hhash]⟩
  authorization r hcontext hmessage := by
    have hpurpose : self.purpose = .authorization := Purpose.context_injective hcontext
    obtain ⟨identity, signed, rfl⟩ := Signing.eq_authorization hpurpose
    exact ⟨identity, signed, rfl, KeyRotation.signing_input_inj hmessage⟩
  possession r hcontext hmessage := by
    have hpurpose : self.purpose = .possession := Purpose.context_injective hcontext
    obtain ⟨identity, signed, rfl⟩ := Signing.eq_possession hpurpose
    exact ⟨identity, signed, rfl, KeyRotation.signing_input_inj hmessage⟩

/-- Signatures are bound to one purpose and to the content they cover. A signature
    that `verify_external` accepts, under any key and any context, and that is not
    forged, was made in one of the node's calls under this very context; and what
    it covers is what was signed. -/
theorem accepted_signature_bound (calls : List (HonestCall crates)) {public_key : ByteVec}
    {context message : Bytes} {signature : ByteVec}
    (hunforged : crates.Unforged (signedUnder (signingsOf calls) public_key) public_key (tagged context message)
      signature)
    (haccept : NodeIdentity.verify_external crates public_key message signature context = .ok true) :
    ∃ call ∈ calls, ∃ signing ∈ call.signings, signing.public_key = public_key ∧ signing.Covers context message := by
  obtain ⟨hcontext, hverify⟩ := NodeIdentity.verify_external_eq_true_iff.mp haccept
  obtain ⟨signing, hmem, hkey, hmessage⟩ := hunforged hverify
  obtain ⟨call, hcall, hsigning⟩ := List.mem_flatMap.mp hmem
  obtain ⟨hsame, hinput⟩ := tagged_inj signing.purpose.context_length hcontext hmessage
  refine ⟨call, hcall, signing, hsigning, hkey, ?_⟩
  rw [← hsame, ← hinput]
  exact signing.covers

/-- What a signing yields is accepted under its own key, context and content. -/
theorem Signing.sign_verifies (hcorrect : crates.SignatureCorrect) (self : Signing crates) :
    ∃ signature, self.sign = .ok signature ∧
      NodeIdentity.verify_external crates self.public_key self.input signature self.purpose.context = .ok true :=
  self.identity.sign_verifies hcorrect self.input self.purpose.context self.purpose.context_length

/-- Node 1's envelope for an empty transaction. -/
def emptyTransaction : Signing reference.crates :=
  .envelope (reference.node 1) .Transaction reference.emptyPayload 8 0

/-- Its signature is accepted, and node 1 signed an envelope. -/
theorem accepted_signature_bound_reference :
    ∃ signature, NodeIdentity.verify_external reference.crates emptyTransaction.public_key emptyTransaction.input
        signature emptyTransaction.purpose.context = .ok true ∧
      ∃ call ∈ [HonestCall.build_envelope .Transaction reference.emptyPayload (reference.node 1) 8 0],
        ∃ signing ∈ call.signings, signing.purpose = .envelope := by
  obtain ⟨signature, hsign, hverify⟩ := emptyTransaction.sign_verifies reference.signatureCorrect
  refine ⟨signature, hverify, ?_⟩
  let call := HonestCall.build_envelope .Transaction reference.emptyPayload (reference.node 1) 8 0
  have hmade : emptyTransaction ∈ call.signings := Signing.mem_made_iff.mpr ⟨rfl, signature, hsign⟩
  obtain ⟨_, hcall, signing, hsigning, _, hcovers⟩ := accepted_signature_bound [call]
    (fun _ => ⟨_, List.mem_flatMap.mpr ⟨call, List.mem_cons_self, hmade⟩, rfl, rfl⟩) hverify
  exact ⟨_, hcall, signing, hsigning, Purpose.context_injective hcovers.same_context⟩

end witan.signing
