import Witan.Gossip.Deduplication
import Witan.Reference

open bincode fallible
open witan.types witan.error witan.identity witan.config

namespace witan

/-- The crates with another signing function. -/
def Crates.withSigning (crates : Crates) (sign : crates.MlDsa65Keypair → Bytes → Except String ByteVec) : Crates :=
  { crates with sign_deterministic := sign }

variable {crates : Crates}

/-- The identity with its keys, where signing works by another function. -/
def identity.NodeIdentity.withSigning (self : NodeIdentity crates)
    (sign : crates.MlDsa65Keypair → Bytes → Except String ByteVec) : NodeIdentity (crates.withSigning sign) where
  node_id := self.node_id
  kem_keypair := self.kem_keypair
  sig_keypair := self.sig_keypair
  key_epoch := self.key_epoch

namespace gossip

/-- The engine as it is, where signing works by another function. -/
def GossipEngine.withSigning (self : GossipEngine crates)
    (sign : crates.MlDsa65Keypair → Bytes → Except String ByteVec) : GossipEngine (crates.withSigning sign) where
  config := self.config
  identity := self.identity.withSigning sign
  sessions := self.sessions
  handshakes := self.handshakes
  dedup := self.dedup
  quorum := self.quorum
  stats := self.stats
  mesh_peers := self.mesh_peers

/-- The function signs every message under every key. -/
def SigningWorks (sign : crates.MlDsa65Keypair → Bytes → Except String ByteVec) : Prop :=
  ∀ keypair message, ∃ signature, sign keypair message = .ok signature

/-- What a failed publish leaves where it does not consume its message: the cache
    after the eviction, the statistics, and a message that can be published at once
    when the signing works. -/
structure Unconsumed (before after : GossipEngine crates) (payload_type : UInt8) (payload : ByteVec)
    (now_ms : UInt64) : Prop where
  dedup : after.dedup = before.dedup.evict_expired now_ms
  stats : after.stats = before.stats
  retry : ∀ sign : crates.MlDsa65Keypair → Bytes → Except String ByteVec, SigningWorks sign →
    ∃ message_id later,
      GossipEngine.publish payload_type payload now_ms (after.withSigning sign) = .ok message_id later

/-- A publish that fails, but not on a duplicate, does not consume its message. -/
def FailsUnconsumed (engine : GossipEngine crates) (payload_type : UInt8) (payload : ByteVec)
    (now_ms : UInt64) : Prop :=
  ∀ error after, GossipEngine.publish payload_type payload now_ms engine = .error error after →
    error ≠ duplicateMessage → Unconsumed engine after payload_type payload now_ms

open GossipEngine

section Publish

variable {engine after : GossipEngine crates} {payload_type : UInt8} {payload : ByteVec} {now_ms : UInt64}
  {kind : PayloadType}

/-- A retry that succeeds shows that the message passes the checks. -/
theorem Unconsumed.checked (h : Unconsumed engine after payload_type payload now_ms) :
    ∃ sign message_id later, publish payload_type payload now_ms (after.withSigning sign) = .ok message_id later ∧
      checkedId crates after.config payload_type payload = some message_id := by
  have hworks : SigningWorks fun (_ : crates.MlDsa65Keypair) _ => .ok (Vec.ofList []) := fun _ _ => ⟨_, rfl⟩
  obtain ⟨message_id, later, hretry⟩ := h.retry _ hworks
  have hchecked := checkedId_of_publish hretry
  exact ⟨_, message_id, later, hretry, hchecked⟩

/-- A message that is not signed stays in the cache, and is a duplicate from then on,
    whoever signs. -/
theorem publish_unsigned {error : GossipError} (hkind : PayloadType.from_u8 payload_type = some kind)
    (hsize : payload.val.length ≤ engine.config.max_message_bytes)
    (hnew : envelope.compute_message_id crates kind payload.val ∉ (engine.dedup.evict_expired now_ms).entries)
    (hbuild : envelope.build_envelope kind payload engine.identity engine.config.default_ttl now_ms = .error error) :
    ∃ after, publish payload_type payload now_ms engine = .error error after ∧
      ∀ sign, ∃ later,
        publish payload_type payload now_ms (after.withSigning sign) = .error duplicateMessage later := by
  let message_id := envelope.compute_message_id crates kind payload.val
  let after : GossipEngine crates :=
    { engine with dedup := (engine.dedup.evict_expired now_ms).insert message_id now_ms }
  have hfail : publish payload_type payload now_ms engine = .error error after := by
    rw [publish_unseen hkind hsize hnew, hbuild]
  refine ⟨after, hfail, fun sign => ?_⟩
  have hchecked : checkedId (crates.withSigning sign) (after.withSigning sign).config payload_type payload =
      some message_id :=
    checkedId_eq_some_iff.mpr ⟨kind, hkind, hsize, rfl⟩
  have hentry : (after.withSigning sign).dedup.entries[message_id]? = some now_ms :=
    Std.ExtHashMap.getElem?_insert_self
  refine (publish_refused_iff hchecked now_ms).mpr ⟨now_ms, hentry, ?_⟩
  rw [Nat.sub_self]
  exact Nat.zero_le _

/-- The message passes the checks, and it is a duplicate or can be signed. -/
def Publishable (engine : GossipEngine crates) (payload_type : UInt8) (payload : ByteVec) (now_ms : UInt64) : Prop :=
  ∃ kind, PayloadType.from_u8 payload_type = some kind ∧ payload.val.length ≤ engine.config.max_message_bytes ∧
    (envelope.compute_message_id crates kind payload.val ∈ (engine.dedup.evict_expired now_ms).entries ∨
      ∃ signature, crates.sign_deterministic engine.identity.sig_keypair (tagged SIG_CTX_MESSAGE
        (envelope.signing_input (envelope.unsigned kind payload engine.identity engine.config.default_ttl now_ms))) =
          .ok signature)

/-- A publish only fails on the checks, on a duplicate or on the signing. -/
theorem Publishable.fails (h : Publishable engine payload_type payload now_ms) {error : GossipError}
    (hfail : publish payload_type payload now_ms engine = .error error after) : error = duplicateMessage := by
  obtain ⟨kind, hkind, hsize, hrest⟩ := h
  by_cases hheld : envelope.compute_message_id crates kind payload.val ∈ (engine.dedup.evict_expired now_ms).entries
  · obtain ⟨_, hduplicate, _⟩ := publish_held (checkedId_eq_some_iff.mpr ⟨kind, hkind, hsize, rfl⟩) hheld
    rw [hfail] at hduplicate
    exact (EStateM.Result.error.inj hduplicate).1
  · obtain ⟨env, hbuild⟩ := envelope.exists_build_envelope_iff.mpr (hrest.resolve_left hheld)
    rw [publish_unseen hkind hsize hheld, hbuild] at hfail
    cases hfail

/-- On every other failure the message was refused by a check, or was entered and
    then not signed. -/
theorem fails_of_not_publishable (h : ¬ Publishable engine payload_type payload now_ms) :
    ∃ error after, publish payload_type payload now_ms engine = .error error after ∧ error ≠ duplicateMessage ∧
      ¬ Unconsumed engine after payload_type payload now_ms := by
  cases hchecked : checkedId crates engine.config payload_type payload with
  | none =>
    obtain ⟨error, hfail, hother⟩ := publish_unchecked now_ms hchecked
    refine ⟨error, engine, hfail, hother, fun hleft => ?_⟩
    obtain ⟨_, message_id, _, _, hpasses⟩ := hleft.checked
    rw [hchecked] at hpasses
    cases hpasses
  | some message_id =>
    obtain ⟨kind, hkind, hsize, rfl⟩ := checkedId_eq_some_iff.mp hchecked
    have hnew : envelope.compute_message_id crates kind payload.val ∉ (engine.dedup.evict_expired now_ms).entries :=
      fun hheld => h ⟨kind, hkind, hsize, .inl hheld⟩
    cases hbuild : envelope.build_envelope kind payload engine.identity engine.config.default_ttl now_ms with
    | ok env => exact absurd ⟨kind, hkind, hsize, .inr (envelope.exists_build_envelope_iff.mp ⟨env, hbuild⟩)⟩ h
    | error error =>
      obtain ⟨after, hfail, hduplicate⟩ := publish_unsigned hkind hsize hnew hbuild
      have hother : error ≠ duplicateMessage := by
        obtain ⟨message, rfl⟩ := envelope.build_envelope_error hbuild
        simp [duplicateMessage]
      refine ⟨error, after, hfail, hother, fun hleft => ?_⟩
      obtain ⟨sign, message_id, _, hretry, _⟩ := hleft.checked
      obtain ⟨_, hrefused⟩ := hduplicate sign
      rw [hretry] at hrefused
      cases hrefused

end Publish

/-- A publish that fails, but not on a duplicate, leaves its message to be published
    again exactly if there is no such failure: the message passes the checks, and it
    is a duplicate or can be signed. It is entered before it is signed. -/
theorem failed_publish_unconsumed_iff (engine : GossipEngine crates) (payload_type : UInt8) (payload : ByteVec)
    (now_ms : UInt64) :
    FailsUnconsumed engine payload_type payload now_ms ↔ Publishable engine payload_type payload now_ms := by
  constructor
  · intro hclean
    by_contra hnot
    obtain ⟨error, after, hfail, hother, hconsumed⟩ := fails_of_not_publishable hnot
    exact hconsumed (hclean error after hfail hother)
  · intro h error after hfail hother
    exact absurd (h.fails hfail) hother

/-- A signing function that never works, and an engine that was started with it. -/
def unsigning : reference.crates.MlDsa65Keypair → Bytes → Except String ByteVec := fun _ _ => .error "signing failed"

def unsigningEngine : GossipEngine (reference.crates.withSigning unsigning) :=
  .new (reference.resolved 1) ((reference.nodeAt 1 ephemeralRuntime).withSigning unsigning)

theorem notMem_unsigningEngine (message_id : Bytes32) :
    message_id ∉ (unsigningEngine.dedup.evict_expired 0).entries := by
  rw [mem_evict_expired_iff]
  rintro ⟨stamp, hentry, _⟩
  have hempty : unsigningEngine.dedup.entries[message_id]? = none := Std.ExtHashMap.getElem?_empty
  rw [hempty] at hentry
  cases hentry

/-- An engine that was just started cannot sign its first message. The message is a
    duplicate then, and stays one when the signing works again. -/
theorem failed_publish_consumed :
    (∃ error after, publish 0 reference.emptyPayload 0 unsigningEngine = .error error after ∧
      error ≠ duplicateMessage ∧
      ∀ sign, ∃ later, publish 0 reference.emptyPayload 0 (after.withSigning sign) = .error duplicateMessage later) ∧
      ¬ FailsUnconsumed unsigningEngine 0 reference.emptyPayload 0 := by
  have hbuild : envelope.build_envelope .Transaction reference.emptyPayload unsigningEngine.identity 8 0 =
      .error (.CryptoError "ML-DSA-65 sign failed: signing failed") := rfl
  have hkind : PayloadType.from_u8 0 = some .Transaction := rfl
  obtain ⟨after, hfail, hduplicate⟩ := publish_unsigned hkind (Nat.zero_le _) (notMem_unsigningEngine _) hbuild
  have hother : GossipError.CryptoError "ML-DSA-65 sign failed: signing failed" ≠ duplicateMessage := by
    simp [duplicateMessage]
  refine ⟨⟨_, after, hfail, hother, hduplicate⟩, fun hclean => ?_⟩
  obtain ⟨sign, message_id, _, hretry, _⟩ := (hclean _ after hfail hother).checked
  obtain ⟨_, hrefused⟩ := hduplicate sign
  rw [hretry] at hrefused
  cases hrefused

end gossip

end witan
