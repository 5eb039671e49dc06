import Witan.Gossip.Mesh
import Witan.Gossip.Records
import Witan.Rotation.Reachability

open bincode fallible
open witan.types witan.error witan.identity witan.config

namespace witan.gossip

variable {crates : Crates} {engine after : GossipEngine crates}

/-- The engine accepts exactly the envelopes that pass the checks on the envelope
    alone, and has no other answer. -/
theorem verify_envelope_bytes_eq_ok_iff {bytes : Bytes} {now_ms : UInt64} {valid : Bool} :
    GossipEngine.verify_envelope_bytes bytes now_ms engine = .ok valid after ↔
      valid = true ∧ ∃ env, envelope.decode_envelope crates bytes = .ok env ∧
        envelope.verify_envelope crates env engine.config now_ms = .ok true ∧ after = engine.countReceived := by
  unfold GossipEngine.verify_envelope_bytes
  simp only [get_bind, attempt_bind_eq_ok_iff]
  rw [← exists_and_left]
  refine exists_congr fun env => ?_
  rw [and_left_comm]
  refine and_congr_right fun _ => ?_
  cases hverify : envelope.verify_envelope crates env engine.config now_ms with
  | error error => simp
  | ok answer =>
    obtain ⟨rfl, _⟩ := envelope.verify_envelope_eq_ok_iff.mp hverify
    simp [eq_comm]

namespace EngineCall

/-- The call is a verification of an envelope with this message id, and it says yes. -/
def Verifies (engine : GossipEngine crates) (message_id : Bytes32) (now_ms : UInt64) (call : EngineCall crates) :
    Prop :=
  ∃ bytes env after, call = .operation (.verify_envelope_bytes bytes now_ms) ∧
    envelope.decode_envelope crates bytes = .ok env ∧ env.message_id = message_id ∧
    GossipEngine.verify_envelope_bytes bytes now_ms engine = .ok true after

/-- The call publishes a message with this id. -/
def Publishes (engine : GossipEngine crates) (message_id : Bytes32) (now_ms : UInt64) (call : EngineCall crates) :
    Prop :=
  ∃ payload_type payload after, call = .operation (.publish payload_type payload now_ms) ∧
    GossipEngine.publish payload_type payload now_ms engine = .ok message_id after

/-- The call hands over an envelope with this message id that passes the checks on
    the envelope alone. -/
def Presents (resolved : ResolvedConfig) (message_id : Bytes32) (now_ms : UInt64) (call : EngineCall crates) : Prop :=
  ∃ bytes env, call = .operation (.verify_envelope_bytes bytes now_ms) ∧
    envelope.decode_envelope crates bytes = .ok env ∧ env.message_id = message_id ∧
    envelope.verify_envelope crates env resolved now_ms = .ok true

end EngineCall

open EngineCall

/-- No call of the run satisfies the condition for a message that an earlier call
    verified or published, while the cache is to remember that message. -/
def NoneForAccepted (engine : GossipEngine crates) (calls : List (EngineCall crates))
    (condition : GossipEngine crates → Bytes32 → UInt64 → EngineCall crates → Prop) : Prop :=
  ∀ before first middle second rest, calls = before ++ first :: (middle ++ second :: rest) →
    ∀ message_id now_ms later_ms,
      Verifies (runAll before engine) message_id now_ms first ∨
        Publishes (runAll before engine) message_id now_ms first →
      later_ms.toNat ≤ now_ms.toNat + engine.dedup.ttl_ms.toNat →
      ¬ condition (runAll (before ++ first :: middle) engine) message_id later_ms second

/-- Duplicates are suppressed: what was verified or published is not verified again
    within the cache's time to live. -/
def SuppressesDuplicates (engine : GossipEngine crates) (calls : List (EngineCall crates)) : Prop :=
  NoneForAccepted engine calls Verifies

variable {resolved : ResolvedConfig} {message_id : Bytes32} {now_ms : UInt64} {call : EngineCall crates}

/-- Whatever the engine went through, it verifies what it is presented with. -/
theorem verifies_iff_presents (hconfig : engine.config = resolved) :
    Verifies engine message_id now_ms call ↔ Presents resolved message_id now_ms call := by
  constructor
  · rintro ⟨bytes, env, after, hcall, hdecode, hid, hverify⟩
    obtain ⟨_, env', hdecode', hverified, _⟩ := verify_envelope_bytes_eq_ok_iff.mp hverify
    obtain rfl : env = env' := Except.ok.inj (hdecode.symm.trans hdecode')
    exact ⟨bytes, env, hcall, hdecode, hid, hconfig ▸ hverified⟩
  · rintro ⟨bytes, env, hcall, hdecode, hid, hverified⟩
    exact ⟨bytes, env, _, hcall, hdecode, hid,
      verify_envelope_bytes_eq_ok_iff.mpr ⟨rfl, env, hdecode, hconfig ▸ hverified, rfl⟩⟩

/-- A message whose envelope can be built can be presented in such an envelope. -/
theorem presentable_of_build (hcorrect : crates.SignatureCorrect) {kind : PayloadType} {payload : ByteVec}
    {identity : NodeIdentity crates} {default_ttl : UInt8} {env : GossipEnvelope}
    (hbuild : envelope.build_envelope kind payload identity default_ttl now_ms = .ok env)
    (hsize : payload.val.length ≤ resolved.max_message_bytes) :
    ∃ bytes, Presents resolved (envelope.compute_message_id crates kind payload.val) now_ms
      (.operation (.verify_envelope_bytes bytes now_ms) : EngineCall crates) := by
  have hverified := envelope.build_envelope_verified hcorrect hbuild hsize now_ms (by decide : (1 : UInt8) ≠ 0)
  refine ⟨_, _, _, rfl, envelope.decode_envelope_encode crates _, ?_,
    envelope.verify_envelope_eq_ok_iff.mpr ⟨rfl, hverified⟩⟩
  rw [hverified.message_id]
  obtain ⟨signature, _, rfl⟩ := envelope.build_envelope_eq_ok_iff.mp hbuild
  rfl

theorem runAll_config (resolved : ResolvedConfig) (identity : NodeIdentity crates) (calls : List (EngineCall crates)) :
    (runAll calls (GossipEngine.new resolved identity)).config = resolved :=
  (runAll_keeps run_represented calls (represented_new resolved identity)).config

/-- A verified or published message can be presented again. -/
theorem presentable_of_accepted (hcorrect : crates.SignatureCorrect) (hconfig : engine.config = resolved)
    (h : Verifies engine message_id now_ms call ∨ Publishes engine message_id now_ms call) :
    ∃ bytes, Presents resolved message_id now_ms
      (.operation (.verify_envelope_bytes bytes now_ms) : EngineCall crates) := by
  rcases h with hverifies | ⟨payload_type, payload, after, _, hpublish⟩
  · obtain ⟨bytes, env, _, hdecode, hid, hverify⟩ := (verifies_iff_presents hconfig).mp hverifies
    exact ⟨bytes, bytes, env, rfl, hdecode, hid, hverify⟩
  · obtain ⟨kind, env, _, hsize, rfl, hbuild⟩ := publish_eq_ok hpublish
    exact presentable_of_build hcorrect hbuild (hconfig ▸ hsize)

/-- The receive path never suppresses a duplicate. A run is free of duplicates
    exactly if none is presented in it, and after every message that is verified or
    published there is an envelope for it that the engine verifies at the same time,
    whatever calls come between. -/
theorem suppressesDuplicates_iff (hcorrect : crates.SignatureCorrect) (resolved : ResolvedConfig)
    (identity : NodeIdentity crates) :
    let engine := GossipEngine.new resolved identity
    (∀ calls, SuppressesDuplicates engine calls ↔ NoneForAccepted engine calls fun _ => Presents resolved) ∧
      ∀ before first message_id now_ms,
        Verifies (runAll before engine) message_id now_ms first ∨
          Publishes (runAll before engine) message_id now_ms first →
        ∃ bytes, ∀ middle, Verifies (runAll (before ++ first :: middle) engine) message_id now_ms
          (.operation (.verify_envelope_bytes bytes now_ms)) := by
  intro engine
  have hconfig (calls : List (EngineCall crates)) : (runAll calls engine).config = resolved :=
    runAll_config resolved identity calls
  constructor
  · intro calls
    unfold SuppressesDuplicates NoneForAccepted
    simp only [verifies_iff_presents (hconfig _)]
  · intro before first message_id now_ms haccepted
    obtain ⟨bytes, hpresents⟩ := presentable_of_accepted hcorrect (hconfig before) haccepted
    exact ⟨bytes, fun middle => (verifies_iff_presents (hconfig _)).mpr hpresents⟩

/-- The empty transaction of node 1, presented to node 1 at time 0. -/
theorem reference_presentable :
    ∃ bytes, Presents (reference.resolved 1) (envelope.compute_message_id reference.crates .Transaction []) 0
      (.operation (.verify_envelope_bytes bytes 0) : EngineCall reference.crates) := by
  obtain ⟨signature, hsign, _⟩ := (reference.node 1).sign_verifies reference.signatureCorrect
    (envelope.signing_input (envelope.unsigned .Transaction reference.emptyPayload (reference.node 1) 8 0))
    SIG_CTX_MESSAGE (by decide)
  have hbuild := envelope.build_envelope_eq_ok_iff.mpr ⟨signature, hsign, rfl⟩
  exact presentable_of_build reference.signatureCorrect hbuild (Nat.zero_le _)

theorem suppressesDuplicates_iff_reference :
    ∃ bytes again, Verifies
        (runAll [.operation (.verify_envelope_bytes bytes 0)]
          (GossipEngine.new (reference.resolved 1) (reference.node 1)))
        (envelope.compute_message_id reference.crates .Transaction []) 0
        (.operation (.verify_envelope_bytes again 0)) := by
  obtain ⟨bytes, hpresents⟩ := reference_presentable
  have hverifies := (verifies_iff_presents (runAll_config _ (reference.node 1) [])).mpr hpresents
  obtain ⟨again, hagain⟩ := (suppressesDuplicates_iff reference.signatureCorrect (reference.resolved 1)
    (reference.node 1)).2 [] _ _ 0 (.inl hverifies)
  exact ⟨bytes, again, hagain []⟩

/-- The same envelope is verified twice at time 0. -/
theorem duplicate_envelope_verified :
    ∃ bytes, ¬ SuppressesDuplicates (GossipEngine.new (reference.resolved 1) (reference.node 1))
      [.operation (.verify_envelope_bytes bytes 0), .operation (.verify_envelope_bytes bytes 0)] := by
  obtain ⟨bytes, hpresents⟩ := reference_presentable
  have hverifies (calls : List (EngineCall reference.crates)) :=
    (verifies_iff_presents (runAll_config _ (reference.node 1) calls)).mpr hpresents
  refine ⟨bytes, fun hsuppresses => ?_⟩
  exact hsuppresses [] _ [] _ [] rfl _ 0 0 (.inl (hverifies [])) (Nat.zero_le _) (hverifies _)

end witan.gossip
