import Mathlib.Data.Finset.Card
import Mathlib.Data.Set.Function
import Witan.Rotation.Reachability
import Witan.Signing

open bincode fallible
open witan.types witan.error witan.identity witan.config witan.signing

namespace witan.envelope

variable {crates : Crates}

/-- Who and when: an accepted envelope under an honest key was built by its node
    for this payload, under this sender id and at this time. The signature that
    was shown is assumed not to be forged. -/
def WhoAndWhen (history : HonestHistory crates) (e : GossipEnvelope) (config : ResolvedConfig)
    (now_ms : UInt64) : Prop :=
  crates.Unforged (signedUnder history.signings.val e.sender_public_key) e.sender_public_key
      (tagged SIG_CTX_MESSAGE (signing_input e)) e.signature →
    verify_envelope crates e config now_ms = .ok true → e.sender_public_key ∈ history.keys →
    ∃ identity default_ttl time, Signing.envelope identity e.payload_type e.payload default_ttl time ∈
        history.signings.val ∧
      identity.sig_public_key_bytes = e.sender_public_key ∧ identity.node_id = e.sender_node_id ∧
      time = e.timestamp_unix_ms

/-- An accepted envelope under an honest key was built by its node for this
    payload, whatever its header says. -/
theorem verify_envelope_built {history : HonestHistory crates} {e : GossipEnvelope} {config : ResolvedConfig}
    {now_ms : UInt64}
    (hunforged : crates.Unforged (signedUnder history.signings.val e.sender_public_key) e.sender_public_key
      (tagged SIG_CTX_MESSAGE (signing_input e)) e.signature)
    (hverify : verify_envelope crates e config now_ms = .ok true) :
    ∃ identity default_ttl time, Signing.envelope identity e.payload_type e.payload default_ttl time ∈
        history.signings.val ∧ identity.sig_public_key_bytes = e.sender_public_key := by
  obtain ⟨_, hverified⟩ := verify_envelope_eq_ok_iff.mp hverify
  obtain ⟨identity, payload_type, payload, default_ttl, time, hmem, hkey, hinput⟩ :=
    mem_signedUnder_envelope (hunforged hverified.signature)
  obtain ⟨_, htype, hpayload⟩ := signing_input_inj hinput
  have htype : payload_type = e.payload_type := htype
  have hpayload : payload = e.payload := hpayload
  subst htype hpayload
  exact ⟨identity, default_ttl, time, hmem, hkey⟩

/-- The times that a history's envelopes were built at. -/
def envelopeTimes (signings : List (Signing crates)) : List Nat :=
  signings.map fun
    | .envelope _ _ _ _ now_ms => now_ms.toNat
    | _ => 0

/-- A history never uses up the timestamps. -/
theorem exists_unused_time (signings : Vec (Signing crates)) :
    ∃ time : UInt64, time.toNat ∉ envelopeTimes signings.val := by
  have hcard : (envelopeTimes signings.val).toFinset.card < (Finset.range (2 ^ 64)).card := by
    have hle := List.toFinset_card_le (envelopeTimes signings.val)
    have hlength : (envelopeTimes signings.val).length = signings.val.length := List.length_map _
    have hbound := signings.property
    rw [Finset.card_range]
    omega
  obtain ⟨time, hrange, hunused⟩ := Finset.exists_mem_notMem_of_card_lt_card hcard
  refine ⟨UInt64.ofNat time, ?_⟩
  have htime : (UInt64.ofNat time).toNat = time := UInt64.toNat_ofNat_of_lt (Finset.mem_range.mp hrange)
  rw [htime]
  exact fun hmem => hunused (List.mem_toFinset.mpr hmem)

/-- A built envelope under another timestamp, with hops left. -/
def restamped (env : GossipEnvelope) (time : UInt64) : GossipEnvelope :=
  { env with timestamp_unix_ms := time, ttl := 1 }

/-- The configuration with the given bound on the payload and the defaults. -/
def permissive (max_message_bytes : Nat) : ResolvedConfig :=
  ⟨none, none, none, ephemeralRuntime, 8, 4, 12, 700, max_message_bytes, 60, 67 / 100, 30000, 8⟩

/-- Any built envelope that is small enough is accepted under any timestamp: neither
    it nor the hop count is signed. -/
theorem verify_envelope_restamped (hcorrect : crates.SignatureCorrect) {payload_type : PayloadType}
    {payload : ByteVec} {identity : NodeIdentity crates} {default_ttl : UInt8} {now_ms : UInt64}
    {env : GossipEnvelope} (hbuild : build_envelope payload_type payload identity default_ttl now_ms = .ok env)
    {max_message_bytes : Nat} (hsize : payload.val.length ≤ max_message_bytes) (time : UInt64) :
    verify_envelope crates (restamped env time) (permissive max_message_bytes) time = .ok true :=
  verify_envelope_eq_ok_iff.mpr ⟨rfl, build_envelope_verified hcorrect hbuild hsize time (by decide)⟩

/-- The header is never bound: who and when can be told from accepted envelopes
    exactly as long as no honest node has built one. The payload is bound. -/
theorem who_and_when_iff (hcorrect : crates.SignatureCorrect) (history : HonestHistory crates) :
    ((∀ e config now_ms, WhoAndWhen history e config now_ms) ↔
      ∀ signing ∈ history.signings.val, signing.purpose ≠ .envelope) ∧
    (∀ e config now_ms,
      crates.Unforged (signedUnder history.signings.val e.sender_public_key) e.sender_public_key
        (tagged SIG_CTX_MESSAGE (signing_input e)) e.signature →
      verify_envelope crates e config now_ms = .ok true → e.sender_public_key ∈ history.keys →
      ∃ identity default_ttl time, Signing.envelope identity e.payload_type e.payload default_ttl time ∈
          history.signings.val ∧ identity.sig_public_key_bytes = e.sender_public_key) := by
  refine ⟨⟨?_, ?_⟩, fun e config now_ms hunforged hverify _ => verify_envelope_built hunforged hverify⟩
  · intro hwho signing hmem hpurpose
    obtain ⟨identity, payload_type, payload, default_ttl, now_ms, rfl⟩ := Signing.eq_envelope hpurpose
    obtain ⟨signature, hsign, _⟩ := identity.sign_verifies hcorrect
      (signing_input (unsigned payload_type payload identity default_ttl now_ms)) SIG_CTX_MESSAGE (by decide)
    have hbuild := build_envelope_eq_ok_iff.mpr ⟨signature, hsign, rfl⟩
    obtain ⟨time, hunused⟩ := exists_unused_time history.signings
    -- The copy under the unused time passes, so the history would have to hold it.
    obtain ⟨_, _, _, hbuilt, _, _, rfl⟩ := hwho (restamped _ time) _ time (fun _ => ⟨_, hmem, rfl, rfl⟩)
      (verify_envelope_restamped hcorrect hbuild (Nat.le_refl _) time) (history.by_honest _ hmem)
    exact hunused (List.mem_map.mpr ⟨_, hbuilt, rfl⟩)
  · intro hnone e config now_ms hunforged hverify _
    obtain ⟨_, _, _, hbuilt, _⟩ := verify_envelope_built hunforged hverify
    exact absurd rfl (hnone _ hbuilt)

/-- Node 1's envelope for an empty transaction, built at time 0. -/
def oneSigning : Signing reference.crates := .envelope (reference.node 1) .Transaction reference.emptyPayload 8 0

/-- A history in which node 1 built that envelope and nothing else. -/
def oneEnvelope : HonestHistory reference.crates where
  keys := {oneSigning.public_key}
  signings := ⟨[oneSigning], by simp⟩
  by_honest signing hmem := by rw [List.mem_singleton.mp hmem]; rfl

theorem who_and_when_iff_reference :
    ¬ ∀ e config now_ms, WhoAndWhen oneEnvelope e config now_ms := by
  rw [(who_and_when_iff reference.signatureCorrect oneEnvelope).1]
  intro hnone
  exact hnone oneSigning List.mem_cons_self rfl

theorem eq_of_mem_oneEnvelope {identity : NodeIdentity reference.crates} {payload_type : PayloadType}
    {payload : ByteVec} {default_ttl : UInt8} {time : UInt64}
    (h : Signing.envelope identity payload_type payload default_ttl time ∈ oneEnvelope.signings.val) :
    payload_type = .Transaction ∧ payload.val = [] ∧ time = 0 := by
  have heq := List.mem_singleton.mp h
  simp only [oneSigning, Signing.envelope.injEq] at heq
  obtain ⟨_, htype, hpayload, _, htime⟩ := heq
  exact ⟨htype, congrArg Subtype.val hpayload, htime⟩

/-- Under the default configuration, node 1's envelope passes at time 1 under that
    timestamp, which node 1 never put on an envelope. -/
theorem restamped_envelope_accepted :
    ¬ ∀ (crates : Crates) (history : HonestHistory crates) (e : GossipEnvelope) (config : ResolvedConfig)
      (now_ms : UInt64),
      Set.InjOn crates.sha256 ({messageIdInput e.payload_type e.payload.val} ∪
        {input | ∃ identity payload_type payload default_ttl time,
          Signing.envelope identity payload_type payload default_ttl time ∈ history.signings.val ∧
            input = messageIdInput payload_type payload.val}) →
      WhoAndWhen history e config now_ms := by
  intro hclaim
  obtain ⟨signature, hsign, _⟩ := (reference.node 1).sign_verifies reference.signatureCorrect
    oneSigning.input SIG_CTX_MESSAGE (by decide)
  have hbuild := build_envelope_eq_ok_iff.mpr ⟨signature, hsign, rfl⟩
  let e := restamped { unsigned .Transaction reference.emptyPayload (reference.node 1) 8 0 with signature } 1
  -- Every message id in play hashes the one payload.
  have hcollision : Set.InjOn reference.crates.sha256 ({messageIdInput e.payload_type e.payload.val} ∪
      {input | ∃ identity payload_type payload default_ttl time,
        Signing.envelope identity payload_type payload default_ttl time ∈ oneEnvelope.signings.val ∧
          input = messageIdInput payload_type payload.val}) := by
    have hone : ∀ input ∈ ({messageIdInput e.payload_type e.payload.val} ∪
        {input | ∃ identity payload_type payload default_ttl time,
          Signing.envelope identity payload_type payload default_ttl time ∈ oneEnvelope.signings.val ∧
            input = messageIdInput payload_type payload.val} : Set Bytes),
        input = messageIdInput .Transaction [] := by
      rintro input (hinput | ⟨_, _, _, _, _, hbuilt, rfl⟩)
      · exact hinput
      · obtain ⟨rfl, hpayload, _⟩ := eq_of_mem_oneEnvelope hbuilt
        rw [hpayload]
    intro input hinput input' hinput' _
    rw [hone input hinput, hone input' hinput']
  obtain ⟨_, _, _, hbuilt, _, _, htime⟩ := hclaim reference.crates oneEnvelope e (permissive 1048576) 1
    hcollision (fun _ => ⟨oneSigning, List.mem_cons_self, rfl, rfl⟩)
    (verify_envelope_restamped reference.signatureCorrect hbuild (Nat.zero_le _) 1) (Set.mem_singleton _)
  rw [(eq_of_mem_oneEnvelope hbuilt).2.2] at htime
  exact absurd htime (show (0 : UInt64) ≠ 1 by decide)

end witan.envelope
