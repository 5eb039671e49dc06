import Witan.Gossip.Leading

open bincode fallible
open witan.types witan.error witan.identity witan.session witan.handshake

namespace witan.gossip

variable {crates : Crates}

namespace Meeting

section Definitions

variable (addr : Side → Str)

/-- Nobody has called yet. -/
structure Idle (x : Meeting crates) : Prop where
  called : ∀ s, x.called s = false
  inbox : ∀ s, x.inbox s = 0
  session : ∀ s, (x.engine s).sessions.get (addr s) = none

/-- What is left of the other side's handshake does no harm to the leader's: nothing
    but acks can be on the way to the other side, and no answer to the leader. -/
structure Harmless (noise noise_other : Multiset InFlight) : Prop where
  to_leader : ∀ message ∈ noise,
    classify_incoming message.bytes = .HandshakeProbe ∨ classify_incoming message.bytes = .HandshakeFinish
  to_other : ∀ message ∈ noise_other, classify_incoming message.bytes = .HandshakeAck

/-- The invariant of the runs that spare the handshake of `s`. -/
inductive Safe (s : Side) (x : Meeting crates) : Prop
  | idle (h : x.Idle addr)
  /-- Only the other side leads a handshake. -/
  | follows {stage : Stage} (h : x.Leads addr s.other stage 0 0)
  | leads {stage : Stage} {noise noise_other : Multiset InFlight} (h : x.Leads addr s stage noise noise_other)
      (hnoise : Harmless noise noise_other)
  | connected (h : x.Connected addr)

end Definitions

section Steps

variable {addr : Side → Str} {x : Meeting crates} {s : Side} {stage : Stage} {noise noise_other : Multiset InFlight}
  {message : InFlight} {nonce : Bytes32} {rng : crates.OsRng} {now_ms : UInt64}

/-- A side that waits for a finish refuses every ack. -/
theorem ack_refused (message : InFlight) (nonce : Bytes32) (rng : crates.OsRng) (now_ms : UInt64)
    {engine : GossipEngine crates} {peer_addr : Str} {served : AckSent}
    (hkind : classify_incoming message.bytes = .HandshakeAck)
    (hcontext : engine.handshakes.pending[peer_addr]? = some (.Server (.AckSent served))) :
    ∃ error, GossipEngine.process_handshake_bytes peer_addr message.bytes (.ok nonce) rng now_ms engine =
      .error error engine := by
  rcases process_ack_cases hkind with hrefused | ⟨_, _, _, _, _, hsent⟩
  · exact hrefused
  · rw [hcontext] at hsent
    cases hsent

theorem harmless_zero : Harmless 0 0 :=
  ⟨fun message hmem => absurd hmem (Multiset.notMem_zero message),
    fun message hmem => absurd hmem (Multiset.notMem_zero message)⟩

/-- The messages of a handshake by their kinds. A finish-ack comes from a side that
    has a session. -/
theorem Leads.harmless (h : x.Leads addr s stage 0 0)
    (hsession : (x.engine s.other).sessions.get (addr s.other) = none) : Harmless stage.toServer stage.toClient := by
  obtain ⟨identity, identity_other, _, hat⟩ := h.resumes
  have hnone (p : InFlight → Prop) : ∀ message ∈ (0 : Multiset InFlight), p message :=
    fun message hmessage => absurd hmessage (Multiset.notMem_zero message)
  cases stage with
  | start => exact ⟨hnone _, hnone _⟩
  | probe message =>
    obtain ⟨_, hprobe⟩ := hat
    refine ⟨fun _ hmem => .inl ?_, hnone _⟩
    rw [Multiset.mem_singleton.mp hmem]
    exact hprobe.kind
  | ack message =>
    obtain ⟨_, _, _, hack⟩ := hat
    refine ⟨hnone _, fun _ hmem => ?_⟩
    rw [Multiset.mem_singleton.mp hmem]
    exact hack.kind
  | finish message =>
    obtain ⟨_, _, _, _, hfinish⟩ := hat
    refine ⟨fun _ hmem => .inr ?_, hnone _⟩
    rw [Multiset.mem_singleton.mp hmem]
    exact hfinish.kind
  | finishAck message =>
    obtain ⟨_, _, _, hfinishAck⟩ := hat
    exact absurd (hsession.symm.trans hfinishAck.at_b) (Option.some_ne_none _).symm
  | done => exact ⟨hnone _, hnone _⟩

/-- The other side connects while it does not wait for the leader's finish. -/
theorem Leads.connect_other (h : x.Leads addr s stage noise noise_other) (hnoise : Harmless noise noise_other)
    (hspares : ∀ served,
      (x.engine s.other).handshakes.pending[addr s.other]? ≠ some (.Server (.AckSent served))) :
    (x.connect addr s.other nonce now_ms).Safe addr s := by
  have hcalled : (x.connect addr s.other nonce now_ms).called s = true := connect_called_other.trans h.called
  have hwaits : ¬ stage.ServerWaits := by
    intro hwaits
    obtain ⟨served, hserved⟩ := h.server_context hwaits
    exact hspares served hserved
  cases hresult : GossipEngine.connect_peer (addr s.other) (.ok nonce) now_ms (x.engine s.other) with
  | ok probe_bytes engine =>
    obtain ⟨hidentity, hsessions⟩ := connect_peer_keeps.of_ok hresult
    refine .leads (h.of_acts (connect_ok hresult) hcalled hidentity hsessions (fun hw => absurd hw hwaits)
      h.inbox_other) ⟨?_, hnoise.to_other⟩
    intro message hmem
    rcases Multiset.mem_add.mp hmem with hprobe | hmem
    · rw [Multiset.mem_singleton.mp hprobe]
      exact .inl (connect_peer_sends_probe hresult)
    · exact hnoise.to_leader message hmem
  | error error engine =>
    obtain rfl := connect_peer_failsIn error engine hresult
    have hleads := h.of_acts (connect_error hresult) hcalled rfl rfl (fun _ => rfl) h.inbox_other
    rw [Multiset.zero_add] at hleads
    exact .leads hleads hnoise

/-- An ack that is left over from the other side's handshake reaches the other side. -/
theorem Leads.deliver_noise (h : x.Leads addr s stage noise noise_other) (hnoise : Harmless noise noise_other)
    (hmem : message ∈ noise_other) : (x.deliver addr s.other message nonce rng now_ms).Safe addr s := by
  have hcalled : (x.deliver addr s.other message nonce rng now_ms).called s = true := by
    rw [deliver_called]
    exact h.called
  have hleft : (x.inbox s.other).erase message = stage.toServer + noise_other.erase message := by
    rw [h.inbox_other, Multiset.erase_add_right_pos _ hmem]
  have hother : ∀ message' ∈ noise_other.erase message, classify_incoming message'.bytes = .HandshakeAck :=
    fun message' hmem' => hnoise.to_other message' (Multiset.mem_of_mem_erase hmem')
  rcases process_ack_cases (hnoise.to_other message hmem) with ⟨error, hrun⟩ | ⟨finish_bytes, handshakes, sent, hrun,
    hkind, hcontext⟩
  · exact .leads (h.refused hmem hrun) ⟨hnoise.to_leader, hother⟩
  · have hwaits : ¬ stage.ServerWaits := by
      intro hwaits
      obtain ⟨served, hserved⟩ := h.server_context hwaits
      rw [hserved] at hcontext
      cases hcontext
    refine .leads (h.of_acts (deliver_ok hrun) hcalled rfl rfl (fun hw => absurd hw hwaits) hleft) ⟨?_, hother⟩
    intro message' hmem'
    rcases Multiset.mem_add.mp hmem' with hfinish | hmem'
    · rw [Multiset.mem_singleton.mp hfinish]
      exact .inr hkind
    · exact hnoise.to_leader message' hmem'

/-- At the start anyone may connect. -/
theorem Idle.connect (h : x.Idle addr) (t : Side) : (x.connect addr t nonce now_ms).Safe addr s := by
  obtain ⟨probe_bytes, engine, hrun, _⟩ :=
    Exchange.connect_start (x := ⟨x.engine t, x.engine t.other, .start⟩) nonce now_ms (h.session t)
  have hleads := connect_leads hrun
  rw [h.inbox, h.inbox] at hleads
  rcases s.eq_or_eq_other t with rfl | rfl
  · exact .leads hleads harmless_zero
  · exact .follows hleads

/-- The other side connects and leads from then on, unless it has a session already. -/
theorem Leads.connect_follower (h : x.Leads addr s stage 0 0) :
    (x.connect addr s.other nonce now_ms).Safe addr s.other := by
  cases hresult : GossipEngine.connect_peer (addr s.other) (.ok nonce) now_ms (x.engine s.other) with
  | ok probe_bytes engine =>
    have hleads := connect_leads hresult
    rw [Side.other_other, h.inbox, h.inbox_other, add_zero, add_zero] at hleads
    exact .leads hleads (h.harmless (connect_peer_new hresult))
  | error error engine =>
    obtain rfl := connect_peer_failsIn error engine hresult
    have hcalled : (x.connect addr s.other nonce now_ms).called s = true := connect_called_other.trans h.called
    have hleads := h.of_acts (connect_error hresult) hcalled rfl rfl (fun _ => rfl) h.inbox_other
    have hleads' : (x.connect addr s.other nonce now_ms).Leads addr s.other.other stage 0 0 := by
      rwa [Side.other_other, ← add_zero (0 : Multiset InFlight)]
    exact .follows hleads'

section Laws

variable (hsignature : crates.SignatureCorrect) (hlengths : crates.KeyLengths) (hkem : crates.KemCorrect)
  (hjson : crates.KemRoundTrip)

include hsignature hlengths hkem hjson

/-- Every step that spares the leader's handshake keeps it going. -/
theorem Leads.takes {next : Encounter crates} (h : x.Leads addr s stage noise noise_other)
    (hnoise : Harmless noise noise_other) (hallowed : x.Allowed next) (hspares : x.Spares addr s next) :
    (x.step addr next).Safe addr s := by
  by_cases hdone : stage = .done
  · subst hdone
    exact .connected (h.connected.step next)
  cases next with
  | connect t nonce now_ms =>
    rcases s.eq_or_eq_other t with rfl | rfl
    · -- The leader has called already.
      exact absurd (hallowed.symm.trans h.called) Bool.false_ne_true
    · exact h.connect_other hnoise (hspares rfl)
  | deliver t message nonce rng now_ms =>
    obtain ⟨hmem, hfresh⟩ := hallowed
    rcases s.eq_or_eq_other t with rfl | rfl
    · rw [h.inbox] at hmem
      rcases Multiset.mem_add.mp hmem with hmem | hmem
      · obtain ⟨stage', hleads, _⟩ :=
          h.deliver_leader hsignature hlengths hkem hjson (toClient_eq_singleton hmem) hfresh
        exact .leads hleads hnoise
      · obtain ⟨context, hcontext⟩ := h.client_context hdone
        exact absurd hcontext (hspares rfl (hnoise.to_leader message hmem) context)
    · rw [h.inbox_other] at hmem
      rcases Multiset.mem_add.mp hmem with hmem | hmem
      · obtain ⟨stage', hleads, _⟩ :=
          h.deliver_other hsignature hlengths hkem hjson (toServer_eq_singleton hmem) hfresh
        exact .leads hleads hnoise
      · exact h.deliver_noise hnoise hmem

theorem Safe.takes {y : Meeting crates} (h : x.Safe addr s) (hstep : x.TakesSparing addr s y) : y.Safe addr s := by
  obtain ⟨next, hallowed, hspares, rfl⟩ := hstep
  cases h with
  | idle h =>
    cases next with
    | connect t nonce now_ms => exact h.connect t
    | deliver t message nonce rng now_ms =>
      obtain ⟨hmem, _⟩ := hallowed
      rw [h.inbox] at hmem
      exact absurd hmem (Multiset.notMem_zero message)
  | follows h =>
    cases next with
    | connect t nonce now_ms =>
      rcases s.eq_or_eq_other t with rfl | rfl
      · have hsafe : (x.connect addr t.other.other nonce now_ms).Safe addr t.other.other := h.connect_follower
        rwa [Side.other_other] at hsafe
      · exact absurd (hallowed.symm.trans h.called) Bool.false_ne_true
    | deliver t message nonce rng now_ms =>
      obtain ⟨stage', hleads, _⟩ := h.deliver_sole hsignature hlengths hkem hjson hallowed.1 hallowed.2
      exact .follows hleads
  | leads h hnoise => exact h.takes hsignature hlengths hkem hjson hnoise hallowed hspares
  | connected h => exact .connected (h.step next)

omit hsignature hlengths hkem hjson in
theorem Safe.settled (h : x.Safe addr s) : x.Settled addr := by
  cases h with
  | idle h =>
    rintro _ ⟨t, ht⟩
    exact absurd ((h.called t).symm.trans ht) Bool.false_ne_true
  | follows h => exact h.settled
  | leads h _ => exact h.settled
  | connected h => exact fun _ _ => h

/-- Both sides may connect, in any order. As long as the handshake of one of them is
    spared, both have a session for the other whenever no message is on its way. -/
theorem spared_handshake_settles {engine : Side → GossipEngine crates}
    (hnew : ∀ s, (engine s).sessions.get (addr s) = none)
    (hrun : Relation.ReflTransGen (TakesSparing addr s) (start engine) x) : x.Settled addr := by
  have hsafe : x.Safe addr s := by
    induction hrun with
    | refl => exact .idle ⟨fun _ => rfl, fun _ => rfl, hnew⟩
    | tail _ hstep ih => exact ih.takes hsignature hlengths hkem hjson hstep
  exact hsafe.settled

/-- The side `a` connects, and `b` answers its probe. -/
theorem probe_run {engine : Side → GossipEngine crates} (hnew : ∀ s, (engine s).sessions.get (addr s) = none)
    (hpending : ∀ s, (engine s).handshakes.pending[addr s]? = none) (nonce : Bytes32) (rng : crates.OsRng) :
    ∃ x ack_b, Relation.ReflTransGen (TakesSparing addr .b) (start engine) x ∧ x.Leads addr .a (.ack ack_b) 0 0 ∧
      (x.engine .b).sessions.get (addr .b) = none ∧ x.called .b = false := by
  have hfresh : (0 : UInt64).toNat - (0 : UInt64).toNat ≤ 30000 := by decide
  have hcontext (s : Side) (context : HandshakeContext) : (engine s).handshakes.pending[addr s]? ≠ some context := by
    rw [hpending]
    exact (Option.some_ne_none _).symm
  obtain ⟨probe_a, a₁, hconnect, _⟩ :=
    Exchange.connect_start (x := ⟨engine .a, engine .b, .start⟩) nonce 0 (hnew .a)
  obtain ⟨x₁, htakes₁, hleads₁, hb₁, hcalled₁⟩ : ∃ x₁, (start engine).TakesSparing addr .b x₁ ∧
      x₁.Leads addr .a (.probe ⟨probe_a, 0⟩) 0 0 ∧ x₁.engine .b = engine .b ∧
      x₁.called = Function.update (start engine).called .a true :=
    ⟨_, ⟨.connect .a nonce 0, rfl, fun _ _ => hcontext .a _, rfl⟩, connect_leads hconnect,
      (connect_ok hconnect).engine_other, connect_called⟩
  have hinbox₁ : x₁.inbox .b = {⟨probe_a, 0⟩} := hleads₁.inbox_other.trans (add_zero _)
  have hmem : ⟨probe_a, 0⟩ ∈ x₁.inbox .b := by simp [hinbox₁]
  have hspares : x₁.Spares addr .b (.deliver .b ⟨probe_a, 0⟩ nonce rng 0) := by
    intro _ _ context
    rw [hb₁]
    exact hcontext .b _
  obtain ⟨stage, hleads₂, htaken⟩ := hleads₁.deliver_other hsignature hlengths hkem hjson rfl hfresh
  obtain ⟨ack_b, rfl⟩ := Stage.eq_ack_of_taken htaken
  refine ⟨_, ack_b, .tail (.single htakes₁) ⟨.deliver .b ⟨probe_a, 0⟩ nonce rng 0, ⟨hmem, hfresh⟩, hspares, rfl⟩,
    hleads₂, ?_, ?_⟩
  · have hsessions : (final (GossipEngine.process_handshake_bytes (addr .b) probe_a (.ok nonce) rng 0
        (x₁.engine .b))).sessions = (x₁.engine .b).sessions :=
      process_probe_sessions (connect_peer_sends_probe hconnect)
    change ((x₁.deliver addr .b ⟨probe_a, 0⟩ nonce rng 0).engine .b).sessions.get (addr .b) = none
    rw [deliver_engine, Function.update_self, hsessions, hb₁]
    exact hnew .b
  · change (x₁.deliver addr .b ⟨probe_a, 0⟩ nonce rng 0).called .b = false
    rw [deliver_called, hcalled₁]
    rfl

/-- A side that connects while it waits for a finish takes over. -/
theorem Leads.overtaken {ack_b : InFlight} (h : x.Leads addr .a (.ack ack_b) 0 0)
    (hnew : (x.engine .b).sessions.get (addr .b) = none) (hcalled : x.called .b = false) (nonce : Bytes32)
    (rng : crates.OsRng) :
    ∃ y, Relation.ReflTransGen (TakesSparing addr .b) x y ∧ (∀ s, y.called s = true) ∧ ∀ s, y.inbox s = 0 := by
  have hfresh : (0 : UInt64).toNat - (0 : UInt64).toNat ≤ 30000 := by decide
  have hkind : classify_incoming ack_b.bytes = .HandshakeAck :=
    (h.harmless hnew).to_other ack_b (Multiset.mem_singleton_self ack_b)
  obtain ⟨probe_b, b₁, hconnect, _⟩ :=
    Exchange.connect_start (x := ⟨x.engine .b, x.engine .a, .start⟩) nonce 0 hnew
  obtain ⟨x₁, htakes₁, hleads₁, hcalled₁⟩ : ∃ x₁, x.TakesSparing addr .b x₁ ∧
      x₁.Leads addr .b (.probe ⟨probe_b, 0⟩) 0 {ack_b} ∧ x₁.called = Function.update x.called .b true := by
    refine ⟨_, ⟨.connect .b nonce 0, hcalled, fun ht => absurd ht (by decide), rfl⟩, ?_, connect_called⟩
    have hleads := connect_leads hconnect
    have hinbox_b : x.inbox .b = 0 := h.inbox_other
    have hinbox_a : x.inbox Side.b.other = {ack_b} := h.inbox.trans (add_zero _)
    rwa [hinbox_b, hinbox_a] at hleads
  -- The probe reaches `a`, which waits for a finish then and refuses the ack.
  have hinbox₁ : x₁.inbox .a = {⟨probe_b, 0⟩} + {ack_b} := hleads₁.inbox_other
  obtain ⟨stage, hleads, htaken⟩ := hleads₁.deliver_other hsignature hlengths hkem hjson rfl hfresh
  obtain ⟨ack_a, rfl⟩ := Stage.eq_ack_of_taken htaken
  obtain ⟨x₂, htakes₂, hleads₂, hcalled₂⟩ : ∃ x₂, x₁.TakesSparing addr .b x₂ ∧
      x₂.Leads addr .b (.ack ack_a) 0 {ack_b} ∧ x₂.called = x₁.called :=
    ⟨_, ⟨.deliver .a ⟨probe_b, 0⟩ nonce rng 0, ⟨by simp [hinbox₁], hfresh⟩, fun ht => absurd ht (by decide), rfl⟩,
      hleads, deliver_called⟩
  obtain ⟨served, hserved⟩ := hleads₂.server_context trivial
  obtain ⟨error, hrefused⟩ := ack_refused ack_b nonce rng ack_b.sent_at_ms hkind hserved
  obtain ⟨x₃, htakes₃, hleads₃, hcalled₃⟩ : ∃ x₃, x₂.TakesSparing addr .b x₃ ∧ x₃.Leads addr .b (.ack ack_a) 0 0 ∧
      x₃.called = x₂.called := by
    have hmem : ack_b ∈ x₂.inbox .a := by
      rw [show x₂.inbox .a = 0 + {ack_b} from hleads₂.inbox_other]
      simp
    refine ⟨_, ⟨.deliver .a ack_b nonce rng ack_b.sent_at_ms, ⟨hmem, by omega⟩, fun ht => absurd ht (by decide), rfl⟩,
      ?_, deliver_called⟩
    have hleads := hleads₂.refused (Multiset.mem_singleton_self ack_b) hrefused
    rwa [← Multiset.cons_zero, Multiset.erase_cons_head] at hleads
  obtain ⟨y, hrun, hy, hcalled₄⟩ := hleads₃.completes hsignature hlengths hkem hjson nonce rng (show 2 + 3 = 5 from rfl)
  refine ⟨y, .head htakes₁ (.head htakes₂ (.head htakes₃ hrun)), ?_, ?_⟩
  · intro s
    rw [hcalled₄, hcalled₃, hcalled₂, hcalled₁]
    cases s with
    | a => exact h.called
    | b => rfl
  · intro s
    cases s with
    | a => exact hy.inbox_other
    | b => exact hy.inbox

end Laws

end Steps

end Meeting

namespace reference

/-- The engines of the nodes 1 and 2, and their names for each other. -/
def engines : Side → GossipEngine reference.crates
  | .a => engine 1
  | .b => engine 2

def addrs : Side → Str
  | .a => addrOfB
  | .b => addrOfA

theorem engines_new (s : Side) : (engines s).sessions.get (addrs s) = none := by
  cases s <;> exact GossipEngine.sessions_new _ _ _

theorem engines_pending (s : Side) : (engines s).handshakes.pending[addrs s]? = none := by
  cases s <;> exact Std.ExtHashMap.getElem?_empty

end reference

/-- Both nodes connect, and both have a session in the end. -/
theorem Meeting.spared_handshake_settles_reference :
    ∃ x, Relation.ReflTransGen (Meeting.TakesSparing reference.addrs .b) (Meeting.start reference.engines) x ∧
      (∀ s, x.called s = true) ∧ (∀ s, x.inbox s = 0) ∧ x.Connected reference.addrs := by
  obtain ⟨x, ack, hprobe, hleads, hnew, hcalled⟩ := Meeting.probe_run reference.signatureCorrect
    reference.keyLengths reference.kemCorrect reference.kemRoundTrip reference.engines_new reference.engines_pending
    reference.nonce (9 : UInt8)
  obtain ⟨y, hrest, hcalled, hinbox⟩ := hleads.overtaken reference.signatureCorrect reference.keyLengths
    reference.kemCorrect reference.kemRoundTrip hnew hcalled reference.nonce (9 : UInt8)
  have hrun := hprobe.trans hrest
  exact ⟨y, hrun, hcalled, hinbox, Meeting.spared_handshake_settles reference.signatureCorrect reference.keyLengths
    reference.kemCorrect reference.kemRoundTrip reference.engines_new hrun hinbox ⟨.a, hcalled .a⟩⟩

end witan.gossip
