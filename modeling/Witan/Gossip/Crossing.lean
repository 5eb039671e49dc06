import Witan.Gossip.Sparing

open bincode fallible
open witan.types witan.error witan.identity witan.session witan.handshake

namespace witan.gossip

variable {crates : Crates}

namespace Meeting

variable {addr : Side → Str} {x : Meeting crates} {s : Side} {message : InFlight} {nonce : Bytes32}
  {rng : crates.OsRng} {now_ms : UInt64}

/-- A fresh probe is answered by a side that has no session yet, whatever that side
    waits for itself. -/
theorem probe_answered (hjson : crates.KemRoundTrip) (addr : Str) (nonce : Bytes32) (rng : crates.OsRng)
    {engine caller : GossipEngine crates} {peer_addr : Str} {identity : NodeIdentity crates} {client_nonce : Bytes32}
    (hprobe : Exchange.ProbeStage peer_addr identity ⟨caller, engine, .probe message⟩ message client_nonce)
    (hfresh : now_ms.toNat - message.sent_at_ms.toNat ≤ 30000) :
    ∃ ack_bytes after served,
      GossipEngine.process_handshake_bytes addr message.bytes (.ok nonce) rng now_ms engine =
          .ok (some ack_bytes) after ∧
        after.sessions = engine.sessions ∧ classify_incoming ack_bytes = .HandshakeAck ∧
        after.handshakes.pending[addr]? = some (.Server (.AckSent served)) := by
  obtain ⟨ack_bytes, after, _, served, _, hrun, _, hack⟩ := hprobe.answered addr hjson nonce rng hfresh
  exact ⟨ack_bytes, after, served, hrun, (process_probe_sessions hprobe.kind).of_ok hrun, hack.kind, hack.server⟩

theorem takes_connect {probe_bytes : Bytes} {before after : GossipEngine crates}
    (h : GossipEngine.connect_peer (addr s) (.ok nonce) now_ms before = .ok probe_bytes after)
    (hengine : x.engine s = before) (hcalled : x.called s = false) :
    ∃ y, x.Takes addr y ∧ Acts s x y after (x.inbox s) {⟨probe_bytes, now_ms⟩} ∧
      y.called = Function.update x.called s true := by
  subst hengine
  exact ⟨_, ⟨.connect s nonce now_ms, hcalled, rfl⟩, connect_ok h, connect_called⟩

theorem takes_answered (message : InFlight) {answer : Bytes} {before after : GossipEngine crates}
    (h : GossipEngine.process_handshake_bytes (addr s) message.bytes (.ok nonce) rng now_ms before =
      .ok (some answer) after)
    (hengine : x.engine s = before) (hmem : message ∈ x.inbox s)
    (hfresh : now_ms.toNat - message.sent_at_ms.toNat ≤ 30000) :
    ∃ y, x.Takes addr y ∧ Acts s x y after ((x.inbox s).erase message) {⟨answer, now_ms⟩} ∧
      y.called = x.called := by
  subst hengine
  exact ⟨_, ⟨.deliver s message nonce rng now_ms, ⟨hmem, hfresh⟩, rfl⟩, deliver_ok h, deliver_called⟩

theorem takes_refused (message : InFlight) {error : GossipError} {before after : GossipEngine crates}
    (h : GossipEngine.process_handshake_bytes (addr s) message.bytes (.ok nonce) rng now_ms before =
      .error error after)
    (hengine : x.engine s = before) (hmem : message ∈ x.inbox s)
    (hfresh : now_ms.toNat - message.sent_at_ms.toNat ≤ 30000) :
    ∃ y, x.Takes addr y ∧ Acts s x y after ((x.inbox s).erase message) 0 ∧ y.called = x.called := by
  subst hengine
  exact ⟨_, ⟨.deliver s message nonce rng now_ms, ⟨hmem, hfresh⟩, rfl⟩, deliver_error h, deliver_called⟩

/-- Both sides have answered the other's probe: each waits for a finish, and has an
    ack on its way that it can no longer use. -/
structure Crossed (addr : Side → Str) (x : Meeting crates) : Prop where
  called : ∀ s, x.called s = true
  session : ∀ s, (x.engine s).sessions.get (addr s) = none
  context : ∀ s, ∃ served, (x.engine s).handshakes.pending[addr s]? = some (.Server (.AckSent served))
  inbox : ∀ s, ∃ ack : InFlight, x.inbox s = {ack} ∧ classify_incoming ack.bytes = .HandshakeAck

/-- When both sides connect before either probe arrives, each probe replaces the
    context that its receiver needs for the ack. -/
theorem probes_cross (hjson : crates.KemRoundTrip) {engine : Side → GossipEngine crates}
    (hnew : ∀ s, (engine s).sessions.get (addr s) = none) (nonce : Bytes32) (rng : crates.OsRng) :
    ∃ x, Relation.ReflTransGen (Takes addr) (start engine) x ∧ x.Crossed addr := by
  have hfresh : (0 : UInt64).toNat - (0 : UInt64).toNat ≤ 30000 := by decide
  obtain ⟨probe_a, a₁, hconnect_a, _, hprobe_a⟩ :=
    Exchange.connect_start (x := ⟨engine .a, engine .b, .start⟩) nonce 0 (hnew .a)
  obtain ⟨probe_b, b₁, hconnect_b, _, hprobe_b⟩ :=
    Exchange.connect_start (x := ⟨engine .b, engine .a, .start⟩) nonce 0 (hnew .b)
  have hprobe_a' : Exchange.ProbeStage (addr .a) (engine .a).identity ⟨a₁, b₁, .probe ⟨probe_a, 0⟩⟩ ⟨probe_a, 0⟩
      nonce := ⟨hprobe_a.bytes, hprobe_a.client⟩
  have hprobe_b' : Exchange.ProbeStage (addr .b) (engine .b).identity ⟨b₁, a₁, .probe ⟨probe_b, 0⟩⟩ ⟨probe_b, 0⟩
      nonce := ⟨hprobe_b.bytes, hprobe_b.client⟩
  obtain ⟨ack_b, b₂, served_b, hanswer_b, hsessions_b, hkind_b, hcontext_b⟩ :=
    probe_answered hjson (addr .b) nonce rng hprobe_a' hfresh
  obtain ⟨ack_a, a₂, served_a, hanswer_a, hsessions_a, hkind_a, hcontext_a⟩ :=
    probe_answered hjson (addr .a) nonce rng hprobe_b' hfresh
  -- Both connect.
  obtain ⟨x₁, htakes₁, hx₁, hcalled₁⟩ := takes_connect (x := start engine) hconnect_a rfl rfl
  obtain ⟨x₂, htakes₂, hx₂, hcalled₂⟩ := takes_connect hconnect_b hx₁.engine_other (by rw [hcalled₁]; rfl)
  have ha₂ : x₂.engine .a = a₁ := hx₂.engine_other.trans hx₁.engine_self
  have hinbox_b₂ : x₂.inbox .b = {⟨probe_a, 0⟩} := hx₂.inbox_self.trans hx₁.inbox_other
  have hinbox_a₂ : x₂.inbox .a = {⟨probe_b, 0⟩} := hx₂.inbox_other.trans (congrArg _ hx₁.inbox_self)
  -- Both probes arrive.
  obtain ⟨x₃, htakes₃, hx₃, hcalled₃⟩ :=
    takes_answered ⟨probe_a, 0⟩ hanswer_b hx₂.engine_self (by simp [hinbox_b₂]) hfresh
  have hinbox_b₃ : x₃.inbox .b = 0 := by
    rw [hx₃.inbox_self, hinbox_b₂]
    simp
  have hinbox_a₃ : x₃.inbox .a = {⟨ack_b, 0⟩} + {⟨probe_b, 0⟩} := hx₃.inbox_other.trans (congrArg _ hinbox_a₂)
  obtain ⟨x₄, htakes₄, hx₄, hcalled₄⟩ :=
    takes_answered ⟨probe_b, 0⟩ hanswer_a (hx₃.engine_other.trans ha₂) (by simp [hinbox_a₃]) hfresh
  have hb₄ : x₄.engine .b = b₂ := hx₄.engine_other.trans hx₃.engine_self
  have hinbox_b₄ : x₄.inbox .b = {⟨ack_a, 0⟩} := hx₄.inbox_other.trans (congrArg _ hinbox_b₃)
  have hinbox_a₄ : x₄.inbox .a = {⟨ack_b, 0⟩} := by
    rw [hx₄.inbox_self, hinbox_a₃, Multiset.erase_add_right_pos _ (Multiset.mem_singleton_self _)]
    simp
  refine ⟨x₄, .tail (.tail (.tail (.single htakes₁) htakes₂) htakes₃) htakes₄, ⟨?_, ?_, ?_, ?_⟩⟩
  · intro s
    rw [hcalled₄, hcalled₃, hcalled₂, hcalled₁]
    cases s <;> rfl
  · intro s
    cases s with
    | a =>
      rw [hx₄.engine_self, hsessions_a, (connect_peer_keeps.of_ok hconnect_a).2]
      exact hnew .a
    | b =>
      rw [hb₄, hsessions_b, (connect_peer_keeps.of_ok hconnect_b).2]
      exact hnew .b
  · intro s
    cases s with
    | a => exact ⟨served_a, hx₄.engine_self ▸ hcontext_a⟩
    | b => exact ⟨served_b, hb₄ ▸ hcontext_b⟩
  · intro s
    cases s with
    | a => exact ⟨_, hinbox_a₄, hkind_b⟩
    | b => exact ⟨_, hinbox_b₄, hkind_a⟩

/-- Both acks are refused: no message is left, and nobody has a session. -/
theorem Crossed.fails (h : x.Crossed addr) (nonce : Bytes32) (rng : crates.OsRng) :
    ∃ y, Relation.ReflTransGen (Takes addr) x y ∧ ¬ y.Settled addr := by
  obtain ⟨ack_b, hinbox_a, hkind_b⟩ := h.inbox .a
  obtain ⟨ack_a, hinbox_b, hkind_a⟩ := h.inbox .b
  obtain ⟨served_a, hcontext_a⟩ := h.context .a
  obtain ⟨served_b, hcontext_b⟩ := h.context .b
  obtain ⟨_, hrefuse_a⟩ := ack_refused ack_b nonce rng ack_b.sent_at_ms hkind_b hcontext_a
  obtain ⟨_, hrefuse_b⟩ := ack_refused ack_a nonce rng ack_a.sent_at_ms hkind_a hcontext_b
  obtain ⟨x₁, htakes₁, hx₁, hcalled₁⟩ := takes_refused ack_b hrefuse_a rfl (by simp [hinbox_a]) (by omega)
  have hinbox_b₁ : x₁.inbox .b = {ack_a} := hx₁.inbox_other.trans (congrArg _ hinbox_b)
  obtain ⟨x₂, htakes₂, hx₂, hcalled₂⟩ :=
    takes_refused ack_a hrefuse_b hx₁.engine_other (by simp [hinbox_b₁]) (by omega)
  refine ⟨x₂, .tail (.single htakes₁) htakes₂, fun hsettled => ?_⟩
  have hquiet : ∀ s, x₂.inbox s = 0 := by
    intro s
    cases s with
    | a =>
      have hleft : x₂.inbox .a = x₁.inbox .a := hx₂.inbox_other.trans (Multiset.zero_add _)
      rw [hleft, hx₁.inbox_self, hinbox_a]
      simp
    | b =>
      rw [hx₂.inbox_self, hinbox_b₁]
      simp
  have hcalled : x₂.called .a = true := by
    rw [hcalled₂, hcalled₁]
    exact h.called .a
  refine hsettled hquiet ⟨.a, hcalled⟩ .b ?_
  rw [hx₂.engine_self]
  exact h.session .b

end Meeting

/-- Both nodes connect at once, and neither has a session in the end. -/
theorem Meeting.crossing_probes_unsettled :
    ∃ x, Relation.ReflTransGen (Meeting.Takes reference.addrs) (Meeting.start reference.engines) x ∧
      ¬ x.Settled reference.addrs := by
  obtain ⟨x, hcrossing, hcrossed⟩ := Meeting.probes_cross reference.kemRoundTrip reference.engines_new
    reference.nonce (9 : UInt8)
  obtain ⟨y, hrun, hunsettled⟩ := hcrossed.fails reference.nonce (9 : UInt8)
  exact ⟨y, hcrossing.trans hrun, hunsettled⟩

end witan.gossip
