import Witan.Gossip.Completion
import Witan.Gossip.Meeting

open bincode fallible
open witan.types witan.error witan.identity witan.session witan.handshake

namespace witan.gossip

variable {crates : Crates}

theorem connect_peer_sends_probe {peer_addr : Str} {nonce : Bytes32} {now_ms : UInt64} {bytes : Bytes}
    {engine after : GossipEngine crates}
    (h : GossipEngine.connect_peer peer_addr (.ok nonce) now_ms engine = .ok bytes after) :
    classify_incoming bytes = .HandshakeProbe := by
  have hresumes : Exchange.Resumes peer_addr peer_addr engine.identity engine.identity
      ⟨after, engine, .probe ⟨bytes, now_ms⟩⟩ := Exchange.connect_resumes h
  obtain ⟨_, _, hprobe⟩ := hresumes
  exact hprobe.kind

namespace Stage

/-- The message of the stage that is on its way to the client. -/
def toClient : Stage → Multiset InFlight
  | ack message => {message}
  | finishAck message => {message}
  | _ => 0

/-- The message of the stage that is on its way to the server. -/
def toServer : Stage → Multiset InFlight
  | probe message => {message}
  | finish message => {message}
  | _ => 0

theorem eq_ack_of_taken {stage : Stage} (h : stage.taken = 2) : ∃ message, stage = ack message := by
  cases stage with
  | ack message => exact ⟨message, rfl⟩
  | _ => simp [taken] at h

end Stage

namespace Exchange

variable {addr_b addr_a : Str} {x y : Exchange crates} {message : InFlight} {nonce : Bytes32} {rng : crates.OsRng}
  {now_ms : UInt64}

/-- A step of the exchange on a message to the server: the server answers. -/
theorem step_toServer (hmessage : x.stage.toServer = {message})
    (h : x.step addr_b addr_a (.deliver nonce rng now_ms) = some y) :
    ∃ answer, GossipEngine.process_handshake_bytes addr_a message.bytes (.ok nonce) rng now_ms x.b = .ok answer y.b ∧
      y.a = x.a ∧ y.stage.toClient = Meeting.sent now_ms answer ∧ y.stage.toServer = 0 := by
  obtain ⟨a, b, stage⟩ := x
  cases stage with
  | probe message' | finish message' =>
    obtain rfl := Multiset.singleton_inj.mp hmessage
    simp only [step] at h
    split at h
    · cases h
      exact ⟨_, ‹_›, rfl, rfl, rfl⟩
    · cases h
  | _ => exact absurd hmessage.symm (Multiset.singleton_ne_zero message)

/-- A step of the exchange on a message to the client. -/
theorem step_toClient (hmessage : x.stage.toClient = {message})
    (h : x.step addr_b addr_a (.deliver nonce rng now_ms) = some y) :
    ∃ answer, GossipEngine.process_handshake_bytes addr_b message.bytes (.ok nonce) rng now_ms x.a = .ok answer y.a ∧
      y.b = x.b ∧ y.stage.toServer = Meeting.sent now_ms answer ∧ y.stage.toClient = 0 := by
  obtain ⟨a, b, stage⟩ := x
  cases stage with
  | ack message' | finishAck message' =>
    obtain rfl := Multiset.singleton_inj.mp hmessage
    simp only [step] at h
    split at h
    · cases h
      exact ⟨_, ‹_›, rfl, rfl, rfl⟩
    · cases h
  | _ => exact absurd hmessage.symm (Multiset.singleton_ne_zero message)

end Exchange

namespace Meeting

/-- The handshake that the side leads is at the given stage. Beside its own message
    there is some noise on the way to either side. -/
structure Leads (addr : Side → Str) (s : Side) (x : Meeting crates) (stage : Stage)
    (noise noise_other : Multiset InFlight) : Prop where
  called : x.called s = true
  started : 1 ≤ stage.taken
  resumes : ∃ identity identity_other, Exchange.Resumes (addr s) (addr s.other) identity identity_other
    ⟨x.engine s, x.engine s.other, stage⟩
  inbox : x.inbox s = stage.toClient + noise
  inbox_other : x.inbox s.other = stage.toServer + noise_other

section Steps

variable {addr : Side → Str} {x : Meeting crates} {s : Side} {stage : Stage} {noise noise_other : Multiset InFlight}
  {message : InFlight} {nonce : Bytes32} {rng : crates.OsRng} {now_ms : UInt64}

/-- Connecting, if it succeeds, starts a handshake. What was on its way before is
    noise. -/
theorem connect_leads {probe_bytes : Bytes} {engine : GossipEngine crates}
    (h : GossipEngine.connect_peer (addr s) (.ok nonce) now_ms (x.engine s) = .ok probe_bytes engine) :
    (x.connect addr s nonce now_ms).Leads addr s (.probe ⟨probe_bytes, now_ms⟩) (x.inbox s) (x.inbox s.other) := by
  have hacts := connect_ok h
  refine ⟨?_, Nat.le_refl 1, ⟨(x.engine s).identity, (x.engine s.other).identity, ?_⟩, ?_, hacts.inbox_other⟩
  · rw [connect_called]
    exact Function.update_self ..
  · rw [hacts.engine_self, hacts.engine_other]
    exact Exchange.connect_resumes h
  · rw [hacts.inbox_self]
    exact (Multiset.zero_add _).symm

/-- A handshake that is done has left sessions. -/
theorem Leads.connected (h : x.Leads addr s .done noise noise_other) : x.Connected addr := by
  obtain ⟨_, _, _, session, session_other, hagreed⟩ := h.resumes
  intro t
  rcases s.eq_or_eq_other t with rfl | rfl
  · exact hagreed.at_a ▸ Option.some_ne_none session
  · exact hagreed.at_b ▸ Option.some_ne_none session_other

/-- A step at the other side, on noise, that does not touch a context which the
    other side needs for the leader's handshake. -/
theorem Leads.of_acts {y : Meeting crates} {engine : GossipEngine crates}
    {left messages noise_other' : Multiset InFlight}
    (h : x.Leads addr s stage noise noise_other) (hacts : Acts s.other x y engine left messages)
    (hcalled : y.called s = true) (hidentity : engine.identity = (x.engine s.other).identity)
    (hsessions : engine.sessions = (x.engine s.other).sessions)
    (hcontext : stage.ServerWaits → engine.handshakes = (x.engine s.other).handshakes)
    (hleft : left = stage.toServer + noise_other') :
    y.Leads addr s stage (messages + noise) noise_other' := by
  obtain ⟨identity, identity_other, hresumes⟩ := h.resumes
  refine ⟨hcalled, h.started, ⟨identity, identity_other, ?_⟩, ?_, ?_⟩
  · rw [hacts.leader_engine, hacts.engine_self]
    exact hresumes.of_kept rfl (by rw [hsessions]) (fun _ => rfl) (fun hwaits => by rw [hcontext hwaits])
      fun _ => .of_eq hidentity
  · rw [hacts.leader_inbox, h.inbox, add_left_comm]
  · rw [hacts.inbox_self, hleft]

/-- A message that the other side refuses without a change is gone. -/
theorem Leads.refused {error : GossipError} (h : x.Leads addr s stage noise noise_other) (hmem : message ∈ noise_other)
    (hrun : GossipEngine.process_handshake_bytes (addr s.other) message.bytes (.ok nonce) rng now_ms
      (x.engine s.other) = .error error (x.engine s.other)) :
    (x.deliver addr s.other message nonce rng now_ms).Leads addr s stage noise (noise_other.erase message) := by
  have hcalled : (x.deliver addr s.other message nonce rng now_ms).called s = true := by
    rw [deliver_called]
    exact h.called
  have hleft : (x.inbox s.other).erase message = stage.toServer + noise_other.erase message := by
    rw [h.inbox_other, Multiset.erase_add_right_pos _ hmem]
  have hleads := h.of_acts (deliver_error hrun) hcalled rfl rfl (fun _ => rfl) hleft
  rwa [Multiset.zero_add] at hleads

/-- Until it has its session, the leader has a client context. -/
theorem Leads.client_context (h : x.Leads addr s stage noise noise_other) (hstage : stage ≠ .done) :
    ∃ context, (x.engine s).handshakes.pending[addr s]? = some (.Client context) := by
  obtain ⟨identity, identity_other, _, hat⟩ := h.resumes
  cases stage with
  | start => exact absurd h.started (by decide)
  | probe message =>
    obtain ⟨_, hprobe⟩ := hat
    exact ⟨_, hprobe.client⟩
  | ack message =>
    obtain ⟨_, _, _, hack⟩ := hat
    exact ⟨_, hack.client⟩
  | finish message =>
    obtain ⟨_, _, _, _, hfinish⟩ := hat
    exact ⟨_, hfinish.awaits.client⟩
  | finishAck message =>
    obtain ⟨_, _, _, hfinishAck⟩ := hat
    exact ⟨_, hfinishAck.awaits.client⟩
  | done => exact absurd rfl hstage

/-- The other side keeps its server context until the finish. -/
theorem Leads.server_context (h : x.Leads addr s stage noise noise_other) (hwaits : stage.ServerWaits) :
    ∃ served, (x.engine s.other).handshakes.pending[addr s.other]? = some (.Server (.AckSent served)) := by
  obtain ⟨identity, identity_other, _, hat⟩ := h.resumes
  cases stage with
  | ack message =>
    obtain ⟨_, served, _, hack⟩ := hat
    exact ⟨served, hack.server⟩
  | finish message =>
    obtain ⟨_, served, _, _, hfinish⟩ := hat
    exact ⟨served, hfinish.server⟩
  | _ => exact hwaits.elim

/-- Until the handshake is done, there is a message whose delivery spares it. -/
theorem Leads.exists_message (h : x.Leads addr s stage noise noise_other) (hdone : stage ≠ .done) :
    ∃ t message, message ∈ x.inbox t ∧ ∀ nonce rng now_ms,
      x.Spares addr s (.deliver t message nonce rng now_ms) := by
  obtain ⟨identity, identity_other, _, hat⟩ := h.resumes
  have hother {message : InFlight} (nonce : Bytes32) (rng : crates.OsRng) (now_ms : UInt64) :
      x.Spares addr s (.deliver s.other message nonce rng now_ms) := fun ht => absurd ht s.other_ne
  have hleader {message : InFlight} (hprobe : classify_incoming message.bytes ≠ .HandshakeProbe)
      (hfinish : classify_incoming message.bytes ≠ .HandshakeFinish) (nonce : Bytes32) (rng : crates.OsRng)
      (now_ms : UInt64) : x.Spares addr s (.deliver s message nonce rng now_ms) :=
    fun _ hkind => absurd hkind (not_or.mpr ⟨hprobe, hfinish⟩)
  cases stage with
  | start => exact absurd h.started (by decide)
  | probe message | finish message =>
    refine ⟨s.other, message, ?_, hother⟩
    rw [h.inbox_other]
    exact Multiset.mem_add.mpr (.inl (Multiset.mem_singleton_self message))
  | ack message =>
    obtain ⟨_, _, _, hack⟩ := hat
    refine ⟨s, message, ?_, hleader (by simp [hack.kind]) (by simp [hack.kind])⟩
    rw [h.inbox]
    exact Multiset.mem_add.mpr (.inl (Multiset.mem_singleton_self message))
  | finishAck message =>
    obtain ⟨_, _, _, hfinishAck⟩ := hat
    refine ⟨s, message, ?_, hleader (by simp [hfinishAck.kind]) (by simp [hfinishAck.kind])⟩
    rw [h.inbox]
    exact Multiset.mem_add.mpr (.inl (Multiset.mem_singleton_self message))
  | done => exact absurd rfl hdone

theorem Leads.settled (h : x.Leads addr s stage noise noise_other) : x.Settled addr := by
  intro hquiet _
  by_cases hdone : stage = .done
  · subst hdone
    exact h.connected
  · obtain ⟨t, message, hmem, _⟩ := h.exists_message hdone
    rw [hquiet t] at hmem
    exact absurd hmem (Multiset.notMem_zero message)

/-- A message of the stage is the only one. -/
theorem toClient_eq_singleton (h : message ∈ stage.toClient) : stage.toClient = {message} := by
  cases stage with
  | ack _ | finishAck _ => rw [Multiset.mem_singleton.mp h]; rfl
  | _ => exact absurd h (Multiset.notMem_zero message)

theorem toServer_eq_singleton (h : message ∈ stage.toServer) : stage.toServer = {message} := by
  cases stage with
  | probe _ | finish _ => rw [Multiset.mem_singleton.mp h]; rfl
  | _ => exact absurd h (Multiset.notMem_zero message)

section Laws

variable (hsignature : crates.SignatureCorrect) (hlengths : crates.KeyLengths) (hkem : crates.KemCorrect)
  (hjson : crates.KemRoundTrip)

include hsignature hlengths hkem hjson

/-- The other side gets the leader's message. -/
theorem Leads.deliver_other (h : x.Leads addr s stage noise noise_other) (hmessage : stage.toServer = {message})
    (hfresh : now_ms.toNat - message.sent_at_ms.toNat ≤ 30000) :
    ∃ stage', (x.deliver addr s.other message nonce rng now_ms).Leads addr s stage' noise noise_other ∧
      stage'.taken = stage.taken + 1 := by
  obtain ⟨identity, identity_other, hresumes⟩ := h.resumes
  obtain ⟨hmessage?, hclient⟩ : stage.message? = some message ∧ stage.toClient = 0 := by
    cases stage with
    | probe _ | finish _ => exact ⟨congrArg some (Multiset.singleton_inj.mp hmessage), rfl⟩
    | _ => exact absurd hmessage.symm (Multiset.singleton_ne_zero message)
  obtain ⟨y, identity', identity_other', hstep, hy, htaken, _⟩ :=
    hresumes.deliver hsignature hlengths hkem hjson ⟨message, hmessage?, hfresh⟩
  obtain ⟨answer, hrun, hleader, hanswer, hserver⟩ := Exchange.step_toServer hmessage hstep
  have hacts := deliver_ok hrun
  refine ⟨y.stage, ⟨?_, by omega, ⟨identity', identity_other', ?_⟩, ?_, ?_⟩, htaken⟩
  · rw [deliver_called]
    exact h.called
  · dsimp only at hleader
    rw [hacts.engine_self, hacts.leader_engine, ← hleader]
    exact hy
  · rw [hacts.leader_inbox, h.inbox, hclient, hanswer, Multiset.zero_add]
  · rw [hacts.inbox_self, h.inbox_other, hmessage, hserver, Multiset.singleton_add, Multiset.erase_cons_head,
      Multiset.zero_add]

/-- The leader gets the answer that it waits for. -/
theorem Leads.deliver_leader (h : x.Leads addr s stage noise noise_other) (hmessage : stage.toClient = {message})
    (hfresh : now_ms.toNat - message.sent_at_ms.toNat ≤ 30000) :
    ∃ stage', (x.deliver addr s message nonce rng now_ms).Leads addr s stage' noise noise_other ∧
      stage'.taken = stage.taken + 1 := by
  obtain ⟨identity, identity_other, hresumes⟩ := h.resumes
  obtain ⟨hmessage?, hserver⟩ : stage.message? = some message ∧ stage.toServer = 0 := by
    cases stage with
    | ack _ | finishAck _ => exact ⟨congrArg some (Multiset.singleton_inj.mp hmessage), rfl⟩
    | _ => exact absurd hmessage.symm (Multiset.singleton_ne_zero message)
  obtain ⟨y, identity', identity_other', hstep, hy, htaken, _⟩ :=
    hresumes.deliver hsignature hlengths hkem hjson ⟨message, hmessage?, hfresh⟩
  obtain ⟨answer, hrun, hother, hanswer, hclient⟩ := Exchange.step_toClient hmessage hstep
  have hacts := deliver_ok hrun
  refine ⟨y.stage, ⟨?_, by omega, ⟨identity', identity_other', ?_⟩, ?_, ?_⟩, htaken⟩
  · rw [deliver_called]
    exact h.called
  · dsimp only at hother
    rw [hacts.engine_self, hacts.engine_other, ← hother]
    exact hy
  · rw [hacts.inbox_self, h.inbox, hmessage, hclient, Multiset.singleton_add, Multiset.erase_cons_head,
      Multiset.zero_add]
  · rw [hacts.inbox_other, h.inbox_other, hserver, hanswer, Multiset.zero_add]

/-- Without noise every message that arrives is the leader's or an answer to it. -/
theorem Leads.deliver_sole (h : x.Leads addr s stage 0 0) {t : Side} (hmem : message ∈ x.inbox t)
    (hfresh : now_ms.toNat - message.sent_at_ms.toNat ≤ 30000) :
    ∃ stage', (x.deliver addr t message nonce rng now_ms).Leads addr s stage' 0 0 ∧
      stage'.taken = stage.taken + 1 := by
  rcases s.eq_or_eq_other t with rfl | rfl
  · rw [h.inbox, add_zero] at hmem
    exact h.deliver_leader hsignature hlengths hkem hjson (toClient_eq_singleton hmem) hfresh
  · rw [h.inbox_other, add_zero] at hmem
    exact h.deliver_other hsignature hlengths hkem hjson (toServer_eq_singleton hmem) hfresh

/-- Deliveries without delay complete a handshake without noise. -/
theorem Leads.completes (nonce : Bytes32) (rng : crates.OsRng) {count : Nat} (h : x.Leads addr s stage 0 0)
    (hcount : stage.taken + count = 5) :
    ∃ y, Relation.ReflTransGen (TakesSparing addr s) x y ∧ y.Leads addr s .done 0 0 ∧ y.called = x.called := by
  induction count generalizing x stage with
  | zero =>
    cases stage with
    | done => exact ⟨x, .refl, h, rfl⟩
    | _ => simp [Stage.taken] at hcount
  | succ count ih =>
    have hdone : stage ≠ .done := by
      rintro rfl
      simp only [Stage.taken] at hcount
      omega
    obtain ⟨t, message, hmem, hspares⟩ := h.exists_message hdone
    have hfresh : message.sent_at_ms.toNat - message.sent_at_ms.toNat ≤ 30000 := by omega
    obtain ⟨stage', hleads, htaken⟩ := h.deliver_sole hsignature hlengths hkem hjson hmem hfresh
    obtain ⟨y, hrun, hy, hcalled⟩ := ih hleads (by omega)
    refine ⟨y, .head ⟨.deliver t message nonce rng message.sent_at_ms, ⟨hmem, hfresh⟩, hspares _ _ _, rfl⟩ hrun, hy, ?_⟩
    rw [hcalled, deliver_called]

end Laws

end Steps

end Meeting

end witan.gossip
