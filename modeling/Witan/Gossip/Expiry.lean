import Witan.Gossip.Completing
import Witan.Gossip.Maintenance
import Witan.Gossip.Storing

open bincode fallible maps runs
open witan.types witan.error witan.identity witan.session witan.config
open witan.handshake (HandshakeManager HandshakeContext HandlerCall HANDSHAKE_TIMEOUT_MS)

namespace witan.gossip

open GossipEngine

variable {crates : Crates}

namespace EngineCall

/-- A message that the handler would accept finds a context that is not timed out. -/
def FindsLive (engine : GossipEngine crates) (call : EngineCall crates) : Prop :=
  ∀ handler, call.completion engine = some handler → handler.PassesOtherwise engine.handshakes →
    (∃ stamp, handler.timestamp = some stamp ∧ handler.now.toNat - stamp.toNat ≤ 30000) →
    ∀ context, engine.handshakes.pending[handler.peer_addr]? = some context →
      context.is_timed_out handler.now = false

/-- The clock reading of a run at a position. -/
def clockAt (calls : List (EngineCall crates)) (k : Nat) : Option UInt64 := calls[k]?.bind clock

/-- Between two calls for one peer that are further apart than the timeout, there is a
    heartbeat after the first one's timeout. -/
def Swept (calls : List (EngineCall crates)) : Prop :=
  ∀ (i k : Nat) (first second : EngineCall crates) (addr : Str) (created now_ms : UInt64), i < k →
    calls[i]? = some first → calls[k]? = some second →
    first.address = some addr → second.address = some addr →
    first.clock = some created → second.clock = some now_ms →
    created.toNat + HANDSHAKE_TIMEOUT_MS < now_ms.toNat →
    ∃ (j : Nat) (order : IterationOrder) (swept_at : UInt64), i < j ∧ j < k ∧
      calls[j]? = some (.operation (.heartbeat order swept_at)) ∧ created.toNat + HANDSHAKE_TIMEOUT_MS < swept_at.toNat

end EngineCall

open EngineCall

/-- The context that is there for the peer at position `k` was stored at position `i`,
    and not longer ago than the timeout. -/
structure StoredInTime (calls : List (EngineCall crates)) (start : GossipEngine crates) (addr : Str) (i k : Nat) :
    Prop where
  order : i < k
  stored : ∃ event, EngineCall.eventAt calls start i = some (addr, event)
  undisturbed : EngineCall.Undisturbed calls start addr i k
  age : ∃ created now_ms : UInt64, clockAt calls i = some created ∧ clockAt calls k = some now_ms ∧
    now_ms.toNat ≤ created.toNat + HANDSHAKE_TIMEOUT_MS

/-- Every completed handshake used up a context that was stored at most 10 s before. -/
def NoneExpired (calls : List (EngineCall crates)) (start : GossipEngine crates) : Prop :=
  ∀ k addr event, EngineCall.eventAt calls start k = some (addr, event) → event.completes = true →
    ∃ i, StoredInTime calls start addr i k

section Runs

variable {calls : List (EngineCall crates)} {start : GossipEngine crates} {addr : Str} {i k : Nat}
  {event : HandshakeEvent} {context : HandshakeContext} {call : EngineCall crates}

theorem clockAt_eq (h : calls[k]? = some call) : clockAt calls k = call.clock := by
  unfold clockAt
  rw [h, Option.bind_some]

/-- A context that nothing disturbed carries the time of the call that stored it. -/
theorem sentAt_of_undisturbed (hevent : EngineCall.eventAt calls start i = some (addr, event))
    (hundisturbed : EngineCall.Undisturbed calls start addr i k) (hlt : i < k)
    (hcontext : (runAll (calls.take k) start).handshakes.pending[addr]? = some context) :
    ∃ created, clockAt calls i = some created ∧ context.sentAt = some created := by
  obtain ⟨call, hcall, hstep, hrun⟩ := eventAt_eq_some hevent
  have hkept : (runAll (calls.take k) start).handshakes.pending[addr]? =
      (runAll (calls.take (i + 1)) start).handshakes.pending[addr]? := hundisturbed.value k hlt le_rfl
  rw [hcontext, hrun] at hkept
  rw [clockAt_eq hcall]
  exact call.stored_at hstep hkept.symm

/-- What a completion finds: the context that it uses up, when that was stored, and
    its own time. -/
theorem completion_found (hstart : start.handshakes.pending[addr]? = none)
    (hevent : EngineCall.eventAt calls start k = some (addr, event)) (hcompletes : event.completes = true) :
    ∃ i created context,
      i < k ∧ (∃ stored, EngineCall.eventAt calls start i = some (addr, stored)) ∧
        EngineCall.Undisturbed calls start addr i k ∧ clockAt calls i = some created ∧
        (runAll (calls.take k) start).handshakes.pending[addr]? = some context ∧ context.sentAt = some created := by
  obtain ⟨context, hcontext⟩ := Option.ne_none_iff_exists'.mp ((effect_of_eventAt hevent).used hcompletes).1
  obtain ⟨i, stored, hlt, hstored, _, hundisturbed⟩ := exists_step_of_context hstart hcontext
  obtain ⟨created, hclock, hsentAt⟩ := sentAt_of_undisturbed hstored hundisturbed hlt hcontext
  exact ⟨i, created, context, hlt, ⟨stored, hstored⟩, hundisturbed, hclock, hcontext, hsentAt⟩

/-- No expired handshake is completed exactly if every message that would complete one
    finds it before its timeout. -/
theorem noneExpired_iff (hstart : ∀ addr : Str, start.handshakes.pending[addr]? = none) :
    NoneExpired calls start ↔
      ∀ (k : Nat) (call : EngineCall crates), calls[k]? = some call → call.FindsLive (runAll (calls.take k) start) := by
  constructor
  · intro hnone k call hcall handler hcompletion hpasses hfresh context hcontext
    obtain ⟨_, hclock⟩ := completion_eq_some hcompletion
    obtain ⟨event, hevent, hcompletes⟩ :=
      event_of_succeeds hcompletion ((HandlerCall.succeeds_iff _ handler).mpr ⟨hpasses, hfresh⟩)
    obtain ⟨i, hlt, ⟨stored, hstored⟩, hundisturbed, created, now_ms, hcreated, hnow, hage⟩ :=
      hnone k handler.peer_addr event (eventAt_eq_some_iff.mpr ⟨call, hcall, hevent⟩) hcompletes
    obtain ⟨created', hcreated', hsentAt⟩ := sentAt_of_undisturbed hstored hundisturbed hlt hcontext
    obtain rfl := Option.some.inj (hcreated.symm.trans hcreated')
    rw [clockAt_eq hcall, hclock] at hnow
    obtain rfl := Option.some.inj hnow
    exact (HandshakeContext.is_timed_out_eq_false_iff hsentAt).mpr hage
  · intro hlive k addr event hevent hcompletes
    obtain ⟨call, hcall, hstep, _⟩ := eventAt_eq_some hevent
    obtain ⟨handler, hcompletion, rfl, hsucceeds⟩ := call.exists_completion hstep hcompletes
    obtain ⟨_, hclock⟩ := completion_eq_some hcompletion
    obtain ⟨hpasses, hfresh⟩ := (HandlerCall.succeeds_iff _ handler).mp hsucceeds
    obtain ⟨i, created, context, hlt, hstored, hundisturbed, hcreated, hcontext, hsentAt⟩ :=
      completion_found (hstart _) hevent hcompletes
    have hfound := hlive k call hcall handler hcompletion hpasses hfresh context hcontext
    refine ⟨i, hlt, hstored, hundisturbed, created, handler.now, hcreated, ?_, ?_⟩
    · rw [clockAt_eq hcall, hclock]
    · exact (HandshakeContext.is_timed_out_eq_false_iff hsentAt).mp hfound

/-- A heartbeat after the timeout of a context removes it. -/
theorem not_timed_out_of_heartbeat {order : IterationOrder} {engine : GossipEngine crates} {now_ms : UInt64}
    (h : (engine.heartbeat order now_ms).handshakes.pending[addr]? = some context) :
    context.is_timed_out now_ms = false :=
  (heartbeat_settled order now_ms).pending addr context h

/-- A host that sweeps in time never completes an expired handshake. -/
theorem noneExpired_of_swept (hstart : ∀ addr : Str, start.handshakes.pending[addr]? = none) (hswept : Swept calls) :
    NoneExpired calls start := by
  intro k addr event hevent hcompletes
  obtain ⟨second, hsecond, hstep, _⟩ := eventAt_eq_some hevent
  obtain ⟨handler, hcompletion, rfl, _⟩ := second.exists_completion hstep hcompletes
  obtain ⟨haddress, hclock⟩ := completion_eq_some hcompletion
  obtain ⟨i, created, context, hlt, ⟨stored, hstored⟩, hundisturbed, hcreated, hcontext, hsentAt⟩ :=
    completion_found (hstart _) hevent hcompletes
  refine ⟨i, hlt, ⟨stored, hstored⟩, hundisturbed, created, handler.now, hcreated, ?_, ?_⟩
  · rw [clockAt_eq hsecond, hclock]
  · by_contra hlate
    obtain ⟨first, hfirst, hfirstStep, _⟩ := eventAt_eq_some hstored
    rw [clockAt_eq hfirst] at hcreated
    obtain ⟨j, order, swept_at, hij, hjk, hheartbeat, hsweep⟩ := hswept i k first second handler.peer_addr created
      handler.now hlt hfirst hsecond (address_of_event hfirstStep) haddress hcreated hclock (Nat.not_le.mp hlate)
    -- The heartbeat would have removed the context, which is still there at `k`.
    have hafter : (runAll (calls.take (j + 1)) start).handshakes.pending[handler.peer_addr]? = some context := by
      have hkept : (runAll (calls.take k) start).handshakes.pending[handler.peer_addr]? = _ :=
        hundisturbed.value k hlt le_rfl
      have hswept : (runAll (calls.take (j + 1)) start).handshakes.pending[handler.peer_addr]? = _ :=
        hundisturbed.value (j + 1) (by omega) hjk
      rw [hswept, ← hkept, hcontext]
    have hrun : runAll (calls.take (j + 1)) start = (runAll (calls.take j) start).heartbeat order swept_at :=
      stateAt_succ_of_some hheartbeat
    rw [hrun] at hafter
    have hbound := (HandshakeContext.is_timed_out_eq_false_iff hsentAt).mp (not_timed_out_of_heartbeat hafter)
    omega

end Runs

/-- Expiry over every run. The handlers do not look at the timeout themselves, so a
    handshake is completed in time exactly where the messages that complete it find it
    before its timeout. A host ensures that by making a heartbeat after the timeout of
    a handshake and before it passes on anything more from that peer. -/
theorem handshakes_complete_in_time_iff (resolved : ResolvedConfig) (identity : NodeIdentity crates)
    (calls : List (EngineCall crates)) :
    let start := GossipEngine.new resolved identity
    (NoneExpired calls start ↔
        ∀ (k : Nat) (call : EngineCall crates), calls[k]? = some call →
          call.FindsLive (runAll (calls.take k) start)) ∧
      (Swept calls → NoneExpired calls start) := by
  intro start
  have hstart (addr : Str) : start.handshakes.pending[addr]? = none := Std.ExtHashMap.getElem?_empty
  exact ⟨noneExpired_iff hstart, noneExpired_of_swept hstart⟩

namespace reference

open witan.handshake

/-- The finish of node 1 arrives 20 s after node 2 has answered its probe, and nobody
    asked for the statistics in between. -/
def late : EngineCall reference.crates :=
  .operation (.process_handshake_bytes Splice.clientAddr (finishAt 20000) (.ok Splice.serverNonce) (9 : UInt8) 20000)

theorem late_event : late.event waiting = some (Splice.clientAddr, .serverCompleted) := by
  obtain ⟨answer, session, hrun, _⟩ := finish_accepted 20000
  have hkind := classify_incoming_finishAt 20000
  unfold late
  rw [event_of_finish (.ok Splice.serverNonce) (9 : UInt8) hkind hrun]

end reference

theorem expired_handshake_completed :
    NonDecreasing [reference.probed, reference.late] ∧
      ¬ NoneExpired [reference.probed, reference.late] (reference.engine 2) := by
  refine ⟨?_, fun hnone => ?_⟩
  · have hclock : [reference.probed, reference.late].filterMap clock = [0, 20000] := rfl
    unfold NonDecreasing
    rw [hclock]
    decide
  · have hevent : EngineCall.eventAt [reference.probed, reference.late] (reference.engine 2) 1 =
        some (handshake.Splice.clientAddr, .serverCompleted) := by
      refine eventAt_eq_some_iff.mpr ⟨reference.late, rfl, ?_⟩
      unfold stateAt
      rw [List.take_succ_cons, List.take_zero, List.foldl_cons, List.foldl_nil, reference.run_probed]
      exact reference.late_event
    obtain ⟨i, hlt, _, _, created, now_ms, hcreated, hnow, hage⟩ := hnone 1 _ _ hevent rfl
    obtain rfl : i = 0 := by omega
    obtain rfl := Option.some.inj hcreated
    obtain rfl := Option.some.inj hnow
    exact absurd hage (by decide)

end witan.gossip
