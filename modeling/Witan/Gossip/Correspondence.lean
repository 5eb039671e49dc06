import Witan.Gossip.Effects
import Witan.Runs.Events

open bincode fallible maps runs
open witan.types witan.error witan.identity witan.session witan.config
open witan.handshake (HandshakeManager HandshakeContext)

namespace witan.gossip

open GossipEngine

variable {crates : Crates}

namespace EngineCall

/-- The handshake step of a run at a position. -/
def eventAt (calls : List (EngineCall crates)) (start : GossipEngine crates) (k : Nat) :
    Option (Str × HandshakeEvent) :=
  runs.eventAt (fun engine call => call.run engine) (fun engine call => call.event engine) start calls k

/-- How many of the steps of a run are of this kind. -/
def eventCount (calls : List (EngineCall crates)) (start : GossipEngine crates) (kind : HandshakeEvent → Bool) : Nat :=
  (occurrences (fun engine call => call.run engine) (fun engine call => call.event engine) start calls
    (fun event => kind event.2)).card

/-- Between two positions there is no handshake step with the peer, and the context
    that the first one stored for it is there up to the second. -/
def Undisturbed (calls : List (EngineCall crates)) (start : GossipEngine crates) (addr : Str) (i k : Nat) : Prop :=
  runs.Undisturbed (fun engine call => call.run engine) (fun engine call => call.event engine) start calls
    (fun event => event.1 = addr) (fun engine => engine.handshakes.pending[addr]?) i k

end EngineCall

section Matching

open EngineCall

variable (calls : List (EngineCall crates)) (start : GossipEngine crates)

/-- The accepted probe that a completion by the server goes back to. -/
structure ServerMatch (addr : Str) (probe k : Nat) : Prop where
  order : probe < k
  probeAccepted : eventAt calls start probe = some (addr, .probeAccepted)
  undisturbed : Undisturbed calls start addr probe k

/-- The probe and the accepted ack that a completion by the client goes back to. -/
structure ClientMatch (addr : Str) (probe ack k : Nat) : Prop where
  order : probe < ack ∧ ack < k
  accepted : ∃ client_nonce, eventAt calls start probe = some (addr, .probeBuilt client_nonce) ∧
    eventAt calls start ack = some (addr, .ackAccepted client_nonce)
  undisturbed : Undisturbed calls start addr probe ack ∧ Undisturbed calls start addr ack k

variable {calls start} {addr : Str} {k : Nat}

theorem eventAt_eq_some {event : HandshakeEvent} (h : eventAt calls start k = some (addr, event)) :
    ∃ call, calls[k]? = some call ∧ call.event (runAll (calls.take k) start) = some (addr, event) ∧
      runAll (calls.take (k + 1)) start = call.run (runAll (calls.take k) start) := by
  obtain ⟨call, hcall, hevent⟩ := eventAt_eq_some_iff.mp h
  exact ⟨call, hcall, hevent, stateAt_succ_of_some hcall⟩

theorem effect_of_eventAt {event : HandshakeEvent} (h : eventAt calls start k = some (addr, event)) :
    event.Effect (runAll (calls.take k) start).handshakes.pending[addr]?
      (runAll (calls.take (k + 1)) start).handshakes.pending[addr]? := by
  obtain ⟨call, _, hevent, hrun⟩ := eventAt_eq_some h
  rw [hrun]
  exact (effected_of_event hevent).context

/-- A context goes back to the last step with its peer. -/
theorem exists_step_of_context (hstart : start.handshakes.pending[addr]? = none) {context : HandshakeContext}
    (h : (runAll (calls.take k) start).handshakes.pending[addr]? = some context) :
    ∃ i event, i < k ∧ eventAt calls start i = some (addr, event) ∧
      event.Effect (runAll (calls.take i) start).handshakes.pending[addr]? (some context) ∧
      Undisturbed calls start addr i k := by
  have hlast : ∃ i event, i < k ∧ eventAt calls start i = some event ∧ event.1 = addr ∧
      Undisturbed calls start addr i k :=
    exists_last_event (fun engine call hquiet => EngineCall.quiet hquiet) hstart h
  obtain ⟨i, ⟨_, event⟩, hi, hevent, rfl, hundisturbed⟩ := hlast
  refine ⟨i, event, hi, hevent, ?_, hundisturbed⟩
  have heffect := effect_of_eventAt hevent
  have hkept : (runAll (calls.take k) start).handshakes.pending[_]? = _ := hundisturbed.value k hi le_rfl
  rw [h] at hkept
  rw [hkept]
  exact heffect

/-- The server completes a handshake for which it accepted a probe. -/
theorem exists_serverMatch (hstart : start.handshakes.pending[addr]? = none)
    (h : eventAt calls start k = some (addr, .serverCompleted)) : ∃ probe, ServerMatch calls start addr probe k := by
  obtain ⟨sent, hbefore⟩ := (effect_of_eventAt h).of_serverCompleted
  obtain ⟨probe, event, hprobe, hevent, heffect, hundisturbed⟩ := exists_step_of_context hstart hbefore
  rw [heffect.of_ackSent] at hevent
  exact ⟨probe, hprobe, hevent, hundisturbed⟩

/-- The client completes a handshake for which it built a probe and accepted an ack. -/
theorem exists_clientMatch (hstart : start.handshakes.pending[addr]? = none)
    (h : eventAt calls start k = some (addr, .clientCompleted)) :
    ∃ probe ack, ClientMatch calls start addr probe ack k := by
  obtain ⟨sent, hbefore⟩ := (effect_of_eventAt h).of_clientCompleted
  obtain ⟨ack, event, hack, hevent, heffect, hundisturbed⟩ := exists_step_of_context hstart hbefore
  obtain ⟨sent, rfl, hanswered⟩ := heffect.of_finishSent
  obtain ⟨probe, event, hprobe, hbuilt, heffect, hundisturbed'⟩ := exists_step_of_context hstart hanswered
  rw [heffect.of_probeSent] at hbuilt
  exact ⟨probe, ack, ⟨hprobe, hack⟩, ⟨_, hbuilt, hevent⟩, hundisturbed', hundisturbed⟩

/-- Two steps with one peer that follow the same position undisturbed are one. -/
theorem undisturbed_unique {i k' : Nat} {event event' : HandshakeEvent} (h : Undisturbed calls start addr i k)
    (h' : Undisturbed calls start addr i k') (hlt : i < k) (hlt' : i < k')
    (hevent : eventAt calls start k = some (addr, event)) (hevent' : eventAt calls start k' = some (addr, event')) :
    k = k' :=
  runs.Undisturbed.unique h h' hlt hlt' hevent rfl hevent' rfl

theorem ServerMatch.unique {addr' : Str} {probe k' : Nat} (h : ServerMatch calls start addr probe k)
    (h' : ServerMatch calls start addr' probe k') (hevent : eventAt calls start k = some (addr, .serverCompleted))
    (hevent' : eventAt calls start k' = some (addr', .serverCompleted)) : k = k' := by
  have hsame := h.probeAccepted.symm.trans h'.probeAccepted
  cases hsame
  exact undisturbed_unique h.undisturbed h'.undisturbed h.order h'.order hevent hevent'

/-- Client completions that share an ack are one. -/
theorem ClientMatch.unique_of_ack {addr' : Str} {probe probe' ack k' : Nat}
    (h : ClientMatch calls start addr probe ack k) (h' : ClientMatch calls start addr' probe' ack k')
    (hevent : eventAt calls start k = some (addr, .clientCompleted))
    (hevent' : eventAt calls start k' = some (addr', .clientCompleted)) : k = k' := by
  obtain ⟨_, _, hack⟩ := h.accepted
  obtain ⟨_, _, hack'⟩ := h'.accepted
  have hsame := hack.symm.trans hack'
  cases hsame
  exact undisturbed_unique h.undisturbed.2 h'.undisturbed.2 h.order.2 h'.order.2 hevent hevent'

theorem ClientMatch.unique {addr' : Str} {probe ack ack' k' : Nat}
    (h : ClientMatch calls start addr probe ack k) (h' : ClientMatch calls start addr' probe ack' k')
    (hevent : eventAt calls start k = some (addr, .clientCompleted))
    (hevent' : eventAt calls start k' = some (addr', .clientCompleted)) : k = k' := by
  obtain ⟨_, hprobe, hack⟩ := h.accepted
  obtain ⟨_, hprobe', hack'⟩ := h'.accepted
  have hsame := hprobe.symm.trans hprobe'
  cases hsame
  obtain rfl : ack = ack' :=
    undisturbed_unique h.undisturbed.1 h'.undisturbed.1 h.order.1 h'.order.1 hack hack'
  exact h.unique_of_ack h' hevent hevent'

/-- All completions of a run have their matches, and no two share one. -/
structure Matching (calls : List (EngineCall crates)) (start : GossipEngine crates) (probe ack : Nat → Nat) : Prop where
  server : ∀ k addr, eventAt calls start k = some (addr, .serverCompleted) → ServerMatch calls start addr (probe k) k
  client : ∀ k addr, eventAt calls start k = some (addr, .clientCompleted) →
    ClientMatch calls start addr (probe k) (ack k) k
  probe_injOn : Set.InjOn probe {k | ∃ addr event, eventAt calls start k = some (addr, event) ∧ event.completes = true}
  ack_injOn : Set.InjOn ack {k | ∃ addr, eventAt calls start k = some (addr, .clientCompleted)}

/-- A probe that was accepted is not one that was built. -/
theorem ClientMatch.not_server {addr' : Str} {probe ack k' : Nat} (h : ClientMatch calls start addr probe ack k)
    (h' : ServerMatch calls start addr' probe k') : False := by
  obtain ⟨_, hbuilt, _⟩ := h.accepted
  rw [h'.probeAccepted] at hbuilt
  cases hbuilt

theorem exists_match (calls : List (EngineCall crates))
    (hstart : ∀ addr : Str, start.handshakes.pending[addr]? = none) (k : Nat) :
    ∃ probe ack,
      (∀ addr, eventAt calls start k = some (addr, .serverCompleted) → ServerMatch calls start addr probe k) ∧
        ∀ addr, eventAt calls start k = some (addr, .clientCompleted) →
          ClientMatch calls start addr probe ack k := by
  cases hevent : eventAt calls start k with
  | none => exact ⟨0, 0, nofun, nofun⟩
  | some found =>
    obtain ⟨addr, event⟩ := found
    cases event with
    | serverCompleted =>
      obtain ⟨probe, hserver⟩ := exists_serverMatch (hstart addr) hevent
      refine ⟨probe, 0, ?_, nofun⟩
      rintro _ ⟨⟩
      exact hserver
    | clientCompleted =>
      obtain ⟨probe, ack, hclient⟩ := exists_clientMatch (hstart addr) hevent
      refine ⟨probe, ack, nofun, ?_⟩
      rintro _ ⟨⟩
      exact hclient
    | probeBuilt client_nonce => exact ⟨0, 0, nofun, nofun⟩
    | ackAccepted client_nonce => exact ⟨0, 0, nofun, nofun⟩
    | probeAccepted => exact ⟨0, 0, nofun, nofun⟩

theorem exists_matching (hstart : ∀ addr : Str, start.handshakes.pending[addr]? = none) :
    ∃ probe ack, Matching calls start probe ack := by
  choose probe ack hserver hclient using exists_match calls hstart
  refine ⟨probe, ack, hserver, hclient, ?_, ?_⟩
  · rintro k ⟨addr, event, hevent, hcompletes⟩ k' ⟨addr', event', hevent', hcompletes'⟩ hsame
    -- Completions with one probe are both on one side.
    cases event <;> cases hcompletes <;> cases event' <;> cases hcompletes'
    case clientCompleted.refl.clientCompleted.refl =>
      have hfirst := hclient k addr hevent
      rw [hsame] at hfirst
      exact hfirst.unique (hclient k' addr' hevent') hevent hevent'
    case clientCompleted.refl.serverCompleted.refl =>
      have hfirst := hclient k addr hevent
      rw [hsame] at hfirst
      exact (hfirst.not_server (hserver k' addr' hevent')).elim
    case serverCompleted.refl.clientCompleted.refl =>
      have hfirst := hserver k addr hevent
      rw [hsame] at hfirst
      exact ((hclient k' addr' hevent').not_server hfirst).elim
    case serverCompleted.refl.serverCompleted.refl =>
      have hfirst := hserver k addr hevent
      rw [hsame] at hfirst
      exact hfirst.unique (hserver k' addr' hevent') hevent hevent'
  · rintro k ⟨addr, hevent⟩ k' ⟨addr', hevent'⟩ hsame
    have hfirst := hclient k addr hevent
    rw [hsame] at hfirst
    exact hfirst.unique_of_ack (hclient k' addr' hevent') hevent hevent'

/-- Every completion is paid for by a probe of its own. -/
theorem Matching.eventCount_le {probe ack : Nat → Nat} (h : Matching calls start probe ack) :
    eventCount calls start HandshakeEvent.completes ≤
      eventCount calls start HandshakeEvent.buildsProbe + eventCount calls start HandshakeEvent.acceptsProbe := by
  unfold eventCount
  refine le_trans (Finset.card_le_card_of_injOn probe ?_ ?_) (Finset.card_union_le _ _)
  · intro k hk
    obtain ⟨⟨addr, event⟩, hevent, hcompletes⟩ := mem_occurrences_iff.mp hk
    refine Finset.mem_coe.mpr (Finset.mem_union.mpr ?_)
    cases event with
    | clientCompleted =>
      obtain ⟨_, hbuilt, _⟩ := (h.client k addr hevent).accepted
      exact .inl (mem_occurrences_iff.mpr ⟨_, hbuilt, rfl⟩)
    | serverCompleted => exact .inr (mem_occurrences_iff.mpr ⟨_, (h.server k addr hevent).probeAccepted, rfl⟩)
    | probeBuilt client_nonce => cases hcompletes
    | ackAccepted client_nonce => cases hcompletes
    | probeAccepted => cases hcompletes
  · refine h.probe_injOn.mono ?_
    intro k hk
    obtain ⟨⟨addr, event⟩, hevent, hcompletes⟩ := mem_occurrences_iff.mp hk
    exact ⟨addr, event, hevent, hcompletes⟩

end Matching

/-- The operation hands these bytes of the peer to a handler that can complete a
    handshake. -/
inductive EngineOp.Delivers (addr : Str) (bytes : Bytes) : EngineOp crates → Prop
  | process_handshake_bytes (getrandom : Except String Bytes32) (rng : crates.OsRng) (now_ms : UInt64) :
    Delivers addr bytes (.process_handshake_bytes addr bytes getrandom rng now_ms)
  | build_finish_ack (now_ms : UInt64) : Delivers addr bytes (.build_finish_ack addr bytes now_ms)

section Redelivery

variable {engine : GossipEngine crates} {addr : Str} {bytes : Bytes} {op : EngineOp crates}

/-- Bytes that completed a handshake are a finish or a finish-ack. -/
theorem EngineOp.Delivers.completing {event : HandshakeEvent} (h : op.Delivers addr bytes)
    (hevent : op.event engine = some (addr, event)) (hcompletes : event.completes = true) :
    ∃ event, acceptedEvent bytes = some event ∧ event.completes = true := by
  cases h with
  | process_handshake_bytes getrandom rng now_ms =>
    unfold EngineOp.event at hevent
    dsimp only at hevent
    cases hresult : GossipEngine.process_handshake_bytes addr bytes getrandom rng now_ms engine with
    | error error after =>
      rw [hresult] at hevent
      cases hevent
    | ok answer after =>
      rw [hresult] at hevent
      obtain ⟨event', hevent', hpair⟩ := Option.map_eq_some_iff.mp hevent
      cases hpair
      exact ⟨event, hevent', hcompletes⟩
  | build_finish_ack now_ms =>
    unfold EngineOp.event at hevent
    dsimp only at hevent
    cases hresult : GossipEngine.build_finish_ack addr bytes now_ms engine with
    | error error after =>
      rw [hresult] at hevent
      cases hevent
    | ok answer after =>
      unfold GossipEngine.build_finish_ack at hresult
      rw [get_bind] at hresult
      obtain ⟨⟨finish_ack_bytes, session⟩, middle, hfinish, _⟩ := bind_eq_ok_iff.mp hresult
      obtain ⟨handshakes, hanswer, _⟩ := onPart_eq_ok_iff.mp hfinish
      obtain ⟨finish, _, _, _, hdecode, ⟨hmagic, _⟩, _⟩ :=
        HandshakeManager.process_finish_build_finish_ack_eq_ok_iff.mp hanswer
      obtain ⟨trailing, rfl⟩ := HandshakeFinish.codec.decodePrefix_eq_some_iff.mp hdecode
      refine ⟨.serverCompleted, ?_, rfl⟩
      unfold acceptedEvent
      rw [classify_incoming_finish_append finish hmagic trailing]

/-- Without a context such bytes are refused, and no session changes. -/
theorem EngineOp.Delivers.refused {event : HandshakeEvent} (h : op.Delivers addr bytes)
    (hevent : acceptedEvent bytes = some event) (hcompletes : event.completes = true)
    (hnone : engine.handshakes.pending[addr]? = none) :
    (∃ error, op.answer engine = some (.error error)) ∧ (op.run engine).sessions = engine.sessions := by
  cases h with
  | process_handshake_bytes getrandom rng now_ms =>
    unfold EngineOp.answer EngineOp.run
    dsimp only
    cases hresult : GossipEngine.process_handshake_bytes addr bytes getrandom rng now_ms engine with
    | error error after => exact ⟨⟨error, rfl⟩, (process_handshake_bytes_refused error after hresult).sessions⟩
    | ok answer after =>
      obtain ⟨event', hevent', heffected⟩ := process_handshake_bytes_effected hresult
      rw [hevent] at hevent'
      cases hevent'
      exact absurd hnone (heffected.context.used hcompletes).1
  | build_finish_ack now_ms =>
    unfold EngineOp.answer EngineOp.run
    dsimp only
    cases hresult : GossipEngine.build_finish_ack addr bytes now_ms engine with
    | error error after => exact ⟨⟨error, rfl⟩, (build_finish_ack_refused error after hresult).sessions⟩
    | ok answer after => exact absurd hnone ((build_finish_ack_effected hresult).context.used rfl).1

end Redelivery

/-- Contexts are used once and in phase order: every completed handshake of a run
    has a probe of its own, and on the client's side an ack with the probe's nonce,
    with nothing stored for the peer in between. So no more handshakes are counted
    than probes were built and accepted, and the bytes that completed one are
    refused when they come again. -/
theorem completions_matched_once (resolved : ResolvedConfig) (identity : NodeIdentity crates)
    (calls : List (EngineCall crates)) :
    (∃ probe ack, Matching calls (.new resolved identity) probe ack) ∧
      (EngineCall.runAll calls (.new resolved identity)).stats.handshakes_completed.toNat ≤
        EngineCall.eventCount calls (.new resolved identity) HandshakeEvent.buildsProbe +
          EngineCall.eventCount calls (.new resolved identity) HandshakeEvent.acceptsProbe ∧
      ∀ (k : Nat) (op again : EngineOp crates) (addr : Str) (bytes : Bytes) (event : HandshakeEvent),
        calls[k]? = some (.operation op) → op.Delivers addr bytes →
        EngineCall.eventAt calls (.new resolved identity) k = some (addr, event) → event.completes = true →
        again.Delivers addr bytes →
        (∃ error, again.answer (EngineCall.runAll (calls.take (k + 1)) (.new resolved identity)) =
            some (.error error)) ∧
          (again.run (EngineCall.runAll (calls.take (k + 1)) (.new resolved identity))).sessions =
            (EngineCall.runAll (calls.take (k + 1)) (.new resolved identity)).sessions := by
  have hempty (addr : Str) : (GossipEngine.new resolved identity).handshakes.pending[addr]? = none :=
    Std.ExtHashMap.getElem?_empty
  obtain ⟨probe, ack, hmatching⟩ : ∃ probe ack, Matching calls (.new resolved identity) probe ack :=
    exists_matching hempty
  refine ⟨⟨probe, ack, hmatching⟩, ?_, ?_⟩
  · refine le_trans ?_ hmatching.eventCount_le
    exact tally_le_card_occurrences (fun engine : GossipEngine crates => engine.stats.handshakes_completed.toNat)
      rfl EngineCall.completed_le
  · intro k op again addr bytes event hcall hdelivers hevent hcompletes hagain
    have hnone := ((effect_of_eventAt hevent).used hcompletes).2
    obtain ⟨call, hcall', hevent', _⟩ := eventAt_eq_some hevent
    obtain rfl : EngineCall.operation op = call := Option.some.inj (hcall.symm.trans hcall')
    obtain ⟨event', haccepted, hcompletes'⟩ := hdelivers.completing hevent' hcompletes
    exact hagain.refused haccepted hcompletes' hnone

end witan.gossip
