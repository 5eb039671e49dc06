import Witan.Gossip.Runs
import Witan.Handshake.Alike
import Witan.Runs.Unwinding

open bincode fallible maps runs
open witan.types witan.error witan.identity witan.session witan.rotation
open witan.handshake (HandshakeManager HandshakeContext)

namespace witan.handshake.HandshakeManager

/-- The two managers hold the same context for the address. -/
def SameContext (addr : Str) (first second : HandshakeManager) : Prop :=
  first.pending[addr]? = second.pending[addr]?

section Context

variable {addr : Str} {first second : HandshakeManager}

theorem SameContext.setPending (context : HandshakeContext) :
    SameContext addr (first.setPending addr context) (second.setPending addr context) := by
  unfold SameContext
  rw [pending_setPending_self, pending_setPending_self]

theorem SameContext.dropPending (first second : HandshakeManager) :
    SameContext addr (first.dropPending addr) (second.dropPending addr) := by
  unfold SameContext HandshakeManager.dropPending
  rw [Std.ExtHashMap.getElem?_erase_self, Std.ExtHashMap.getElem?_erase_self]

/-- A handler reads and writes the context of its own peer only. -/
theorem Respected.sameContext (addr : Str) : Respected addr (SameContext addr) where
  context h := h
  setPending context _ := .setPending context
  dropPending _ := .dropPending _ _

/-- Eviction decides each context by itself. -/
theorem SameContext.evict_timed_out {now_ms : UInt64} (h : SameContext addr first second) (visit : Visit first.pending)
    (visit' : Visit second.pending) :
    SameContext addr (first.evict_timed_out now_ms visit).2 (second.evict_timed_out now_ms visit').2 := by
  unfold SameContext HandshakeManager.evict_timed_out
  rw [Std.ExtHashMap.getElem?_filter', Std.ExtHashMap.getElem?_filter', h]

end Context

end witan.handshake.HandshakeManager

namespace witan.gossip

open GossipEngine

variable {crates : Crates}

/-- The two engines have the same identity and hold the same for the address. -/
structure Agree (addr : Str) (first second : GossipEngine crates) : Prop where
  identity : first.identity = second.identity
  session : first.sessions.get addr = second.sessions.get addr
  context : HandshakeManager.SameContext addr first.handshakes second.handshakes

/-- What the host gets back from an operation that names a peer. -/
def EngineOp.answer : EngineOp crates → GossipEngine crates → Option (Except GossipError (Option Bytes))
  | .connect_peer peer_addr getrandom now_ms, engine =>
    some ((outcome (GossipEngine.connect_peer peer_addr getrandom now_ms engine)).map some)
  | .process_handshake_bytes peer_addr bytes getrandom rng now_ms, engine =>
    some (outcome (GossipEngine.process_handshake_bytes peer_addr bytes getrandom rng now_ms engine))
  | .build_handshake_ack peer_addr probe_bytes getrandom now_ms, engine =>
    some ((outcome (GossipEngine.build_handshake_ack peer_addr probe_bytes getrandom now_ms engine)).map some)
  | .build_finish_ack peer_addr finish_bytes now_ms, engine =>
    some ((outcome (GossipEngine.build_finish_ack peer_addr finish_bytes now_ms engine)).map some)
  | .disconnect_peer peer_addr, engine =>
    some ((outcome (GossipEngine.disconnect_peer peer_addr engine)).map fun _ => none)
  | _, _ => none

namespace EngineCall

/-- The peer address that a call names. -/
def address : EngineCall crates → Option Str
  | .operation op => op.address
  | _ => none

/-- The call names this peer or none. -/
def concerns (addr : Str) (call : EngineCall crates) : Bool := call.address.all (· = addr)

/-- What the host gets back from a call that names this peer. -/
def answerAt (addr : Str) (engine : GossipEngine crates) :
    EngineCall crates → Option (Except GossipError (Option Bytes))
  | .operation op => if op.address = some addr then op.answer engine else none
  | _ => none

end EngineCall

section Operations

variable {addr : Str} {first second : GossipEngine crates}

/-- An action of the handshake manager that treats the address alike. -/
theorem withHandshakes_alike {α : Type} {action action' : EStateM GossipError HandshakeManager α}
    (h : Agree addr first second)
    (haction : Alike (HandshakeManager.SameContext addr) action action' first.handshakes second.handshakes) :
    Alike (Agree addr) (withHandshakes action) (withHandshakes action') first second :=
  .onPart haction fun _ _ hcontext => ⟨h.identity, h.session, hcontext⟩

theorem Agree.insert (h : Agree addr first second) {first' second' : GossipEngine crates} {session : SessionRecord}
    (haddr : session.peer_addr = addr) (hfirst : first'.identity = first.identity ∧
      first'.sessions = first.sessions.insert session ∧ first'.handshakes = first.handshakes)
    (hsecond : second'.identity = second.identity ∧ second'.sessions = second.sessions.insert session ∧
      second'.handshakes = second.handshakes) : Agree addr first' second' := by
  obtain ⟨hidentity, hsessions, hhandshakes⟩ := hfirst
  obtain ⟨hidentity', hsessions', hhandshakes'⟩ := hsecond
  refine ⟨by rw [hidentity, hidentity', h.identity], ?_, by rw [hhandshakes, hhandshakes']; exact h.context⟩
  subst haddr
  rw [hsessions, hsessions', SessionStore.get_insert_self, SessionStore.get_insert_self]

theorem connect_peer_alike {getrandom : Except String Bytes32} {now_ms : UInt64} (h : Agree addr first second) :
    Alike (Agree addr) (connect_peer addr getrandom now_ms) (connect_peer addr getrandom now_ms) first second := by
  unfold connect_peer
  refine .get_bind (.attempt_bind (by rw [h.session]) h fun _ _ => ?_)
  rw [h.identity]
  exact withHandshakes_alike h (HandshakeManager.build_probe_alike (.sameContext addr) h.context)

theorem build_handshake_ack_alike {probe_bytes : Bytes} {getrandom : Except String Bytes32} {now_ms : UInt64}
    (h : Agree addr first second) :
    Alike (Agree addr) (build_handshake_ack addr probe_bytes getrandom now_ms)
      (build_handshake_ack addr probe_bytes getrandom now_ms) first second := by
  unfold build_handshake_ack
  refine .get_bind ?_
  rw [h.identity]
  exact withHandshakes_alike h (HandshakeManager.process_probe_build_ack_alike (.sameContext addr) h.context)

/-- A completed session is stored under the address of its peer. -/
theorem session_addr_of_finish {bytes answer : Bytes} {session : SessionRecord} {now_ms : UInt64}
    {before after : GossipEngine crates} {identity : NodeIdentity crates}
    (h : withHandshakes (HandshakeManager.process_finish_build_finish_ack addr bytes identity now_ms) before =
      .ok (answer, session) after) : session.peer_addr = addr := by
  obtain ⟨_, hrun, _⟩ := onPart_eq_ok_iff.mp h
  obtain ⟨_, _, _, _, _, _, _, _, _, _, rfl, _⟩ :=
    HandshakeManager.process_finish_build_finish_ack_eq_ok_iff.mp hrun
  rfl

theorem session_addr_of_finish_ack {bytes : Bytes} {session : SessionRecord} {now_ms : UInt64}
    {before after : GossipEngine crates}
    (h : withHandshakes (HandshakeManager.process_finish_ack crates addr bytes now_ms) before = .ok session after) :
    session.peer_addr = addr := by
  obtain ⟨_, hrun, _⟩ := onPart_eq_ok_iff.mp h
  obtain ⟨_, _, _, _, _, _, _, _, rfl, _⟩ := HandshakeManager.process_finish_ack_eq_ok_iff.mp hrun
  rfl

theorem build_finish_ack_alike {finish_bytes : Bytes} {now_ms : UInt64} (h : Agree addr first second) :
    Alike (Agree addr) (build_finish_ack addr finish_bytes now_ms) (build_finish_ack addr finish_bytes now_ms)
      first second := by
  unfold build_finish_ack
  refine .get_bind ?_
  rw [h.identity]
  refine .bind (withHandshakes_alike h
      (HandshakeManager.process_finish_build_finish_ack_alike (.sameContext addr) h.context)) ?_
  rintro ⟨finish_ack_bytes, session⟩ middle middle' hok _ hmiddle
  refine .modify_bind (.modify_bind (.pure ?_))
  exact hmiddle.insert (session_addr_of_finish hok) ⟨rfl, rfl, rfl⟩ ⟨rfl, rfl, rfl⟩

theorem process_handshake_bytes_alike {bytes : Bytes} {getrandom : Except String Bytes32} {rng : crates.OsRng}
    {now_ms : UInt64} (h : Agree addr first second) :
    Alike (Agree addr) (process_handshake_bytes addr bytes getrandom rng now_ms)
      (process_handshake_bytes addr bytes getrandom rng now_ms) first second := by
  unfold process_handshake_bytes
  refine .get_bind ?_
  rw [h.identity]
  cases classify_incoming bytes with
  | HandshakeProbe =>
    refine .bind (withHandshakes_alike h
        (HandshakeManager.process_probe_build_ack_alike (.sameContext addr) h.context)) ?_
    exact fun _ _ _ _ _ hmiddle => .pure hmiddle
  | HandshakeAck =>
    refine .bind (withHandshakes_alike h
        (HandshakeManager.process_ack_build_finish_alike (.sameContext addr) h.context)) ?_
    exact fun _ _ _ _ _ hmiddle => .pure hmiddle
  | HandshakeFinish =>
    refine .bind (withHandshakes_alike h
        (HandshakeManager.process_finish_build_finish_ack_alike (.sameContext addr) h.context)) ?_
    rintro ⟨finish_ack_bytes, session⟩ middle middle' hok _ hmiddle
    exact .modify_bind (.pure (hmiddle.insert (session_addr_of_finish hok)
      (complete_handshake_keeps middle addr session) (complete_handshake_keeps middle' addr session)))
  | HandshakeFinishAck =>
    refine .bind (withHandshakes_alike h (HandshakeManager.process_finish_ack_alike (.sameContext addr) h.context)) ?_
    intro session middle middle' hok _ hmiddle
    exact .modify_bind (.pure (hmiddle.insert (session_addr_of_finish_ack hok)
      (complete_handshake_keeps middle addr session) (complete_handshake_keeps middle' addr session)))
  | GossipEnvelope => exact .throw h

theorem disconnect_peer_alike (h : Agree addr first second) :
    Alike (Agree addr) (disconnect_peer addr) (disconnect_peer addr) first second := by
  have hremoved (engine : GossipEngine crates) : (engine.sessions.remove addr).2.get addr = none :=
    Std.ExtHashMap.getElem?_erase_self
  have hsession : (first.sessions.remove addr).2.get addr = (second.sessions.remove addr).2.get addr := by
    rw [hremoved, hremoved]
  unfold disconnect_peer
  refine .get_bind (.set_bind (.attempt_bind ?_ ⟨h.identity, hsession, h.context⟩ fun _ _ => ?_))
  · exact congrArg (orFail · _) h.session
  · refine .modify_bind (.modify_bind (.modify ⟨h.identity, hsession, ?_⟩))
    exact HandshakeManager.SameContext.dropPending first.handshakes second.handshakes

theorem heartbeat_agree {order : IterationOrder} {now_ms : UInt64} (h : Agree addr first second) :
    Agree addr (first.heartbeat order now_ms) (second.heartbeat order now_ms) := by
  obtain ⟨hidentity, hsessions, hhandshakes⟩ := heartbeat_keeps first order now_ms
  obtain ⟨hidentity', hsessions', hhandshakes'⟩ := heartbeat_keeps second order now_ms
  refine ⟨by rw [hidentity, hidentity', h.identity], by rw [hsessions, hsessions', h.session], ?_⟩
  rw [hhandshakes, hhandshakes']
  exact h.context.evict_timed_out _ _

theorem Agree.of_untouched {after : GossipEngine crates} (huntouched : Untouched addr True first after)
    (h : Agree addr first second) : Agree addr after second :=
  ⟨huntouched.identity.trans h.identity, huntouched.session.trans h.session,
    (huntouched.context trivial).trans h.context⟩

theorem Agree.symm (h : Agree addr first second) : Agree addr second first :=
  ⟨h.identity.symm, h.session.symm, h.context.symm⟩

/-- Neither engine is touched at the address. -/
theorem Agree.both {first' second' : GossipEngine crates} (h : Agree addr first second)
    (hfirst : Untouched addr True first first') (hsecond : Untouched addr True second second') :
    Agree addr first' second' :=
  ((h.of_untouched hfirst).symm.of_untouched hsecond).symm

/-- An operation at the address answers the same and keeps the engines in agreement. -/
theorem EngineOp.alike (op : EngineOp crates) (haddr : op.address = some addr) (h : Agree addr first second) :
    op.answer first = op.answer second ∧ Agree addr (op.run first) (op.run second) := by
  have hmapped {α : Type} {action : EStateM GossipError (GossipEngine crates) α} (answer : α → Option Bytes)
      (halike : Alike (Agree addr) action action first second) :
      some ((outcome (action first)).map answer) = some ((outcome (action second)).map answer) ∧
        Agree addr (final (action first)) (final (action second)) :=
    ⟨by rw [halike.outcome], halike.final⟩
  cases op with
  | connect_peer peer_addr getrandom now_ms =>
    cases haddr
    exact hmapped some (connect_peer_alike h)
  | process_handshake_bytes peer_addr bytes getrandom rng now_ms =>
    cases haddr
    have halike : Alike (Agree addr)
        (GossipEngine.process_handshake_bytes addr bytes getrandom rng now_ms) _ first second :=
      process_handshake_bytes_alike h
    exact ⟨congrArg some halike.outcome, halike.final⟩
  | build_handshake_ack peer_addr probe_bytes getrandom now_ms =>
    cases haddr
    exact hmapped some (build_handshake_ack_alike h)
  | build_finish_ack peer_addr finish_bytes now_ms =>
    cases haddr
    exact hmapped some (build_finish_ack_alike h)
  | disconnect_peer peer_addr =>
    cases haddr
    exact hmapped (fun _ => none) (disconnect_peer_alike h)
  | publish payload_type payload now_ms => cases haddr
  | encode_envelope payload_type payload now_ms => cases haddr
  | verify_envelope_bytes bytes now_ms => cases haddr
  | verify_envelope_from_lineage lineage envelope_bytes now_ms => cases haddr
  | heartbeat order now_ms => cases haddr

/-- An operation that names no peer keeps the engines in agreement. -/
theorem EngineOp.run_agree (op : EngineOp crates) (haddr : op.address = none) (h : Agree addr first second) :
    Agree addr (op.run first) (op.run second) := by
  have hspares (hbeat : op.heartbeatTime = none) (engine : GossipEngine crates) : op.Spares addr True engine := by
    refine ⟨by rw [haddr]; exact nofun, fun _ now_ms context htime => ?_⟩
    rw [hbeat] at htime
    cases htime
  cases op with
  | heartbeat order now_ms => exact heartbeat_agree h
  | publish payload_type payload now_ms => exact h.both (hspares rfl first).untouched (hspares rfl second).untouched
  | encode_envelope payload_type payload now_ms =>
    exact h.both (hspares rfl first).untouched (hspares rfl second).untouched
  | verify_envelope_bytes bytes now_ms => exact h.both (hspares rfl first).untouched (hspares rfl second).untouched
  | verify_envelope_from_lineage lineage envelope_bytes now_ms =>
    exact h.both (hspares rfl first).untouched (hspares rfl second).untouched
  | connect_peer peer_addr getrandom now_ms => cases haddr
  | process_handshake_bytes peer_addr bytes getrandom rng now_ms => cases haddr
  | build_handshake_ack peer_addr probe_bytes getrandom now_ms => cases haddr
  | build_finish_ack peer_addr finish_bytes now_ms => cases haddr
  | disconnect_peer peer_addr => cases haddr

/-! A rotation looks at the identity and its own arguments only. -/

theorem rotate_keys_alike {key_epoch : Str} {kem_rng sig_rng : crates.OsRng} (h : Agree addr first second) :
    Alike (Agree addr) (GossipEngine.rotate_keys key_epoch kem_rng sig_rng)
      (GossipEngine.rotate_keys key_epoch kem_rng sig_rng) first second := by
  unfold GossipEngine.rotate_keys
  exact .attempt_bind rfl h fun _ _ => .modify_bind (.pure ⟨rfl, h.session, h.context⟩)

theorem rotate_keys_under_id_alike {lineage : KeyLineage} {next : NodeIdentity crates}
    {next_key_commitment : Option Bytes32} {now_ms : UInt64} (h : Agree addr first second) :
    Alike (fun state state' => Agree addr state.1 state'.1 ∧ state.2 = state'.2)
      (GossipEngine.rotate_keys_under_id next next_key_commitment now_ms)
      (GossipEngine.rotate_keys_under_id next next_key_commitment now_ms) (first, lineage) (second, lineage) := by
  unfold GossipEngine.rotate_keys_under_id
  refine .get_bind (.attempt_bind (by rw [h.identity]) ⟨h, rfl⟩ fun _ _ => ?_)
  rw [h.identity]
  refine .bind (.onPart (⟨rfl, rfl⟩ : Alike Eq _ _ lineage lineage) fun new new' hnew => ⟨h, hnew⟩) ?_
  rintro rotation ⟨middle, extended⟩ ⟨middle', extended'⟩ _ _ ⟨hmiddle, hextended⟩
  obtain rfl : extended = extended' := hextended
  exact .modify_bind (.pure ⟨⟨rfl, hmiddle.session, hmiddle.context⟩, rfl⟩)

theorem EngineCall.run_agree (call : EngineCall crates) (hcall : call.concerns addr = true)
    (h : Agree addr first second) :
    call.answerAt addr first = call.answerAt addr second ∧ Agree addr (call.run first) (call.run second) := by
  cases call with
  | operation op =>
    cases haddr : op.address with
    | none =>
      have hunnamed : op.address ≠ some addr := by
        rw [haddr]
        exact nofun
      have hsilent (engine : GossipEngine crates) : (EngineCall.operation op).answerAt addr engine = none :=
        if_neg hunnamed
      exact ⟨by rw [hsilent, hsilent], op.run_agree haddr h⟩
    | some peer_addr =>
      obtain rfl : peer_addr = addr := by
        have hnamed : op.address.all (· = addr) = true := hcall
        simpa [haddr] using hnamed
      obtain ⟨hanswer, hrun⟩ := op.alike haddr h
      have hown (engine : GossipEngine crates) :
          (EngineCall.operation op).answerAt peer_addr engine = op.answer engine :=
        if_pos haddr
      exact ⟨by rw [hown, hown, hanswer], hrun⟩
  | rotate_keys key_epoch kem_rng sig_rng => exact ⟨rfl, (rotate_keys_alike h).final⟩
  | rotate_keys_under_id lineage next next_key_commitment now_ms =>
    exact ⟨rfl, (rotate_keys_under_id_alike h).final.1⟩
  | record_ack message_id peer_addr => exact ⟨rfl, h.identity, h.session, h.context⟩

/-- A call for another peer leaves this one untouched. -/
theorem EngineCall.run_elsewhere (call : EngineCall crates) (hcall : call.concerns addr = false)
    (engine : GossipEngine crates) :
    call.answerAt addr engine = none ∧ Untouched addr True engine (call.run engine) := by
  cases call with
  | operation op =>
    obtain ⟨peer_addr, hpeer, hne⟩ : ∃ peer_addr, op.address = some peer_addr ∧ peer_addr ≠ addr := by
      have hnamed : op.address.all (· = addr) = false := hcall
      cases haddr : op.address with
      | none => simp [haddr] at hnamed
      | some peer_addr => exact ⟨peer_addr, rfl, by simpa [haddr] using hnamed⟩
    have hother : op.address ≠ some addr := by
      rw [hpeer]
      exact fun heq => hne (Option.some.inj heq)
    refine ⟨if_neg hother, EngineOp.Spares.untouched ⟨hother, fun _ now_ms context htime => ?_⟩⟩
    cases op <;> cases hpeer <;> cases htime
  | rotate_keys key_epoch kem_rng sig_rng => cases hcall
  | rotate_keys_under_id lineage next next_key_commitment now_ms => cases hcall
  | record_ack message_id peer_addr => cases hcall

end Operations

/-- An observer at one address cannot tell whether the others' calls were made. -/
theorem unwinding (crates : Crates) (addr : Str) :
    Unwinding (fun engine (call : EngineCall crates) => call.run engine)
      (fun engine call => call.answerAt addr engine) (EngineCall.concerns addr) (Agree addr) where
  silent engine call hcall := (call.run_elsewhere hcall engine).1
  deleted first _ call hcall h := h.of_untouched (call.run_elsewhere hcall first).2
  answered _ _ call hcall h := (call.run_agree hcall h).1
  stepped _ _ call hcall h := (call.run_agree hcall h).2

/-- What the host gets back from the calls of a run that name this peer, in order. -/
def EngineCall.answersAt (addr : Str) (calls : List (EngineCall crates)) (engine : GossipEngine crates) :
    List (Except GossipError (Option Bytes)) :=
  answers (fun engine call => call.run engine) (fun engine call => call.answerAt addr engine) engine calls

/-- Peers do not interfere with each other's handshakes: with all calls for other
    peers deleted, a run leaves the same context and session for this one and gave
    it the same answers. -/
theorem peers_do_not_interfere (engine : GossipEngine crates) (calls : List (EngineCall crates)) (addr : Str) :
    (EngineCall.runAll calls engine).handshakes.pending[addr]? =
        (EngineCall.runAll (calls.filter (·.concerns addr)) engine).handshakes.pending[addr]? ∧
      (EngineCall.runAll calls engine).sessions.get addr =
        (EngineCall.runAll (calls.filter (·.concerns addr)) engine).sessions.get addr ∧
      EngineCall.answersAt addr calls engine =
        EngineCall.answersAt addr (calls.filter (·.concerns addr)) engine := by
  obtain ⟨hagree, hanswers⟩ := (unwinding crates addr).run (Agree.mk rfl rfl rfl : Agree addr engine engine) calls
  exact ⟨hagree.context, hagree.session, hanswers⟩

end witan.gossip
