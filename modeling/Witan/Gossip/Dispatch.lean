import Witan.Gossip.Maintenance
import Witan.Handshake.Alike
import Witan.Runs.Events

open bincode fallible runs
open witan.types witan.error witan.identity witan.session witan.config
open witan.handshake (HandshakeManager HandshakeContext)

namespace witan.gossip

open GossipEngine

variable {crates : Crates}

/-- What both dispatchers are fed with: a client's start, or bytes from a peer. -/
inductive Dispatched (crates : Crates) where
  | start (peer_addr : Str) (getrandom : Except String Bytes32) (now_ms : UInt64)
  | incoming (peer_addr : Str) (bytes : Bytes) (getrandom : Except String Bytes32) (rng : crates.OsRng)
      (now_ms : UInt64)

namespace Dispatched

def toManager (identity : NodeIdentity crates) : Dispatched crates → EStateM GossipError HandshakeManager Bytes
  | .start peer_addr getrandom now_ms => HandshakeManager.build_probe peer_addr identity getrandom now_ms
  | .incoming peer_addr bytes getrandom rng now_ms =>
    HandshakeManager.process_incoming peer_addr bytes identity getrandom rng now_ms

def toEngine : Dispatched crates → EStateM GossipError (GossipEngine crates) (Option Bytes)
  | .start peer_addr getrandom now_ms => do
    let probe_bytes ← connect_peer peer_addr getrandom now_ms
    return some probe_bytes
  | .incoming peer_addr bytes getrandom rng now_ms => process_handshake_bytes peer_addr bytes getrandom rng now_ms

/-- The manager before the event at a position. -/
def managerAt (identity : NodeIdentity crates) (events : List (Dispatched crates)) (k : Nat) : HandshakeManager :=
  stateAt (fun manager event => final (event.toManager identity manager)) .new events k

/-- The engine before the event at a position. -/
def engineAt (resolved : ResolvedConfig) (identity : NodeIdentity crates) (events : List (Dispatched crates))
    (k : Nat) : GossipEngine crates :=
  stateAt (fun engine event => final (event.toEngine engine)) (.new resolved identity) events k

/-- A client starts only where the engine has no session. -/
def StartsNew (engine : GossipEngine crates) : Dispatched crates → Prop
  | .start peer_addr _ _ => engine.sessions.get peer_addr = none
  | .incoming _ _ _ _ _ => True

end Dispatched

/-- The engine's form of the manager's answer: no bytes are no answer. -/
def asAnswer : Bytes → Option Bytes
  | [] => none
  | bytes => some bytes

/-- The engine's handshakes and sessions are the manager's pending and completed
    ones. What the engine's own manager holds as completed does not matter. -/
structure Mirrors (identity : NodeIdentity crates) (manager : HandshakeManager) (engine : GossipEngine crates) :
    Prop where
  identity : engine.identity = identity
  pending : manager.pending = engine.handshakes.pending
  completed : manager.completed = engine.sessions.sessions

/-- The two actions end the same way, in mirrored states. -/
structure Corresponds (identity : NodeIdentity crates) (x : EStateM GossipError HandshakeManager Bytes)
    (y : EStateM GossipError (GossipEngine crates) (Option Bytes)) (manager : HandshakeManager)
    (engine : GossipEngine crates) : Prop where
  outcome : outcome (y engine) = (fallible.outcome (x manager)).map asAnswer
  final : Mirrors identity (final (x manager)) (fallible.final (y engine))

section Steps

variable {identity : NodeIdentity crates} {manager : HandshakeManager} {engine : GossipEngine crates}
  {peer_addr : Str} {now_ms : UInt64}

/-- The manager at work keeps what is completed, and has the pending handshakes of the
    engine's. -/
def SamePending (completed : Std.ExtHashMap Str SessionRecord) (first second : HandshakeManager) : Prop :=
  first.pending = second.pending ∧ first.completed = completed

theorem respected_samePending (completed : Std.ExtHashMap Str SessionRecord) (peer_addr : Str) :
    HandshakeManager.Respected peer_addr (SamePending completed) where
  context h := by rw [h.1]
  setPending context h := ⟨congrArg (·.insert peer_addr context) h.1, h.2⟩
  dropPending h := ⟨congrArg (·.erase peer_addr) h.1, h.2⟩

theorem Corresponds.pure {bytes : Bytes} {answer : Option Bytes} (h : Mirrors identity manager engine)
    (hanswer : asAnswer bytes = answer) :
    Corresponds identity (pure bytes) (pure answer) manager engine := by
  subst hanswer
  exact ⟨rfl, h⟩

theorem Corresponds.get_bind {x : EStateM GossipError HandshakeManager Bytes}
    {g : GossipEngine crates → EStateM GossipError (GossipEngine crates) (Option Bytes)}
    (h : Corresponds identity x (g engine) manager engine) : Corresponds identity x (get >>= g) manager engine :=
  ⟨h.outcome, h.final⟩

theorem Corresponds.modify_bind {update : HandshakeManager → HandshakeManager}
    {update' : GossipEngine crates → GossipEngine crates} {f : PUnit → EStateM GossipError HandshakeManager Bytes}
    {g : PUnit → EStateM GossipError (GossipEngine crates) (Option Bytes)}
    (h : Corresponds identity (f ⟨⟩) (g ⟨⟩) (update manager) (update' engine)) :
    Corresponds identity (modify update >>= f) (modify update' >>= g) manager engine :=
  ⟨h.outcome, h.final⟩

/-- A handler of the manager, run by the manager itself and by the engine. -/
theorem Corresponds.handler {α : Type} {action : EStateM GossipError HandshakeManager α}
    {f : α → EStateM GossipError HandshakeManager Bytes}
    {g : α → EStateM GossipError (GossipEngine crates) (Option Bytes)} (h : Mirrors identity manager engine)
    (haction : Alike (SamePending manager.completed) action action manager engine.handshakes)
    (hrest : ∀ value middle handshakes, action manager = .ok value middle →
      Mirrors identity middle { engine with handshakes } →
      Corresponds identity (f value) (g value) middle { engine with handshakes }) :
    Corresponds identity (action >>= f) (withHandshakes action >>= g) manager engine := by
  obtain ⟨houtcome, hfinal⟩ := haction
  have hmirrors {middle handshakes : HandshakeManager} (hsame : SamePending manager.completed middle handshakes) :
      Mirrors identity middle { engine with handshakes } := ⟨h.identity, hsame.1, hsame.2.trans h.completed⟩
  cases hx : action manager with
  | error error middle =>
    cases hy : action engine.handshakes with
    | ok value handshakes =>
      rw [hx, hy] at houtcome
      cases houtcome
    | error error' handshakes =>
      rw [hx, hy] at houtcome hfinal
      cases houtcome
      have hpart : withHandshakes action engine = .error error { engine with handshakes } :=
        onPart_eq_error_iff.mpr ⟨handshakes, hy, rfl⟩
      refine ⟨?_, ?_⟩
      · rw [bind_of_error hx, bind_of_error hpart]
        rfl
      · rw [bind_of_error hx, bind_of_error hpart]
        exact hmirrors hfinal
  | ok value middle =>
    cases hy : action engine.handshakes with
    | error error' handshakes =>
      rw [hx, hy] at houtcome
      cases houtcome
    | ok value' handshakes =>
      rw [hx, hy] at houtcome hfinal
      cases houtcome
      have hthen := hrest value middle handshakes hx (hmirrors hfinal)
      refine ⟨?_, ?_⟩
      · rw [bind_of_ok hx, bind_of_ok (withHandshakes_eq_ok hy)]
        exact hthen.outcome
      · rw [bind_of_ok hx, bind_of_ok (withHandshakes_eq_ok hy)]
        exact hthen.final

/-- The manager keeps a completed session, the engine stores it. -/
theorem Mirrors.complete {session : SessionRecord} (h : Mirrors identity manager engine)
    (haddr : session.peer_addr = peer_addr) :
    Mirrors identity (manager.keepCompleted peer_addr session) (engine.complete_handshake peer_addr session) := by
  obtain ⟨hidentity, hsessions, hhandshakes⟩ := complete_handshake_keeps engine peer_addr session
  refine ⟨by rw [hidentity, h.identity], ?_, ?_⟩
  · rw [hhandshakes]
    exact h.pending
  · subst haddr
    rw [hsessions]
    exact congrArg (·.insert session.peer_addr session) h.completed

/-- A handshake message is not empty, so it is an answer. -/
theorem asAnswer_eq_some {bytes : Bytes} (h : classify_incoming bytes ≠ .GossipEnvelope) :
    asAnswer bytes = some bytes := by
  cases bytes with
  | nil => exact absurd rfl h
  | cons byte bytes => rfl

theorem Corresponds.of_eq {x x' : EStateM GossipError HandshakeManager Bytes}
    {y y' : EStateM GossipError (GossipEngine crates) (Option Bytes)} (h : Corresponds identity x y manager engine)
    (hx : x' manager = x manager) (hy : y' engine = y engine) : Corresponds identity x' y' manager engine :=
  ⟨by rw [hx, hy]; exact h.outcome, by rw [hx, hy]; exact h.final⟩

/-- A handler whose answer is passed on as it is. -/
theorem Corresponds.answering {action : EStateM GossipError HandshakeManager Bytes}
    (h : Mirrors identity manager engine)
    (haction : Alike (SamePending manager.completed) action action manager engine.handshakes)
    (hanswer : ∀ bytes middle, action manager = .ok bytes middle → classify_incoming bytes ≠ .GossipEnvelope) :
    Corresponds identity action (withHandshakes action >>= fun bytes => Pure.pure (some bytes)) manager engine := by
  have hbind := Corresponds.handler (f := Pure.pure) (g := fun bytes => Pure.pure (some bytes)) h haction
    fun bytes middle handshakes hok hmiddle => .pure hmiddle (asAnswer_eq_some (hanswer bytes middle hok))
  exact hbind.of_eq (by rw [bind_pure]) rfl

theorem start_corresponds {getrandom : Except String Bytes32} (h : Mirrors identity manager engine)
    (hnew : engine.sessions.get peer_addr = none) :
    Corresponds identity ((Dispatched.start peer_addr getrandom now_ms).toManager identity)
      (Dispatched.start peer_addr getrandom now_ms).toEngine manager engine := by
  have hconnect : connect_peer peer_addr getrandom now_ms engine =
      withHandshakes (HandshakeManager.build_probe peer_addr identity getrandom now_ms) engine := by
    have hfree : failIf ((engine.sessions.get peer_addr).isSome = true)
        (GossipError.HandshakeError s!"already connected to {peer_addr}") = .ok () := by
      rw [hnew]
      rfl
    unfold connect_peer
    rw [get_bind, hfree, attempt_ok_bind, h.identity]
  refine (Corresponds.answering h (HandshakeManager.build_probe_alike (respected_samePending _ peer_addr)
    ⟨h.pending, rfl⟩) ?_).of_eq rfl ?_
  · intro bytes middle hok
    obtain ⟨client_nonce, _, rfl, _⟩ := HandshakeManager.build_probe_eq_ok_iff.mp hok
    rw [classify_incoming_probe _ rfl]
    exact nofun
  · unfold Dispatched.toEngine
    dsimp only
    change EStateM.bind _ _ _ = EStateM.bind _ _ _
    unfold EStateM.bind
    rw [hconnect]

theorem incoming_corresponds {bytes : Bytes} {getrandom : Except String Bytes32} {rng : crates.OsRng}
    (h : Mirrors identity manager engine) :
    Corresponds identity (HandshakeManager.process_incoming peer_addr bytes identity getrandom rng now_ms)
      (process_handshake_bytes peer_addr bytes getrandom rng now_ms) manager engine := by
  have hrespected := respected_samePending manager.completed peer_addr
  have hsame : SamePending manager.completed manager engine.handshakes := ⟨h.pending, rfl⟩
  unfold HandshakeManager.process_incoming process_handshake_bytes
  refine .get_bind ?_
  rw [h.identity]
  cases classify_incoming bytes with
  | HandshakeProbe =>
    refine .answering h (HandshakeManager.process_probe_build_ack_alike hrespected hsame) ?_
    intro ack_bytes middle hok
    obtain ⟨_, _, _, _, _, _, _, rfl, _⟩ := HandshakeManager.process_probe_build_ack_eq_ok_iff.mp hok
    rw [classify_incoming_ack _ rfl]
    exact nofun
  | HandshakeAck =>
    refine .answering h (HandshakeManager.process_ack_build_finish_alike hrespected hsame) ?_
    intro finish_bytes middle hok
    obtain ⟨_, _, _, _, _, _, _, _, rfl, _⟩ := HandshakeManager.process_ack_build_finish_eq_ok_iff.mp hok
    rw [classify_incoming_finish _ rfl]
    exact nofun
  | HandshakeFinish =>
    refine .handler h (HandshakeManager.process_finish_build_finish_ack_alike hrespected hsame) ?_
    rintro ⟨finish_ack_bytes, session⟩ middle handshakes hok hmiddle
    obtain ⟨_, _, _, _, _, _, _, _, _, rfl, hsession, _⟩ :=
      HandshakeManager.process_finish_build_finish_ack_eq_ok_iff.mp hok
    refine .modify_bind (.pure (hmiddle.complete (by rw [hsession])) (asAnswer_eq_some ?_))
    rw [classify_incoming_finish_ack _ rfl]
    exact nofun
  | HandshakeFinishAck =>
    refine .handler h (HandshakeManager.process_finish_ack_alike hrespected hsame) ?_
    intro session middle handshakes hok hmiddle
    obtain ⟨_, _, _, _, _, _, _, _, hsession, _⟩ := HandshakeManager.process_finish_ack_eq_ok_iff.mp hok
    exact .modify_bind (.pure (hmiddle.complete (by rw [hsession])) rfl)
  | GossipEnvelope => exact ⟨rfl, h⟩

/-- One event keeps the two dispatchers in step, and they give the same answer. -/
theorem Dispatched.corresponds (event : Dispatched crates) (h : Mirrors identity manager engine)
    (hnew : event.StartsNew engine) :
    Corresponds identity (event.toManager identity) event.toEngine manager engine := by
  cases event with
  | start peer_addr getrandom now_ms => exact start_corresponds h hnew
  | incoming peer_addr bytes getrandom rng now_ms => exact incoming_corresponds h

end Steps

/-- The manager's dispatcher and the engine's simulate each other: from empty states,
    with the same identity and randomness, they fail in the same steps with the same
    errors, answer the same, and hold the same pending handshakes and sessions before
    and after every step. -/
theorem dispatchers_simulate (resolved : ResolvedConfig) (identity : NodeIdentity crates)
    (events : List (Dispatched crates))
    (hnew : ∀ (k : Nat) (event : Dispatched crates), events[k]? = some event →
      event.StartsNew (Dispatched.engineAt resolved identity events k)) (k : Nat) :
    let manager := Dispatched.managerAt identity events k
    let engine := Dispatched.engineAt resolved identity events k
    manager.pending = engine.handshakes.pending ∧ manager.completed = engine.sessions.sessions ∧
      ∀ event : Dispatched crates, events[k]? = some event →
        outcome (event.toEngine engine) = (outcome (event.toManager identity manager)).map asAnswer := by
  intro manager engine
  have hstart : Mirrors identity .new (GossipEngine.new resolved identity) := ⟨rfl, rfl, rfl⟩
  have hmirrors : Mirrors identity manager engine :=
    related_stateAt hstart (fun k event hevent h => (event.corresponds h (hnew k event hevent)).final) k
  refine ⟨hmirrors.pending, hmirrors.completed, fun event hevent => ?_⟩
  exact (event.corresponds hmirrors (hnew k event hevent)).outcome

namespace reference

open witan.handshake

/-- Node 2 starts a handshake of its own and serves another one to its end. -/
def dispatched : List (Dispatched reference.crates) :=
  [.start Splice.serverAddr (.ok Splice.serverNonce) 0,
    .incoming Splice.clientAddr Splice.probeBytes (.ok Splice.serverNonce) (9 : UInt8) 0,
    .incoming Splice.clientAddr (finishAt 0) (.ok Splice.serverNonce) (9 : UInt8) 0]

theorem dispatched_startsNew (k : Nat) (event : Dispatched reference.crates) (h : dispatched[k]? = some event) :
    event.StartsNew (Dispatched.engineAt (witan.reference.resolved 2) (witan.reference.node 2) dispatched k) := by
  match k with
  | 0 =>
    obtain rfl := Option.some.inj h
    exact Std.ExtHashMap.getElem?_empty
  | 1 =>
    obtain rfl := Option.some.inj h
    trivial
  | 2 =>
    obtain rfl := Option.some.inj h
    trivial
  | k + 3 => cases h

end reference

theorem dispatchers_simulate_reference :
    (Dispatched.managerAt (reference.node 2) reference.dispatched 3).completed =
      (Dispatched.engineAt (reference.resolved 2) (reference.node 2) reference.dispatched 3).sessions.sessions :=
  (dispatchers_simulate (reference.resolved 2) (reference.node 2) reference.dispatched
    reference.dispatched_startsNew 3).2.1

end witan.gossip
