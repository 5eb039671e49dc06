import Mathlib.Algebra.Order.Group.Multiset
import Mathlib.Logic.Function.Basic
import Mathlib.Logic.Relation
import Witan.Gossip.Advances

open bincode fallible
open witan.types witan.error witan.session witan.handshake

namespace witan.gossip

variable {crates : Crates}

section Engine

open GossipEngine

variable {engine : GossipEngine crates} {peer_addr : Str} {bytes : Bytes} {getrandom : Except String Bytes32}
  {rng : crates.OsRng} {now_ms : UInt64}

theorem connect_peer_keeps :
    Leaves (connect_peer peer_addr getrandom now_ms) engine fun after =>
      after.identity = engine.identity ∧ after.sessions = engine.sessions := by
  unfold connect_peer
  exact .get_bind (.attempt_bind ⟨rfl, rfl⟩ fun _ _ => .onPart ⟨rfl, rfl⟩)

theorem connect_peer_failsIn : FailsIn (connect_peer peer_addr getrandom now_ms) engine (· = engine) := by
  unfold connect_peer
  refine .get_bind (.attempt_bind rfl fun _ _ => .onPart ?_)
  intro error after hfail
  rw [HandshakeManager.build_probe_failsIn error after hfail]

/-- No handshake message takes a session away. -/
theorem process_handshake_bytes_keeps_session {addr : Str} :
    Leaves (process_handshake_bytes peer_addr bytes getrandom rng now_ms) engine fun after =>
      engine.sessions.get addr ≠ none → after.sessions.get addr ≠ none := by
  have hcompleted {after : GossipEngine crates} {session : SessionRecord}
      (h : engine.sessions.get addr ≠ none → after.sessions.get addr ≠ none) :
      engine.sessions.get addr ≠ none → (after.complete_handshake peer_addr session).sessions.get addr ≠ none := by
    intro hsession
    rw [(complete_handshake_keeps after peer_addr session).2.1]
    by_cases haddr : session.peer_addr = addr
    · subst haddr
      rw [SessionStore.get_insert_self]
      exact Option.some_ne_none session
    · rw [SessionStore.get_insert_of_ne _ haddr]
      exact h hsession
  unfold process_handshake_bytes
  refine .get_bind ?_
  cases classify_incoming bytes with
  | HandshakeProbe => exact .bind (.onPart id) fun _ _ _ hmiddle => .pure hmiddle
  | HandshakeAck => exact .bind (.onPart id) fun _ _ _ hmiddle => .pure hmiddle
  | HandshakeFinish =>
    exact .bind (.onPart id) fun _ _ _ hmiddle => .modify_bind (.pure (hcompleted hmiddle))
  | HandshakeFinishAck =>
    exact .bind (.onPart id) fun _ _ _ hmiddle => .modify_bind (.pure (hcompleted hmiddle))
  | GossipEnvelope => exact .throw id

theorem process_probe_sessions (hkind : classify_incoming bytes = .HandshakeProbe) :
    Leaves (process_handshake_bytes peer_addr bytes getrandom rng now_ms) engine fun after =>
      after.sessions = engine.sessions := by
  unfold process_handshake_bytes
  refine .get_bind ?_
  rw [hkind]
  exact .bind (.onPart rfl) fun _ _ _ hmiddle => .pure hmiddle

/-- An ack is refused, and nothing changes, or it is the answer to a probe. -/
theorem process_ack_cases (hkind : classify_incoming bytes = .HandshakeAck) :
    (∃ error, process_handshake_bytes peer_addr bytes getrandom rng now_ms engine = .error error engine) ∨
      ∃ finish_bytes handshakes sent,
        process_handshake_bytes peer_addr bytes getrandom rng now_ms engine =
            .ok (some finish_bytes) { engine with handshakes } ∧
          classify_incoming finish_bytes = .HandshakeFinish ∧
          engine.handshakes.pending[peer_addr]? = some (.Client (.ProbeSent sent)) := by
  cases hresult : HandshakeManager.process_ack_build_finish peer_addr bytes engine.identity rng now_ms
      engine.handshakes with
  | ok finish_bytes handshakes =>
    obtain ⟨_, sent, _, _, _, _, hsent, _, hbytes, _⟩ :=
      HandshakeManager.process_ack_build_finish_eq_ok_iff.mp hresult
    refine .inr ⟨finish_bytes, handshakes, sent, process_ack_eq_ok getrandom rng hkind hresult, ?_, hsent⟩
    rw [hbytes]
    exact classify_incoming_finish _ rfl
  | error error handshakes =>
    obtain rfl := HandshakeManager.process_ack_build_finish_failsIn error handshakes hresult
    refine .inl ⟨error, ?_⟩
    unfold process_handshake_bytes
    simp only [get_bind, hkind]
    exact bind_eq_error_iff.mpr (.inl (onPart_eq_error_iff.mpr ⟨_, hresult, rfl⟩))

end Engine

/-! Two engines that may both connect to the other. -/

inductive Side where
  | a
  | b
deriving DecidableEq

namespace Side

def other : Side → Side
  | a => b
  | b => a

@[simp] theorem other_other (s : Side) : s.other.other = s := by cases s <;> rfl

@[simp] theorem other_ne (s : Side) : s.other ≠ s := by cases s <;> decide

@[simp] theorem ne_other (s : Side) : s ≠ s.other := by cases s <;> decide

theorem eq_or_eq_other (s t : Side) : t = s ∨ t = s.other := by cases s <;> cases t <;> decide

end Side

deriving instance DecidableEq for InFlight

/-- Both engines, the messages on their way to each of them, and who has called
    `connect_peer`. -/
structure Meeting (crates : Crates) where
  engine : Side → GossipEngine crates
  inbox : Side → Multiset InFlight
  called : Side → Bool

/-- One side connects to the other, or gets a message, with the randomness drawn. -/
inductive Encounter (crates : Crates) where
  | connect (s : Side) (client_nonce : Bytes32) (now_ms : UInt64)
  | deliver (s : Side) (message : InFlight) (server_nonce : Bytes32) (rng : crates.OsRng) (now_ms : UInt64)

namespace Meeting

/-! `addr s` is the name that the side `s` uses for the other side. -/

variable (addr : Side → Str)

def start (engine : Side → GossipEngine crates) : Meeting crates := ⟨engine, fun _ => 0, fun _ => false⟩

/-- The side has a new state, and these messages are on their way to the other one. -/
def acted (x : Meeting crates) (s : Side) (engine : GossipEngine crates) (sent : Multiset InFlight) :
    Meeting crates :=
  { x with
    engine := Function.update x.engine s engine
    inbox := Function.update x.inbox s.other (sent + x.inbox s.other) }

def connect (x : Meeting crates) (s : Side) (client_nonce : Bytes32) (now_ms : UInt64) : Meeting crates :=
  let x := { x with called := Function.update x.called s true }
  match GossipEngine.connect_peer (addr s) (.ok client_nonce) now_ms (x.engine s) with
  | .ok probe_bytes engine => x.acted s engine {⟨probe_bytes, now_ms⟩}
  | .error _ engine => x.acted s engine 0

/-- The answer to a message, if there is one, as a message of its own. -/
def sent (now_ms : UInt64) : Option Bytes → Multiset InFlight
  | some bytes => {⟨bytes, now_ms⟩}
  | none => 0

/-- The message is no longer on its way. -/
def received (x : Meeting crates) (s : Side) (message : InFlight) : Meeting crates :=
  { x with inbox := Function.update x.inbox s ((x.inbox s).erase message) }

/-- A message that is refused is gone, like one that is accepted. -/
def deliver (x : Meeting crates) (s : Side) (message : InFlight) (server_nonce : Bytes32) (rng : crates.OsRng)
    (now_ms : UInt64) : Meeting crates :=
  match GossipEngine.process_handshake_bytes (addr s) message.bytes (.ok server_nonce) rng now_ms (x.engine s) with
  | .ok answer engine => (x.received s message).acted s engine (sent now_ms answer)
  | .error _ engine => (x.received s message).acted s engine 0

def step (x : Meeting crates) : Encounter crates → Meeting crates
  | .connect s client_nonce now_ms => x.connect addr s client_nonce now_ms
  | .deliver s message server_nonce rng now_ms => x.deliver addr s message server_nonce rng now_ms

/-- Each side connects at most once, and messages are at most 30 s on their way. -/
def Allowed (x : Meeting crates) : Encounter crates → Prop
  | .connect s _ _ => x.called s = false
  | .deliver s message _ _ now_ms => message ∈ x.inbox s ∧ now_ms.toNat - message.sent_at_ms.toNat ≤ 30000

/-- The handshake that `s` leads is left alone: the other side does not connect while
    it waits for the finish of `s`, and no probe or finish of the other side reaches
    `s` while `s` waits for an answer of its own. -/
def Spares (s : Side) (x : Meeting crates) : Encounter crates → Prop
  | .connect t _ _ => t = s.other →
      ∀ served, (x.engine t).handshakes.pending[addr t]? ≠ some (.Server (.AckSent served))
  | .deliver t message _ _ _ => t = s →
      classify_incoming message.bytes = .HandshakeProbe ∨ classify_incoming message.bytes = .HandshakeFinish →
      ∀ context, (x.engine t).handshakes.pending[addr t]? ≠ some (.Client context)

def Takes (x y : Meeting crates) : Prop :=
  ∃ next, x.Allowed next ∧ y = x.step addr next

def TakesSparing (s : Side) (x y : Meeting crates) : Prop :=
  ∃ next, x.Allowed next ∧ x.Spares addr s next ∧ y = x.step addr next

/-- Both sides have a session for the other. -/
def Connected (x : Meeting crates) : Prop :=
  ∀ s, (x.engine s).sessions.get (addr s) ≠ none

/-- When no message is on its way and somebody has connected, both sides have a
    session for the other. -/
def Settled (x : Meeting crates) : Prop :=
  (∀ s, x.inbox s = 0) → (∃ s, x.called s = true) → x.Connected addr

/-- What a step at one side does: the side has a new state and these messages left,
    and sends some to the other one. -/
structure Acts (s : Side) (x y : Meeting crates) (engine : GossipEngine crates) (left messages : Multiset InFlight) :
    Prop where
  engine_self : y.engine s = engine
  engine_other : y.engine s.other = x.engine s.other
  inbox_self : y.inbox s = left
  inbox_other : y.inbox s.other = messages + x.inbox s.other

section Steps

variable {addr : Side → Str} {x y : Meeting crates} {s : Side} {engine : GossipEngine crates} {message : InFlight}
  {nonce : Bytes32} {rng : crates.OsRng} {now_ms : UInt64} {left messages : Multiset InFlight}

theorem Acts.leader_engine (h : Acts s.other x y engine left messages) : y.engine s = x.engine s := by
  have hengine := h.engine_other
  rwa [Side.other_other] at hengine

theorem Acts.leader_inbox (h : Acts s.other x y engine left messages) : y.inbox s = messages + x.inbox s := by
  have hinbox := h.inbox_other
  rwa [Side.other_other] at hinbox

theorem acted_acts : Acts s x (x.acted s engine messages) engine (x.inbox s) messages where
  engine_self := Function.update_self ..
  engine_other := Function.update_of_ne s.other_ne ..
  inbox_self := Function.update_of_ne s.ne_other ..
  inbox_other := Function.update_self ..

theorem connect_ok {probe_bytes : Bytes}
    (h : GossipEngine.connect_peer (addr s) (.ok nonce) now_ms (x.engine s) = .ok probe_bytes engine) :
    Acts s x (x.connect addr s nonce now_ms) engine (x.inbox s) {⟨probe_bytes, now_ms⟩} := by
  unfold connect
  simp only [h]
  exact { acted_acts with }

theorem connect_error {error : GossipError}
    (h : GossipEngine.connect_peer (addr s) (.ok nonce) now_ms (x.engine s) = .error error engine) :
    Acts s x (x.connect addr s nonce now_ms) engine (x.inbox s) 0 := by
  unfold connect
  simp only [h]
  exact { acted_acts with }

theorem connect_called : (x.connect addr s nonce now_ms).called = Function.update x.called s true := by
  unfold connect
  dsimp only
  split <;> rfl

theorem connect_called_other : (x.connect addr s.other nonce now_ms).called s = x.called s := by
  rw [connect_called, Function.update_of_ne s.ne_other]

theorem received_acts :
    Acts s x ((x.received s message).acted s engine messages) engine ((x.inbox s).erase message) messages where
  engine_self := acted_acts.engine_self
  engine_other := acted_acts.engine_other
  inbox_self := acted_acts.inbox_self.trans (Function.update_self ..)
  inbox_other := acted_acts.inbox_other.trans (congrArg (messages + ·) (Function.update_of_ne s.other_ne ..))

theorem deliver_ok {answer : Option Bytes}
    (h : GossipEngine.process_handshake_bytes (addr s) message.bytes (.ok nonce) rng now_ms (x.engine s) =
      .ok answer engine) :
    Acts s x (x.deliver addr s message nonce rng now_ms) engine ((x.inbox s).erase message)
      (sent now_ms answer) := by
  unfold deliver
  simp only [h]
  exact received_acts

theorem deliver_error {error : GossipError}
    (h : GossipEngine.process_handshake_bytes (addr s) message.bytes (.ok nonce) rng now_ms (x.engine s) =
      .error error engine) :
    Acts s x (x.deliver addr s message nonce rng now_ms) engine ((x.inbox s).erase message) 0 := by
  unfold deliver
  simp only [h]
  exact received_acts

theorem deliver_called : (x.deliver addr s message nonce rng now_ms).called = x.called := by
  unfold deliver
  split <;> rfl

theorem connect_engine : (x.connect addr s nonce now_ms).engine = Function.update x.engine s
    (final (GossipEngine.connect_peer (addr s) (.ok nonce) now_ms (x.engine s))) := by
  unfold connect
  dsimp only
  split <;> simp only [*] <;> rfl

theorem deliver_engine : (x.deliver addr s message nonce rng now_ms).engine = Function.update x.engine s
    (final (GossipEngine.process_handshake_bytes (addr s) message.bytes (.ok nonce) rng now_ms (x.engine s))) := by
  unfold deliver
  split <;> simp only [*] <;> rfl

/-- Sessions stay. -/
theorem Connected.step (h : x.Connected addr) (next : Encounter crates) : (x.step addr next).Connected addr := by
  intro t
  cases next with
  | connect s nonce now_ms =>
    change ((x.connect addr s nonce now_ms).engine t).sessions.get (addr t) ≠ none
    rw [connect_engine]
    by_cases ht : t = s
    · subst ht
      have hsessions : (final (GossipEngine.connect_peer (addr t) (.ok nonce) now_ms (x.engine t))).sessions =
          (x.engine t).sessions := connect_peer_keeps.2
      rw [Function.update_self, hsessions]
      exact h t
    · rw [Function.update_of_ne ht]
      exact h t
  | deliver s message nonce rng now_ms =>
    change ((x.deliver addr s message nonce rng now_ms).engine t).sessions.get (addr t) ≠ none
    rw [deliver_engine]
    by_cases ht : t = s
    · subst ht
      rw [Function.update_self]
      exact process_handshake_bytes_keeps_session (h t)
    · rw [Function.update_of_ne ht]
      exact h t

end Steps

end Meeting

end witan.gossip
