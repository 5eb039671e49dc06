import Witan.Gossip.Effects
import Witan.Gossip.Maintenance

open bincode fallible maps
open witan.types witan.error witan.identity witan.session witan.config witan.rotation
open witan.handshake (HandshakeManager HandshakeContext)

namespace witan.gossip

open GossipEngine

variable {crates : Crates}

/-- The session of the handshake that an operation completes. -/
def EngineOp.establishes (engine : GossipEngine crates) : EngineOp crates → Option SessionRecord
  | .process_handshake_bytes peer_addr bytes _ _ now_ms =>
    match classify_incoming bytes with
    | .HandshakeFinish =>
      match HandshakeManager.process_finish_build_finish_ack peer_addr bytes engine.identity now_ms
        engine.handshakes with
      | .ok (_, session) _ => some session
      | .error _ _ => none
    | .HandshakeFinishAck =>
      match HandshakeManager.process_finish_ack crates peer_addr bytes now_ms engine.handshakes with
      | .ok session _ => some session
      | .error _ _ => none
    | _ => none
  | .build_finish_ack peer_addr finish_bytes now_ms =>
    match HandshakeManager.process_finish_build_finish_ack peer_addr finish_bytes engine.identity now_ms
      engine.handshakes with
    | .ok (_, session) _ => some session
    | .error _ _ => none
  | _ => none

def EngineCall.establishes (engine : GossipEngine crates) : EngineCall crates → Option SessionRecord
  | .operation op => op.establishes engine
  | _ => none

/-- The peer that a call disconnects. -/
def EngineCall.disconnects : EngineCall crates → Option Str
  | .operation (.disconnect_peer peer_addr) => some peer_addr
  | _ => none

/-- What a call makes of the sessions: it stores the one that it completes a handshake
    with, or removes the one of the peer that it disconnects, or keeps them all. -/
inductive EngineCall.Stores (engine : GossipEngine crates) (call : EngineCall crates) : SessionStore → Prop
  | established {session} (hsession : call.establishes engine = some session) (hdisconnects : call.disconnects = none) :
    Stores engine call (engine.sessions.insert session)
  | removed {peer_addr} (hnone : call.establishes engine = none) (hdisconnects : call.disconnects = some peer_addr) :
    Stores engine call (engine.sessions.remove peer_addr).2
  | kept (hnone : call.establishes engine = none) (hdisconnects : call.disconnects = none) :
    Stores engine call engine.sessions

section Steps

variable {engine : GossipEngine crates} {peer_addr : Str} {bytes : Bytes} {now_ms : UInt64}

/-- An action of the handshake manager alone stores no session. -/
theorem withHandshakes_sessions {α : Type} {action : EStateM GossipError HandshakeManager α} :
    Leaves (withHandshakes action) engine (·.sessions = engine.sessions) :=
  .onPart rfl

/-- Nor does one that fails, whatever the engine had in mind for its answer. -/
theorem withHandshakes_bind_sessions {α β : Type} {action : EStateM GossipError HandshakeManager α}
    {rest : α → EStateM GossipError (GossipEngine crates) β} {error : GossipError} {handshakes : HandshakeManager}
    (h : action engine.handshakes = .error error handshakes) :
    Leaves (withHandshakes action >>= rest) engine (·.sessions = engine.sessions) := by
  have hpart : withHandshakes action engine = .error error { engine with handshakes } :=
    onPart_eq_error_iff.mpr ⟨handshakes, h, rfl⟩
  unfold Leaves
  rw [bind_of_error hpart]
  rfl

theorem EngineCall.Stores.of_kept {call : EngineCall crates} {after : SessionStore}
    (hnone : call.establishes engine = none) (hdisconnects : call.disconnects = none)
    (hsessions : after = engine.sessions) : call.Stores engine after := by
  subst hsessions
  exact .kept hnone hdisconnects

theorem EngineCall.Stores.complete {call : EngineCall crates} {handshakes : HandshakeManager} {session : SessionRecord}
    (hsession : call.establishes engine = some session) (hdisconnects : call.disconnects = none) :
    call.Stores engine ({ engine with handshakes }.complete_handshake peer_addr session).sessions := by
  rw [(complete_handshake_keeps _ peer_addr session).2.1]
  exact .established hsession hdisconnects

theorem process_handshake_bytes_stores (getrandom : Except String Bytes32) (rng : crates.OsRng) :
    let call : EngineCall crates := .operation (.process_handshake_bytes peer_addr bytes getrandom rng now_ms)
    Leaves (process_handshake_bytes peer_addr bytes getrandom rng now_ms) engine (call.Stores engine ·.sessions) := by
  intro call
  have hestablishes : call.establishes engine =
      (EngineOp.process_handshake_bytes peer_addr bytes getrandom rng now_ms).establishes engine := rfl
  unfold EngineOp.establishes at hestablishes
  cases hkind : classify_incoming bytes with
  | HandshakeProbe =>
    simp only [hkind] at hestablishes
    unfold process_handshake_bytes
    simp only [hkind]
    exact .get_bind (.bind (.of_kept hestablishes rfl withHandshakes_sessions) fun _ _ _ h => .pure h)
  | HandshakeAck =>
    simp only [hkind] at hestablishes
    unfold process_handshake_bytes
    simp only [hkind]
    exact .get_bind (.bind (.of_kept hestablishes rfl withHandshakes_sessions) fun _ _ _ h => .pure h)
  | HandshakeFinish =>
    cases hrun : HandshakeManager.process_finish_build_finish_ack peer_addr bytes engine.identity now_ms
      engine.handshakes with
    | error error handshakes =>
      simp only [hkind, hrun] at hestablishes
      unfold process_handshake_bytes
      simp only [hkind]
      exact .get_bind (.of_kept hestablishes rfl (withHandshakes_bind_sessions hrun))
    | ok answer handshakes =>
      simp only [hkind, hrun] at hestablishes
      unfold Leaves
      rw [process_finish_eq_ok getrandom rng hkind hrun]
      exact .complete hestablishes rfl
  | HandshakeFinishAck =>
    cases hrun : HandshakeManager.process_finish_ack crates peer_addr bytes now_ms engine.handshakes with
    | error error handshakes =>
      simp only [hkind, hrun] at hestablishes
      unfold process_handshake_bytes
      simp only [hkind]
      exact .get_bind (.of_kept hestablishes rfl (withHandshakes_bind_sessions hrun))
    | ok session handshakes =>
      simp only [hkind, hrun] at hestablishes
      unfold Leaves
      rw [process_finish_ack_eq_ok getrandom rng hkind hrun]
      exact .complete hestablishes rfl
  | GossipEnvelope =>
    simp only [hkind] at hestablishes
    unfold process_handshake_bytes
    simp only [hkind]
    exact .get_bind (.throw (.of_kept hestablishes rfl rfl))

theorem build_finish_ack_stores :
    let call : EngineCall crates := .operation (.build_finish_ack peer_addr bytes now_ms)
    Leaves (build_finish_ack peer_addr bytes now_ms) engine (call.Stores engine ·.sessions) := by
  intro call
  have hestablishes : call.establishes engine =
      (EngineOp.build_finish_ack peer_addr bytes now_ms).establishes engine := rfl
  unfold EngineOp.establishes at hestablishes
  dsimp only at hestablishes
  cases hrun : HandshakeManager.process_finish_build_finish_ack peer_addr bytes engine.identity now_ms
    engine.handshakes with
  | error error handshakes =>
    rw [hrun] at hestablishes
    unfold build_finish_ack
    exact .get_bind (.of_kept hestablishes rfl (withHandshakes_bind_sessions hrun))
  | ok answer handshakes =>
    rw [hrun] at hestablishes
    unfold Leaves
    rw [build_finish_ack_eq_ok hrun]
    exact .established hestablishes rfl

/-- An operation that names no peer keeps the sessions. -/
theorem EngineOp.run_sessions (op : EngineOp crates) (h : op.address = none) :
    (op.run engine).sessions = engine.sessions := by
  have houtcome := op.run_outcome engine
  generalize op.run engine = after at houtcome ⊢
  cases houtcome with
  | completed haddress honly hpeer hactive =>
    rw [h] at haddress
    cases haddress
  | answered honly hpeer hactive => cases h
  | disconnected => cases h
  | beat => exact (heartbeat_keeps engine _ _).2.1
  | _ => rfl

theorem disconnect_peer_sessions :
    Leaves (disconnect_peer peer_addr) engine (·.sessions = (engine.sessions.remove peer_addr).2) := by
  unfold disconnect_peer
  exact .get_bind (.set_bind (.attempt_bind rfl fun _ _ => .modify_bind (.modify_bind (.modify rfl))))

/-- What every call makes of the sessions. -/
theorem EngineCall.run_stores (call : EngineCall crates) (engine : GossipEngine crates) :
    call.Stores engine (call.run engine).sessions := by
  cases call with
  | operation op =>
    cases op with
    | process_handshake_bytes peer_addr bytes getrandom rng now_ms => exact process_handshake_bytes_stores getrandom rng
    | build_finish_ack peer_addr finish_bytes now_ms => exact build_finish_ack_stores
    | disconnect_peer peer_addr =>
      have hsessions : (EngineCall.run (.operation (.disconnect_peer peer_addr)) engine).sessions =
          (engine.sessions.remove peer_addr).2 := disconnect_peer_sessions
      rw [hsessions]
      exact .removed rfl rfl
    | connect_peer peer_addr getrandom now_ms =>
      have hleaves : Leaves (connect_peer peer_addr getrandom now_ms) engine (·.sessions = engine.sessions) := by
        unfold connect_peer
        exact .get_bind (.attempt_bind rfl fun _ _ => withHandshakes_sessions)
      exact .of_kept rfl rfl hleaves
    | build_handshake_ack peer_addr probe_bytes getrandom now_ms =>
      have hleaves : Leaves (build_handshake_ack peer_addr probe_bytes getrandom now_ms) engine
          (·.sessions = engine.sessions) := by
        unfold build_handshake_ack
        exact .get_bind withHandshakes_sessions
      exact .of_kept rfl rfl hleaves
    | publish payload_type payload now_ms => exact .of_kept rfl rfl (EngineOp.run_sessions _ rfl)
    | encode_envelope payload_type payload now_ms => exact .of_kept rfl rfl (EngineOp.run_sessions _ rfl)
    | verify_envelope_bytes bytes now_ms => exact .of_kept rfl rfl (EngineOp.run_sessions _ rfl)
    | verify_envelope_from_lineage lineage bytes now_ms => exact .of_kept rfl rfl (EngineOp.run_sessions _ rfl)
    | heartbeat order now_ms => exact .of_kept rfl rfl (EngineOp.run_sessions _ rfl)
  | rotate_keys key_epoch kem_rng sig_rng =>
    obtain ⟨identity, hrun⟩ := EngineCall.run_rotate_keys key_epoch kem_rng sig_rng engine
    rw [hrun]
    exact .kept rfl rfl
  | rotate_keys_under_id lineage next next_key_commitment now_ms =>
    obtain ⟨identity, hrun⟩ :=
      EngineCall.run_rotate_keys_under_id lineage next next_key_commitment now_ms engine
    rw [hrun]
    exact .kept rfl rfl
  | record_ack message_id peer_addr => exact .kept rfl rfl

/-- What a call leaves for one peer: the session it completes a handshake with, or
    the one that was there, unless it disconnects the peer. -/
theorem EngineCall.get_run_iff (call : EngineCall crates) (engine : GossipEngine crates) (peer_addr : Str)
    (session : SessionRecord) :
    (call.run engine).sessions.get peer_addr = some session ↔
      call.establishes engine = some session ∧ session.peer_addr = peer_addr ∨
        (∀ other, ¬ (call.establishes engine = some other ∧ other.peer_addr = peer_addr)) ∧
          engine.sessions.get peer_addr = some session ∧ call.disconnects ≠ some peer_addr := by
  have hstores := call.run_stores engine
  generalize (call.run engine).sessions = sessions at hstores ⊢
  cases hstores with
  | @established new hsession hdisconnects =>
    rw [hsession, hdisconnects]
    by_cases haddr : new.peer_addr = peer_addr
    · subst haddr
      rw [SessionStore.get_insert_self]
      constructor
      · intro h
        cases h
        exact .inl ⟨rfl, rfl⟩
      · rintro (⟨h, _⟩ | ⟨hsilent, _⟩)
        · exact h
        · exact absurd ⟨rfl, rfl⟩ (hsilent new)
    · rw [SessionStore.get_insert_of_ne _ haddr]
      constructor
      · intro h
        refine .inr ⟨?_, h, nofun⟩
        rintro other ⟨hother, hpeer⟩
        cases hother
        exact haddr hpeer
      · rintro (⟨h, hpeer⟩ | ⟨_, h, _⟩)
        · cases h
          exact absurd hpeer haddr
        · exact h
  | @removed gone hnone hdisconnects =>
    rw [hnone, hdisconnects]
    by_cases haddr : gone = peer_addr
    · subst haddr
      simp [SessionStore.get, SessionStore.remove]
    · rw [SessionStore.get_remove_of_ne _ haddr]
      simp [haddr]
  | kept hnone hdisconnects =>
    rw [hnone, hdisconnects]
    simp

end Steps

end witan.gossip
