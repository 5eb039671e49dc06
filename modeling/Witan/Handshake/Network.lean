import Witan.Handshake.Contexts
import Witan.Signing

open Std (ExtHashMap)
open bincode fallible maps
open witan.types witan.error witan.identity witan.session witan.signing

namespace witan.handshake

/-- A finish that a server answered, with the byte strings and the nonces it
    answered for and the key it signed with. -/
structure Service where
  public_key : ByteVec
  client_nonce : Bytes32
  server_nonce : Bytes32
  probe_bytes : Bytes
  ack_bytes : Bytes
  finish_bytes : Bytes

def Service.transcriptHash (crates : Crates) (self : Service) : Bytes32 :=
  compute_transcript_hash crates self.probe_bytes self.ack_bytes self.finish_bytes

/-- What an honest node does with its handshake manager and its signing key. The
    bytes and addresses are whatever the network delivers. -/
inductive Call (crates : Crates) where
  | build_probe (peer_addr : Str) (identity : NodeIdentity crates) (getrandom : Except String Bytes32)
      (now_ms : UInt64)
  | process_probe_build_ack (peer_addr : Str) (probe_bytes : Bytes) (identity : NodeIdentity crates)
      (getrandom : Except String Bytes32) (now_ms : UInt64)
  | process_ack_build_finish (peer_addr : Str) (ack_bytes : Bytes) (identity : NodeIdentity crates)
      (rng : crates.OsRng) (now_ms : UInt64)
  | process_finish_build_finish_ack (peer_addr : Str) (finish_bytes : Bytes) (identity : NodeIdentity crates)
      (now_ms : UInt64)
  | process_finish_ack (peer_addr : Str) (finish_ack_bytes : Bytes) (now_ms : UInt64)
  | process_incoming (peer_addr : Str) (bytes : Bytes) (identity : NodeIdentity crates)
      (getrandom : Except String Bytes32) (rng : crates.OsRng) (now_ms : UInt64)
  | remove (peer_addr : Str)
  | evict_timed_out (now_ms : UInt64) (visit : ∀ pending : ExtHashMap Str HandshakeContext, Visit pending)
  | take_session (peer_addr : Str)
  | sign (signing : Signing crates) (h : signing.purpose ≠ .transcript)

/-- A probe or an ack that a call is given has nothing after its message, whether the
    call then accepts it or not. -/
def Call.Exact {crates : Crates} : Call crates → Prop
  | .process_probe_build_ack _ probe_bytes _ _ _ => NoTrailing HandshakeProbe.codec probe_bytes
  | .process_ack_build_finish _ ack_bytes _ _ _ => NoTrailing HandshakeAck.codec ack_bytes
  | .process_incoming _ bytes _ _ _ _ =>
    (classify_incoming bytes = .HandshakeProbe → NoTrailing HandshakeProbe.codec bytes) ∧
      (classify_incoming bytes = .HandshakeAck → NoTrailing HandshakeAck.codec bytes)
  | _ => True

/-- The honest nodes' managers, everything the nodes signed, and every finish
    they answered. -/
structure Network (crates : Crates) (Node : Type) where
  managers : Node → HandshakeManager
  signings : List (Signing crates)
  services : List Service

variable {crates : Crates} {Node : Type}

/-- The service that answering a finish amounts to, if it is answered. -/
def answered (self : HandshakeManager) (peer_addr : Str) (finish_bytes : Bytes) (identity : NodeIdentity crates)
    (now_ms : UInt64) : Option Service :=
  match HandshakeManager.process_finish_build_finish_ack peer_addr finish_bytes identity now_ms self with
  | .ok _ _ => ((self.pending[peer_addr]?).bind (·.ackSent?)).map fun sent =>
      ⟨identity.sig_public_key_bytes, sent.client_nonce, sent.server_nonce, sent.probe_bytes, sent.ack_bytes,
        finish_bytes⟩
  | .error _ _ => none

namespace Network

def initial : Network crates Node := ⟨fun _ => .new, [], []⟩

/-- Log an answered finish: its transcript was signed. -/
def serve (self : Network crates Node) (identity : NodeIdentity crates) : Option Service → Network crates Node
  | some service => { self with
      signings := .transcript identity (service.transcriptHash crates) :: self.signings
      services := service :: self.services }
  | none => self

variable [DecidableEq Node]

def setManager (self : Network crates Node) (node : Node) (manager : HandshakeManager) : Network crates Node :=
  { self with managers := Function.update self.managers node manager }

@[simp] theorem managers_setManager_self (self : Network crates Node) (node : Node) (manager : HandshakeManager) :
    (self.setManager node manager).managers node = manager := by
  unfold setManager
  exact Function.update_self node manager self.managers

theorem managers_setManager_of_ne (self : Network crates Node) {node other : Node} (h : other ≠ node)
    (manager : HandshakeManager) : (self.setManager node manager).managers other = self.managers other := by
  unfold setManager
  exact Function.update_of_ne h manager self.managers

/-- What holds of every manager, after one of them was replaced. -/
theorem forall_managers_setManager {network : Network crates Node} {condition : HandshakeManager → Prop}
    (h : ∀ node, condition (network.managers node)) {node : Node} {manager : HandshakeManager}
    (hmanager : condition manager) (other : Node) : condition ((network.setManager node manager).managers other) := by
  by_cases hother : other = node
  · subst hother
    rw [managers_setManager_self]
    exact hmanager
  · rw [network.managers_setManager_of_ne hother]
    exact h other

/-- One call of one node. -/
def step (self : Network crates Node) (node : Node) : Call crates → Network crates Node
  | .build_probe peer_addr identity getrandom now_ms =>
    self.setManager node (final (HandshakeManager.build_probe peer_addr identity getrandom now_ms
      (self.managers node)))
  | .process_probe_build_ack peer_addr probe_bytes identity getrandom now_ms =>
    self.setManager node (final (HandshakeManager.process_probe_build_ack peer_addr probe_bytes identity
      getrandom now_ms (self.managers node)))
  | .process_ack_build_finish peer_addr ack_bytes identity rng now_ms =>
    self.setManager node (final (HandshakeManager.process_ack_build_finish peer_addr ack_bytes identity rng
      now_ms (self.managers node)))
  | .process_finish_build_finish_ack peer_addr finish_bytes identity now_ms =>
    (self.serve identity (answered (self.managers node) peer_addr finish_bytes identity now_ms)).setManager node
      (final (HandshakeManager.process_finish_build_finish_ack peer_addr finish_bytes identity now_ms
        (self.managers node)))
  | .process_finish_ack peer_addr finish_ack_bytes now_ms =>
    self.setManager node (final (HandshakeManager.process_finish_ack crates peer_addr finish_ack_bytes now_ms
      (self.managers node)))
  | .process_incoming peer_addr bytes identity getrandom rng now_ms =>
    (self.serve identity (if classify_incoming bytes = .HandshakeFinish then
        answered (self.managers node) peer_addr bytes identity now_ms else none)).setManager node
      (final (HandshakeManager.process_incoming peer_addr bytes identity getrandom rng now_ms
        (self.managers node)))
  | .remove peer_addr => self.setManager node ((self.managers node).remove peer_addr)
  | .evict_timed_out now_ms visit =>
    self.setManager node ((self.managers node).evict_timed_out now_ms (visit _)).2
  | .take_session peer_addr => self.setManager node ((self.managers node).take_session peer_addr).2
  | .sign signing _ => { self with signings := signing :: self.signings }

/-- A run: calls of honest nodes in any order, with any bytes. -/
def run (events : List (Node × Call crates)) : Network crates Node :=
  events.foldl (fun network event => network.step event.1 event.2) initial

/-- The invariant of runs without trailing bytes. -/
structure Sound (network : Network crates Node) : Prop where
  managers : ∀ node, (network.managers node).Sound crates
  services : ∀ service ∈ network.services, ProbeBytes service.probe_bytes service.client_nonce ∧
    ∃ kem_pk_json, AckBytes service.ack_bytes service.server_nonce kem_pk_json
  transcripts : ∀ identity transcript_hash, Signing.transcript identity transcript_hash ∈ network.signings →
    ∃ service ∈ network.services, service.public_key = identity.sig_public_key_bytes ∧
      service.transcriptHash crates = transcript_hash

omit [DecidableEq Node] in
theorem initial_sound : (initial : Network crates Node).Sound where
  managers _ := HandshakeManager.AllPending.new
  services _ h := by cases h
  transcripts _ _ h := by cases h

theorem Sound.setManager {network : Network crates Node} (h : network.Sound) {node : Node}
    {manager : HandshakeManager} (hmanager : manager.Sound crates) : (network.setManager node manager).Sound :=
  ⟨forall_managers_setManager h.managers hmanager, h.services, h.transcripts⟩

omit [DecidableEq Node] in
/-- An answered finish is logged with the bytes of a sound context. -/
theorem Sound.serve {network : Network crates Node} (h : network.Sound) {self : HandshakeManager}
    (hself : self.Sound crates) {peer_addr : Str} {finish_bytes : Bytes} {identity : NodeIdentity crates}
    {now_ms : UInt64} :
    (network.serve identity (answered self peer_addr finish_bytes identity now_ms)).Sound := by
  unfold answered
  split
  · cases hsent : (self.pending[peer_addr]?).bind (·.ackSent?) with
    | none => exact h
    | some sent =>
      have hcontext := hself peer_addr _ (ackSent?_eq_some_iff.mp hsent)
      refine ⟨h.managers, ?_, ?_⟩
      · intro service hservice
        rcases List.mem_cons.mp hservice with rfl | hold
        · exact hcontext
        · exact h.services service hold
      · intro other transcript_hash hsigned
        rcases List.mem_cons.mp hsigned with hnew | hold
        · cases hnew
          exact ⟨_, List.mem_cons_self, rfl, rfl⟩
        · obtain ⟨service, hservice, hkey, hhash⟩ := h.transcripts other transcript_hash hold
          exact ⟨service, List.mem_cons_of_mem _ hservice, hkey, hhash⟩
  · exact h

/-- One call without trailing bytes keeps the invariant. -/
theorem Sound.step {network : Network crates Node} (h : network.Sound) (node : Node) {call : Call crates}
    (hexact : call.Exact) : (network.step node call).Sound := by
  have hself := h.managers node
  cases call with
  | build_probe => exact h.setManager hself.build_probe
  | process_probe_build_ack => exact h.setManager (hself.process_probe_build_ack hexact)
  | process_ack_build_finish => exact h.setManager (hself.process_ack_build_finish hexact)
  | process_finish_build_finish_ack =>
    exact (h.serve hself).setManager hself.process_finish_build_finish_ack
  | process_finish_ack => exact h.setManager hself.process_finish_ack
  | process_incoming peer_addr bytes identity getrandom rng now_ms =>
    have hserve : (network.serve identity (if classify_incoming bytes = .HandshakeFinish then
        answered (network.managers node) peer_addr bytes identity now_ms else none)).Sound := by
      split
      · exact h.serve hself
      · exact h
    exact hserve.setManager (hself.process_incoming hexact.1 hexact.2)
  | remove => exact h.setManager (HandshakeManager.AllPending.remove hself)
  | evict_timed_out now_ms visit => exact h.setManager (HandshakeManager.AllPending.evict_timed_out hself _)
  | take_session => exact h.setManager (HandshakeManager.AllPending.dropPending hself)
  | sign signing hpurpose =>
    refine ⟨h.managers, h.services, ?_⟩
    intro identity transcript_hash hsigned
    rcases List.mem_cons.mp hsigned with rfl | hold
    · exact absurd rfl hpurpose
    · exact h.transcripts identity transcript_hash hold

theorem run_sound {events : List (Node × Call crates)} (hexact : ∀ event ∈ events, event.2.Exact) :
    (run events).Sound := by
  unfold run
  refine List.foldlRecOn events _ initial_sound fun network h event hevent => ?_
  exact h.step event.1 (hexact event hevent)

end Network

end witan.handshake
