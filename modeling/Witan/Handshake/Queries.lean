import Witan.Handshake.Splice

open Std (ExtHashMap)
open bincode fallible maps
open witan.types witan.error witan.identity witan.session

namespace witan.handshake

variable {crates : Crates} {Node : Type}

/-- A context that waits for a message holds no session yet. -/
theorem HandshakeContext.Waiting.into_session {context : HandshakeContext} (h : context.Waiting) :
    context.into_session = none := by
  rcases context with (_ | _ | _ | _ | _) | (_ | _ | _ | _)
  all_goals first | rfl | cases h

namespace HandshakeManager

/-- Every pending context waits for a message. -/
def InProgress : HandshakeManager → Prop := AllPending HandshakeContext.Waiting

/-- The queries agree on a peer: what is taken is the completed session, and where
    nothing is taken the peer's pending handshake goes on. -/
structure QueriesAgree (manager : HandshakeManager) (peer_addr : Str) : Prop where
  taken : ∀ session, (manager.take_session peer_addr).1 = some session ↔
    manager.is_complete peer_addr = true ∧ manager.get_session peer_addr = some session
  kept : (manager.take_session peer_addr).1 = none →
    (manager.take_session peer_addr).2.pending[peer_addr]? = manager.pending[peer_addr]?

variable {self after : HandshakeManager} {peer_addr : Str} {identity : NodeIdentity crates} {now_ms : UInt64}

/-- Whatever a handler does, a pending context still waits. -/
theorem InProgress.touches (h : self.InProgress) (htouches : Touches peer_addr self after) : after.InProgress := by
  cases htouches with
  | kept => exact h
  | dropped => exact AllPending.dropPending h
  | stored context hwaiting => exact AllPending.setPending h hwaiting

theorem InProgress.process_incoming (h : self.InProgress) {bytes : Bytes} {getrandom : Except String Bytes32}
    {rng : crates.OsRng} :
    (final (process_incoming peer_addr bytes identity getrandom rng now_ms self)).InProgress :=
  AllPending.process_incoming h (fun _ => h.touches process_probe_build_ack_touches)
    (fun _ => h.touches process_ack_build_finish_touches) (h.touches process_finish_build_finish_ack_touches)
    (h.touches process_finish_ack_touches)

theorem process_incoming_probe_eq_ok {bytes ack_bytes : Bytes} {getrandom : Except String Bytes32} (rng : crates.OsRng)
    (hkind : classify_incoming bytes = .HandshakeProbe)
    (hprobe : process_probe_build_ack peer_addr bytes identity getrandom now_ms self = .ok ack_bytes after) :
    process_incoming peer_addr bytes identity getrandom rng now_ms self = .ok ack_bytes after := by
  unfold HandshakeManager.process_incoming
  rw [hkind]
  exact hprobe

/-- The router keeps the session of the finish it answers. -/
theorem process_incoming_finish_eq_ok {bytes finish_ack_bytes : Bytes} {session : SessionRecord}
    (getrandom : Except String Bytes32) (rng : crates.OsRng) (hkind : classify_incoming bytes = .HandshakeFinish)
    (hfinish : process_finish_build_finish_ack peer_addr bytes identity now_ms self =
      .ok (finish_ack_bytes, session) after) :
    process_incoming peer_addr bytes identity getrandom rng now_ms self =
      .ok finish_ack_bytes (after.keepCompleted peer_addr session) := by
  unfold HandshakeManager.process_incoming
  rw [hkind]
  exact bind_of_ok hfinish

/-- No pending context holds a session, so nothing is ever taken. -/
theorem InProgress.take_session_eq_none (h : self.InProgress) (peer_addr : Str) :
    (self.take_session peer_addr).1 = none := by
  unfold HandshakeManager.take_session
  dsimp only
  cases hpending : self.pending[peer_addr]? with
  | none => rfl
  | some context => exact (h peer_addr context hpending).into_session

theorem pending_take_session (self : HandshakeManager) (peer_addr : Str) :
    (self.take_session peer_addr).2.pending[peer_addr]? = none :=
  ExtHashMap.getElem?_erase_self

/-- The queries agree only where there is nothing to ask for. -/
theorem InProgress.queriesAgree_iff (h : self.InProgress) (peer_addr : Str) :
    self.QueriesAgree peer_addr ↔ self.pending[peer_addr]? = none ∧ self.completed[peer_addr]? = none := by
  have hnone := h.take_session_eq_none peer_addr
  constructor
  · intro hagree
    have hkept := hagree.kept hnone
    rw [pending_take_session] at hkept
    refine ⟨hkept.symm, ?_⟩
    cases hsession : self.completed[peer_addr]? with
    | none => rfl
    | some session =>
      have hcomplete : self.is_complete peer_addr = true :=
        ExtHashMap.contains_iff_mem.mpr (ExtHashMap.mem_iff_isSome_getElem?.mpr (by rw [hsession]; rfl))
      have htaken := (hagree.taken session).mpr ⟨hcomplete, hsession⟩
      rw [hnone] at htaken
      cases htaken
  · rintro ⟨hpending, hcompleted⟩
    refine ⟨fun session => ?_, fun _ => ?_⟩
    · rw [hnone]
      constructor
      · intro htaken
        cases htaken
      · rintro ⟨_, hsession⟩
        rw [show self.get_session peer_addr = none from hcompleted] at hsession
        cases hsession
    · rw [pending_take_session, hpending]

end HandshakeManager

namespace Network

variable [DecidableEq Node]

omit [DecidableEq Node] in
@[simp] theorem managers_serve (self : Network crates Node) (identity : NodeIdentity crates)
    (service : Option Service) :
    (self.serve identity service).managers = self.managers := by
  cases service <;> rfl

theorem inProgress_step {network : Network crates Node} (h : ∀ node, (network.managers node).InProgress)
    (node : Node) (call : Call crates) : ∀ other, ((network.step node call).managers other).InProgress := by
  have hself := h node
  cases call with
  | build_probe => exact forall_managers_setManager h (hself.touches HandshakeManager.build_probe_touches)
  | process_probe_build_ack =>
    exact forall_managers_setManager h (hself.touches HandshakeManager.process_probe_build_ack_touches)
  | process_ack_build_finish =>
    exact forall_managers_setManager h (hself.touches HandshakeManager.process_ack_build_finish_touches)
  | process_finish_build_finish_ack =>
    refine forall_managers_setManager ?_ (hself.touches HandshakeManager.process_finish_build_finish_ack_touches)
    rw [managers_serve]
    exact h
  | process_finish_ack => exact forall_managers_setManager h (hself.touches HandshakeManager.process_finish_ack_touches)
  | process_incoming =>
    refine forall_managers_setManager ?_ hself.process_incoming
    rw [managers_serve]
    exact h
  | remove => exact forall_managers_setManager h (HandshakeManager.AllPending.remove hself)
  | evict_timed_out now_ms visit =>
    exact forall_managers_setManager h (HandshakeManager.AllPending.evict_timed_out hself _)
  | take_session => exact forall_managers_setManager h (HandshakeManager.AllPending.dropPending hself)
  | sign => exact h

/-- In every state of every run the pending contexts are those that wait for a
    message; a completed one is never among them. -/
theorem inProgress_run (events : List (Node × Call crates)) (node : Node) :
    ((run events).managers node).InProgress := by
  revert node
  unfold run
  refine List.foldlRecOn (motive := fun network : Network crates Node => ∀ node, (network.managers node).InProgress)
    events _ (fun _ => HandshakeManager.AllPending.new) ?_
  intro network h event _
  exact inProgress_step h event.1 event.2

/-- After any calls, the session queries of a manager agree on a peer just where the
    manager has neither a pending handshake nor a completed session for it. -/
theorem run_queriesAgree_iff (events : List (Node × Call crates)) (node : Node) (peer_addr : Str) :
    ((run events).managers node).QueriesAgree peer_addr ↔
      ((run events).managers node).pending[peer_addr]? = none ∧
        ((run events).managers node).completed[peer_addr]? = none :=
  (inProgress_run events node).queriesAgree_iff peer_addr

end Network

namespace Splice

/-- A client that has sent its probe. -/
def started : List (Unit × Call reference.crates) := [((), .build_probe serverAddr client (.ok clientNonce) 0)]

/-- A server that answered a probe and then the finish for it. -/
def served : List (Unit × Call reference.crates) :=
  [((), .process_incoming clientAddr probeBytes server (.ok serverNonce) (9 : UInt8) 0),
    ((), .process_incoming clientAddr (finishBytes 2) server (.ok serverNonce) (9 : UInt8) 0)]

theorem pending_started :
    ((Network.run started).managers ()).pending[serverAddr]? = some (.Client (.ProbeSent probeSent)) := by
  have hprobe : HandshakeManager.build_probe serverAddr client (.ok clientNonce) 0 .new =
      .ok probeBytes (HandshakeManager.new.setPending serverAddr (.Client (.ProbeSent probeSent))) :=
    HandshakeManager.build_probe_eq_ok_iff.mpr ⟨clientNonce, rfl, rfl, rfl⟩
  simp only [Network.run, started, List.foldl_cons, List.foldl_nil, Network.step, Network.managers_setManager_self]
  rw [show (Network.initial : Network reference.crates Unit).managers () = .new from rfl, hprobe, final_ok]
  exact HandshakeManager.pending_setPending_self _ _

theorem completed_served : ∃ session, ((Network.run served).managers ()).completed[clientAddr]? = some session := by
  have hprobe : classify_incoming probeBytes = .HandshakeProbe := classify_incoming_probe _ rfl
  have hfinish : classify_incoming (finishBytes 2) = .HandshakeFinish := classify_incoming_finish _ rfl
  have hack := server_acks []
  rw [List.append_nil] at hack
  have hacked := HandshakeManager.process_incoming_probe_eq_ok (9 : UInt8) hprobe hack
  obtain ⟨⟨finish_ack_bytes, session⟩, hserve⟩ := server_serves 2 []
  have hkept := HandshakeManager.process_incoming_finish_eq_ok (.ok serverNonce) (9 : UInt8) hfinish hserve
  refine ⟨session, ?_⟩
  simp only [Network.run, served, List.foldl_cons, List.foldl_nil, Network.step, Network.managers_setManager_self]
  rw [show (Network.initial : Network reference.crates Unit).managers () = .new from rfl, hacked, final_ok, hkept,
    final_ok]
  exact ExtHashMap.getElem?_insert_self

end Splice

/-- Taking the session of a client that waits for its ack ends the handshake, and the
    session of a server that has completed one cannot be taken. -/
theorem Network.run_queries_disagree :
    ¬ ((Network.run Splice.started).managers ()).QueriesAgree Splice.serverAddr ∧
      ¬ ((Network.run Splice.served).managers ()).QueriesAgree Splice.clientAddr := by
  constructor
  · intro hagree
    have hpending := ((inProgress_run Splice.started ()).queriesAgree_iff _).mp hagree |>.1
    rw [Splice.pending_started] at hpending
    cases hpending
  · intro hagree
    have hcompleted := ((inProgress_run Splice.served ()).queriesAgree_iff _).mp hagree |>.2
    obtain ⟨session, hsession⟩ := Splice.completed_served
    rw [hsession] at hcompleted
    cases hcompleted

end witan.handshake
