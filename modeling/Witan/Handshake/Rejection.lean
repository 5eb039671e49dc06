import Witan.Handshake.Splice

open Std (ExtHashMap)
open bincode fallible maps
open witan.types witan.error witan.identity witan.session

namespace witan.handshake

variable {crates : Crates}

/-- A message that reaches a handshake manager, through one of the handlers or
    through the router. -/
inductive Delivery (crates : Crates) where
  | process_probe_build_ack (probe_bytes : Bytes) (identity : NodeIdentity crates)
      (getrandom : Except String Bytes32) (now_ms : UInt64)
  | process_ack_build_finish (ack_bytes : Bytes) (identity : NodeIdentity crates) (rng : crates.OsRng)
      (now_ms : UInt64)
  | process_finish_build_finish_ack (finish_bytes : Bytes) (identity : NodeIdentity crates) (now_ms : UInt64)
  | process_finish_ack (finish_ack_bytes : Bytes) (now_ms : UInt64)
  | process_incoming (bytes : Bytes) (identity : NodeIdentity crates) (getrandom : Except String Bytes32)
      (rng : crates.OsRng) (now_ms : UInt64)

namespace Delivery

/-- The message is rejected, and leaves the manager in this state. -/
def Rejected (peer_addr : Str) (self : HandshakeManager) (error : GossipError) (after : HandshakeManager) :
    Delivery crates → Prop
  | .process_probe_build_ack probe_bytes identity getrandom now_ms =>
    HandshakeManager.process_probe_build_ack peer_addr probe_bytes identity getrandom now_ms self =
      .error error after
  | .process_ack_build_finish ack_bytes identity rng now_ms =>
    HandshakeManager.process_ack_build_finish peer_addr ack_bytes identity rng now_ms self = .error error after
  | .process_finish_build_finish_ack finish_bytes identity now_ms =>
    HandshakeManager.process_finish_build_finish_ack peer_addr finish_bytes identity now_ms self =
      .error error after
  | .process_finish_ack finish_ack_bytes now_ms =>
    HandshakeManager.process_finish_ack crates peer_addr finish_ack_bytes now_ms self = .error error after
  | .process_incoming bytes identity getrandom rng now_ms =>
    HandshakeManager.process_incoming peer_addr bytes identity getrandom rng now_ms self = .error error after

/-- What the message is processed as. -/
def kind : Delivery crates → MessageKind
  | .process_probe_build_ack .. => .HandshakeProbe
  | .process_ack_build_finish .. => .HandshakeAck
  | .process_finish_build_finish_ack .. => .HandshakeFinish
  | .process_finish_ack .. => .HandshakeFinishAck
  | .process_incoming bytes .. => classify_incoming bytes

def bytes : Delivery crates → Bytes
  | .process_probe_build_ack probe_bytes .. => probe_bytes
  | .process_ack_build_finish ack_bytes .. => ack_bytes
  | .process_finish_build_finish_ack finish_bytes .. => finish_bytes
  | .process_finish_ack finish_ack_bytes _ => finish_ack_bytes
  | .process_incoming bytes .. => bytes

def time : Delivery crates → UInt64
  | .process_probe_build_ack _ _ _ now_ms => now_ms
  | .process_ack_build_finish _ _ _ now_ms => now_ms
  | .process_finish_build_finish_ack _ _ now_ms => now_ms
  | .process_finish_ack _ now_ms => now_ms
  | .process_incoming _ _ _ _ now_ms => now_ms

/-- If the message is rejected, nothing is lost that it is not part of: only the
    peer's own context may be gone, a server's on a finish and a client's on a
    finish-ack. -/
def SparesOthers (delivery : Delivery crates) (peer_addr : Str) (self : HandshakeManager) : Prop :=
  ∀ error after, delivery.Rejected peer_addr self error after →
    after.completed = self.completed ∧
      (after.pending = self.pending ∨
        after.pending = self.pending.erase peer_addr ∧
          ((delivery.kind = .HandshakeFinish ∧
              ∃ sent, self.pending[peer_addr]? = some (.Server (.AckSent sent))) ∨
            (delivery.kind = .HandshakeFinishAck ∧
              ∃ sent, self.pending[peer_addr]? = some (.Client (.FinishSent sent)))))

/-- A finish that passes meets a server that waits for one, and a finish-ack a
    client that waits for one, or there is no context for the peer at all. -/
def MeetsItsContext (delivery : Delivery crates) (peer_addr : Str) (self : HandshakeManager) : Prop :=
  (delivery.kind = .HandshakeFinish → HandshakeManager.FinishPasses delivery.bytes delivery.time →
    ∀ context, self.pending[peer_addr]? = some context → ∃ sent, context = .Server (.AckSent sent)) ∧
  (delivery.kind = .HandshakeFinishAck → HandshakeManager.FinishAckPasses delivery.bytes delivery.time →
    ∀ context, self.pending[peer_addr]? = some context → ∃ sent, context = .Client (.FinishSent sent))

end Delivery

namespace HandshakeManager

variable {self : HandshakeManager} {peer_addr : Str} {identity : NodeIdentity crates} {now_ms : UInt64}

/-- A finish that passes is rejected where no server waits for it, and the
    context that is there instead is gone. -/
theorem process_finish_of_mismatch {finish_bytes : Bytes} (hpasses : FinishPasses finish_bytes now_ms)
    (hcontext : ∀ sent, self.pending[peer_addr]? ≠ some (.Server (.AckSent sent))) :
    process_finish_build_finish_ack peer_addr finish_bytes identity now_ms self =
      .error (.HandshakeError s!"no pending server handshake for {peer_addr}") (self.dropPending peer_addr) := by
  obtain ⟨finish, hdecode, hheader, hsize⟩ := hpasses
  have hnone : (self.pending[peer_addr]?).bind (fun context => context.ackSent?) = none := by
    cases hsent : (self.pending[peer_addr]?).bind (fun context => context.ackSent?) with
    | none => rfl
    | some sent => exact absurd (ackSent?_eq_some_iff.mp hsent) (hcontext sent)
  unfold process_finish_build_finish_ack
  simp only [attempt_bind_eq_error_iff, deserialize_eq_ok_iff, check_header_eq_ok_iff, check_sig_pk_size_eq_ok_iff,
    bind_eq_error_iff (x := takePending _), takePending_eq_ok_iff]
  refine .inr ⟨finish, hdecode, .inr ⟨(), hheader, .inr ⟨(), hsize, .inr ⟨_, _, ⟨rfl, rfl⟩, .inl ?_⟩⟩⟩⟩
  rw [hnone]
  exact ⟨rfl, rfl⟩

/-- The same for a finish-ack where no client waits for it. -/
theorem process_finish_ack_of_mismatch {finish_ack_bytes : Bytes}
    (hpasses : FinishAckPasses finish_ack_bytes now_ms)
    (hcontext : ∀ sent, self.pending[peer_addr]? ≠ some (.Client (.FinishSent sent))) :
    process_finish_ack crates peer_addr finish_ack_bytes now_ms self =
      .error (.HandshakeError s!"no pending client finish for {peer_addr}") (self.dropPending peer_addr) := by
  obtain ⟨finish_ack, hdecode, hheader⟩ := hpasses
  have hnone : (self.pending[peer_addr]?).bind (fun context => context.finishSent?) = none := by
    cases hsent : (self.pending[peer_addr]?).bind (fun context => context.finishSent?) with
    | none => rfl
    | some sent => exact absurd (finishSent?_eq_some_iff.mp hsent) (hcontext sent)
  unfold process_finish_ack
  simp only [attempt_bind_eq_error_iff, deserialize_eq_ok_iff, check_header_eq_ok_iff,
    bind_eq_error_iff (x := takePending _), takePending_eq_ok_iff]
  refine .inr ⟨finish_ack, hdecode, .inr ⟨(), hheader, .inr ⟨_, _, ⟨rfl, rfl⟩, .inl ?_⟩⟩⟩
  rw [hnone]
  exact ⟨rfl, rfl⟩

/-- Where the router keeps the session of a message, it fails as the handler does. -/
theorem bind_keep_eq_error_iff {α : Type} {action : EStateM GossipError HandshakeManager α}
    {session : α → SessionRecord} {answer : α → Bytes} {error : GossipError} {after : HandshakeManager} :
    (action >>= fun result => modify (·.keepCompleted peer_addr (session result)) >>= fun _ =>
        pure (answer result)) self = .error error after ↔
      action self = .error error after := by
  rw [bind_eq_error_iff]
  constructor
  · rintro (hfail | ⟨_, _, _, hrest⟩)
    · exact hfail
    · cases hrest
  · exact .inl

end HandshakeManager

namespace Delivery

variable {delivery : Delivery crates} {peer_addr : Str} {self after : HandshakeManager} {error : GossipError}

/-- The messages that use a context up: they pass as a finish or as a finish-ack. -/
def Uses (delivery : Delivery crates) : Prop :=
  delivery.kind = .HandshakeFinish ∧ HandshakeManager.FinishPasses delivery.bytes delivery.time ∨
    delivery.kind = .HandshakeFinishAck ∧ HandshakeManager.FinishAckPasses delivery.bytes delivery.time

/-- A rejected message changes nothing, or has used the peer's context up. -/
theorem rejected_cases (h : delivery.Rejected peer_addr self error after) :
    after = self ∨ delivery.Uses ∧ after = self.dropPending peer_addr := by
  cases delivery with
  | process_probe_build_ack => exact .inl (HandshakeManager.process_probe_build_ack_failsIn error after h)
  | process_ack_build_finish => exact .inl (HandshakeManager.process_ack_build_finish_failsIn error after h)
  | process_finish_build_finish_ack =>
    rcases HandshakeManager.process_finish_build_finish_ack_failsIn error after h with hsame | ⟨hpasses, hused⟩
    · exact .inl hsame
    · exact .inr ⟨.inl ⟨rfl, hpasses⟩, hused⟩
  | process_finish_ack =>
    rcases HandshakeManager.process_finish_ack_failsIn error after h with hsame | ⟨hpasses, hused⟩
    · exact .inl hsame
    · exact .inr ⟨.inr ⟨rfl, hpasses⟩, hused⟩
  | process_incoming bytes identity getrandom rng now_ms =>
    unfold Rejected HandshakeManager.process_incoming at h
    cases hkind : classify_incoming bytes with
    | HandshakeProbe =>
      simp only [hkind] at h
      exact .inl (HandshakeManager.process_probe_build_ack_failsIn error after h)
    | HandshakeAck =>
      simp only [hkind] at h
      exact .inl (HandshakeManager.process_ack_build_finish_failsIn error after h)
    | HandshakeFinish =>
      simp only [hkind] at h
      rcases HandshakeManager.process_finish_build_finish_ack_failsIn error after
        (HandshakeManager.bind_keep_eq_error_iff.mp h) with hsame | ⟨hpasses, hused⟩
      · exact .inl hsame
      · exact .inr ⟨.inl ⟨hkind, hpasses⟩, hused⟩
    | HandshakeFinishAck =>
      simp only [hkind] at h
      rcases HandshakeManager.process_finish_ack_failsIn error after
        (HandshakeManager.bind_keep_eq_error_iff.mp h) with hsame | ⟨hpasses, hused⟩
      · exact .inl hsame
      · exact .inr ⟨.inr ⟨hkind, hpasses⟩, hused⟩
    | GossipEnvelope =>
      simp only [hkind] at h
      cases h
      exact .inl rfl

theorem rejected_of_finish_mismatch (hkind : delivery.kind = .HandshakeFinish)
    (hpasses : HandshakeManager.FinishPasses delivery.bytes delivery.time)
    (hcontext : ∀ sent, self.pending[peer_addr]? ≠ some (.Server (.AckSent sent))) :
    ∃ error, delivery.Rejected peer_addr self error (self.dropPending peer_addr) := by
  cases delivery with
  | process_finish_build_finish_ack finish_bytes identity now_ms =>
    exact ⟨_, HandshakeManager.process_finish_of_mismatch hpasses hcontext⟩
  | process_incoming bytes identity getrandom rng now_ms =>
    have hkind : classify_incoming bytes = .HandshakeFinish := hkind
    unfold Rejected HandshakeManager.process_incoming
    simp only [hkind]
    exact ⟨_, HandshakeManager.bind_keep_eq_error_iff.mpr
      (HandshakeManager.process_finish_of_mismatch hpasses hcontext)⟩
  | process_probe_build_ack => cases hkind
  | process_ack_build_finish => cases hkind
  | process_finish_ack => cases hkind

theorem rejected_of_finish_ack_mismatch (hkind : delivery.kind = .HandshakeFinishAck)
    (hpasses : HandshakeManager.FinishAckPasses delivery.bytes delivery.time)
    (hcontext : ∀ sent, self.pending[peer_addr]? ≠ some (.Client (.FinishSent sent))) :
    ∃ error, delivery.Rejected peer_addr self error (self.dropPending peer_addr) := by
  cases delivery with
  | process_finish_ack finish_ack_bytes now_ms =>
    exact ⟨_, HandshakeManager.process_finish_ack_of_mismatch hpasses hcontext⟩
  | process_incoming bytes identity getrandom rng now_ms =>
    have hkind : classify_incoming bytes = .HandshakeFinishAck := hkind
    unfold Rejected HandshakeManager.process_incoming
    simp only [hkind]
    exact ⟨_, HandshakeManager.bind_keep_eq_error_iff.mpr
      (HandshakeManager.process_finish_ack_of_mismatch hpasses hcontext)⟩
  | process_probe_build_ack => cases hkind
  | process_ack_build_finish => cases hkind
  | process_finish_build_finish_ack => cases hkind

/-- Dropping a context that is there changes the map. -/
theorem dropPending_ne {context : HandshakeContext} (h : self.pending[peer_addr]? = some context) :
    (self.dropPending peer_addr).pending ≠ self.pending := by
  intro hsame
  have hgone : (self.dropPending peer_addr).pending[peer_addr]? = none := ExtHashMap.getElem?_erase_self
  rw [hsame, h] at hgone
  cases hgone

/-- A message that destroys a context it is not part of breaks the promise. -/
theorem SparesOthers.context_matches (hspares : delivery.SparesOthers peer_addr self) {context : HandshakeContext}
    (hfound : self.pending[peer_addr]? = some context)
    (hrejected : ∃ error, delivery.Rejected peer_addr self error (self.dropPending peer_addr)) :
    (delivery.kind = .HandshakeFinish ∧ ∃ sent, context = .Server (.AckSent sent)) ∨
      (delivery.kind = .HandshakeFinishAck ∧ ∃ sent, context = .Client (.FinishSent sent)) := by
  obtain ⟨error, hrejected⟩ := hrejected
  obtain ⟨_, hpending⟩ := hspares error _ hrejected
  rcases hpending with hsame | ⟨_, hown⟩
  · exact absurd hsame (dropPending_ne hfound)
  · rw [hfound] at hown
    simpa only [Option.some.injEq] using hown

/-- A rejected message destroys no handshake that it is not part of, exactly where
    every finish that passes meets a waiting server and every finish-ack that passes
    a waiting client. -/
theorem sparesOthers_iff (delivery : Delivery crates) (peer_addr : Str) (self : HandshakeManager) :
    delivery.SparesOthers peer_addr self ↔ delivery.MeetsItsContext peer_addr self := by
  constructor
  · intro hspares
    refine ⟨?_, ?_⟩
    · intro hkind hpasses context hfound
      by_contra hother
      have hcontext : ∀ sent, self.pending[peer_addr]? ≠ some (.Server (.AckSent sent)) := by
        intro sent hsent
        rw [hfound] at hsent
        exact hother ⟨sent, Option.some.inj hsent⟩
      rcases hspares.context_matches hfound (rejected_of_finish_mismatch hkind hpasses hcontext) with
        ⟨_, hsent⟩ | ⟨hkind', _⟩
      · exact hother hsent
      · rw [hkind] at hkind'
        cases hkind'
    · intro hkind hpasses context hfound
      by_contra hother
      have hcontext : ∀ sent, self.pending[peer_addr]? ≠ some (.Client (.FinishSent sent)) := by
        intro sent hsent
        rw [hfound] at hsent
        exact hother ⟨sent, Option.some.inj hsent⟩
      rcases hspares.context_matches hfound (rejected_of_finish_ack_mismatch hkind hpasses hcontext) with
        ⟨hkind', _⟩ | ⟨_, hsent⟩
      · rw [hkind] at hkind'
        cases hkind'
      · exact hother hsent
  · rintro ⟨hfinish, hfinishAck⟩ error after hrejected
    rcases rejected_cases hrejected with rfl | ⟨huses, rfl⟩
    · exact ⟨rfl, .inl rfl⟩
    · refine ⟨rfl, ?_⟩
      cases hfound : self.pending[peer_addr]? with
      | none => exact .inl (erase_eq_self hfound)
      | some context =>
        refine .inr ⟨rfl, ?_⟩
        rcases huses with ⟨hkind, hpasses⟩ | ⟨hkind, hpasses⟩
        · obtain ⟨sent, rfl⟩ := hfinish hkind hpasses context hfound
          exact .inl ⟨hkind, sent, rfl⟩
        · obtain ⟨sent, rfl⟩ := hfinishAck hkind hpasses context hfound
          exact .inr ⟨hkind, sent, rfl⟩

end Delivery

/-- A client that has sent a probe loses its handshake to a finish that anyone can
    send in the server's name. -/
theorem Network.stray_finish_destroys_handshake :
    ¬ ∀ (crates : Crates) (events : List (Bool × Call crates)) (node : Bool) (delivery : Delivery crates)
      (peer_addr : Str), delivery.SparesOthers peer_addr ((Network.run events).managers node) := by
  intro hclaim
  have hprobe : HandshakeManager.build_probe Splice.serverAddr Splice.client (.ok Splice.clientNonce) 0 .new =
      .ok Splice.probeBytes
        (HandshakeManager.new.setPending Splice.serverAddr (.Client (.ProbeSent Splice.probeSent))) :=
    HandshakeManager.build_probe_eq_ok_iff.mpr ⟨Splice.clientNonce, rfl, rfl, rfl⟩
  have hmanager : (Network.run [(false, .build_probe Splice.serverAddr Splice.client (.ok Splice.clientNonce) 0)] :
      Network reference.crates Bool).managers false =
      HandshakeManager.new.setPending Splice.serverAddr (.Client (.ProbeSent Splice.probeSent)) := by
    change final (HandshakeManager.build_probe Splice.serverAddr Splice.client (.ok Splice.clientNonce) 0 .new) = _
    rw [hprobe]
    rfl
  have hspares := hclaim reference.crates
    [(false, .build_probe Splice.serverAddr Splice.client (.ok Splice.clientNonce) 0)] false
    (.process_finish_build_finish_ack (Splice.finishBytes 2) Splice.client 0) Splice.serverAddr
  rw [hmanager] at hspares
  have hpasses : HandshakeManager.FinishPasses (Splice.finishBytes 2) 0 :=
    ⟨_, HandshakeFinish.codec.decodePrefix_encode_nil _, ⟨rfl, rfl, Splice.fresh⟩, reference.keyLengths.sig _⟩
  have hfound : (HandshakeManager.new.setPending Splice.serverAddr
      (.Client (.ProbeSent Splice.probeSent))).pending[Splice.serverAddr]? =
        some (.Client (.ProbeSent Splice.probeSent)) := HandshakeManager.pending_setPending_self _ _
  have hcontext : ∀ sent, (HandshakeManager.new.setPending Splice.serverAddr
      (.Client (.ProbeSent Splice.probeSent))).pending[Splice.serverAddr]? ≠ some (.Server (.AckSent sent)) := by
    intro sent hsent
    rw [hfound] at hsent
    cases hsent
  rcases hspares.context_matches hfound (Delivery.rejected_of_finish_mismatch rfl hpasses hcontext) with
    ⟨_, sent, hsent⟩ | ⟨hkind, _⟩
  · cases hsent
  · cases hkind

end witan.handshake
