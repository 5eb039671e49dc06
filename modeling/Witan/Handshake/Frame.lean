import Witan.Handshake.Steps

open Std (ExtHashMap)
open bincode fallible maps
open witan.types witan.error witan.identity witan.session

namespace witan.handshake

variable {crates : Crates}

/-- The states in which a handshake waits for the other side's next message. -/
def HandshakeContext.Waiting : HandshakeContext → Prop
  | .Client (.ProbeSent _) => True
  | .Client (.FinishSent _) => True
  | .Server (.AckSent _) => True
  | _ => False

namespace HandshakeManager

variable {self : HandshakeManager} {peer_addr : Str} {identity : NodeIdentity crates} {now_ms : UInt64}

/-! A handler that fails leaves the manager alone or has used up the peer's
context; in neither case does a context appear. -/

theorem build_probe_failsIn {getrandom : Except String Bytes32} :
    FailsIn (build_probe peer_addr identity getrandom now_ms) self (· = self) := by
  unfold build_probe
  exact .attempt_bind rfl fun _ _ => .modify_bind (.pure _)

theorem process_probe_build_ack_failsIn {probe_bytes : Bytes} {getrandom : Except String Bytes32} :
    FailsIn (process_probe_build_ack peer_addr probe_bytes identity getrandom now_ms) self (· = self) := by
  unfold process_probe_build_ack
  refine .attempt_bind rfl fun _ _ => .attempt_bind rfl fun _ _ => .attempt_bind rfl fun _ _ => ?_
  exact .attempt_bind rfl fun _ _ => .modify_bind (.pure _)

theorem process_ack_build_finish_failsIn {ack_bytes : Bytes} {rng : crates.OsRng} :
    FailsIn (process_ack_build_finish peer_addr ack_bytes identity rng now_ms) self (· = self) := by
  unfold process_ack_build_finish
  refine .attempt_bind rfl fun _ _ => .attempt_bind rfl fun _ _ => .attempt_bind rfl fun _ _ => .get_bind ?_
  refine .attempt_bind rfl fun _ _ => .attempt_bind rfl fun _ _ => .attempt_bind rfl fun _ _ => ?_
  refine .attempt_bind rfl fun _ _ => .attempt_bind rfl fun _ _ => .attempt_bind rfl fun _ _ => ?_
  exact .attempt_bind rfl fun _ _ => .modify_bind (.pure _)

/-- The finish gets past the checks that look at the message alone. -/
def FinishPasses (finish_bytes : Bytes) (now_ms : UInt64) : Prop :=
  ∃ finish, HandshakeFinish.codec.decodePrefix finish_bytes = some finish ∧
    (finish.magic = HANDSHAKE_FINISH_MAGIC ∧ finish.version = 1 ∧
      now_ms.toNat - finish.timestamp_unix_ms.toNat ≤ 30000) ∧
    finish.client_ml_dsa_65_public_key.val.length = 1952

/-- So does the finish-ack. -/
def FinishAckPasses (finish_ack_bytes : Bytes) (now_ms : UInt64) : Prop :=
  ∃ finish_ack, HandshakeFinishAck.codec.decodePrefix finish_ack_bytes = some finish_ack ∧
    (finish_ack.magic = HANDSHAKE_FINISH_ACK_MAGIC ∧ finish_ack.version = 1 ∧
      now_ms.toNat - finish_ack.timestamp_unix_ms.toNat ≤ 30000)

/-- A finish uses the context up as soon as it passes. -/
theorem process_finish_build_finish_ack_failsIn {finish_bytes : Bytes} :
    FailsIn (process_finish_build_finish_ack peer_addr finish_bytes identity now_ms) self
      (fun after => after = self ∨ FinishPasses finish_bytes now_ms ∧ after = self.dropPending peer_addr) := by
  unfold process_finish_build_finish_ack
  refine .attempt_bind (.inl rfl) fun finish hdecode => .attempt_bind (.inl rfl) fun _ hheader => ?_
  refine .attempt_bind (.inl rfl) fun _ hsize => ?_
  have hpasses : FinishPasses finish_bytes now_ms :=
    ⟨finish, deserialize_eq_ok_iff.mp hdecode, check_header_eq_ok_iff.mp hheader,
      check_sig_pk_size_eq_ok_iff.mp hsize⟩
  refine .bind (fun _ _ h => by cases h) fun _ middle hmiddle => ?_
  obtain ⟨_, rfl⟩ := takePending_eq_ok_iff.mp hmiddle
  have hused := And.intro hpasses (Eq.refl (self.dropPending peer_addr))
  refine .attempt_bind (.inr hused) fun _ _ => .attempt_bind (.inr hused) fun _ _ => ?_
  refine .attempt_bind (.inr hused) fun _ _ => .attempt_bind (.inr hused) fun _ _ => ?_
  exact .attempt_bind (.inr hused) fun _ _ => .attempt_bind (.inr hused) fun _ _ => .pure _

/-- So does a finish-ack. -/
theorem process_finish_ack_failsIn {finish_ack_bytes : Bytes} :
    FailsIn (process_finish_ack crates peer_addr finish_ack_bytes now_ms) self
      (fun after => after = self ∨ FinishAckPasses finish_ack_bytes now_ms ∧ after = self.dropPending peer_addr) := by
  unfold process_finish_ack
  refine .attempt_bind (.inl rfl) fun finish_ack hdecode => .attempt_bind (.inl rfl) fun _ hheader => ?_
  have hpasses : FinishAckPasses finish_ack_bytes now_ms :=
    ⟨finish_ack, deserialize_eq_ok_iff.mp hdecode, check_header_eq_ok_iff.mp hheader⟩
  refine .bind (fun _ _ h => by cases h) fun _ middle hmiddle => ?_
  obtain ⟨_, rfl⟩ := takePending_eq_ok_iff.mp hmiddle
  have hused := And.intro hpasses (Eq.refl (self.dropPending peer_addr))
  refine .attempt_bind (.inr hused) fun _ _ => .attempt_bind (.inr hused) fun _ _ => ?_
  refine .attempt_bind (.inr hused) fun _ _ => .attempt_bind (.inr hused) fun _ _ => ?_
  exact .attempt_bind (.inr hused) fun _ _ => .pure _

theorem pending_setPending_of_ne (self : HandshakeManager) (context : HandshakeContext) {addr : Str}
    (h : peer_addr ≠ addr) : (self.setPending peer_addr context).pending[addr]? = self.pending[addr]? :=
  getElem?_insert_of_ne self.pending context h

theorem pending_dropPending_of_ne (self : HandshakeManager) {addr : Str} (h : peer_addr ≠ addr) :
    (self.dropPending peer_addr).pending[addr]? = self.pending[addr]? :=
  getElem?_erase_of_ne self.pending h

@[simp] theorem pending_setPending_self (self : HandshakeManager) (context : HandshakeContext) :
    (self.setPending peer_addr context).pending[peer_addr]? = some context :=
  ExtHashMap.getElem?_insert_self

/-- Every pending context satisfies the condition. -/
def AllPending (condition : HandshakeContext → Prop) (self : HandshakeManager) : Prop :=
  ∀ (addr : Str) (context : HandshakeContext), self.pending[addr]? = some context → condition context

section AllPending

variable {condition : HandshakeContext → Prop} {after : HandshakeManager}

theorem AllPending.new : AllPending condition new := by
  intro addr context h
  have hempty : (∅ : ExtHashMap Str HandshakeContext)[addr]? = none := ExtHashMap.getElem?_empty
  rw [show HandshakeManager.new.pending[addr]? = none from hempty] at h
  cases h

theorem AllPending.setPending (h : AllPending condition self) {context : HandshakeContext}
    (hcontext : condition context) : AllPending condition (self.setPending peer_addr context) := by
  intro addr found hfound
  rcases getElem?_insert_cases hfound with ⟨_, rfl⟩ | hold
  · exact hcontext
  · exact h addr found hold

/-- Removing contexts, by whatever rule, keeps the others as they are. -/
theorem AllPending.mono (h : AllPending condition self)
    (hsub : ∀ (addr : Str) (context : HandshakeContext), after.pending[addr]? = some context →
      self.pending[addr]? = some context) : AllPending condition after :=
  fun addr context hfound => h addr context (hsub addr context hfound)

theorem AllPending.dropPending (h : AllPending condition self) : AllPending condition (self.dropPending peer_addr) :=
  h.mono fun _ _ => getElem?_of_getElem?_erase

theorem AllPending.remove (h : AllPending condition self) : AllPending condition (self.remove peer_addr) :=
  h.mono fun _ _ => getElem?_of_getElem?_erase

theorem AllPending.evict_timed_out (h : AllPending condition self) (visit : Visit self.pending) :
    AllPending condition (self.evict_timed_out now_ms visit).2 :=
  h.mono fun _ _ hfound => (getElem?_filter_eq_some_iff.mp hfound).1

end AllPending

/-- All that a handler can do to the contexts: leave them alone, use the peer's context
    up, or store one that waits for an answer. -/
inductive Touches (peer_addr : Str) (self : HandshakeManager) : HandshakeManager → Prop
  | kept : Touches peer_addr self self
  | dropped : Touches peer_addr self (self.dropPending peer_addr)
  | stored (context : HandshakeContext) (h : context.Waiting) :
      Touches peer_addr self (self.setPending peer_addr context)

theorem build_probe_touches {getrandom : Except String Bytes32} :
    Leaves (build_probe peer_addr identity getrandom now_ms) self (Touches peer_addr self) := by
  refine .of_cases ?_ fun error after h => build_probe_failsIn error after h ▸ .kept
  intro probe_bytes after h
  obtain ⟨_, _, _, rfl⟩ := build_probe_eq_ok_iff.mp h
  exact .stored _ trivial

theorem process_probe_build_ack_touches {probe_bytes : Bytes} {getrandom : Except String Bytes32} :
    Leaves (process_probe_build_ack peer_addr probe_bytes identity getrandom now_ms) self
      (Touches peer_addr self) := by
  refine .of_cases ?_ fun error after h => process_probe_build_ack_failsIn error after h ▸ .kept
  intro ack_bytes after h
  obtain ⟨_, _, _, _, _, _, _, _, rfl⟩ := process_probe_build_ack_eq_ok_iff.mp h
  exact .stored _ trivial

theorem process_ack_build_finish_touches {ack_bytes : Bytes} {rng : crates.OsRng} :
    Leaves (process_ack_build_finish peer_addr ack_bytes identity rng now_ms) self (Touches peer_addr self) := by
  refine .of_cases ?_ fun error after h => process_ack_build_finish_failsIn error after h ▸ .kept
  intro finish_bytes after h
  obtain ⟨_, _, _, _, _, _, _, _, _, rfl⟩ := process_ack_build_finish_eq_ok_iff.mp h
  exact .stored _ trivial

theorem process_finish_build_finish_ack_touches {finish_bytes : Bytes} :
    Leaves (process_finish_build_finish_ack peer_addr finish_bytes identity now_ms) self
      (Touches peer_addr self) := by
  refine .of_cases ?_ ?_
  · intro value after h
    obtain ⟨_, _, _, _, _, _, _, _, _, _, _, rfl⟩ := process_finish_build_finish_ack_eq_ok_iff.mp h
    exact .dropped
  · intro error after h
    rcases process_finish_build_finish_ack_failsIn error after h with rfl | ⟨_, rfl⟩
    · exact .kept
    · exact .dropped

theorem process_finish_ack_touches {finish_ack_bytes : Bytes} :
    Leaves (process_finish_ack crates peer_addr finish_ack_bytes now_ms) self (Touches peer_addr self) := by
  refine .of_cases ?_ ?_
  · intro value after h
    obtain ⟨_, _, _, _, _, _, _, _, _, rfl⟩ := process_finish_ack_eq_ok_iff.mp h
    exact .dropped
  · intro error after h
    rcases process_finish_ack_failsIn error after h with rfl | ⟨_, rfl⟩
    · exact .kept
    · exact .dropped

/-- The contexts of all other peers are as before. -/
def OnlyAt (peer_addr : Str) (self after : HandshakeManager) : Prop :=
  ∀ addr : Str, peer_addr ≠ addr → after.pending[addr]? = self.pending[addr]?

theorem OnlyAt.refl (peer_addr : Str) (self : HandshakeManager) : OnlyAt peer_addr self self := fun _ _ => rfl

theorem Touches.onlyAt {after : HandshakeManager} (h : Touches peer_addr self after) :
    OnlyAt peer_addr self after := by
  intro addr hne
  cases h with
  | kept => rfl
  | dropped => exact pending_dropPending_of_ne self hne
  | stored context _ => exact pending_setPending_of_ne self context hne

theorem build_probe_onlyAt {getrandom : Except String Bytes32} :
    Leaves (build_probe peer_addr identity getrandom now_ms) self (OnlyAt peer_addr self) :=
  Touches.onlyAt build_probe_touches

theorem process_probe_build_ack_onlyAt {probe_bytes : Bytes} {getrandom : Except String Bytes32} :
    Leaves (process_probe_build_ack peer_addr probe_bytes identity getrandom now_ms) self (OnlyAt peer_addr self) :=
  Touches.onlyAt process_probe_build_ack_touches

theorem process_ack_build_finish_onlyAt {ack_bytes : Bytes} {rng : crates.OsRng} :
    Leaves (process_ack_build_finish peer_addr ack_bytes identity rng now_ms) self (OnlyAt peer_addr self) :=
  Touches.onlyAt process_ack_build_finish_touches

theorem process_finish_build_finish_ack_onlyAt {finish_bytes : Bytes} :
    Leaves (process_finish_build_finish_ack peer_addr finish_bytes identity now_ms) self (OnlyAt peer_addr self) :=
  Touches.onlyAt process_finish_build_finish_ack_touches

theorem process_finish_ack_onlyAt {finish_ack_bytes : Bytes} :
    Leaves (process_finish_ack crates peer_addr finish_ack_bytes now_ms) self (OnlyAt peer_addr self) :=
  Touches.onlyAt process_finish_ack_touches

/-- A context that has not timed out survives the eviction. -/
theorem evict_timed_out_keeps {addr : Str} (visit : Visit self.pending)
    (hfresh : ∀ context, self.pending[addr]? = some context → context.is_timed_out now_ms = false) :
    (self.evict_timed_out now_ms visit).2.pending[addr]? = self.pending[addr]? := by
  cases hbefore : self.pending[addr]? with
  | none =>
    cases hafter : (self.evict_timed_out now_ms visit).2.pending[addr]? with
    | none => rfl
    | some context =>
      have hfound := (getElem?_filter_eq_some_iff.mp hafter).1
      rw [hbefore] at hfound
      cases hfound
  | some context =>
    refine getElem?_filter_eq_some_iff.mpr ⟨hbefore, ?_⟩
    rw [hfresh context hbefore]
    rfl

end HandshakeManager

end witan.handshake
