import Witan.Rotation.Reachability

open bincode fallible
open witan.types witan.error witan.identity

namespace witan.rotation

variable {crates : Crates}

namespace KeyLineage

/-- A lineage that a process can hold. Its records are in one `Vec`, which never has
    more than `isize::MAX` elements. -/
structure Held (crates : Crates) (lineage : KeyLineage) : Prop where
  reachable : lineage.Reachable crates
  fits : lineage.rotations.length < 2 ^ 63

theorem Held.room {self : KeyLineage} (h : self.Held crates) : self.current.sequence.toNat + 1 < 2 ^ 64 := by
  have hlength := h.reachable.valid.length_eq
  have hfits := h.fits
  omega

/-- What a successful rotation to `next` leads to. -/
structure Rotated (crates : Crates) (before : KeyLineage) (next : NodeIdentity crates) (commitment : Option Bytes32)
    (r : KeyRotation) (after : KeyLineage) : Prop where
  sig_public_key : after.current_sig_public_key = next.sig_public_key_bytes
  kem_public_key : next.kem_public_key_canonical_bytes = .ok after.current_kem_public_key
  key_epoch : after.current_key_epoch = next.key_epoch
  next_key_commitment : after.next_key_commitment = commitment
  sequence : after.sequence.toNat = before.sequence.toNat + 1
  node_id : after.node_id = before.node_id
  previous : after.previous_sig_public_key = some before.current_sig_public_key
  applies : apply crates r before = .ok () after

section Build

variable {self after : KeyLineage} {current : Option (NodeIdentity crates)} {holder next : NodeIdentity crates}
  {commitment : Option Bytes32} {now_ms : UInt64} {r : KeyRotation}

/-- Whoever builds the next record under a commitment reveals the committed key: the
    builder only succeeds where the verifier accepts what it built. -/
theorem committed_of_build (h : build_and_apply current next commitment now_ms self = .ok r after) {value : Bytes32}
    (hcommitment : self.current.next_key_commitment = some value) :
    key_commitment crates next.sig_public_key_bytes.val = value := by
  obtain ⟨kem, authorization, possession, _, rfl, _, haccepts, _⟩ := build_and_apply_eq_ok h
  have hauthorized := haccepts.authorized
  unfold Authorized at hauthorized
  rw [hcommitment] at hauthorized
  exact hauthorized.1

/-- A successful build does what the next identity asked for. -/
theorem Held.rotated (hheld : self.Held crates)
    (h : build_and_apply current next commitment now_ms self = .ok r after) :
    Rotated crates self next commitment r after := by
  obtain ⟨kem, authorization, possession, hkem, hr, _, haccepts, rfl⟩ := build_and_apply_eq_ok h
  have hreplay : (self.extend r).start.replay crates self.rotations = .ok self := hheld.reachable.valid.replay_eq
  refine ⟨?_, ?_, ?_, ?_, haccepts.sequence, rfl, ?_, apply_of_accepts haccepts⟩
  · rw [hr]
    rfl
  · rw [hkem, hr]
    rfl
  · rw [hr]
    rfl
  · rw [hr]
    rfl
  · exact previous_sig_public_key_concat rfl hreplay

/-- Under a commitment nobody signs for the current key, so it does not matter who
    builds. -/
theorem build_and_apply_committed {value : Bytes32} (hcommitment : self.current.next_key_commitment = some value) :
    build_and_apply (some holder) next commitment now_ms self = build_and_apply none next commitment now_ms self := by
  unfold build_and_apply
  simp only [get_bind, hcommitment]

theorem rotate_eq_build (hholder : holder.sig_public_key_bytes = self.current.sig_public_key) :
    rotate holder next commitment now_ms self = build_and_apply (some holder) next commitment now_ms self := by
  unfold rotate
  rw [get_bind, failIf, if_neg (not_not.mpr hholder), attempt_ok_bind]

theorem recover_eq_build (hcommitment : self.current.next_key_commitment ≠ none) :
    recover next commitment now_ms self = build_and_apply none next commitment now_ms self := by
  unfold recover
  rw [get_bind, failIf, if_neg hcommitment, attempt_ok_bind]

/-- Who may build, spelled out for the holder of the current key. -/
theorem mayBuild_iff (hholder : holder.sig_public_key_bytes = self.current.sig_public_key) :
    self.MayBuild (some holder) next ↔
      self.next_key_commitment = none ∨
        self.next_key_commitment = some (key_commitment crates next.sig_public_key_bytes.val) := by
  unfold MayBuild next_key_commitment
  cases self.current.next_key_commitment with
  | none => exact ⟨fun _ => .inl rfl, fun _ => ⟨holder, rfl, hholder⟩⟩
  | some value => simp [eq_comm]

theorem mayBuild_none_iff :
    self.MayBuild none next ↔
      self.next_key_commitment = some (key_commitment crates next.sig_public_key_bytes.val) := by
  unfold MayBuild next_key_commitment
  cases self.current.next_key_commitment with
  | none => simp
  | some value => simp [eq_comm]

end Build

/-- The builder and the verifier agree. A rotation by the holder of the current key
    succeeds unless a commitment names another next key, and a recovery succeeds
    exactly for the key that a commitment names; either way the next keys are
    installed, and whoever holds the lineage gets there by applying the record. Under
    a commitment both build the same. -/
theorem Held.builder_agrees (hcorrect : crates.SignatureCorrect) (hlengths : crates.KeyLengths) {self : KeyLineage}
    (hheld : self.Held crates) (current next : NodeIdentity crates) (commitment : Option Bytes32) (now_ms : UInt64) :
    ((∃ r after, rotate current next commitment now_ms self = .ok r after) ↔
        current.sig_public_key_bytes = self.current_sig_public_key ∧
          (self.next_key_commitment = none ∨
            self.next_key_commitment = some (key_commitment crates next.sig_public_key_bytes.val))) ∧
      ((∃ r after, recover next commitment now_ms self = .ok r after) ↔
        self.next_key_commitment = some (key_commitment crates next.sig_public_key_bytes.val)) ∧
      (∀ r after, rotate current next commitment now_ms self = .ok r after ∨
          recover next commitment now_ms self = .ok r after →
        Rotated crates self next commitment r after) ∧
      (self.next_key_commitment ≠ none → ∀ r r' after after',
        rotate current next commitment now_ms self = .ok r after →
        recover next commitment now_ms self = .ok r' after' → r = r' ∧ after = after') := by
  refine ⟨⟨?_, ?_⟩, ⟨?_, ?_⟩, ?_, ?_⟩
  · rintro ⟨r, after, h⟩
    obtain ⟨hholder, hbuild⟩ := rotate_eq_ok h
    refine ⟨hholder, ?_⟩
    cases hvalue : self.next_key_commitment with
    | none => exact .inl rfl
    | some value => exact .inr (congrArg some (committed_of_build hbuild hvalue).symm)
  · rintro ⟨hholder, hmay⟩
    obtain ⟨r, hbuild⟩ := build_and_apply_succeeds hcorrect hlengths ((mayBuild_iff hholder).mpr hmay) hheld.room
      commitment now_ms
    exact ⟨r, _, (rotate_eq_build hholder).trans hbuild⟩
  · rintro ⟨r, after, h⟩
    obtain ⟨hcommitment, hbuild⟩ := recover_eq_ok h
    obtain ⟨value, hvalue⟩ := Option.ne_none_iff_exists'.mp hcommitment
    exact hvalue.trans (congrArg some (committed_of_build hbuild hvalue).symm)
  · intro hmay
    obtain ⟨r, hbuild⟩ := build_and_apply_succeeds hcorrect hlengths (mayBuild_none_iff.mpr hmay) hheld.room
      commitment now_ms
    have hcommitment : self.current.next_key_commitment ≠ none := by
      change self.next_key_commitment ≠ none
      rw [hmay]
      exact Option.some_ne_none _
    exact ⟨r, _, (recover_eq_build hcommitment).trans hbuild⟩
  · rintro r after (h | h)
    · exact hheld.rotated (rotate_eq_ok h).2
    · exact hheld.rotated (recover_eq_ok h).2
  · intro hcommitment r r' after after' hrotate hrecover
    obtain ⟨value, hvalue⟩ := Option.ne_none_iff_exists'.mp hcommitment
    have hrotated := (rotate_eq_ok hrotate).2
    have hrecovered := (recover_eq_ok hrecover).2
    rw [build_and_apply_committed hvalue, hrecovered] at hrotated
    exact ⟨(EStateM.Result.ok.inj hrotated).1.symm, (EStateM.Result.ok.inj hrotated).2.symm⟩

/-- The holder of node 1's keys can rotate to those of node 2, and nobody can recover
    to them without a commitment. -/
theorem Held.builder_agrees_reference :
    (reference.lineage 1).Held reference.crates ∧
      (∃ r after, rotate (reference.node 1) (reference.node 2) none 0 (reference.lineage 1) = .ok r after) ∧
      ¬ ∃ r after, recover (reference.node 2) none 0 (reference.lineage 1) = .ok r after := by
  have hheld : (reference.lineage 1).Held reference.crates := ⟨reference.lineage_reachable 1, Nat.two_pow_pos 63⟩
  obtain ⟨hrotate, hrecover, _⟩ := Held.builder_agrees reference.signatureCorrect reference.keyLengths hheld
    (reference.node 1) (reference.node 2) none 0
  refine ⟨hheld, hrotate.mpr ⟨rfl, .inl rfl⟩, fun hrecovers => ?_⟩
  cases hrecover.mp hrecovers

end KeyLineage

end witan.rotation
