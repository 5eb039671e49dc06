import Witan.Rotation.Lineage

open bincode fallible
open witan.types witan.error witan.identity

namespace witan.rotation

/-- The state that a record installs. -/
def KeyRotation.newState (self : KeyRotation) : KeyState :=
  { sequence := self.sequence
    kem_public_key := self.new_kem_public_key
    sig_public_key := self.new_sig_public_key
    key_epoch := self.new_key_epoch
    next_key_commitment := self.next_key_commitment }

/-- The right to replace a state: the committed key reveals itself, or, without
    a commitment, the previous key signs the record. -/
def Authorized (crates : Crates) (state : KeyState) (r : KeyRotation) : Prop :=
  match state.next_key_commitment with
  | some commitment => key_commitment crates r.new_sig_public_key.val = commitment ∧ r.authorization.val = []
  | none => NodeIdentity.verify_external crates state.sig_public_key r.signing_input r.authorization
      SIG_CTX_KEY_ROTATION = .ok true

/-- The rules for a rotation record over the state it replaces. -/
structure Accepts (crates : Crates) (node_id : Str) (state : KeyState) (r : KeyRotation) : Prop where
  version : r.version = 1
  node_id_eq : r.node_id = node_id
  sequence : r.sequence.toNat = state.sequence.toNat + 1
  digest : r.prev_state_digest = state.digest crates node_id
  kem_length : r.new_kem_public_key.val.length = KEM_PK_LEN
  sig_length : r.new_sig_public_key.val.length = SIG_PK_LEN
  possession : NodeIdentity.verify_external crates r.new_sig_public_key r.signing_input r.possession
    SIG_CTX_KEY_POSSESSION = .ok true
  authorized : Authorized crates state r

private theorem verify_and_check_iff {verified : Except GossipError Bool} {error : GossipError}
    {β : Type} {f : Unit → Except GossipError β} {value : β} :
    (verified >>= fun valid => failIf (valid = false) error >>= f) = .ok value ↔
      verified = .ok true ∧ f () = .ok value := by
  cases verified with
  | error e => simp [bind, Except.bind]
  | ok valid => cases valid <;> simp [bind, Except.bind, failIf]

/-- The verifier accepts exactly the records that follow the rules, and returns
    the state they install. -/
theorem KeyLineage.verify_next_eq_ok_iff {crates : Crates} {self : KeyLineage} {r : KeyRotation}
    {next : KeyState} :
    self.verify_next crates r = .ok next ↔
      Accepts crates self.node_id self.current r ∧ next = r.newState := by
  unfold KeyLineage.verify_next
  simp only [except_bind_eq_ok_iff (x := failIf _ _), failIf_eq_ok_iff,
    except_bind_eq_ok_iff (x := check_key_lengths _ _), check_key_lengths_eq_ok_iff,
    verify_and_check_iff, exists_const, not_not]
  constructor
  · rintro ⟨hversion, hid, hsequence, hdigest, ⟨hkem, hsig⟩, hpossession, htail⟩
    split at htail
    · next commitment hcommitment =>
      simp only [except_bind_eq_ok_iff, failIf_eq_ok_iff, not_not, exists_const, pure, Except.pure,
        Except.ok.injEq] at htail
      obtain ⟨hkey, hempty, rfl⟩ := htail
      exact ⟨⟨hversion, hid, hsequence, hdigest, hkem, hsig, hpossession,
        by simpa only [Authorized, hcommitment] using ⟨hkey, hempty⟩⟩, rfl⟩
    · next hcommitment =>
      simp only [verify_and_check_iff, pure, Except.pure, Except.ok.injEq] at htail
      obtain ⟨hsigned, rfl⟩ := htail
      exact ⟨⟨hversion, hid, hsequence, hdigest, hkem, hsig, hpossession,
        by simpa only [Authorized, hcommitment] using hsigned⟩, rfl⟩
  · rintro ⟨⟨hversion, hid, hsequence, hdigest, hkem, hsig, hpossession, hauthorized⟩, rfl⟩
    refine ⟨hversion, hid, hsequence, hdigest, ⟨hkem, hsig⟩, hpossession, ?_⟩
    unfold Authorized at hauthorized
    cases hcommitment : self.current.next_key_commitment with
    | some commitment =>
      rw [hcommitment] at hauthorized
      simp only [except_bind_eq_ok_iff, failIf_eq_ok_iff, not_not, exists_const]
      exact ⟨hauthorized.1, hauthorized.2, rfl⟩
    | none =>
      rw [hcommitment] at hauthorized
      simp only [verify_and_check_iff]
      exact ⟨hauthorized, rfl⟩

/-- The lineage after one more record. -/
def KeyLineage.extend (self : KeyLineage) (r : KeyRotation) : KeyLineage :=
  { self with rotations := self.rotations ++ [r], current := r.newState }

/-- What `apply` can do: repeat a known record without effect, or append a
    record that the rules accept. -/
theorem KeyLineage.apply_eq_ok_iff {crates : Crates} {self after : KeyLineage} {r : KeyRotation} {value : Unit} :
    KeyLineage.apply crates r self = .ok value after ↔
      (1 ≤ r.sequence ∧ r.sequence ≤ self.current.sequence ∧
          self.rotations[r.sequence.toNat - 1]? = some r ∧ after = self) ∨
        (¬ (1 ≤ r.sequence ∧ r.sequence ≤ self.current.sequence) ∧
          Accepts crates self.node_id self.current r ∧ after = self.extend r) := by
  unfold KeyLineage.apply
  rw [bind_eq_ok_iff]
  simp only [get_apply, EStateM.Result.ok.injEq]
  constructor
  · rintro ⟨_, _, ⟨rfl, rfl⟩, h⟩
    split at h
    · next hknown =>
      split at h
      · next hsame =>
        simp only [pure_apply, EStateM.Result.ok.injEq, true_and] at h
        exact .inl ⟨hknown.1, hknown.2, hsame, h.symm⟩
      · cases h
    · next hnew =>
      simp only [bind_eq_ok_iff, attempt_eq_ok_iff, set_apply, EStateM.Result.ok.injEq, true_and] at h
      obtain ⟨next, _, ⟨hverify, rfl⟩, rfl⟩ := h
      obtain ⟨haccepts, rfl⟩ := KeyLineage.verify_next_eq_ok_iff.mp hverify
      exact .inr ⟨hnew, haccepts, rfl⟩
  · rintro (⟨hlow, hhigh, hsame, rfl⟩ | ⟨hnew, haccepts, rfl⟩)
    · refine ⟨_, _, ⟨rfl, rfl⟩, ?_⟩
      rw [if_pos ⟨hlow, hhigh⟩, if_pos hsame]
      rfl
    · refine ⟨_, _, ⟨rfl, rfl⟩, ?_⟩
      rw [if_neg hnew, bind_eq_ok_iff]
      exact ⟨r.newState, self, attempt_eq_ok_iff.mpr
        ⟨KeyLineage.verify_next_eq_ok_iff.mpr ⟨haccepts, rfl⟩, rfl⟩, rfl⟩

/-- A refused record leaves the lineage as it was. -/
theorem KeyLineage.apply_eq_error {crates : Crates} {self after : KeyLineage} {r : KeyRotation}
    {error : GossipError} (h : KeyLineage.apply crates r self = .error error after) : after = self := by
  unfold KeyLineage.apply at h
  rw [bind_eq_error_iff] at h
  simp only [get_apply, EStateM.Result.ok.injEq, reduceCtorEq, false_or] at h
  obtain ⟨_, _, ⟨rfl, rfl⟩, h⟩ := h
  split at h
  · split at h
    · cases h
    · simp only [throw_apply, EStateM.Result.error.injEq] at h
      exact h.2.symm
  · simp only [bind_eq_error_iff, attempt_eq_error_iff, set_apply, reduceCtorEq, and_false,
      exists_false, or_false] at h
    exact h.2

/-- A record that follows the current state is new to the lineage. -/
theorem Accepts.not_known {crates : Crates} {node_id : Str} {state : KeyState} {r : KeyRotation}
    (h : Accepts crates node_id state r) : ¬ (1 ≤ r.sequence ∧ r.sequence ≤ state.sequence) := by
  rintro ⟨_, hle⟩
  have hnat := UInt64.le_iff_toNat_le.mp hle
  have hsequence := h.sequence
  omega

theorem KeyLineage.apply_of_accepts {crates : Crates} {self : KeyLineage} {r : KeyRotation}
    (h : Accepts crates self.node_id self.current r) :
    KeyLineage.apply crates r self = .ok () (self.extend r) :=
  KeyLineage.apply_eq_ok_iff.mpr (.inr ⟨h.not_known, h, rfl⟩)

/-- The state after `apply`, whatever it answered. -/
theorem KeyLineage.final_apply {crates : Crates} (self : KeyLineage) (r : KeyRotation) :
    final (KeyLineage.apply crates r self) = self ∨
      Accepts crates self.node_id self.current r ∧ final (KeyLineage.apply crates r self) = self.extend r := by
  cases happly : KeyLineage.apply crates r self with
  | error error after => exact .inl (KeyLineage.apply_eq_error happly)
  | ok value after =>
    rcases KeyLineage.apply_eq_ok_iff.mp happly with ⟨_, _, _, hafter⟩ | ⟨_, haccepts, hafter⟩
    · exact .inl hafter
    · exact .inr ⟨haccepts, hafter⟩

end witan.rotation
