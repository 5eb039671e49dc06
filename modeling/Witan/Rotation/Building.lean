import Witan.Rotation.Verification

open bincode fallible
open witan.types witan.error witan.identity

namespace witan.rotation

/-- The signatures that the builder puts on a record: possession by the new key
    and, without a commitment in force, authorization by the current one. -/
structure SignedBy {crates : Crates} (state : KeyState) (current : Option (NodeIdentity crates))
    (next : NodeIdentity crates) (r : KeyRotation) : Prop where
  authorization : match state.next_key_commitment, current with
    | some _, _ => r.authorization = Vec.ofList []
    | none, some current => current.sign r.signing_input SIG_CTX_KEY_ROTATION = .ok r.authorization
    | none, none => False
  possession : next.sign r.signing_input SIG_CTX_KEY_POSSESSION = .ok r.possession

/-- A successful build signed the drafted record and appended it. -/
theorem KeyLineage.build_and_apply_eq_ok {crates : Crates} {self after : KeyLineage}
    {current : Option (NodeIdentity crates)} {next : NodeIdentity crates}
    {commitment : Option Bytes32} {now_ms : UInt64} {r : KeyRotation}
    (h : KeyLineage.build_and_apply current next commitment now_ms self = .ok r after) :
    ∃ kem authorization possession, next.kem_public_key_canonical_bytes = .ok kem ∧
      r = { self.draft crates kem next.sig_public_key_bytes next.key_epoch commitment now_ms with
        authorization, possession } ∧
      SignedBy self.current current next r ∧
      Accepts crates self.node_id self.current r ∧ after = self.extend r := by
  unfold KeyLineage.build_and_apply at h
  simp only [get_bind, attempt_bind_eq_ok_iff, bind_eq_ok_iff (x := KeyLineage.apply _ _), pure_apply,
    EStateM.Result.ok.injEq] at h
  obtain ⟨kem, hkem, authorization, hauthorization, possession, hpossession, _, _, happly, rfl, rfl⟩ := h
  refine ⟨kem, authorization, possession, hkem, rfl, ⟨?_, hpossession⟩, ?_⟩
  · cases hcommitment : self.current.next_key_commitment with
    | some value =>
      rw [hcommitment] at hauthorization
      exact (Except.ok.inj hauthorization).symm
    | none =>
      rw [hcommitment] at hauthorization
      cases current with
      | none => cases hauthorization
      | some current => exact hauthorization
  · -- The drafted sequence is the successor of the current one, so the record
    -- cannot be one the lineage already holds.
    rcases KeyLineage.apply_eq_ok_iff.mp happly with ⟨hlow, hhigh, _, _⟩ | ⟨_, haccepts, hafter⟩
    · exfalso
      have hsequence : (1 : UInt64) ≤ self.current.sequence + 1 ∧
          self.current.sequence + 1 ≤ self.current.sequence := ⟨hlow, hhigh⟩
      have hlow' := UInt64.le_iff_toNat_le.mp hsequence.1
      have hhigh' := UInt64.le_iff_toNat_le.mp hsequence.2
      have hbound := self.current.sequence.toNat_lt
      simp only [UInt64.toNat_add, UInt64.toNat_one] at hlow' hhigh'
      omega
    · exact ⟨haccepts, hafter⟩

/-- A failed build leaves the lineage as it was. -/
theorem KeyLineage.build_and_apply_eq_error {crates : Crates} {self after : KeyLineage}
    {current : Option (NodeIdentity crates)} {next : NodeIdentity crates}
    {commitment : Option Bytes32} {now_ms : UInt64} {error : GossipError}
    (h : KeyLineage.build_and_apply current next commitment now_ms self = .error error after) :
    after = self := by
  unfold KeyLineage.build_and_apply at h
  simp only [get_bind, attempt_bind_eq_error_iff, bind_eq_error_iff (x := KeyLineage.apply _ _), pure_apply,
    reduceCtorEq, and_false, exists_false, or_false] at h
  obtain ⟨_, h⟩ | ⟨_, _, ⟨_, h⟩ | ⟨_, _, ⟨_, h⟩ | ⟨_, _, h⟩⟩⟩ := h
  · exact h
  · exact h
  · exact h
  · exact KeyLineage.apply_eq_error h

theorem KeyLineage.rotate_eq_ok {crates : Crates} {self after : KeyLineage}
    {current next : NodeIdentity crates} {commitment : Option Bytes32} {now_ms : UInt64} {r : KeyRotation}
    (h : KeyLineage.rotate current next commitment now_ms self = .ok r after) :
    current.sig_public_key_bytes = self.current.sig_public_key ∧
      KeyLineage.build_and_apply (some current) next commitment now_ms self = .ok r after := by
  unfold KeyLineage.rotate at h
  simp only [get_bind, attempt_bind_eq_ok_iff, failIf_eq_ok_iff, not_not] at h
  obtain ⟨_, hkey, hbuild⟩ := h
  exact ⟨hkey, hbuild⟩

theorem KeyLineage.recover_eq_ok {crates : Crates} {self after : KeyLineage}
    {next : NodeIdentity crates} {commitment : Option Bytes32} {now_ms : UInt64} {r : KeyRotation}
    (h : KeyLineage.recover next commitment now_ms self = .ok r after) :
    self.current.next_key_commitment ≠ none ∧
      KeyLineage.build_and_apply none next commitment now_ms self = .ok r after := by
  unfold KeyLineage.recover at h
  simp only [get_bind, attempt_bind_eq_ok_iff, failIf_eq_ok_iff] at h
  obtain ⟨_, hcommitment, hbuild⟩ := h
  exact ⟨hcommitment, hbuild⟩

/-- A failed rotation leaves the lineage as it was. -/
theorem KeyLineage.rotate_eq_error {crates : Crates} {self after : KeyLineage}
    {current next : NodeIdentity crates} {commitment : Option Bytes32} {now_ms : UInt64} {error : GossipError}
    (h : KeyLineage.rotate current next commitment now_ms self = .error error after) : after = self := by
  unfold KeyLineage.rotate at h
  simp only [get_bind, attempt_bind_eq_error_iff] at h
  obtain ⟨_, h⟩ | ⟨_, _, h⟩ := h
  · exact h
  · exact KeyLineage.build_and_apply_eq_error h

/-- A failed recovery leaves the lineage as it was. -/
theorem KeyLineage.recover_eq_error {crates : Crates} {self after : KeyLineage}
    {next : NodeIdentity crates} {commitment : Option Bytes32} {now_ms : UInt64} {error : GossipError}
    (h : KeyLineage.recover next commitment now_ms self = .error error after) : after = self := by
  unfold KeyLineage.recover at h
  simp only [get_bind, attempt_bind_eq_error_iff] at h
  obtain ⟨_, h⟩ | ⟨_, _, h⟩ := h
  · exact h
  · exact KeyLineage.build_and_apply_eq_error h

/-- Who may build the next record: the holder of the committed key or, without a
    commitment, the holder of the current one. -/
def KeyLineage.MayBuild {crates : Crates} (self : KeyLineage) (current : Option (NodeIdentity crates))
    (next : NodeIdentity crates) : Prop :=
  match self.current.next_key_commitment with
  | some commitment => key_commitment crates next.sig_public_key_bytes.val = commitment
  | none => ∃ holder, current = some holder ∧ holder.sig_public_key_bytes = self.current.sig_public_key

/-- Whoever may build the next record succeeds, as long as the sequence has room. -/
theorem KeyLineage.build_and_apply_succeeds {crates : Crates} (hcorrect : crates.SignatureCorrect)
    (hlengths : crates.KeyLengths) {self : KeyLineage} {current : Option (NodeIdentity crates)}
    {next : NodeIdentity crates} (hmay : self.MayBuild current next)
    (hroom : self.current.sequence.toNat + 1 < 2 ^ 64) (commitment : Option Bytes32) (now_ms : UInt64) :
    ∃ r, KeyLineage.build_and_apply current next commitment now_ms self = .ok r (self.extend r) := by
  obtain ⟨kem, hkem, hkemLength⟩ := NodeIdentity.kem_public_key_canonical_bytes_length hlengths next
  let rotation := self.draft crates kem next.sig_public_key_bytes next.key_epoch commitment now_ms
  obtain ⟨possession, hpossession, hpossessed⟩ := NodeIdentity.sign_verifies hcorrect next
    rotation.signing_input SIG_CTX_KEY_POSSESSION (by decide)
  have hsequence : (self.current.sequence + 1).toNat = self.current.sequence.toNat + 1 := by
    rw [UInt64.toNat_add, UInt64.toNat_one]
    exact Nat.mod_eq_of_lt hroom
  -- The two kinds of authority differ in the signature they put on the record.
  have hauthorization : ∃ authorization, (match self.current.next_key_commitment, current with
        | some _, _ => Except.ok rotation.authorization
        | none, some current => current.sign rotation.signing_input SIG_CTX_KEY_ROTATION
        | none, none => .error (.IdentityError "rotation needs the current key")) = .ok authorization ∧
      Authorized crates self.current { rotation with authorization, possession } := by
    unfold KeyLineage.MayBuild at hmay
    cases hcommitment : self.current.next_key_commitment with
    | some value =>
      rw [hcommitment] at hmay
      refine ⟨_, rfl, ?_⟩
      simp only [Authorized, hcommitment]
      exact ⟨hmay, rfl⟩
    | none =>
      rw [hcommitment] at hmay
      obtain ⟨holder, rfl, hholder⟩ := hmay
      obtain ⟨authorization, hsign, hverify⟩ := NodeIdentity.sign_verifies hcorrect holder
        rotation.signing_input SIG_CTX_KEY_ROTATION (by decide)
      refine ⟨authorization, hsign, ?_⟩
      simp only [Authorized, hcommitment]
      rw [← hholder]
      exact hverify
  obtain ⟨authorization, hsigned, hauthorized⟩ := hauthorization
  have haccepts : Accepts crates self.node_id self.current { rotation with authorization, possession } :=
    ⟨rfl, rfl, hsequence, rfl, hkemLength, hlengths.sig next.sig_keypair, hpossessed, hauthorized⟩
  refine ⟨{ rotation with authorization, possession }, ?_⟩
  unfold KeyLineage.build_and_apply
  simp only [get_bind, attempt_bind_eq_ok_iff, bind_eq_ok_iff (x := KeyLineage.apply _ _)]
  exact ⟨kem, hkem, authorization, hsigned, possession, hpossession, (), _,
    KeyLineage.apply_of_accepts haccepts, rfl⟩

/-- The holder of the current key rotates to any key, unless a commitment names
    another one. -/
theorem KeyLineage.rotate_succeeds {crates : Crates} (hcorrect : crates.SignatureCorrect)
    (hlengths : crates.KeyLengths) {self : KeyLineage} {current next : NodeIdentity crates}
    (hholder : current.sig_public_key_bytes = self.current.sig_public_key)
    (hcommitted : ∀ value, self.current.next_key_commitment = some value →
      key_commitment crates next.sig_public_key_bytes.val = value)
    (hroom : self.current.sequence.toNat + 1 < 2 ^ 64) (commitment : Option Bytes32) (now_ms : UInt64) :
    ∃ r, KeyLineage.rotate current next commitment now_ms self = .ok r (self.extend r) := by
  have hmay : self.MayBuild (some current) next := by
    unfold KeyLineage.MayBuild
    cases hvalue : self.current.next_key_commitment with
    | some value => exact hcommitted value hvalue
    | none => exact ⟨current, rfl, hholder⟩
  obtain ⟨r, hbuild⟩ := KeyLineage.build_and_apply_succeeds hcorrect hlengths hmay hroom commitment now_ms
  refine ⟨r, ?_⟩
  unfold KeyLineage.rotate
  simp only [get_bind, attempt_bind_eq_ok_iff, failIf_eq_ok_iff, not_not]
  exact ⟨(), hholder, hbuild⟩

end witan.rotation
