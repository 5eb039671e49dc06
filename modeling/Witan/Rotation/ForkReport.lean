import Witan.Rotation.Fork

open bincode fallible
open witan.types witan.error witan.identity

namespace witan.rotation

variable {crates : Crates}

/-- The error says that the lineage forked. -/
def IsForkError : GossipError → Prop
  | .IdentityError message => "lineage fork".toList <+: message.toList
  | _ => False

namespace KeyLineage

/-- `apply` answers with a fork. -/
def ReportsFork (crates : Crates) (self : KeyLineage) (r : KeyRotation) : Prop :=
  ∃ error after, apply crates r self = .error error after ∧ IsForkError error

/-- The record is for a sequence at which the lineage holds another one. -/
def Conflicts (self : KeyLineage) (r : KeyRotation) : Prop :=
  1 ≤ r.sequence ∧ r.sequence ≤ self.sequence ∧
    ∃ held, self.rotations[r.sequence.toNat - 1]? = some held ∧ r ≠ held

/-- The record follows the state that the lineage had before that sequence. -/
def ValidAt (crates : Crates) (self : KeyLineage) (r : KeyRotation) : Prop :=
  ∃ state, self.states[r.sequence.toNat - 1]? = some state ∧ Accepts crates self.node_id state r

/-- A fork is reported exactly for a valid record that conflicts with a held one; any
    other conflicting record is refused with another error. -/
structure SoundForkReport (crates : Crates) (lineage : KeyLineage) (r : KeyRotation) : Prop where
  exact_report : lineage.ReportsFork crates r ↔ lineage.Conflicts r ∧ lineage.ValidAt crates r
  other_error : lineage.Conflicts r → ¬ lineage.ValidAt crates r →
    ∃ error after, apply crates r lineage = .error error after ∧ ¬ IsForkError error

section Errors

variable {self : KeyLineage} {r : KeyRotation}

/-! No other refusal can be taken for a fork. -/

theorem rejected_not_fork (message : String) : ¬ IsForkError (rejected message) := by
  unfold IsForkError rejected
  simp [toString, List.cons_prefix_cons]

theorem check_key_lengths_errorsIn (kem_pk sig_pk : Bytes) :
    ErrorsIn (check_key_lengths kem_pk sig_pk) (¬ IsForkError ·) := by
  unfold check_key_lengths
  refine .bind (.failIf ?_) fun _ _ => .failIf ?_
  · unfold IsForkError
    simp [toString, List.cons_prefix_cons]
  · unfold IsForkError
    simp [toString, List.cons_prefix_cons]

theorem verify_external_errorsIn (public_key : ByteVec) (message : Bytes) (signature : ByteVec) (context : Bytes) :
    ErrorsIn (NodeIdentity.verify_external crates public_key message signature context) (¬ IsForkError ·) := by
  unfold NodeIdentity.verify_external
  refine .bind (.failIf (not_false : ¬ IsForkError (.CryptoError _))) fun _ _ => ?_
  split
  · exact .ok true
  · exact .ok false
  · exact .error (not_false : ¬ IsForkError (.CryptoError _))

theorem verify_next_errorsIn : ErrorsIn (self.verify_next crates r) (¬ IsForkError ·) := by
  unfold verify_next
  refine .bind (.failIf (rejected_not_fork _)) fun _ _ => .bind (.failIf (rejected_not_fork _)) fun _ _ => ?_
  refine .bind (.failIf (rejected_not_fork _)) fun _ _ => .bind (.failIf (rejected_not_fork _)) fun _ _ => ?_
  refine .bind (check_key_lengths_errorsIn _ _) fun _ _ => .bind (verify_external_errorsIn _ _ _ _) fun _ _ => ?_
  refine .bind (.failIf (rejected_not_fork _)) fun _ _ => ?_
  split
  · refine .bind (.failIf (rejected_not_fork _)) fun _ _ => ?_
    exact .bind (.failIf (rejected_not_fork _)) fun _ _ => .ok _
  · refine .bind (verify_external_errorsIn _ _ _ _) fun _ _ => ?_
    exact .bind (.failIf (rejected_not_fork _)) fun _ _ => .ok _

end Errors

/-- A held sequence has a record in a valid chain. -/
theorem Valid.held_at {self : KeyLineage} {r : KeyRotation} (hvalid : self.Valid crates) (hlow : 1 ≤ r.sequence)
    (hhigh : r.sequence ≤ self.sequence) : ∃ held, self.rotations[r.sequence.toNat - 1]? = some held := by
  have hlow' : 1 ≤ r.sequence.toNat := UInt64.le_iff_toNat_le.mp hlow
  have hhigh' : r.sequence.toNat ≤ self.current.sequence.toNat := UInt64.le_iff_toNat_le.mp hhigh
  have hlength := hvalid.length_eq
  exact ⟨_, List.getElem?_eq_getElem (by omega)⟩

/-- A fork is reported for every conflicting record, valid or not. -/
theorem Reachable.reportsFork_iff_conflicts {self : KeyLineage} (h : self.Reachable crates) (r : KeyRotation) :
    self.ReportsFork crates r ↔ self.Conflicts r := by
  unfold ReportsFork KeyLineage.apply
  simp only [get_bind]
  constructor
  · rintro ⟨error, after, hfail, hfork⟩
    split at hfail
    · next hknown =>
      obtain ⟨held, hheld⟩ := h.valid.held_at hknown.1 hknown.2
      refine ⟨hknown.1, hknown.2, held, hheld, ?_⟩
      rintro rfl
      rw [if_pos hheld] at hfail
      cases hfail
    · rcases attempt_bind_eq_error_iff.mp hfail with ⟨hrefused, _⟩ | ⟨_, _, hset⟩
      · exact absurd hfork (verify_next_errorsIn error hrefused)
      · cases hset
  · rintro ⟨hlow, hhigh, held, hheld, hne⟩
    have hother : ¬ self.rotations[r.sequence.toNat - 1]? = some r := by
      rw [hheld, Option.some.injEq]
      exact fun hsame => hne hsame.symm
    rw [if_pos ⟨hlow, hhigh⟩, if_neg hother]
    refine ⟨_, _, rfl, ?_⟩
    unfold IsForkError
    simp [toString, List.cons_prefix_cons]

/-- `apply` does not look at a conflicting record any further, so its fork reports are
    sound exactly for records that conflict with nothing, or are valid. -/
theorem Reachable.fork_report_sound_iff {self : KeyLineage} (h : self.Reachable crates) (r : KeyRotation) :
    self.SoundForkReport crates r ↔ (self.Conflicts r → self.ValidAt crates r) := by
  have hreports := h.reportsFork_iff_conflicts r
  constructor
  · intro hsound hconflicts
    exact (hsound.exact_report.mp (hreports.mpr hconflicts)).2
  · intro hvalid
    refine ⟨hreports.trans ⟨fun hconflicts => ⟨hconflicts, hvalid hconflicts⟩, And.left⟩, ?_⟩
    exact fun hconflicts hinvalid => absurd (hvalid hconflicts) hinvalid

/-- Any record for sequence 1 but the held one conflicts once the lineage has moved. -/
theorem conflicts_of_moved {self : KeyLineage} {r r' : KeyRotation} (hmoved : r.newState = reference.movedState)
    (hempty : self.rotations = []) (hsequence : r'.sequence = 1) (hne : r' ≠ r) : (self.extend r).Conflicts r' := by
  have hlast : (self.extend r).sequence = 1 := congrArg KeyState.sequence hmoved
  refine ⟨?_, ?_, r, ?_, hne⟩
  · rw [hsequence]
    exact UInt64.le_refl 1
  · rw [hsequence, hlast]
    exact UInt64.le_refl 1
  · rw [hsequence]
    simp [extend, hempty]

/-- Node 1 moved to the keys of node 2 twice, at different times: the second record is
    a fork, and soundly reported as one. -/
theorem Reachable.fork_report_sound_iff_reference :
    ∃ (self : KeyLineage) (r : KeyRotation), self.Reachable reference.crates ∧ self.Conflicts r ∧
      self.SoundForkReport reference.crates r := by
  obtain ⟨r, r', hne, hstate, hstate', hreachable, hreachable', _⟩ := reference.forks
  have hsequence : r'.sequence = 1 := congrArg KeyState.sequence hstate'
  have hrotations : ((reference.lineage 1).extend r').rotations = [] ++ r' :: [] := rfl
  obtain ⟨state, hat, haccepts⟩ := hreachable'.valid.accepts_at hrotations
  have hvalid : ((reference.lineage 1).extend r).ValidAt reference.crates r' := by
    refine ⟨state, ?_, haccepts⟩
    rw [hsequence]
    exact hat
  refine ⟨(reference.lineage 1).extend r, r', hreachable, conflicts_of_moved hstate rfl hsequence hne.symm, ?_⟩
  exact (hreachable.fork_report_sound_iff r').mpr fun _ => hvalid

/-- The held record with another version is no valid record, and is reported as a fork. -/
theorem forged_record_reported_as_fork :
    ∃ r, ((reference.lineage 1).extend r).Reachable reference.crates ∧
      ¬ ((reference.lineage 1).extend r).ValidAt reference.crates { r with version := 2 } ∧
      ((reference.lineage 1).extend r).ReportsFork reference.crates { r with version := 2 } ∧
      ¬ ((reference.lineage 1).extend r).SoundForkReport reference.crates { r with version := 2 } := by
  obtain ⟨r, _, _, hstate, _, hreachable, _⟩ := reference.forks
  have hsequence : r.sequence = 1 := congrArg KeyState.sequence hstate
  have hrotations : ((reference.lineage 1).extend r).rotations = [] ++ r :: [] := rfl
  obtain ⟨_, _, hheld⟩ := hreachable.valid.accepts_at hrotations
  have hne : { r with version := 2 } ≠ r := by
    intro hsame
    have hversion : 2 = r.version := congrArg KeyRotation.version hsame
    rw [hheld.version] at hversion
    exact absurd hversion (by decide)
  have hinvalid : ¬ ((reference.lineage 1).extend r).ValidAt reference.crates { r with version := 2 } := by
    rintro ⟨_, _, haccepts⟩
    have hversion : (2 : UInt8) = 1 := haccepts.version
    exact absurd hversion (by decide)
  have hreport : ((reference.lineage 1).extend r).ReportsFork reference.crates { r with version := 2 } :=
    (hreachable.reportsFork_iff_conflicts _).mpr (conflicts_of_moved hstate rfl hsequence hne)
  refine ⟨r, hreachable, hinvalid, hreport, ?_⟩
  exact fun hsound => hinvalid (hsound.exact_report.mp hreport).2

end KeyLineage

end witan.rotation
