import Witan.Rotation.Lockout

open bincode fallible
open witan.types witan.error witan.identity

namespace witan.rotation

namespace KeyLineage

variable {crates : Crates} {self middle after : KeyLineage} {r : KeyRotation} {records : List KeyRotation}

variable (crates) in
/-- The records among those fed to a lineage that `apply` takes as new, not as
    repetitions of records it holds. -/
def acceptedAsNew : KeyLineage → List KeyRotation → List KeyRotation
  | _, [] => []
  | self, r :: records =>
    match apply crates r self with
    | .ok _ after =>
      if 1 ≤ r.sequence ∧ r.sequence ≤ self.current.sequence then acceptedAsNew after records
      else r :: acceptedAsNew after records
    | .error _ after => acceptedAsNew after records

/-- A lineage that grew out of another by valid records. -/
structure Grown (crates : Crates) (before after : KeyLineage) : Prop where
  start : after.start = before.start
  rotations : before.rotations <+: after.rotations
  valid : after.Valid crates

theorem Grown.refl (hvalid : self.Valid crates) : Grown crates self self := ⟨rfl, List.prefix_rfl, hvalid⟩

theorem Grown.trans (h : Grown crates self middle) (h' : Grown crates middle after) : Grown crates self after :=
  ⟨h'.start.trans h.start, h.rotations.trans h'.rotations, h'.valid⟩

theorem Grown.node_id_eq (h : Grown crates self after) : after.node_id = self.node_id := by
  have hstart := congrArg node_id h.start
  exact hstart

theorem Grown.inception_state_eq (h : Grown crates self after) : after.inception_state = self.inception_state := by
  have hstart := congrArg inception_state h.start
  exact hstart

theorem Valid.grown_extend (hvalid : self.Valid crates) (haccepts : Accepts crates self.node_id self.current r) :
    Grown crates self (self.extend r) :=
  ⟨rfl, List.prefix_append _ _, hvalid.extend haccepts⟩

/-- One record, accepted or not. -/
theorem Valid.grown_apply (hvalid : self.Valid crates) (r : KeyRotation) :
    Grown crates self (final (apply crates r self)) := by
  rcases self.final_apply r with hsame | ⟨haccepts, hextend⟩
  · rw [hsame]
    exact .refl hvalid
  · rw [hextend]
    exact hvalid.grown_extend haccepts

/-- Any records, with errors ignored. -/
theorem Valid.grown_applyAll (hvalid : self.Valid crates) (records : List KeyRotation) :
    Grown crates self (self.applyAll crates records) := by
  unfold applyAll
  induction records generalizing self with
  | nil => exact .refl hvalid
  | cons r records ih =>
    rw [List.foldl_cons]
    have hgrown := hvalid.grown_apply r
    exact hgrown.trans (ih hgrown.valid)

/-- The records that were taken as new are the ones the lineage has gained. -/
theorem applyAll_rotations (self : KeyLineage) (records : List KeyRotation) :
    (self.applyAll crates records).rotations = self.rotations ++ self.acceptedAsNew crates records := by
  unfold applyAll
  induction records generalizing self with
  | nil => exact (List.append_nil _).symm
  | cons r records ih =>
    rw [List.foldl_cons, ih, acceptedAsNew]
    cases happly : apply crates r self with
    | error error after =>
      obtain rfl := apply_eq_error happly
      rfl
    | ok value after =>
      rcases apply_eq_ok_iff.mp happly with ⟨hlow, hhigh, _, rfl⟩ | ⟨hnew, _, rfl⟩
      · dsimp only
        rw [if_pos ⟨hlow, hhigh⟩]
        rfl
      · dsimp only
        rw [if_neg hnew, final_ok]
        exact List.append_assoc self.rotations [r] _

/-- The same records from the same beginning make the same lineage. -/
theorem Grown.eq_of_rotations_eq (h : Grown crates self middle) (h' : Grown crates self after)
    (hrotations : middle.rotations = after.rotations) : middle = after := by
  have hmiddle := h.valid.replay_eq
  have hafter := h'.valid.replay_eq
  rw [h.start, hrotations] at hmiddle
  rw [h'.start, hmiddle] at hafter
  exact Except.ok.inj hafter

/-- A record that a lineage holds is applied again without effect. -/
theorem Valid.apply_known (hvalid : self.Valid crates) (hmem : r ∈ self.rotations) :
    apply crates r self = .ok () self := by
  obtain ⟨i, hrecord⟩ := List.getElem?_of_mem hmem
  have hsequence := (hvalid.records i r hrecord).1
  have hlength := hvalid.length_eq
  obtain ⟨hi, _⟩ := List.getElem?_eq_some_iff.mp hrecord
  refine apply_eq_ok_iff.mpr (.inl ⟨?_, ?_, ?_, rfl⟩)
  · rw [UInt64.le_iff_toNat_le, UInt64.toNat_one]
    omega
  · rw [UInt64.le_iff_toNat_le]
    omega
  · rw [hsequence]
    exact hrecord

/-- Sequences fix the places of records, so a valid chain whose records all occur in
    another one is its beginning. -/
theorem Valid.prefix_of_subset (hself : self.Valid crates) (hafter : after.Valid crates)
    (h : ∀ r ∈ self.rotations, r ∈ after.rotations) : self.rotations <+: after.rotations := by
  rw [List.prefix_iff_getElem?]
  intro i hi
  have hrecord : self.rotations[i]? = some self.rotations[i] := List.getElem?_eq_getElem hi
  obtain ⟨j, hrecord'⟩ := List.getElem?_of_mem (h _ (List.getElem_mem hi))
  have hsequence := (hself.records i _ hrecord).1
  have hsequence' := (hafter.records j _ hrecord').1
  obtain rfl : i = j := by omega
  exact hrecord'

/-- A record that `apply` accepted is among the records afterwards. -/
theorem Valid.mem_of_apply (hvalid : self.Valid crates) (h : apply crates r self = .ok () after) :
    Grown crates self after ∧ r ∈ after.rotations := by
  rcases apply_eq_ok_iff.mp h with ⟨_, _, hknown, rfl⟩ | ⟨_, haccepts, rfl⟩
  · exact ⟨.refl hvalid, List.mem_of_getElem? hknown⟩
  · exact ⟨hvalid.grown_extend haccepts, List.mem_append_right _ List.mem_cons_self⟩

/-- Records that `apply` accepts one after the other are all there in the end. -/
theorem Valid.mem_of_forM (hvalid : self.Valid crates) (h : forM records (apply crates) self = .ok ⟨⟩ after) :
    Grown crates self after ∧ ∀ r ∈ records, r ∈ after.rotations := by
  induction records generalizing self with
  | nil =>
    obtain rfl : self = after := by
      injection h
    exact ⟨.refl hvalid, fun r hr => absurd hr List.not_mem_nil⟩
  | cons r records ih =>
    rw [List.forM_cons, bind_eq_ok_iff] at h
    obtain ⟨_, middle, happly, hrest⟩ := h
    obtain ⟨hgrown, hmem⟩ := hvalid.mem_of_apply happly
    obtain ⟨hgrown', hmem'⟩ := ih hgrown.valid hrest
    refine ⟨hgrown.trans hgrown', ?_⟩
    intro record hrecord
    rcases List.mem_cons.mp hrecord with rfl | htail
    · exact hgrown'.rotations.subset hmem
    · exact hmem' record htail

/-- What accepted records make of a lineage, they also make of one that has part of
    the result already. -/
theorem Grown.forM_catches_up {ahead : KeyLineage} (hself : self.Valid crates)
    (h : forM records (apply crates) self = .ok ⟨⟩ after)
    (hahead : Grown crates self ahead) (hpart : ahead.rotations <+: after.rotations) :
    forM records (apply crates) ahead = .ok ⟨⟩ after := by
  induction records generalizing self ahead with
  | nil =>
    -- Nothing is left to apply: the first lineage is the result, and so is the other.
    obtain rfl : self = after := by
      injection h
    have heq : ahead.rotations = self.rotations := hpart.eq_of_length_le hahead.rotations.length_le
    rw [hahead.eq_of_rotations_eq (.refl hself) heq]
    rfl
  | cons r records ih =>
    rw [List.forM_cons, bind_eq_ok_iff] at h ⊢
    obtain ⟨value, middle, happly, hrest⟩ := h
    obtain ⟨hgrown, hmem⟩ := hself.mem_of_apply happly
    have hmiddle := (hgrown.valid.mem_of_forM hrest).1
    by_cases hlength : middle.rotations.length ≤ ahead.rotations.length
    · -- The other lineage holds the record already.
      have hbegins := List.prefix_of_prefix_length_le hmiddle.rotations hpart hlength
      have hahead' : Grown crates middle ahead := ⟨hahead.start.trans hgrown.start.symm, hbegins, hahead.valid⟩
      exact ⟨(), ahead, hahead.valid.apply_known (hbegins.subset hmem), ih hgrown.valid hrest hahead' hpart⟩
    · -- The record is new here, and then the two lineages are still the same.
      have hsame : self = ahead := by
        refine Grown.eq_of_rotations_eq (.refl hself) hahead (hahead.rotations.eq_of_length_le ?_)
        rcases apply_eq_ok_iff.mp happly with ⟨_, _, _, rfl⟩ | ⟨_, _, rfl⟩
        · omega
        · simp only [extend, List.length_append, List.length_singleton] at hlength
          omega
      subst hsame
      exact ⟨value, middle, happly, ih hgrown.valid hrest (.refl hgrown.valid) hmiddle.rotations⟩

/-- Replicas of a lineage only grow, and they converge: whatever records a replica
    was fed, out of order, repeated or forged, once it is given the records that
    make `after` of the lineage it becomes `after` too, provided that all it took
    as new is among them. -/
theorem replicas_converge (h : self.Reachable crates) (fed : List KeyRotation) :
    (self.applyAll crates fed).node_id = self.node_id ∧
      (self.applyAll crates fed).inception_state = self.inception_state ∧
      self.rotations <+: (self.applyAll crates fed).rotations ∧
      ∀ (chain : List KeyRotation) (after : KeyLineage), forM chain (apply crates) self = .ok ⟨⟩ after →
        (∀ r ∈ self.acceptedAsNew crates fed, r ∈ chain) →
        forM chain (apply crates) (self.applyAll crates fed) = .ok ⟨⟩ after := by
  have hgrown := h.valid.grown_applyAll fed
  refine ⟨hgrown.node_id_eq, hgrown.inception_state_eq, hgrown.rotations, ?_⟩
  intro chain after hchain hnew
  obtain ⟨hafter, hmem⟩ := h.valid.mem_of_forM hchain
  refine Grown.forM_catches_up h.valid hchain hgrown (hgrown.valid.prefix_of_subset hafter.valid ?_)
  intro r hr
  rw [applyAll_rotations] at hr
  rcases List.mem_append.mp hr with hold | hfed
  · exact hafter.rotations.subset hold
  · exact hmem r (hnew r hfed)

/-- Node 1 moves to the keys of node 2. A replica that got this record early ends
    where the record alone leads. -/
theorem replicas_converge_reference :
    ∃ r : KeyRotation,
      forM [r] (apply reference.crates) (reference.lineage 1) = .ok ⟨⟩ ((reference.lineage 1).extend r) ∧
      forM [r] (apply reference.crates) ((reference.lineage 1).applyAll reference.crates [r]) =
        .ok ⟨⟩ ((reference.lineage 1).extend r) := by
  obtain ⟨r, hrotate⟩ := reference.lineage_rotates 1 2 none 0
  obtain ⟨_, _, _, _, _, _, haccepts, _⟩ := build_and_apply_eq_ok (rotate_eq_ok hrotate).2
  have happly := apply_of_accepts haccepts
  have hchain : forM [r] (apply reference.crates) (reference.lineage 1) =
      .ok ⟨⟩ ((reference.lineage 1).extend r) := by
    rw [List.forM_cons, bind_eq_ok_iff]
    exact ⟨(), _, happly, rfl⟩
  have hnew : (reference.lineage 1).acceptedAsNew reference.crates [r] = [r] := by
    unfold acceptedAsNew
    rw [happly]
    dsimp only
    rw [if_neg haccepts.not_known]
    rfl
  obtain ⟨_, _, _, hconverge⟩ := replicas_converge (reference.lineage_reachable 1) [r]
  refine ⟨r, hchain, hconverge [r] _ hchain ?_⟩
  rw [hnew]
  exact fun _ hr => hr

end KeyLineage

end witan.rotation
