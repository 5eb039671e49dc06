import Witan.Rotation.Fork

open bincode fallible
open witan.types witan.error witan.identity

namespace witan.rotation

/-- The fields of a record that its key state, and so a state digest, leaves out. -/
def KeyRotation.undigested (self : KeyRotation) : Bytes32 × UInt64 × ByteVec × ByteVec :=
  (self.prev_state_digest, self.timestamp_unix_ms, self.authorization, self.possession)

/-- One chain and one position of it. -/
def KeyLineage.SamePosition (first second : KeyLineage) : Prop :=
  first.node_id = second.node_id ∧ first.sequence = second.sequence ∧ first.rotations = second.rotations

/-- Records that the rules accept over one state are equal when they install the
    same state and agree outside it. -/
theorem Accepts.eq_of_undigested {crates : Crates} {node_id : Str} {state state' : KeyState} {r r' : KeyRotation}
    (h : Accepts crates node_id state r) (h' : Accepts crates node_id state' r')
    (hstate : r.newState = r'.newState) (hrest : r.undigested = r'.undigested) : r = r' := by
  have hversion := h.version.trans h'.version.symm
  have hid := h.node_id_eq.trans h'.node_id_eq.symm
  simp only [KeyRotation.newState, KeyState.mk.injEq] at hstate
  simp only [KeyRotation.undigested, Prod.mk.injEq] at hrest
  cases r
  cases r'
  simp_all

/-- Two chains of one node that reach the same state through records that agree
    outside the digests are the same chain. The induction runs backwards: a
    record's `prev_state_digest` fixes the state before it. -/
theorem KeyLineage.Valid.rotations_eq {crates : Crates} {inputs : Set Bytes}
    (hcollision : Set.InjOn crates.sha256 inputs) {first second : KeyLineage}
    (hvalid : first.Valid crates) (hvalid' : second.Valid crates) (hid : first.node_id = second.node_id)
    (hcurrent : first.current = second.current)
    (hrest : first.rotations.map KeyRotation.undigested = second.rotations.map KeyRotation.undigested)
    (hinputs : ∀ state ∈ first.states, state.digestInput first.node_id ∈ inputs)
    (hinputs' : ∀ state ∈ second.states, state.digestInput second.node_id ∈ inputs) :
    first.rotations = second.rotations := by
  induction hlength : first.rotations.length generalizing first second with
  | zero =>
    have hlength' : second.rotations.length = 0 := by
      rw [← hlength, hvalid.length_eq, hvalid'.length_eq, hcurrent]
    rw [List.length_eq_zero_iff.mp hlength, List.length_eq_zero_iff.mp hlength']
  | succ n ih =>
    have hlength' : second.rotations.length = n + 1 := by
      rw [← hlength, hvalid.length_eq, hvalid'.length_eq, hcurrent]
    rcases hvalid.eq_start_or_extend with ⟨hnil, _⟩ | ⟨previous, r, hprevious, haccepts, rfl⟩
    · simp [hnil] at hlength
    rcases hvalid'.eq_start_or_extend with ⟨hnil, _⟩ | ⟨previous', r', hprevious', haccepts', rfl⟩
    · simp [hnil] at hlength'
    simp only [KeyLineage.extend, List.map_append, List.map_cons, List.map_nil] at hrest
    obtain ⟨hbefore, hlast⟩ := List.append_inj' hrest rfl
    have hlast : r.undigested = r'.undigested := List.singleton_inj.mp hlast
    have hmember : previous.current ∈ (previous.extend r).states := by
      rw [KeyLineage.states_extend]
      exact List.mem_append_left _ hprevious.current_mem_states
    have hmember' : previous'.current ∈ (previous'.extend r').states := by
      rw [KeyLineage.states_extend]
      exact List.mem_append_left _ hprevious'.current_mem_states
    have hdigest : previous.current.digest crates previous.node_id =
        previous'.current.digest crates previous'.node_id := by
      rw [← haccepts.digest, ← haccepts'.digest]
      exact congrArg Prod.fst hlast
    obtain ⟨_, hstate⟩ := KeyState.digestInput_inj
      (hcollision (hinputs _ hmember) (hinputs' _ hmember') hdigest)
    have htail := ih hprevious hprevious' hid hstate hbefore
      (fun state hmem => hinputs state (by rw [KeyLineage.states_extend]; exact List.mem_append_left _ hmem))
      (fun state hmem => hinputs' state (by rw [KeyLineage.states_extend]; exact List.mem_append_left _ hmem))
      (by simpa [KeyLineage.extend] using hlength)
    have hrecord : r = r' :=
      haccepts.eq_of_undigested (show Accepts crates previous.node_id previous'.current r' from hid ▸ haccepts')
        hcurrent hlast
    simp only [KeyLineage.extend, htail, hrecord]

/-- A record that two lineages accept as their successor names one node and one
    position; whether the chains behind it are the same depends exactly on what
    the state digests leave out of their records. -/
theorem KeyLineage.successor_same_position_iff {crates : Crates} {first second : KeyLineage}
    (hreachable : first.Reachable crates) (hreachable' : second.Reachable crates)
    (hcollision : Set.InjOn crates.sha256 (first.hashInputs ∪ second.hashInputs))
    {r : KeyRotation} {next next' : KeyState} (haccepted : first.verify_next crates r = .ok next)
    (haccepted' : second.verify_next crates r = .ok next') :
    (first.node_id = second.node_id ∧ first.sequence = second.sequence) ∧
      (first.SamePosition second ↔
        first.rotations.map KeyRotation.undigested = second.rotations.map KeyRotation.undigested) := by
  obtain ⟨haccepts, _⟩ := KeyLineage.verify_next_eq_ok_iff.mp haccepted
  obtain ⟨haccepts', _⟩ := KeyLineage.verify_next_eq_ok_iff.mp haccepted'
  have hinputs : ∀ state ∈ first.states, state.digestInput first.node_id ∈
      first.hashInputs ∪ second.hashInputs := fun state hstate => .inl (.inr (.inl ⟨state, hstate, rfl⟩))
  have hinputs' : ∀ state ∈ second.states, state.digestInput second.node_id ∈
      first.hashInputs ∪ second.hashInputs := fun state hstate => .inr (.inr (.inl ⟨state, hstate, rfl⟩))
  obtain ⟨hid, hcurrent⟩ := KeyState.digestInput_inj
    (hcollision (hinputs _ hreachable.valid.current_mem_states)
      (hinputs' _ hreachable'.valid.current_mem_states) (haccepts.digest.symm.trans haccepts'.digest))
  have hsequence : first.sequence = second.sequence := congrArg KeyState.sequence hcurrent
  refine ⟨⟨hid, hsequence⟩, ?_⟩
  constructor
  · rintro ⟨_, _, hrotations⟩
    rw [hrotations]
  · intro hrest
    exact ⟨hid, hsequence, KeyLineage.Valid.rotations_eq hcollision hreachable.valid hreachable'.valid hid
      hcurrent hrest hinputs hinputs'⟩

end witan.rotation

namespace witan.reference

open witan.rotation

/-- One record follows node 1's lineage whenever it moved to the keys of node 2. -/
theorem moved_successor :
    ∃ next : KeyRotation, ∀ r : KeyRotation, r.newState = movedState →
      ((lineage 1).extend r).verify_next crates next = .ok next.newState := by
  obtain ⟨r, _, hr, _, _⟩ := moves 0
  have hcurrent : ((lineage 1).extend r).current = movedState := hr
  have hholder : (node 2).sig_public_key_bytes = ((lineage 1).extend r).current.sig_public_key :=
    (congrArg KeyState.sig_public_key hcurrent).symm
  have hcommitted : ∀ value, ((lineage 1).extend r).current.next_key_commitment = some value →
      key_commitment crates (node 3).sig_public_key_bytes.val = value := by
    intro value hvalue
    rw [hcurrent] at hvalue
    cases hvalue
  have hroom : ((lineage 1).extend r).current.sequence.toNat + 1 < 2 ^ 64 := by
    rw [hcurrent]
    decide
  obtain ⟨next, hrotate⟩ :=
    KeyLineage.rotate_succeeds signatureCorrect keyLengths hholder hcommitted hroom none 2
  obtain ⟨_, _, _, _, _, _, haccepts, _⟩ := KeyLineage.build_and_apply_eq_ok (KeyLineage.rotate_eq_ok hrotate).2
  rw [hcurrent] at haccepts
  refine ⟨next, ?_⟩
  intro r' hr'
  have hcurrent' : ((lineage 1).extend r').current = movedState := hr'
  refine KeyLineage.verify_next_eq_ok_iff.mpr ⟨?_, rfl⟩
  rw [hcurrent']
  exact haccepts

end witan.reference

namespace witan.rotation

theorem KeyLineage.successor_same_position_iff_reference :
    ∃ (first second : KeyLineage) (r : KeyRotation) (next : KeyState),
      first.verify_next reference.crates r = .ok next ∧ second.verify_next reference.crates r = .ok next ∧
      first.sequence = second.sequence := by
  obtain ⟨r, r', _, hstate, hstate', hreachable, hreachable', _, _, hcollision⟩ := reference.forks
  obtain ⟨next, hnext⟩ := reference.moved_successor
  exact ⟨_, _, next, _, hnext r hstate, hnext r' hstate',
    (KeyLineage.successor_same_position_iff hreachable hreachable' hcollision (hnext r hstate)
      (hnext r' hstate')).1.2⟩

/-- One record follows two chains of node 1 that moved to the same keys at
    different times. -/
theorem KeyLineage.successor_of_two_chains :
    ¬ ∀ (crates : Crates) (first second : KeyLineage) (r : KeyRotation) (next next' : KeyState),
      first.Reachable crates → second.Reachable crates →
      Set.InjOn crates.sha256 (first.hashInputs ∪ second.hashInputs) →
      first.verify_next crates r = .ok next → second.verify_next crates r = .ok next' →
      first.SamePosition second := by
  intro hclaim
  obtain ⟨r, r', hne, hstate, hstate', hreachable, hreachable', _, _, hcollision⟩ := reference.forks
  obtain ⟨next, hnext⟩ := reference.moved_successor
  obtain ⟨_, _, hrotations⟩ := hclaim _ _ _ next _ _ hreachable hreachable' hcollision
    (hnext r hstate) (hnext r' hstate')
  exact hne (List.singleton_inj.mp hrotations)

end witan.rotation
