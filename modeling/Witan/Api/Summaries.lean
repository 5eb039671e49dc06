import Witan.Api
import Witan.Rotation.Fork

open bincode fallible
open witan.types witan.error witan.identity witan.rotation

namespace witan.rotation

variable {crates : Crates}

namespace KeyLineage

/-- A lineage that has not rotated, under another label. -/
def relabel (self : KeyLineage) (key_epoch : Str) : KeyLineage :=
  { self with
    inception_state := { self.inception_state with key_epoch }
    current := { self.current with key_epoch } }

section Determined

variable {first second : KeyLineage} {inputs : Set Bytes}

/-- The inception state and the records determine the lineage: the current state is
    computed from them. -/
theorem Valid.eq_of_inception (hfirst : first.Valid crates) (hsecond : second.Valid crates)
    (hid : first.node_id = second.node_id) (hinception : first.inception_state = second.inception_state)
    (hrotations : first.rotations = second.rotations) : first = second := by
  have hstart : first.start = second.start := by
    unfold start
    rw [hid, hinception]
  have hreplay := hfirst.replay_eq
  rw [hstart, hrotations, hsecond.replay_eq] at hreplay
  exact (Except.ok.inj hreplay).symm

/-- The id is derived from the inception keys, so it leaves only the label open. -/
theorem Valid.inception_eq_of_label (hfirst : first.Valid crates) (hsecond : second.Valid crates)
    (hid : first.node_id = second.node_id)
    (hcollision : Set.InjOn crates.sha256 (first.hashInputs ∪ second.hashInputs)) :
    second.inception_state = { first.inception_state with key_epoch := second.inception_state.key_epoch } := by
  obtain ⟨hkem, hsig⟩ := hfirst.inception_keys_eq hsecond hid hcollision
  have hsequence := hfirst.inception_sequence.trans hsecond.inception_sequence.symm
  have hcommitment := hfirst.inception_commitment.trans hsecond.inception_commitment.symm
  dsimp only
  rw [hkem, hsig, hsequence, hcommitment]

/-- The first record's `prev_state_digest` covers the label as well. -/
theorem Valid.inception_eq_of_record (hfirst : first.Valid crates) (hsecond : second.Valid crates)
    {r : KeyRotation} {rest : List KeyRotation} (hrotations : first.rotations = [] ++ r :: rest)
    (hrotations' : second.rotations = [] ++ r :: rest)
    (hcollision : Set.InjOn crates.sha256 (first.hashInputs ∪ second.hashInputs)) :
    first.inception_state = second.inception_state := by
  obtain ⟨state, hstate, haccepts⟩ := hfirst.accepts_at hrotations
  obtain ⟨state', hstate', haccepts'⟩ := hsecond.accepts_at hrotations'
  obtain rfl : first.inception_state = state := Option.some.inj hstate
  obtain rfl : second.inception_state = state' := Option.some.inj hstate'
  have hmember : first.inception_state.digestInput first.node_id ∈ first.hashInputs :=
    .inr (.inl ⟨_, List.mem_cons_self, rfl⟩)
  have hmember' : second.inception_state.digestInput second.node_id ∈ second.hashInputs :=
    .inr (.inl ⟨_, List.mem_cons_self, rfl⟩)
  have hinput := hcollision (.inl hmember) (.inr hmember') (haccepts.digest.symm.trans haccepts'.digest)
  exact (KeyState.digestInput_inj hinput).2

theorem Valid.current_of_no_rotations (hvalid : first.Valid crates) (hrotations : first.rotations = []) :
    first.current = first.inception_state := by
  rcases hvalid.eq_start_or_extend with ⟨_, hcurrent⟩ | ⟨previous, r, _, _, rfl⟩
  · exact hcurrent
  · exact absurd hrotations (List.append_ne_nil_of_right_ne_nil _ (List.cons_ne_nil r []))

theorem Valid.relabel_self (hvalid : first.Valid crates) (hempty : first.rotations = []) :
    first.relabel first.current_key_epoch = first := by
  have hcurrent := hvalid.current_of_no_rotations hempty
  unfold relabel current_key_epoch
  rw [hcurrent]
  exact congrArg (fun current => { first with current }) hcurrent.symm

/-- A lineage without records is determined up to its label. -/
theorem Valid.eq_relabel (hfirst : first.Valid crates) (hsecond : second.Valid crates)
    (hid : first.node_id = second.node_id) (hrotations : first.rotations = second.rotations)
    (hempty : first.rotations = [])
    (hcollision : Set.InjOn crates.sha256 (first.hashInputs ∪ second.hashInputs)) :
    second = first.relabel second.current_key_epoch := by
  have hcurrent := hfirst.current_of_no_rotations hempty
  have hcurrent' := hsecond.current_of_no_rotations (hrotations ▸ hempty)
  have hinception := hfirst.inception_eq_of_label hsecond hid hcollision
  have hlabel : second.current_key_epoch = second.inception_state.key_epoch := congrArg KeyState.key_epoch hcurrent'
  unfold relabel
  rw [hlabel, hcurrent, ← hinception, hid, hrotations]
  exact congrArg (fun current => { second with current }) hcurrent'

end Determined

end KeyLineage

end witan.rotation

namespace witan.reference

open witan.config

/-- What is hashed when node 1's lineage is verified before any rotation, under one of
    two labels. -/
def labelInputs : List Bytes :=
  [(kemPublicKey 1).val ++ (sigPublicKey 1).val,
    (lineageAt 1 firstEpoch).current.digestInput (lineageAt 1 firstEpoch).node_id,
    (lineageAt 1 ephemeralRuntime).current.digestInput (lineageAt 1 ephemeralRuntime).node_id]

theorem labelInputs_collisionFree : Set.InjOn crates.sha256 {input | input ∈ labelInputs} := by
  have hnodup : (labelInputs.map digest).Nodup := by decide +kernel
  intro input hinput input' hinput' hdigest
  exact List.inj_on_of_nodup_map hnodup hinput hinput' hdigest

theorem lineageAt_hashInputs {key_epoch : Str} {inputs : List Bytes}
    (hkeys : (kemPublicKey 1).val ++ (sigPublicKey 1).val ∈ inputs)
    (hstate : (lineageAt 1 key_epoch).current.digestInput (lineageAt 1 key_epoch).node_id ∈ inputs) :
    (lineageAt 1 key_epoch).hashInputs ⊆ {input | input ∈ inputs} := by
  rintro input (rfl | ⟨state, hmem, rfl⟩ | ⟨r, hmem, rfl⟩)
  · exact hkeys
  · obtain rfl : state = (lineageAt 1 key_epoch).current := List.mem_singleton.mp hmem
    exact hstate
  · cases hmem

theorem labels_collisionFree :
    Set.InjOn crates.sha256 ((lineageAt 1 firstEpoch).hashInputs ∪ (lineageAt 1 ephemeralRuntime).hashInputs) := by
  refine labelInputs_collisionFree.mono (Set.union_subset ?_ ?_)
  · exact lineageAt_hashInputs List.mem_cons_self (List.mem_cons_of_mem _ List.mem_cons_self)
  · exact lineageAt_hashInputs List.mem_cons_self (List.mem_cons_of_mem _ (List.mem_cons_of_mem _ List.mem_cons_self))

theorem decode_lineageAt (key_epoch : Str) (hsize : (lineageAt 1 key_epoch).size ≤ MAX_LINEAGE_BYTES) :
    ∃ bytes, KeyLineage.decode crates bytes = .ok (lineageAt 1 key_epoch) :=
  ⟨_, ((KeyLineage.Reachable.from_identity (from_identity_nodeAt 1 key_epoch)).valid.decode_iff rfl).mpr hsize⟩

theorem labels_decode :
    ∃ bytes bytes', KeyLineage.decode crates bytes = .ok (lineageAt 1 firstEpoch) ∧
      KeyLineage.decode crates bytes' = .ok (lineageAt 1 ephemeralRuntime) := by
  obtain ⟨bytes, hdecode⟩ := decode_lineageAt firstEpoch (by decide +kernel)
  obtain ⟨bytes', hdecode'⟩ := decode_lineageAt ephemeralRuntime (by decide +kernel)
  exact ⟨bytes, bytes', hdecode, hdecode'⟩

end witan.reference

namespace witan.api

variable {crates : Crates}

/-- An encoded lineage is determined by its node id and its records, and with it every
    summary, as soon as there is a record. Before that the id pins the keys but not the
    label: what is left open is the `key_epoch`. -/
theorem encoded_lineage_determined {first second : KeyLineage} {first_bytes second_bytes : Bytes}
    (hfirst : KeyLineage.decode crates first_bytes = .ok first)
    (hsecond : KeyLineage.decode crates second_bytes = .ok second) (hid : first.node_id = second.node_id)
    (hrotations : first.rotations = second.rotations)
    (hcollision : Set.InjOn crates.sha256 (first.hashInputs ∪ second.hashInputs)) :
    (first.rotations ≠ [] ∨ first.current_key_epoch = second.current_key_epoch →
      first = second ∧ first_bytes = second_bytes ∧
        gossip_verify_key_lineage crates first_bytes = gossip_verify_key_lineage crates second_bytes) ∧
      (first.rotations = [] → second = first.relabel second.current_key_epoch) := by
  have hvalid := KeyLineage.decode_valid hfirst
  have hvalid' := KeyLineage.decode_valid hsecond
  have hrelabel (hempty : first.rotations = []) : second = first.relabel second.current_key_epoch :=
    hvalid.eq_relabel hvalid' hid hrotations hempty hcollision
  refine ⟨fun hbound => ?_, hrelabel⟩
  have hequal : first = second := by
    cases hrecords : first.rotations with
    | nil =>
      have hlabel : first.current_key_epoch = second.current_key_epoch := hbound.resolve_left fun h => h hrecords
      rw [hrelabel hrecords, ← hlabel]
      exact (hvalid.relabel_self hrecords).symm
    | cons r rest =>
      exact hvalid.eq_of_inception hvalid' hid
        (hvalid.inception_eq_of_record hvalid' hrecords (hrotations ▸ hrecords) hcollision) hrotations
  subst hequal
  obtain rfl : first_bytes = second_bytes :=
    Except.ok.inj ((KeyLineage.encode_decode hfirst).symm.trans (KeyLineage.encode_decode hsecond))
  exact ⟨rfl, rfl, rfl⟩

/-- Node 1's lineage before any rotation, under two labels. -/
theorem encoded_lineage_determined_reference :
    ∃ (first second : KeyLineage) (first_bytes second_bytes : Bytes),
      KeyLineage.decode reference.crates first_bytes = .ok first ∧
        KeyLineage.decode reference.crates second_bytes = .ok second ∧
        second = first.relabel second.current_key_epoch := by
  obtain ⟨first_bytes, second_bytes, hfirst, hsecond⟩ := reference.labels_decode
  exact ⟨_, _, _, _, hfirst, hsecond,
    (encoded_lineage_determined hfirst hsecond rfl rfl reference.labels_collisionFree).2 rfl⟩

/-- Both are accepted, and they are not the same. -/
theorem lineage_label_not_bound :
    ∃ (first second : KeyLineage) (first_bytes second_bytes : Bytes),
      KeyLineage.decode reference.crates first_bytes = .ok first ∧
        KeyLineage.decode reference.crates second_bytes = .ok second ∧ first.node_id = second.node_id ∧
        first.rotations = second.rotations ∧
        Set.InjOn reference.crates.sha256 (first.hashInputs ∪ second.hashInputs) ∧
        first.current_key_epoch ≠ second.current_key_epoch ∧ first ≠ second ∧ first_bytes ≠ second_bytes := by
  obtain ⟨first_bytes, second_bytes, hfirst, hsecond⟩ := reference.labels_decode
  have hlabel : reference.firstEpoch ≠ config.ephemeralRuntime := by decide
  have hne : reference.lineageAt 1 reference.firstEpoch ≠ reference.lineageAt 1 config.ephemeralRuntime :=
    fun hequal => hlabel (congrArg KeyLineage.current_key_epoch hequal)
  refine ⟨_, _, _, _, hfirst, hsecond, rfl, rfl, reference.labels_collisionFree, hlabel, hne, ?_⟩
  rintro rfl
  exact hne (Except.ok.inj (hfirst.symm.trans hsecond))

end witan.api
