import Mathlib.Data.Set.Function
import Mathlib.Data.List.Nodup
import Witan.Rotation.RoundTrip

open bincode fallible
open witan.types witan.error witan.identity

namespace witan.rotation

/-- The key states of a lineage, by sequence. -/
def KeyLineage.states (self : KeyLineage) : List KeyState :=
  self.inception_state :: self.rotations.map KeyRotation.newState

/-- What is hashed when a lineage is verified: the inception keys for the id, the
    states for their digests, the new keys for the commitments. -/
def KeyLineage.hashInputs (self : KeyLineage) : Set Bytes :=
  {input | input = self.inception_state.kem_public_key.val ++ self.inception_state.sig_public_key.val ∨
    (∃ state ∈ self.states, input = state.digestInput self.node_id) ∨
    ∃ r ∈ self.rotations, input = commitmentInput r.new_sig_public_key.val}

/-- Every record of a valid chain was accepted over the state before it. -/
theorem KeyLineage.Valid.accepts_at {crates : Crates} {self : KeyLineage} (hvalid : self.Valid crates)
    {before after : List KeyRotation} {r : KeyRotation} (hrotations : self.rotations = before ++ r :: after) :
    ∃ state, self.states[before.length]? = some state ∧ Accepts crates self.node_id state r := by
  have hreplay := hvalid.replay_eq
  rw [hrotations] at hreplay
  obtain ⟨previous, hbefore, hlast⟩ := KeyLineage.replay_append_eq_ok_iff.mp hreplay
  obtain ⟨haccepts, _⟩ := KeyLineage.replay_cons_eq_ok_iff.mp hlast
  obtain ⟨hid, _, _⟩ := KeyLineage.replay_frame hbefore
  refine ⟨previous.current, ?_, hid ▸ haccepts⟩
  unfold KeyLineage.states
  rcases List.eq_nil_or_concat before with rfl | ⟨earlier, last, rfl⟩
  · have hstart : self.start = previous := Except.ok.inj hbefore
    rw [← hstart]
    rfl
  · have hcurrent := KeyLineage.replay_concat_current (by simpa using hbefore)
    simp [hrotations, hcurrent]

/-- A valid chain has not rotated yet, or extends a valid chain by one record. -/
theorem KeyLineage.Valid.eq_start_or_extend {crates : Crates} {self : KeyLineage} (hvalid : self.Valid crates) :
    self.rotations = [] ∧ self.current = self.inception_state ∨
      ∃ previous r, KeyLineage.Valid crates previous ∧ Accepts crates previous.node_id previous.current r ∧
        self = previous.extend r := by
  rcases List.eq_nil_or_concat self.rotations with hnil | ⟨before, r, hconcat⟩
  · have hreplay := hvalid.replay_eq
    rw [hnil] at hreplay
    have hstart : self.start = self := Except.ok.inj hreplay
    exact .inl ⟨hnil, (congrArg KeyLineage.current hstart).symm⟩
  · obtain ⟨previous, _, hprevious, haccepts, hextend⟩ := hvalid.before_last (by simpa using hconcat)
    exact .inr ⟨previous, r, hprevious, haccepts, hextend⟩

theorem KeyLineage.states_extend (self : KeyLineage) (r : KeyRotation) :
    (self.extend r).states = self.states ++ [r.newState] := by
  simp [KeyLineage.states, KeyLineage.extend]

theorem KeyLineage.Valid.current_mem_states {crates : Crates} {self : KeyLineage} (hvalid : self.Valid crates) :
    self.current ∈ self.states := by
  rcases hvalid.eq_start_or_extend with ⟨_, hcurrent⟩ | ⟨previous, r, _, _, rfl⟩
  · rw [hcurrent]
    exact List.mem_cons_self
  · rw [KeyLineage.states_extend]
    exact List.mem_append_right _ List.mem_cons_self

/-- Two lists are one a prefix of the other, or part at a first position. -/
private theorem prefix_or_part {α : Type} (first second : List α) :
    (first <+: second ∨ second <+: first) ∨
      ∃ before a b tail tail', a ≠ b ∧ first = before ++ a :: tail ∧ second = before ++ b :: tail' := by
  induction first generalizing second with
  | nil => exact .inl (.inl List.nil_prefix)
  | cons a first ih =>
    cases second with
    | nil => exact .inl (.inr List.nil_prefix)
    | cons b second =>
      by_cases hab : a = b
      · subst hab
        rcases ih second with (hinitial | hinitial) | ⟨before, c, d, tail, tail', hne, rfl, rfl⟩
        · exact .inl (.inl (List.cons_prefix_cons.mpr ⟨rfl, hinitial⟩))
        · exact .inl (.inr (List.cons_prefix_cons.mpr ⟨rfl, hinitial⟩))
        · exact .inr ⟨a :: before, c, d, tail, tail', hne, rfl, rfl⟩
      · exact .inr ⟨[], a, b, first, second, hab, rfl, rfl⟩

/-- Lineages under one id begin with the same keys. -/
theorem KeyLineage.Valid.inception_keys_eq {crates : Crates} {first second : KeyLineage}
    (hfirst : first.Valid crates) (hsecond : second.Valid crates) (hid : first.node_id = second.node_id)
    (hcollision : Set.InjOn crates.sha256 (first.hashInputs ∪ second.hashInputs)) :
    first.inception_state.kem_public_key = second.inception_state.kem_public_key ∧
      first.inception_state.sig_public_key = second.inception_state.sig_public_key := by
  rw [hfirst.node_id_eq, hsecond.node_id_eq] at hid
  have hinput := hcollision (.inl (.inl rfl)) (.inr (.inl rfl)) (hex.encode32_injective hid)
  have hlength : first.inception_state.kem_public_key.val.length =
      second.inception_state.kem_public_key.val.length := by
    rw [hfirst.kem_length, hsecond.kem_length]
  obtain ⟨hkem, hsig⟩ := List.append_inj hinput hlength
  exact ⟨Subtype.ext hkem, Subtype.ext hsig⟩

/-- The states of two chains agree in their keys and commitment wherever both
    are led to by the same records. -/
theorem KeyLineage.Valid.states_agree {crates : Crates} {first second : KeyLineage}
    (hfirst : first.Valid crates) (hsecond : second.Valid crates)
    (hkem : first.inception_state.kem_public_key = second.inception_state.kem_public_key)
    (hsig : first.inception_state.sig_public_key = second.inception_state.sig_public_key)
    {n : Nat} {state state' : KeyState} (hstate : first.states[n]? = some state)
    (hstate' : second.states[n]? = some state')
    (hrecords : ∀ i r r', i < n → first.rotations[i]? = some r → second.rotations[i]? = some r' → r = r') :
    state.kem_public_key = state'.kem_public_key ∧ state.sig_public_key = state'.sig_public_key ∧
      state.next_key_commitment = state'.next_key_commitment := by
  cases n with
  | zero =>
    have hinception : first.inception_state = state := by simpa [KeyLineage.states] using hstate
    have hinception' : second.inception_state = state' := by simpa [KeyLineage.states] using hstate'
    subst hinception hinception'
    exact ⟨hkem, hsig, hfirst.inception_commitment.trans hsecond.inception_commitment.symm⟩
  | succ i =>
    simp only [KeyLineage.states, List.getElem?_cons_succ, List.getElem?_map, Option.map_eq_some_iff]
      at hstate hstate'
    obtain ⟨r, hr, rfl⟩ := hstate
    obtain ⟨r', hr', rfl⟩ := hstate'
    obtain rfl := hrecords i r r' (Nat.lt_succ_self i) hr hr'
    exact ⟨rfl, rfl, rfl⟩

/-- The evidence that two records over one state leave: both carry the previous
    key's authorization, or both reveal the one committed key. -/
def ForkEvidence (crates : Crates) (state state' : KeyState) (r r' : KeyRotation) : Prop :=
  (∃ key, state.sig_public_key = key ∧ state'.sig_public_key = key ∧
    NodeIdentity.verify_external crates key r.signing_input r.authorization SIG_CTX_KEY_ROTATION = .ok true ∧
    NodeIdentity.verify_external crates key r'.signing_input r'.authorization SIG_CTX_KEY_ROTATION = .ok true) ∨
  (∃ key, state.next_key_commitment = some (key_commitment crates key.val) ∧
    state'.next_key_commitment = some (key_commitment crates key.val) ∧
    r.new_sig_public_key = key ∧ r'.new_sig_public_key = key ∧
    NodeIdentity.verify_external crates key r.signing_input r.possession SIG_CTX_KEY_POSSESSION = .ok true ∧
    NodeIdentity.verify_external crates key r'.signing_input r'.possession SIG_CTX_KEY_POSSESSION = .ok true)

theorem Accepts.forkEvidence {crates : Crates} {node_id : Str} {state state' : KeyState} {r r' : KeyRotation}
    (h : Accepts crates node_id state r) (h' : Accepts crates node_id state' r')
    (hsig : state.sig_public_key = state'.sig_public_key)
    (hcommitment : state.next_key_commitment = state'.next_key_commitment)
    {inputs : Set Bytes} (hcollision : Set.InjOn crates.sha256 inputs)
    (hr : commitmentInput r.new_sig_public_key.val ∈ inputs)
    (hr' : commitmentInput r'.new_sig_public_key.val ∈ inputs) : ForkEvidence crates state state' r r' := by
  have hauthorized := h.authorized
  have hauthorized' := h'.authorized
  unfold Authorized at hauthorized hauthorized'
  rw [← hcommitment, ← hsig] at hauthorized'
  cases hvalue : state.next_key_commitment with
  | none =>
    rw [hvalue] at hauthorized hauthorized'
    exact .inl ⟨_, rfl, hsig.symm, hauthorized, hauthorized'⟩
  | some commitment =>
    rw [hvalue] at hauthorized hauthorized'
    obtain ⟨rfl, _⟩ := hauthorized
    have hinput := hcollision hr' hr hauthorized'.1
    have hkey : r'.new_sig_public_key = r.new_sig_public_key := Subtype.ext (List.append_cancel_left hinput)
    exact .inr ⟨_, hvalue, hcommitment ▸ hvalue, rfl, hkey, h.possession, hkey ▸ h'.possession⟩

/-- Two verified lineages of one node begin with the same keys. One extends the
    other, with the same keys at every common sequence, or at the first position
    where they differ one key signed for both. -/
theorem KeyLineage.divergence_exposes_fork {crates : Crates} {first second : KeyLineage} {bytes bytes' : Bytes}
    (hfirst : KeyLineage.decode crates bytes = .ok first)
    (hsecond : KeyLineage.decode crates bytes' = .ok second) (hid : first.node_id = second.node_id)
    (hcollision : Set.InjOn crates.sha256 (first.hashInputs ∪ second.hashInputs)) :
    first.inception_state.kem_public_key = second.inception_state.kem_public_key ∧
    first.inception_state.sig_public_key = second.inception_state.sig_public_key ∧
    (((first.rotations <+: second.rotations ∨ second.rotations <+: first.rotations) ∧
        ∀ (n : Nat) (state state' : KeyState), first.states[n]? = some state → second.states[n]? = some state' →
          state.kem_public_key = state'.kem_public_key ∧ state.sig_public_key = state'.sig_public_key) ∨
      ∃ (before : List KeyRotation) (r r' : KeyRotation) (after after' : List KeyRotation) (state state' : KeyState),
        r ≠ r' ∧ first.rotations = before ++ r :: after ∧ second.rotations = before ++ r' :: after' ∧
        first.states[before.length]? = some state ∧ second.states[before.length]? = some state' ∧
        ForkEvidence crates state state' r r') := by
  have hvalid := KeyLineage.decode_valid hfirst
  have hvalid' := KeyLineage.decode_valid hsecond
  obtain ⟨hkem, hsig⟩ := hvalid.inception_keys_eq hvalid' hid hcollision
  refine ⟨hkem, hsig, ?_⟩
  rcases prefix_or_part first.rotations second.rotations with
    hinitial | ⟨before, r, r', after, after', hne, hrotations, hrotations'⟩
  · refine .inl ⟨hinitial, ?_⟩
    intro n state state' hstate hstate'
    have hrecords : ∀ i r r', i < n → first.rotations[i]? = some r → second.rotations[i]? = some r' →
        r = r' := by
      intro i r r' _ hr hr'
      rcases hinitial with ⟨tail, htail⟩ | ⟨tail, htail⟩
      · rw [← htail, List.getElem?_append_left (List.getElem?_eq_some_iff.mp hr).1] at hr'
        exact Option.some.inj (hr.symm.trans hr')
      · rw [← htail, List.getElem?_append_left (List.getElem?_eq_some_iff.mp hr').1] at hr
        exact Option.some.inj (hr.symm.trans hr')
    obtain ⟨hkemAt, hsigAt, _⟩ := hvalid.states_agree hvalid' hkem hsig hstate hstate' hrecords
    exact ⟨hkemAt, hsigAt⟩
  · obtain ⟨state, hstate, haccepts⟩ := hvalid.accepts_at hrotations
    obtain ⟨state', hstate', haccepts'⟩ := hvalid'.accepts_at hrotations'
    have hrecords : ∀ i r r', i < before.length → first.rotations[i]? = some r →
        second.rotations[i]? = some r' → r = r' := by
      intro i r r' hi hr hr'
      rw [hrotations, List.getElem?_append_left hi] at hr
      rw [hrotations', List.getElem?_append_left hi] at hr'
      exact Option.some.inj (hr.symm.trans hr')
    obtain ⟨_, hsigAt, hcommitmentAt⟩ := hvalid.states_agree hvalid' hkem hsig hstate hstate' hrecords
    have hr : r ∈ first.rotations := by simp [hrotations]
    have hr' : r' ∈ second.rotations := by simp [hrotations']
    exact .inr ⟨before, r, r', after, after', state, state', hne, hrotations, hrotations', hstate, hstate',
      haccepts.forkEvidence (hid ▸ haccepts') hsigAt hcommitmentAt hcollision
        (.inl (.inr (.inr ⟨r, hr, rfl⟩))) (.inr (.inr (.inr ⟨r', hr', rfl⟩)))⟩

end witan.rotation

namespace witan.reference

open witan.rotation

/-- The state after node 1 moved to the keys of node 2. -/
def movedState : KeyState := ⟨1, kemPublicKey 2, sigPublicKey 2, firstEpoch, none⟩

/-- What is hashed when node 1's lineage is verified after that move. -/
def movedInputs : List Bytes :=
  [(kemPublicKey 1).val ++ (sigPublicKey 1).val, (lineage 1).current.digestInput (lineage 1).node_id,
    movedState.digestInput (lineage 1).node_id, commitmentInput (sigPublicKey 2).val]

theorem movedInputs_collisionFree : Set.InjOn crates.sha256 {input | input ∈ movedInputs} := by
  have hnodup : (movedInputs.map digest).Nodup := by decide +kernel
  intro input hinput input' hinput' hdigest
  exact List.inj_on_of_nodup_map hnodup hinput hinput' hdigest

/-- Node 1 can move to the keys of node 2 at any time, and the time is all that
    the lineage keeps of it outside the key state. -/
theorem moves (now_ms : UInt64) :
    ∃ r, ((lineage 1).extend r).Reachable crates ∧ r.newState = movedState ∧ r.timestamp_unix_ms = now_ms ∧
      ((lineage 1).extend r).size ≤ MAX_LINEAGE_BYTES := by
  obtain ⟨r, hrotate⟩ := lineage_rotates 1 2 none now_ms
  have hreachable := (lineage_reachable 1).rotate (node 1) (node 2) none now_ms
  rw [hrotate] at hreachable
  have hbuild := (KeyLineage.rotate_eq_ok hrotate).2
  obtain ⟨kem, authorization, possession, hkem, hr, _, _, _⟩ := KeyLineage.build_and_apply_eq_ok hbuild
  have hkemEq : kemPublicKey 2 = kem := Except.ok.inj ((kem_public_key_bytes_eq 2).symm.trans hkem)
  have hstate : r.newState = movedState := by
    rw [hr, ← hkemEq]
    rfl
  refine ⟨r, hreachable, hstate, by rw [hr]; rfl, ?_⟩
  rw [(lineage_reachable 1).valid.built_size signatureLengths hbuild]
  decide +kernel

theorem moved_hashInputs {r : KeyRotation} (hr : r.newState = movedState) :
    ((lineage 1).extend r).hashInputs ⊆ {input | input ∈ movedInputs} := by
  have hkey : r.new_sig_public_key = sigPublicKey 2 := congrArg KeyState.sig_public_key hr
  rintro input (rfl | ⟨state, hstate, rfl⟩ | ⟨r', hr', rfl⟩)
  · exact List.mem_cons_self
  · rcases List.mem_cons.mp hstate with rfl | hstate
    · exact List.mem_cons_of_mem _ List.mem_cons_self
    · obtain rfl : state = r.newState := List.mem_singleton.mp hstate
      rw [hr]
      exact List.mem_cons_of_mem _ (List.mem_cons_of_mem _ List.mem_cons_self)
  · obtain rfl : r' = r := List.mem_singleton.mp hr'
    rw [hkey]
    exact List.mem_cons_of_mem _ (List.mem_cons_of_mem _ (List.mem_cons_of_mem _ List.mem_cons_self))

/-- Two moves of node 1 to the keys of node 2, at different times. -/
theorem forks : ∃ r r', r ≠ r' ∧ r.newState = movedState ∧ r'.newState = movedState ∧
    ((lineage 1).extend r).Reachable crates ∧ ((lineage 1).extend r').Reachable crates ∧
    ((lineage 1).extend r).size ≤ MAX_LINEAGE_BYTES ∧
    ((lineage 1).extend r').size ≤ MAX_LINEAGE_BYTES ∧
    Set.InjOn crates.sha256 (((lineage 1).extend r).hashInputs ∪ ((lineage 1).extend r').hashInputs) := by
  obtain ⟨r, hreachable, hstate, htime, hsize⟩ := moves 0
  obtain ⟨r', hreachable', hstate', htime', hsize'⟩ := moves 1
  refine ⟨r, r', ?_, hstate, hstate', hreachable, hreachable', hsize, hsize', ?_⟩
  · rintro rfl
    rw [htime] at htime'
    exact absurd htime' (by decide)
  · exact movedInputs_collisionFree.mono (Set.union_subset (moved_hashInputs hstate) (moved_hashInputs hstate'))

end witan.reference

namespace witan.rotation

theorem KeyLineage.divergence_exposes_fork_reference :
    ∃ first second : KeyLineage, first.node_id = second.node_id ∧ first.rotations ≠ second.rotations ∧
      first.inception_state.sig_public_key = second.inception_state.sig_public_key := by
  obtain ⟨r, r', hne, _, _, hreachable, hreachable', hsize, hsize', hcollision⟩ := reference.forks
  refine ⟨(reference.lineage 1).extend r, (reference.lineage 1).extend r', rfl, ?_, ?_⟩
  · intro hequal
    exact hne (List.singleton_inj.mp hequal)
  · exact (KeyLineage.divergence_exposes_fork ((hreachable.valid.decode_iff rfl).mpr hsize)
      ((hreachable'.valid.decode_iff rfl).mpr hsize') rfl hcollision).2.1

end witan.rotation
