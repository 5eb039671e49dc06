import Witan.Rotation.Building

open bincode fallible
open witan.types witan.error witan.identity

namespace witan.rotation

/-- The lineages that any sequence of calls, successful or failing, can produce. -/
inductive KeyLineage.Reachable (crates : Crates) : KeyLineage → Prop where
  | inception {kem_public_key sig_public_key : ByteVec} {key_epoch : Str} {self : KeyLineage}
      (h : KeyLineage.inception crates kem_public_key sig_public_key key_epoch = .ok self) :
      Reachable crates self
  | from_identity {identity : NodeIdentity crates} {self : KeyLineage}
      (h : KeyLineage.from_identity identity = .ok self) : Reachable crates self
  | decode {bytes : Bytes} {self : KeyLineage} (h : KeyLineage.decode crates bytes = .ok self) :
      Reachable crates self
  | apply {self : KeyLineage} (h : Reachable crates self) (r : KeyRotation) :
      Reachable crates (final (KeyLineage.apply crates r self))
  | rotate {self : KeyLineage} (h : Reachable crates self) (current next : NodeIdentity crates)
      (commitment : Option Bytes32) (now_ms : UInt64) :
      Reachable crates (final (KeyLineage.rotate current next commitment now_ms self))
  | recover {self : KeyLineage} (h : Reachable crates self) (next : NodeIdentity crates)
      (commitment : Option Bytes32) (now_ms : UInt64) :
      Reachable crates (final (KeyLineage.recover next commitment now_ms self))

/-- The lineage before its first rotation. -/
def KeyLineage.start (self : KeyLineage) : KeyLineage :=
  { self with rotations := [], current := self.inception_state }

/-- Verify the next record and move on to the state it installs. -/
def KeyLineage.advance (crates : Crates) (self : KeyLineage) (r : KeyRotation) : Except GossipError KeyLineage := do
  let next ← self.verify_next crates r
  return { self with rotations := self.rotations ++ [r], current := next }

/-- Verify records in order, starting from a lineage. -/
def KeyLineage.replay (crates : Crates) (self : KeyLineage) (records : List KeyRotation) :
    Except GossipError KeyLineage :=
  records.foldlM (KeyLineage.advance crates) self

/-- A valid chain: the id is derived from the inception keys, the records are
    numbered from one under that id, and verifying them again from the
    inception state succeeds at every step and ends at the current state. -/
structure KeyLineage.Valid (crates : Crates) (lineage : KeyLineage) : Prop where
  node_id_eq : lineage.node_id = NodeIdentity.derive_node_id crates
    lineage.inception_state.kem_public_key.val lineage.inception_state.sig_public_key.val
  kem_length : lineage.inception_state.kem_public_key.val.length = KEM_PK_LEN
  sig_length : lineage.inception_state.sig_public_key.val.length = SIG_PK_LEN
  inception_sequence : lineage.inception_state.sequence = 0
  inception_commitment : lineage.inception_state.next_key_commitment = none
  length_eq : lineage.rotations.length = lineage.current.sequence.toNat
  records : ∀ i r, lineage.rotations[i]? = some r → r.sequence.toNat = i + 1 ∧ r.node_id = lineage.node_id
  replay_eq : lineage.start.replay crates lineage.rotations = .ok lineage

theorem KeyLineage.advance_eq_ok_iff {crates : Crates} {self after : KeyLineage} {r : KeyRotation} :
    self.advance crates r = .ok after ↔
      Accepts crates self.node_id self.current r ∧ after = self.extend r := by
  unfold KeyLineage.advance
  simp only [except_bind_eq_ok_iff, KeyLineage.verify_next_eq_ok_iff, pure, Except.pure, Except.ok.injEq]
  constructor
  · rintro ⟨_, ⟨haccepts, rfl⟩, rfl⟩
    exact ⟨haccepts, rfl⟩
  · rintro ⟨haccepts, rfl⟩
    exact ⟨_, ⟨haccepts, rfl⟩, rfl⟩

theorem KeyLineage.replay_cons_eq_ok_iff {crates : Crates} {self after : KeyLineage} {r : KeyRotation}
    {records : List KeyRotation} :
    self.replay crates (r :: records) = .ok after ↔
      Accepts crates self.node_id self.current r ∧ (self.extend r).replay crates records = .ok after := by
  unfold KeyLineage.replay
  rw [List.foldlM_cons, except_bind_eq_ok_iff]
  constructor
  · rintro ⟨middle, hadvance, htail⟩
    obtain ⟨haccepts, rfl⟩ := KeyLineage.advance_eq_ok_iff.mp hadvance
    exact ⟨haccepts, htail⟩
  · rintro ⟨haccepts, htail⟩
    exact ⟨_, KeyLineage.advance_eq_ok_iff.mpr ⟨haccepts, rfl⟩, htail⟩

theorem KeyLineage.replay_append_eq_ok_iff {crates : Crates} {self after : KeyLineage}
    {first second : List KeyRotation} :
    self.replay crates (first ++ second) = .ok after ↔
      ∃ middle, self.replay crates first = .ok middle ∧ middle.replay crates second = .ok after := by
  unfold KeyLineage.replay
  rw [List.foldlM_append, except_bind_eq_ok_iff]

/-- Replaying records only appends them; the id and the inception state stay. -/
theorem KeyLineage.replay_frame {crates : Crates} {self after : KeyLineage} {records : List KeyRotation}
    (h : self.replay crates records = .ok after) :
    after.node_id = self.node_id ∧ after.inception_state = self.inception_state ∧
      after.rotations = self.rotations ++ records := by
  induction records generalizing self with
  | nil =>
    have heq : self = after := Except.ok.inj h
    simp [heq]
  | cons r records ih =>
    obtain ⟨_, htail⟩ := KeyLineage.replay_cons_eq_ok_iff.mp h
    obtain ⟨hid, hinception, hrotations⟩ := ih htail
    refine ⟨hid, hinception, ?_⟩
    rw [hrotations]
    simp [KeyLineage.extend]

theorem KeyLineage.inception_eq_ok_iff {crates : Crates} {kem sig : ByteVec} {epoch : Str} {self : KeyLineage} :
    KeyLineage.inception crates kem sig epoch = .ok self ↔
      kem.val.length = KEM_PK_LEN ∧ sig.val.length = SIG_PK_LEN ∧
        self = ⟨NodeIdentity.derive_node_id crates kem.val sig.val, ⟨0, kem, sig, epoch, none⟩, [],
          ⟨0, kem, sig, epoch, none⟩⟩ := by
  unfold KeyLineage.inception
  simp only [except_bind_eq_ok_iff, check_key_lengths_eq_ok_iff, exists_const, pure, Except.pure,
    Except.ok.injEq, and_assoc]
  constructor
  · rintro ⟨hkem, hsig, rfl⟩
    exact ⟨hkem, hsig, rfl⟩
  · rintro ⟨hkem, hsig, rfl⟩
    exact ⟨hkem, hsig, rfl⟩

theorem KeyLineage.inception_valid {crates : Crates} {kem sig : ByteVec} {epoch : Str} {self : KeyLineage}
    (h : KeyLineage.inception crates kem sig epoch = .ok self) : self.Valid crates := by
  obtain ⟨hkem, hsig, rfl⟩ := KeyLineage.inception_eq_ok_iff.mp h
  exact ⟨rfl, hkem, hsig, rfl, rfl, rfl, by simp, rfl⟩

/-- Appending a record that the rules accept keeps a lineage valid. -/
theorem KeyLineage.Valid.extend {crates : Crates} {self : KeyLineage} (hvalid : self.Valid crates)
    {r : KeyRotation} (haccepts : Accepts crates self.node_id self.current r) :
    (self.extend r).Valid crates := by
  refine ⟨hvalid.node_id_eq, hvalid.kem_length, hvalid.sig_length, hvalid.inception_sequence,
    hvalid.inception_commitment, ?_, ?_, ?_⟩
  · have hsequence := haccepts.sequence
    have hlength := hvalid.length_eq
    simp only [KeyLineage.extend, KeyRotation.newState, List.length_append, List.length_singleton]
    omega
  · intro i record hrecord
    change (self.rotations ++ [r])[i]? = some record at hrecord
    by_cases hi : i < self.rotations.length
    · rw [List.getElem?_append_left hi] at hrecord
      exact hvalid.records i record hrecord
    · rw [List.getElem?_append_right (by omega)] at hrecord
      have hlast : i - self.rotations.length = 0 := by
        by_contra hne
        rw [List.getElem?_eq_none (by simp only [List.length_singleton]; omega)] at hrecord
        cases hrecord
      rw [hlast] at hrecord
      have heq : r = record := by simpa using hrecord
      subst heq
      refine ⟨?_, haccepts.node_id_eq⟩
      have hsequence := haccepts.sequence
      have hlength := hvalid.length_eq
      omega
  · exact KeyLineage.replay_append_eq_ok_iff.mpr ⟨self, hvalid.replay_eq,
      KeyLineage.replay_cons_eq_ok_iff.mpr ⟨haccepts, rfl⟩⟩

/-- The decoder's loop is the replay of its records. -/
theorem KeyLineage.decode_rotations_eq_ok_iff {crates : Crates} {self after : KeyLineage}
    {records : List KeyRotation} :
    KeyLineage.decode_rotations crates self records = .ok after ↔
      self.replay crates records = .ok after := by
  induction records generalizing self with
  | nil => rfl
  | cons r records ih =>
    rw [KeyLineage.replay_cons_eq_ok_iff]
    unfold KeyLineage.decode_rotations
    constructor
    · intro h
      split at h
      · cases h
      · next hsequence =>
        split at h
        · next lineage happly =>
          rcases KeyLineage.apply_eq_ok_iff.mp happly with ⟨_, hle, _, _⟩ | ⟨_, haccepts, rfl⟩
          · have hnat := UInt64.le_iff_toNat_le.mp hle
            omega
          · exact ⟨haccepts, ih.mp h⟩
        · cases h
    · rintro ⟨haccepts, htail⟩
      rw [if_neg (by simp [haccepts.sequence]), KeyLineage.apply_of_accepts haccepts]
      exact ih.mpr htail

theorem KeyLineage.Valid.replay {crates : Crates} {self after : KeyLineage} (hvalid : self.Valid crates)
    {records : List KeyRotation} (h : self.replay crates records = .ok after) : after.Valid crates := by
  induction records generalizing self with
  | nil =>
    have heq : self = after := Except.ok.inj h
    exact heq ▸ hvalid
  | cons r records ih =>
    obtain ⟨haccepts, htail⟩ := KeyLineage.replay_cons_eq_ok_iff.mp h
    exact ih (hvalid.extend haccepts) htail

end witan.rotation
