import Witan.Reference
import Witan.Rotation.Validity

open bincode fallible
open witan.types witan.error witan.identity

namespace witan.rotation

/-- The decoder accepts the encodings of wire values whose records replay from
    the inception state they start with. -/
theorem KeyLineage.decode_eq_ok_iff {crates : Crates} {bytes : Bytes} {self : KeyLineage} :
    KeyLineage.decode crates bytes = .ok self ↔
      bytes.length ≤ MAX_LINEAGE_BYTES ∧ ∃ wire, bytes = LineageWire.codec.encode wire ∧
        wire.version = LINEAGE_VERSION ∧
        ∃ start, KeyLineage.inception crates wire.inception_kem_public_key wire.inception_sig_public_key
          wire.inception_key_epoch = .ok start ∧ start.replay crates wire.rotations.val = .ok self := by
  unfold KeyLineage.decode
  simp only [except_bind_eq_ok_iff, failIf_eq_ok_iff, orFail_eq_ok_iff, exists_const, gt_iff_lt, not_lt,
    not_not, KeyLineage.decode_rotations_eq_ok_iff, LineageWire.codec.decodeExact_eq_some_iff]

theorem KeyLineage.decode_valid {crates : Crates} {bytes : Bytes} {self : KeyLineage}
    (h : KeyLineage.decode crates bytes = .ok self) : self.Valid crates := by
  obtain ⟨_, wire, _, _, start, hstart, hreplay⟩ := KeyLineage.decode_eq_ok_iff.mp h
  exact (KeyLineage.inception_valid hstart).replay hreplay

theorem KeyLineage.from_identity_eq_ok_iff {crates : Crates} {identity : NodeIdentity crates} {self : KeyLineage} :
    KeyLineage.from_identity identity = .ok self ↔
      ∃ kem, identity.kem_public_key_canonical_bytes = .ok kem ∧
        KeyLineage.inception crates kem identity.sig_public_key_bytes identity.key_epoch = .ok self ∧
        self.node_id = identity.node_id := by
  unfold KeyLineage.from_identity
  simp only [except_bind_eq_ok_iff, failIf_eq_ok_iff, exists_const, not_not, pure, Except.pure,
    Except.ok.injEq]
  constructor
  · rintro ⟨kem, hkem, lineage, hlineage, hid, rfl⟩
    exact ⟨kem, hkem, hlineage, hid⟩
  · rintro ⟨kem, hkem, hlineage, hid⟩
    exact ⟨kem, hkem, self, hlineage, hid, rfl⟩

/-- What a building call leaves behind: the lineage itself, or its extension by
    a record that the rules accept. -/
theorem KeyLineage.final_build {crates : Crates} {self : KeyLineage}
    {result : EStateM.Result GossipError KeyLineage KeyRotation}
    (hok : ∀ r after, result = .ok r after →
      Accepts crates self.node_id self.current r ∧ after = self.extend r)
    (herror : ∀ error after, result = .error error after → after = self) :
    final result = self ∨
      ∃ r, Accepts crates self.node_id self.current r ∧ final result = self.extend r := by
  cases result with
  | ok r after => exact .inr ⟨r, hok r after rfl⟩
  | error error after => exact .inl (herror error after rfl)

theorem KeyLineage.final_rotate {crates : Crates} (self : KeyLineage) (current next : NodeIdentity crates)
    (commitment : Option Bytes32) (now_ms : UInt64) :
    final (KeyLineage.rotate current next commitment now_ms self) = self ∨
      ∃ r, Accepts crates self.node_id self.current r ∧
        final (KeyLineage.rotate current next commitment now_ms self) = self.extend r := by
  refine KeyLineage.final_build ?_ fun _ _ h => KeyLineage.rotate_eq_error h
  intro r after h
  obtain ⟨_, _, _, _, _, _, haccepts, hafter⟩ :=
    KeyLineage.build_and_apply_eq_ok (KeyLineage.rotate_eq_ok h).2
  exact ⟨haccepts, hafter⟩

theorem KeyLineage.final_recover {crates : Crates} (self : KeyLineage) (next : NodeIdentity crates)
    (commitment : Option Bytes32) (now_ms : UInt64) :
    final (KeyLineage.recover next commitment now_ms self) = self ∨
      ∃ r, Accepts crates self.node_id self.current r ∧
        final (KeyLineage.recover next commitment now_ms self) = self.extend r := by
  refine KeyLineage.final_build ?_ fun _ _ h => KeyLineage.recover_eq_error h
  intro r after h
  obtain ⟨_, _, _, _, _, _, haccepts, hafter⟩ :=
    KeyLineage.build_and_apply_eq_ok (KeyLineage.recover_eq_ok h).2
  exact ⟨haccepts, hafter⟩

/-- Holding a lineage means holding a valid chain. -/
theorem KeyLineage.Reachable.valid {crates : Crates} {self : KeyLineage}
    (h : KeyLineage.Reachable crates self) : self.Valid crates := by
  induction h with
  | inception h => exact KeyLineage.inception_valid h
  | from_identity h =>
    obtain ⟨_, _, hinception, _⟩ := KeyLineage.from_identity_eq_ok_iff.mp h
    exact KeyLineage.inception_valid hinception
  | decode h => exact KeyLineage.decode_valid h
  | @apply self _ r ih =>
    rcases self.final_apply r with hsame | ⟨haccepts, hextend⟩
    · rwa [hsame]
    · rw [hextend]
      exact ih.extend haccepts
  | @rotate self _ current next commitment now_ms ih =>
    rcases self.final_rotate current next commitment now_ms with hsame | ⟨r, haccepts, hextend⟩
    · rwa [hsame]
    · rw [hextend]
      exact ih.extend haccepts
  | @recover self _ next commitment now_ms ih =>
    rcases self.final_recover next commitment now_ms with hsame | ⟨r, haccepts, hextend⟩
    · rwa [hsame]
    · rw [hextend]
      exact ih.extend haccepts

/-- A valid lineage starts at the inception that its own first keys give. -/
theorem KeyLineage.Valid.inception_eq {crates : Crates} {self : KeyLineage} (hvalid : self.Valid crates) :
    KeyLineage.inception crates self.inception_state.kem_public_key self.inception_state.sig_public_key
      self.inception_state.key_epoch = .ok self.start := by
  have hstate : self.inception_state = ⟨0, self.inception_state.kem_public_key,
      self.inception_state.sig_public_key, self.inception_state.key_epoch, none⟩ := by
    have hsequence := hvalid.inception_sequence
    have hcommitment := hvalid.inception_commitment
    revert hsequence hcommitment
    cases self.inception_state
    rintro rfl rfl
    rfl
  refine KeyLineage.inception_eq_ok_iff.mpr ⟨hvalid.kem_length, hvalid.sig_length, ?_⟩
  unfold KeyLineage.start
  rw [← hvalid.node_id_eq, ← hstate]

/-- A valid lineage never has more records than a `Vec` can hold. -/
theorem KeyLineage.Valid.wire_rotations {crates : Crates} {self : KeyLineage} (hvalid : self.Valid crates) :
    self.wire.rotations.val = self.rotations := by
  refine Vec.ofList_val ?_
  rw [hvalid.length_eq]
  exact self.current.sequence.toNat_lt

/-- The last record of a valid chain replaced the state of a valid chain: the one
    that the records before it lead to. -/
theorem KeyLineage.Valid.before_last {crates : Crates} {self : KeyLineage} (hvalid : self.Valid crates)
    {before : List KeyRotation} {r : KeyRotation} (hrotations : self.rotations = before ++ [r]) :
    ∃ previous, self.start.replay crates before = .ok previous ∧ previous.Valid crates ∧
      Accepts crates previous.node_id previous.current r ∧ self = previous.extend r := by
  have hreplay := hvalid.replay_eq
  rw [hrotations] at hreplay
  obtain ⟨previous, hbefore, hlast⟩ := KeyLineage.replay_append_eq_ok_iff.mp hreplay
  obtain ⟨haccepts, hrest⟩ := KeyLineage.replay_cons_eq_ok_iff.mp hlast
  have hprevious := (KeyLineage.inception_valid hvalid.inception_eq).replay hbefore
  exact ⟨previous, hbefore, hprevious, haccepts, (Except.ok.inj hrest).symm⟩

/-- A replay over at least one record ends at the state the last one installs. -/
theorem KeyLineage.replay_concat_current {crates : Crates} {self after : KeyLineage}
    {records : List KeyRotation} {r : KeyRotation}
    (h : self.replay crates (records ++ [r]) = .ok after) : after.current = r.newState := by
  obtain ⟨middle, _, hlast⟩ := KeyLineage.replay_append_eq_ok_iff.mp h
  obtain ⟨_, hrest⟩ := KeyLineage.replay_cons_eq_ok_iff.mp hlast
  have heq : middle.extend r = after := Except.ok.inj hrest
  exact heq ▸ rfl

theorem KeyLineage.previous_sig_public_key_concat {crates : Crates} {self previous : KeyLineage}
    {before : List KeyRotation} {r : KeyRotation} (hrotations : self.rotations = before ++ [r])
    (hprevious : self.start.replay crates before = .ok previous) :
    self.previous_sig_public_key = some previous.current.sig_public_key := by
  unfold KeyLineage.previous_sig_public_key
  rcases List.eq_nil_or_concat before with rfl | ⟨earlier, last, rfl⟩
  · have hstart : self.start = previous := Except.ok.inj hprevious
    rw [hrotations, ← hstart]
    rfl
  · have hcurrent := KeyLineage.replay_concat_current (by simpa using hprevious)
    have hlength : self.rotations.length = earlier.length + 2 := by simp [hrotations]
    rw [hlength, hcurrent]
    simp [hrotations, KeyRotation.newState]

theorem KeyLineage.previous_sig_public_key_eq_none_iff {self : KeyLineage} :
    self.previous_sig_public_key = none ↔ self.rotations = [] := by
  unfold KeyLineage.previous_sig_public_key
  rcases hrotations : self.rotations with _ | ⟨first, _ | ⟨second, rest⟩⟩
  · simp
  · simp
  · simp only [List.length_cons, reduceCtorEq, iff_false, Option.map_eq_none_iff]
    rw [List.getElem?_eq_none_iff]
    simp only [List.length_cons]
    omega

/-- Every lineage, however it was obtained, is a valid chain; so `apply` indexes
    within range, and the previous key is that of the state before the current
    one, absent exactly before the first rotation. -/
theorem KeyLineage.Reachable.chain {crates : Crates} {self : KeyLineage}
    (h : KeyLineage.Reachable crates self) :
    self.node_id = NodeIdentity.derive_node_id crates self.inception_state.kem_public_key.val
        self.inception_state.sig_public_key.val ∧
      self.rotations.length = self.current.sequence.toNat ∧
      (∀ i r, self.rotations[i]? = some r → r.sequence.toNat = i + 1 ∧ r.node_id = self.node_id) ∧
      self.start.replay crates self.rotations = .ok self ∧
      (∀ r : KeyRotation, 1 ≤ r.sequence → r.sequence ≤ self.current.sequence →
        r.sequence.toNat - 1 < self.rotations.length) ∧
      (∀ before r, self.rotations = before ++ [r] →
        ∃ previous, self.start.replay crates before = .ok previous ∧
          self.previous_sig_public_key = some previous.current.sig_public_key) ∧
      (self.previous_sig_public_key = none ↔ self.rotations = []) := by
  have hvalid := h.valid
  refine ⟨hvalid.node_id_eq, hvalid.length_eq, hvalid.records, hvalid.replay_eq, ?_, ?_,
    KeyLineage.previous_sig_public_key_eq_none_iff⟩
  · intro r hlow hhigh
    have hlow' : 1 ≤ r.sequence.toNat := UInt64.le_iff_toNat_le.mp hlow
    have hhigh' := UInt64.le_iff_toNat_le.mp hhigh
    have hlength := hvalid.length_eq
    omega
  · intro before r hrotations
    obtain ⟨previous, hprevious, _, _, _⟩ := hvalid.before_last hrotations
    exact ⟨previous, hprevious, KeyLineage.previous_sig_public_key_concat hrotations hprevious⟩

end witan.rotation

namespace witan.reference

open witan.rotation

def firstEpoch : Str := ⟨"0", by decide⟩

/-- The node whose two keypairs are both `key`. -/
def node (key : UInt8) : NodeIdentity crates := nodeAt key firstEpoch

/-- The lineage of a node that never rotated. -/
def lineageAt (key : UInt8) (key_epoch : Str) : KeyLineage :=
  let state : KeyState := ⟨0, kemPublicKey key, sigPublicKey key, key_epoch, none⟩
  ⟨(nodeAt key key_epoch).node_id, state, [], state⟩

def lineage (key : UInt8) : KeyLineage := lineageAt key firstEpoch

theorem from_identity_nodeAt (key : UInt8) (key_epoch : Str) :
    KeyLineage.from_identity (nodeAt key key_epoch) = .ok (lineageAt key key_epoch) :=
  KeyLineage.from_identity_eq_ok_iff.mpr ⟨kemPublicKey key, kem_public_key_bytes_eq key,
    KeyLineage.inception_eq_ok_iff.mpr
      ⟨stretched_length 1216 (by decide) key, stretched_length 1952 (by decide) key, rfl⟩, rfl⟩

theorem lineage_reachable (key : UInt8) : (lineage key).Reachable crates :=
  .from_identity (from_identity_nodeAt key _)

theorem lineageAt_rotates (key : UInt8) (key_epoch : Str) (next : NodeIdentity crates)
    (commitment : Option Bytes32) (now_ms : UInt64) :
    ∃ r, KeyLineage.rotate (nodeAt key key_epoch) next commitment now_ms (lineageAt key key_epoch) =
      .ok r ((lineageAt key key_epoch).extend r) := by
  have hroom : (lineageAt key key_epoch).current.sequence.toNat + 1 < 2 ^ 64 := by
    change 0 + 1 < 2 ^ 64
    decide
  exact KeyLineage.rotate_succeeds signatureCorrect keyLengths rfl (fun _ h => by cases h) hroom
    commitment now_ms

theorem lineage_rotates (key next : UInt8) (commitment : Option Bytes32) (now_ms : UInt64) :
    ∃ r, KeyLineage.rotate (node key) (node next) commitment now_ms (lineage key) =
      .ok r ((lineage key).extend r) :=
  lineageAt_rotates key _ (node next) commitment now_ms

end witan.reference

namespace witan.rotation

theorem KeyLineage.Reachable.chain_after_rotation :
    ∃ self : KeyLineage, self.Reachable reference.crates ∧ self.rotations.length = 1 ∧
      self.start.replay reference.crates self.rotations = .ok self ∧
      self.previous_sig_public_key ≠ none := by
  obtain ⟨r, hrotate⟩ := reference.lineage_rotates 1 2 none 0
  have hreachable := (reference.lineage_reachable 1).rotate (reference.node 1) (reference.node 2) none 0
  rw [hrotate] at hreachable
  obtain ⟨_, _, _, hreplay, _, _, hprevious⟩ := KeyLineage.Reachable.chain hreachable
  refine ⟨_, hreachable, rfl, hreplay, ?_⟩
  rw [Ne, hprevious]
  exact List.cons_ne_nil _ _

end witan.rotation
