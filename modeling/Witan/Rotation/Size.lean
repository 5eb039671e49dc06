import Witan.Rotation.Reachability

open bincode fallible
open witan.types witan.error witan.identity

namespace witan.rotation

/-- Bytes of an optional 32-byte commitment. -/
def commitmentSize (committed : Bool) : Nat := if committed then 33 else 1

/-- Bytes of a record: the length words and fixed fields, then the variable ones. -/
def KeyRotation.size (self : KeyRotation) : Nat :=
  97 + self.node_id.bytes.val.length + self.new_kem_public_key.val.length +
    self.new_sig_public_key.val.length + self.new_key_epoch.bytes.val.length +
    commitmentSize self.next_key_commitment.isSome + self.authorization.val.length + self.possession.val.length

/-- Bytes of a lineage: the inception keys and their label, then the records. -/
def KeyLineage.size (self : KeyLineage) : Nat :=
  33 + self.inception_state.kem_public_key.val.length + self.inception_state.sig_public_key.val.length +
    self.inception_state.key_epoch.bytes.val.length + (self.rotations.map KeyRotation.size).sum

theorem option_array_encode_length (commitment : Option Bytes32) :
    ((option (array 32)).encode commitment).length = commitmentSize commitment.isSome := by
  cases commitment with
  | none => rfl
  | some value => simp [option, commitmentSize, value.property]

theorem KeyRotation.encode_length (self : KeyRotation) : (KeyRotation.codec.encode self).length = self.size := by
  simp only [KeyRotation.size, KeyRotation.codec, Codec.record_encode, Codec.pair_encode,
    string_encode, bytes_encode, array_encode, u8_encode, List.length_append, List.length_singleton,
    u64_encode_length, self.prev_state_digest.property, option_array_encode_length]
  omega

theorem KeyLineage.Valid.encode_length {crates : Crates} {self : KeyLineage} (hvalid : self.Valid crates)
    {bytes : Bytes} (hencode : self.encode = .ok bytes) : bytes.length = self.size := by
  have hbytes : LineageWire.codec.encode self.wire = bytes := Except.ok.inj hencode
  have hrotations : self.wire.rotations.val = self.rotations := hvalid.wire_rotations
  have hrecords : self.rotations.map (fun r => (KeyRotation.codec.encode r).length) =
      self.rotations.map KeyRotation.size := by
    simp only [KeyRotation.encode_length]
  rw [← hbytes]
  simp only [KeyLineage.size, LineageWire.codec, Codec.record_encode, Codec.pair_encode,
    string_encode, bytes_encode, vec_encode, u8_encode, List.length_append, List.length_singleton,
    u64_encode_length, List.length_flatMap, hrotations, hrecords]
  simp only [KeyLineage.wire]
  omega

/-- Appending a record adds its own size. -/
theorem KeyLineage.size_extend (self : KeyLineage) (r : KeyRotation) :
    (self.extend r).size = self.size + r.size := by
  simp only [KeyLineage.size, KeyLineage.extend, List.map_append, List.map_cons, List.map_nil, List.sum_append,
    List.sum_cons, List.sum_nil]
  omega

/-- The size of the record that moves a lineage to keys with the given label. The
    current key signs unless a commitment is in force. -/
def KeyLineage.nextRecordSize (self : KeyLineage) (key_epoch : Str) (committed : Bool) : Nat :=
  97 + 64 + KEM_PK_LEN + SIG_PK_LEN + key_epoch.bytes.val.length + commitmentSize committed +
    (if self.current.next_key_commitment.isSome then 0 else 3309) + 3309

/-- The builder's record has the size that can be told beforehand. -/
theorem KeyLineage.Valid.built_size {crates : Crates} (hsignatures : crates.SignatureLengths)
    {self after : KeyLineage} (hvalid : self.Valid crates) {current : Option (NodeIdentity crates)}
    {next : NodeIdentity crates} {commitment : Option Bytes32} {now_ms : UInt64} {r : KeyRotation}
    (h : KeyLineage.build_and_apply current next commitment now_ms self = .ok r after) :
    after.size = self.size + self.nextRecordSize next.key_epoch commitment.isSome := by
  obtain ⟨kem, authorization, possession, _, hr, hsigned, haccepts, rfl⟩ := KeyLineage.build_and_apply_eq_ok h
  rw [KeyLineage.size_extend]
  have hid : self.node_id.bytes.val.length = 64 := by
    rw [hvalid.node_id_eq]
    exact hex.encode32_bytes_length _
  have hpossession : r.possession.val.length = 3309 :=
    hsignatures.sign _ _ _ (NodeIdentity.sign_eq_ok_iff.mp hsigned.possession).2
  have hauthorization : r.authorization.val.length =
      if self.current.next_key_commitment.isSome then 0 else 3309 := by
    have hsign := hsigned.authorization
    cases hcommitment : self.current.next_key_commitment with
    | some value =>
      rw [hcommitment] at hsign
      dsimp only at hsign
      rw [hsign]
      rfl
    | none =>
      rw [hcommitment] at hsign
      cases current with
      | none => exact hsign.elim
      | some current => exact hsignatures.sign _ _ _ (NodeIdentity.sign_eq_ok_iff.mp hsign).2
  have hnode : r.node_id = self.node_id := haccepts.node_id_eq
  have hepoch : r.new_key_epoch = next.key_epoch := by rw [hr]; rfl
  have hcommits : r.next_key_commitment = commitment := by rw [hr]; rfl
  unfold KeyRotation.size KeyLineage.nextRecordSize
  rw [hnode, hid, haccepts.kem_length, haccepts.sig_length, hepoch, hcommits, hauthorization, hpossession]

end witan.rotation
