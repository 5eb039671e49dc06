import Witan.Rotation.Size

open bincode fallible
open witan.types witan.error witan.identity

namespace witan.rotation

theorem KeyLineage.Valid.decode_encode {crates : Crates} {self : KeyLineage} (hvalid : self.Valid crates)
    {bytes : Bytes} (hencode : self.encode = .ok bytes) (hsize : bytes.length ≤ MAX_LINEAGE_BYTES) :
    KeyLineage.decode crates bytes = .ok self := by
  have hbytes : LineageWire.codec.encode self.wire = bytes := Except.ok.inj hencode
  refine KeyLineage.decode_eq_ok_iff.mpr ⟨hsize, self.wire, hbytes.symm, rfl, self.start,
    hvalid.inception_eq, ?_⟩
  rw [hvalid.wire_rotations]
  exact hvalid.replay_eq

/-- A valid lineage reads back from its encoding exactly if it is small enough. -/
theorem KeyLineage.Valid.decode_iff {crates : Crates} {self : KeyLineage} (hvalid : self.Valid crates)
    {bytes : Bytes} (hencode : self.encode = .ok bytes) :
    KeyLineage.decode crates bytes = .ok self ↔ self.size ≤ MAX_LINEAGE_BYTES := by
  rw [← hvalid.encode_length hencode]
  constructor
  · intro hdecode
    exact (KeyLineage.decode_eq_ok_iff.mp hdecode).1
  · exact hvalid.decode_encode hencode

theorem KeyLineage.encode_decode {crates : Crates} {self : KeyLineage} {bytes : Bytes}
    (hdecode : KeyLineage.decode crates bytes = .ok self) : self.encode = .ok bytes := by
  obtain ⟨_, wire, rfl, hversion, start, hstart, hreplay⟩ := KeyLineage.decode_eq_ok_iff.mp hdecode
  obtain ⟨_, _, rfl⟩ := KeyLineage.inception_eq_ok_iff.mp hstart
  obtain ⟨_, hinception, hrotations⟩ := KeyLineage.replay_frame hreplay
  have hwire : self.wire = wire := by
    have hlist : Vec.ofList self.rotations = wire.rotations := by
      rw [hrotations, List.nil_append]
      exact Subtype.ext (Vec.ofList_val wire.rotations.property)
    unfold KeyLineage.wire
    rw [hinception, hlist, ← hversion]
  rw [← hwire]
  rfl

/-- Decoding and encoding are inverse between the bytes that the decoder accepts
    and the lineages whose encoding fits the size limit. -/
theorem KeyLineage.codec_bijective (crates : Crates) :
    (∀ (self : KeyLineage) (bytes : Bytes), self.Reachable crates → self.encode = .ok bytes →
      bytes.length ≤ MAX_LINEAGE_BYTES → KeyLineage.decode crates bytes = .ok self) ∧
    (∀ (self : KeyLineage) (bytes : Bytes), KeyLineage.decode crates bytes = .ok self →
      self.Reachable crates ∧ self.encode = .ok bytes) := by
  constructor
  · intro self bytes hreachable hencode hsize
    exact hreachable.valid.decode_encode hencode hsize
  · intro self bytes hdecode
    exact ⟨.decode hdecode, KeyLineage.encode_decode hdecode⟩

/-- A lineage with one rotation is read back from its bytes, and gives them again. -/
theorem KeyLineage.codec_bijective_reference :
    ∃ (self : KeyLineage) (bytes : Bytes), self.rotations.length = 1 ∧ bytes.length ≤ MAX_LINEAGE_BYTES ∧
      KeyLineage.decode reference.crates bytes = .ok self ∧ self.Reachable reference.crates ∧
      self.encode = .ok bytes := by
  obtain ⟨r, hrotate⟩ := reference.lineage_rotates 1 2 none 0
  have hreachable := (reference.lineage_reachable 1).rotate (reference.node 1) (reference.node 2) none 0
  rw [hrotate, final_ok] at hreachable
  have hlength : (LineageWire.codec.encode ((reference.lineage 1).extend r).wire).length ≤ MAX_LINEAGE_BYTES := by
    rw [hreachable.valid.encode_length rfl, (reference.lineage_reachable 1).valid.built_size reference.signatureLengths
      (KeyLineage.rotate_eq_ok hrotate).2]
    decide +kernel
  obtain ⟨hdecodes, hencodes⟩ := KeyLineage.codec_bijective reference.crates
  have hdecode := hdecodes _ _ hreachable rfl hlength
  exact ⟨_, _, rfl, hlength, hdecode, hencodes _ _ hdecode⟩

end witan.rotation
