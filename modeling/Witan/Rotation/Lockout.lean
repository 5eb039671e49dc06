import Mathlib.Data.Set.Function
import Witan.Rotation.Reachability

open bincode fallible
open witan.types witan.error witan.identity

namespace witan.rotation

/-- Feed records to a lineage one after another, whatever `apply` answers. -/
def KeyLineage.applyAll (crates : Crates) (self : KeyLineage) (records : List KeyRotation) : KeyLineage :=
  records.foldl (fun lineage r => final (KeyLineage.apply crates r lineage)) self

/-- A record that reveals the committed key `k`: it needs no authorization but
    the key's own proof of possession. -/
structure Reveals (crates : Crates) (k : ByteVec) (r : KeyRotation) : Prop where
  new_key : r.new_sig_public_key = k
  authorization : r.authorization.val = []
  possession : NodeIdentity.verify_external crates k r.signing_input r.possession
    SIG_CTX_KEY_POSSESSION = .ok true

/-- The bytes that the new key signs to prove its possession. -/
def KeyRotation.possessionMessage (self : KeyRotation) : Bytes :=
  tagged SIG_CTX_KEY_POSSESSION self.signing_input

/-- Under a commitment to `k` the rules accept only records that reveal `k`. -/
theorem Accepts.reveals {crates : Crates} {node_id : Str} {state : KeyState} {r : KeyRotation}
    (h : Accepts crates node_id state r) {k : ByteVec} {inputs : Set Bytes}
    (hcollision : Set.InjOn crates.sha256 inputs) (hk : commitmentInput k.val ∈ inputs)
    (hr : commitmentInput r.new_sig_public_key.val ∈ inputs)
    (hcommitment : state.next_key_commitment = some (key_commitment crates k.val)) : Reveals crates k r := by
  have hauthorized := h.authorized
  unfold Authorized at hauthorized
  rw [hcommitment] at hauthorized
  obtain ⟨hdigest, hempty⟩ := hauthorized
  have hinput : commitmentInput r.new_sig_public_key.val = commitmentInput k.val :=
    hcollision hr hk hdigest
  have hkey : r.new_sig_public_key = k := Subtype.ext (List.append_cancel_left hinput)
  exact ⟨hkey, hempty, hkey ▸ h.possession⟩

/-- Fed any records, a committed lineage stays as it is up to the first one that
    reveals the committed key. -/
theorem KeyLineage.applyAll_unchanged_or_reveals {crates : Crates} {self : KeyLineage} {k : ByteVec}
    (hcommitment : self.current.next_key_commitment = some (key_commitment crates k.val))
    {inputs : Set Bytes} (hcollision : Set.InjOn crates.sha256 inputs)
    (hk : commitmentInput k.val ∈ inputs) (records : List KeyRotation)
    (hrecords : ∀ r ∈ records, commitmentInput r.new_sig_public_key.val ∈ inputs) :
    self.applyAll crates records = self ∨
      ∃ before r after, records = before ++ r :: after ∧ self.applyAll crates before = self ∧
        KeyLineage.apply crates r self = .ok () (self.extend r) ∧ Reveals crates k r := by
  induction records with
  | nil => exact .inl rfl
  | cons r records ih =>
    rcases self.final_apply r with hsame | ⟨haccepts, _⟩
    · have hskip : ∀ rest, self.applyAll crates (r :: rest) = self.applyAll crates rest := by
        intro rest
        unfold KeyLineage.applyAll
        rw [List.foldl_cons, hsame]
      have htail := ih fun r' hr' => hrecords r' (List.mem_cons_of_mem _ hr')
      rcases htail with hunchanged | ⟨before, r', after, rfl, hbefore, happly, hreveals⟩
      · exact .inl ((hskip records).trans hunchanged)
      · exact .inr ⟨r :: before, r', after, rfl, (hskip before).trans hbefore, happly, hreveals⟩
    · have hreveals := haccepts.reveals hcollision hk (hrecords r List.mem_cons_self) hcommitment
      exact .inr ⟨[], r, records, rfl, rfl, KeyLineage.apply_of_accepts haccepts, hreveals⟩

/-- Pre-rotation locks out every other key. Whatever records are fed to a
    lineage that is committed to `k`, it first moves by a record that reveals
    `k`; and if the holder of `k` signed no possession of such a record, it
    does not move at all. `signed` is what the holder of `k` signed. -/
theorem KeyLineage.commitment_locks_out {crates : Crates} {self : KeyLineage} {k : ByteVec}
    (hcommitment : self.next_key_commitment = some (key_commitment crates k.val))
    (records : List KeyRotation)
    (hcollision : Set.InjOn crates.sha256
      ({commitmentInput k.val} ∪ {input | ∃ r ∈ records, input = commitmentInput r.new_sig_public_key.val})) :
    (self.applyAll crates records = self ∨
      ∃ before r after, records = before ++ r :: after ∧ self.applyAll crates before = self ∧
        KeyLineage.apply crates r self = .ok () (self.extend r) ∧ Reveals crates k r) ∧
    (∀ signed : Set Bytes,
      (∀ r ∈ records, crates.Unforged signed k r.possessionMessage r.possession) →
      (∀ r ∈ records, r.new_sig_public_key = k → r.authorization.val = [] →
        r.possessionMessage ∉ signed) →
      self.applyAll crates records = self) := by
  have hfirst := KeyLineage.applyAll_unchanged_or_reveals hcommitment hcollision (.inl rfl) records
    fun r hr => .inr ⟨r, hr, rfl⟩
  refine ⟨hfirst, ?_⟩
  intro signed hunforged hnever
  rcases hfirst with hunchanged | ⟨before, r, after, rfl, _, _, hreveals⟩
  · exact hunchanged
  · exfalso
    have hr : r ∈ before ++ r :: after := List.mem_append_right _ List.mem_cons_self
    have hverified := (NodeIdentity.verify_external_eq_true_iff.mp hreveals.possession).2
    exact hnever r hr hreveals.new_key hreveals.authorization (hunforged r hr hverified)

/-- A record for another key leaves a lineage committed to key 3 as it was. -/
theorem KeyLineage.commitment_locks_out_thief :
    ∃ (self : KeyLineage) (attack : KeyRotation), self.Reachable reference.crates ∧
      self.next_key_commitment =
        some (key_commitment reference.crates (reference.sigPublicKey 3).val) ∧
      attack.new_sig_public_key = reference.sigPublicKey 2 ∧
      self.applyAll reference.crates [attack] = self := by
  obtain ⟨r, hrotate⟩ := reference.lineage_rotates 1 2
    (some (key_commitment reference.crates (reference.sigPublicKey 3).val)) 0
  have hreachable := (reference.lineage_reachable 1).rotate (reference.node 1) (reference.node 2)
    (some (key_commitment reference.crates (reference.sigPublicKey 3).val)) 0
  rw [hrotate] at hreachable
  obtain ⟨_, _, _, _, hr, _, _, _⟩ := KeyLineage.build_and_apply_eq_ok (KeyLineage.rotate_eq_ok hrotate).2
  have hcommitment : ((reference.lineage 1).extend r).next_key_commitment =
      some (key_commitment reference.crates (reference.sigPublicKey 3).val) := by
    rw [hr]
    rfl
  -- The thief holds the current key 2 and signs a record that keeps it.
  let attack : KeyRotation := { r with
    new_sig_public_key := reference.sigPublicKey 2
    authorization := reference.signature 2 []
    possession := reference.signature 2 [] }
  have hdigests : reference.digest (commitmentInput (reference.sigPublicKey 3).val) ≠
      reference.digest (commitmentInput (reference.sigPublicKey 2).val) := by
    decide +kernel
  have hcollision : Set.InjOn reference.crates.sha256 ({commitmentInput (reference.sigPublicKey 3).val} ∪
      {input | ∃ r ∈ [attack], input = commitmentInput r.new_sig_public_key.val}) := by
    have hset : ({commitmentInput (reference.sigPublicKey 3).val} ∪
        {input | ∃ r ∈ [attack], input = commitmentInput r.new_sig_public_key.val} : Set Bytes) =
        {commitmentInput (reference.sigPublicKey 3).val, commitmentInput (reference.sigPublicKey 2).val} := by
      simp only [List.mem_singleton, exists_eq_left]
      rfl
    rw [hset, Set.injOn_pair]
    intro hequal
    exact absurd hequal hdigests
  have hforged : ∀ r ∈ [attack], reference.crates.Unforged ∅ (reference.sigPublicKey 3)
      r.possessionMessage r.possession := by
    intro r hr hverified
    obtain rfl := List.mem_singleton.mp hr
    have hsignature := reference.eq_signature_of_sig_verify hverified
    have hkey : (2 : UInt8) = 3 := reference.key_eq_of_signature_eq hsignature
    exact absurd hkey (by decide)
  exact ⟨_, attack, hreachable, hcommitment, rfl,
    (KeyLineage.commitment_locks_out hcommitment [attack] hcollision).2 ∅ hforged
      fun r _ _ _ => Set.notMem_empty _⟩

end witan.rotation
