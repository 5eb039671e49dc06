import Witan.Api.Custody
import Witan.Rotation.BuildVerify

open bincode fallible
open witan.types witan.error witan.identity witan.config witan.rotation witan.gossip

namespace witan.api

variable {crates : Crates}

/-! A validator that plans its keys ahead. Every rotation commits to the key after
the next one, so the operator can go on without the current key as well. -/

/-- The keys that a validator is to use, in order: the seeds and the label of each,
    and a configuration that carries them. -/
structure Schedule where
  kem_seed : Nat → Bytes
  sig_seed : Nat → Bytes
  key_epoch : Nat → Str
  config_json : Nat → String

/-- What the operator does: rotate to the next key, restart the process, go on from
    the kept lineage without the current key, or use the node. -/
inductive Turn (crates : Crates) where
  | rotate (now_ms : UInt64)
  | restart
  | recover (now_ms : UInt64)
  | call (call : ApiCall crates)

namespace Turn

/-- The turns that go on to the next key. -/
def advances : Turn crates → Bool
  | .rotate _ => true
  | .recover _ => true
  | _ => false

/-- Before the first rotation there is no commitment to recover with. Keys are changed
    along the schedule only. -/
def Allowed (position : Nat) : Turn crates → Prop
  | .recover _ => position ≠ 0
  | .call made => made.rekeys = false
  | _ => True

/-- Every turn is allowed where it is taken. -/
def AllowedAll : Nat → List (Turn crates) → Prop
  | _, [] => True
  | position, turn :: rest =>
    turn.Allowed position ∧ AllowedAll (if turn.advances then position + 1 else position) rest

end Turn

/-- The validator, and how far it is in the schedule. -/
structure Post (crates : Crates) where
  position : Nat
  validator : Validator crates

namespace Schedule

/-- The entry at a position is one for this identity. -/
structure Works (crates : Crates) (schedule : Schedule) (position : Nat) (identity : NodeIdentity crates) : Prop where
  seeds : identity_from_seed_bytes crates (schedule.kem_seed position) (schedule.sig_seed position)
    (schedule.key_epoch position) = .ok identity
  config : ∃ config resolved kem_seed sig_seed,
    GossipConfig.from_json crates (schedule.config_json position) = .ok config ∧ config.resolve crates = .ok resolved ∧
      resolved.kem_seed = some kem_seed ∧ resolved.sig_seed = some sig_seed ∧
      kem_seed.val = schedule.kem_seed position ∧ sig_seed.val = schedule.sig_seed position ∧
      resolved.key_epoch = schedule.key_epoch position

/-- The first start, with the lineage that is kept from then on. -/
def start (self : Schedule) (kem_rng sig_rng : crates.OsRng) : Option (Post crates) :=
  match gossip_init (self.config_json 0) kem_rng sig_rng .fresh with
  | .ok () state =>
    match gossip_get_key_lineage state with
    | .ok kept state => some ⟨0, state, kept⟩
    | .error _ _ => none
  | .error _ _ => none

/-- A new process on the kept lineage, with the keys at a position. -/
def restartAt (self : Schedule) (position : Nat) (kept : Bytes) : Option (Post crates) :=
  match gossip_init_with_lineage (self.config_json position) kept (.fresh : ApiState crates) with
  | .ok () state => some ⟨position, state, kept⟩
  | .error _ _ => none

/-- One turn. It is over as soon as a call of the component fails. -/
def take (self : Schedule) (post : Post crates) : Turn crates → Option (Post crates)
  | .rotate now_ms =>
    let next := post.position + 1
    match gossip_key_commitment crates (self.sig_seed (next + 1)) with
    | .error _ => none
    | .ok commitment =>
      match gossip_rotate_keys_under_id (self.kem_seed next) (self.sig_seed next) (self.key_epoch next)
        (some commitment.val) now_ms post.validator.state with
      | .ok kept state => some ⟨next, state, kept⟩
      | .error _ _ => none
  | .restart => self.restartAt post.position post.validator.kept
  | .recover now_ms =>
    let next := post.position + 1
    match gossip_key_commitment crates (self.sig_seed (next + 1)) with
    | .error _ => none
    | .ok commitment =>
      match gossip_recover_lineage crates post.validator.kept (self.kem_seed next) (self.sig_seed next)
        (self.key_epoch next) (some commitment.val) now_ms with
      | .ok kept => self.restartAt next kept
      | .error _ => none
  | .call call => some { post with validator := post.validator.step (.call call) }

def takeAll (self : Schedule) : List (Turn crates) → Post crates → Option (Post crates)
  | [], post => some post
  | turn :: rest, post => (self.take post turn).bind (self.takeAll rest)

/-- The size of the lineage after some rotations. Only the first one has to be signed
    by the key that it replaces. -/
def size (self : Schedule) : Nat → Nat
  | 0 => 33 + KEM_PK_LEN + SIG_PK_LEN + (self.key_epoch 0).bytes.val.length
  | position + 1 => self.size position + (97 + 64 + KEM_PK_LEN + SIG_PK_LEN +
      (self.key_epoch (position + 1)).bytes.val.length + commitmentSize true +
      (if position = 0 then 3309 else 0) + 3309)

/-- A lineage that is as the schedule has it at a position. -/
structure At (schedule : Schedule) (nodes : Nat → NodeIdentity crates) (position : Nat) (lineage : KeyLineage) :
    Prop where
  reachable : lineage.Reachable crates
  node_id : lineage.node_id = (nodes 0).node_id
  current : HoldsCurrent (nodes position) lineage
  commitment : lineage.next_key_commitment =
    if position = 0 then none else some (key_commitment crates (nodes (position + 1)).sig_public_key_bytes.val)
  sequence : lineage.sequence.toNat = position
  size : lineage.size = schedule.size position

/-- The invariant: the node runs on the lineage that is kept, with the keys of its
    position under its first id. -/
structure Tended (schedule : Schedule) (nodes : Nat → NodeIdentity crates) (post : Post crates)
    (engine : GossipEngine crates) (lineage : KeyLineage) : Prop where
  state : post.validator.state = ⟨some engine, some lineage⟩
  kept : lineage.encode = .ok post.validator.kept
  coherent : Coherent engine lineage
  identity : engine.identity = { nodes post.position with node_id := (nodes 0).node_id }
  at_position : schedule.At nodes post.position lineage

section Entries

variable {schedule : Schedule} {position : Nat} {identity : NodeIdentity crates}

theorem Works.commitment (h : schedule.Works crates position identity) :
    gossip_key_commitment crates (schedule.sig_seed position) =
      .ok (key_commitment crates identity.sig_public_key_bytes.val) := by
  have hseeds := h.seeds
  unfold identity_from_seed_bytes NodeIdentity.from_seeds at hseeds
  simp only [except_bind_eq_ok_iff] at hseeds
  obtain ⟨_, _, _, _, kem_keypair, _, sig_keypair, hsig, hkeypairs⟩ := hseeds
  obtain ⟨_, _, rfl⟩ := NodeIdentity.of_keypairs_eq_ok_iff.mp hkeypairs
  unfold gossip_key_commitment key_commitment_for_seed
  rw [hsig]
  rfl

theorem Works.restores (h : schedule.Works crates position identity) :
    ∃ resolved, Restores crates (schedule.config_json position) resolved identity := by
  obtain ⟨config, resolved, kem_seed, sig_seed, hparsed, hresolved, hkem, hsig, hkem_seed, hsig_seed, hepoch⟩ :=
    h.config
  refine ⟨resolved, config, kem_seed, sig_seed, hparsed, hresolved, hkem, hsig, ?_⟩
  have hseeds := h.seeds
  unfold identity_from_seed_bytes at hseeds
  simp only [except_bind_eq_ok_iff] at hseeds
  obtain ⟨_, _, _, _, hidentity⟩ := hseeds
  unfold restore
  rw [hkem_seed, hsig_seed, hepoch]
  exact hidentity

theorem Works.lineage (hlengths : crates.KeyLengths) (h : schedule.Works crates position identity) :
    ∃ lineage, KeyLineage.from_identity identity = .ok lineage := by
  have hseeds := h.seeds
  unfold identity_from_seed_bytes NodeIdentity.from_seeds at hseeds
  simp only [except_bind_eq_ok_iff] at hseeds
  obtain ⟨_, _, _, _, kem_keypair, _, sig_keypair, _, hkeypairs⟩ := hseeds
  exact from_identity_of_keypairs hlengths hkeypairs

theorem le_size (schedule : Schedule) (position : Nat) : position ≤ schedule.size position := by
  induction position with
  | zero => exact Nat.zero_le _
  | succ position ih =>
    unfold size
    omega

theorem size_mono (schedule : Schedule) {position later : Nat} (h : position ≤ later) :
    schedule.size position ≤ schedule.size later := by
  induction h with
  | refl => exact Nat.le_refl _
  | @step later _ ih =>
    change schedule.size position ≤ schedule.size later + _
    omega

end Entries

theorem parse_commitment_some (commitment : Bytes32) : parse_commitment (some commitment.val) = .ok (some commitment) :=
  dif_pos commitment.property

section Lineages

variable {schedule : Schedule} {nodes : Nat → NodeIdentity crates} {position : Nat} {lineage : KeyLineage}

/-- The first keys start the lineage. -/
theorem At.first (hnode : schedule.Works crates 0 (nodes 0)) (h : KeyLineage.from_identity (nodes 0) = .ok lineage) :
    schedule.At nodes 0 lineage := by
  have hreachable : lineage.Reachable crates := .from_identity h
  obtain ⟨kem, hkem, hinception, hid⟩ := KeyLineage.from_identity_eq_ok_iff.mp h
  obtain ⟨hkem_length, hsig_length, rfl⟩ := KeyLineage.inception_eq_ok_iff.mp hinception
  refine ⟨hreachable, hid, ⟨rfl, hkem⟩, rfl, rfl, ?_⟩
  unfold KeyLineage.size Schedule.size
  rw [hkem_length, hsig_length, identity_from_seed_bytes_key_epoch hnode.seeds]
  rfl

/-- Within the size limit there is room for many more rotations. -/
theorem At.held (h : schedule.At nodes position lineage) (hfits : schedule.size position ≤ MAX_LINEAGE_BYTES) :
    lineage.Held crates := by
  have hlength := h.reachable.valid.length_eq
  have hsequence : lineage.current.sequence.toNat = position := h.sequence
  have hposition := schedule.le_size position
  have hmax : MAX_LINEAGE_BYTES = 4194304 := rfl
  refine ⟨h.reachable, ?_⟩
  omega

theorem At.decode (h : schedule.At nodes position lineage) (hfits : schedule.size position ≤ MAX_LINEAGE_BYTES)
    {kept : Bytes} (hkept : lineage.encode = .ok kept) : KeyLineage.decode crates kept = .ok lineage := by
  refine (h.reachable.valid.decode_iff hkept).mpr ?_
  rw [h.size]
  exact hfits

/-- The next key may be built on, with or without the current one. -/
theorem At.mayBuild (h : schedule.At nodes position lineage) {current : Option (NodeIdentity crates)}
    (hcurrent : position = 0 → ∃ holder, current = some holder ∧
      holder.sig_public_key_bytes = lineage.current.sig_public_key) :
    lineage.MayBuild current (nodes (position + 1)) := by
  have hcommitment : lineage.current.next_key_commitment = _ := h.commitment
  unfold KeyLineage.MayBuild
  rw [hcommitment]
  by_cases hfirst : position = 0
  · rw [if_pos hfirst]
    exact hcurrent hfirst
  · rw [if_neg hfirst]

/-- A record for the next key that commits to the one after it takes the lineage one
    position on. -/
theorem At.built (hsignatures : crates.SignatureLengths) (h : schedule.At nodes position lineage)
    (hfits : schedule.size position ≤ MAX_LINEAGE_BYTES) {current : Option (NodeIdentity crates)} {now_ms : UInt64}
    {r : KeyRotation} {after : KeyLineage} (hnode : schedule.Works crates (position + 1) (nodes (position + 1)))
    (hreachable : after.Reachable crates)
    (hbuild : KeyLineage.build_and_apply current (nodes (position + 1))
      (some (key_commitment crates (nodes (position + 2)).sig_public_key_bytes.val)) now_ms lineage = .ok r after) :
    schedule.At nodes (position + 1) after := by
  have hrotated := (h.held hfits).rotated hbuild
  have hsize := h.reachable.valid.built_size hsignatures hbuild
  have hcommitted : lineage.current.next_key_commitment = _ := h.commitment
  have hcurrent : HoldsCurrent (nodes (position + 1)) after :=
    ⟨hrotated.sig_public_key.symm, hrotated.kem_public_key⟩
  refine ⟨hreachable, hrotated.node_id.trans h.node_id, hcurrent, ?_, ?_, ?_⟩
  · rw [hrotated.next_key_commitment, if_neg (Nat.succ_ne_zero position)]
  · rw [hrotated.sequence, h.sequence]
  · rw [hsize, h.size]
    unfold KeyLineage.nextRecordSize
    rw [Schedule.size]
    rw [identity_from_seed_bytes_key_epoch hnode.seeds, hcommitted]
    by_cases hfirst : position = 0
    · rw [if_pos hfirst, if_pos hfirst]
      rfl
    · rw [if_neg hfirst, if_neg hfirst]
      rfl

end Lineages

end Schedule

end witan.api
