import Witan.Api.Schedule

open bincode fallible
open witan.types witan.error witan.identity witan.config witan.rotation witan.gossip

namespace witan.api

variable {crates : Crates}

namespace Schedule

section Turns

variable {schedule : Schedule} {nodes : Nat → NodeIdentity crates} {lineage : KeyLineage} {post : Post crates}
  {engine : GossipEngine crates}

/-- The invariant holds of some engine and lineage. -/
def Kept (schedule : Schedule) (nodes : Nat → NodeIdentity crates) (post : Post crates) : Prop :=
  ∃ engine lineage, schedule.Tended nodes post engine lineage

theorem At.restarts {position : Nat} (h : schedule.At nodes position lineage)
    (hfits : schedule.size position ≤ MAX_LINEAGE_BYTES) (hnode : schedule.Works crates position (nodes position))
    {kept : Bytes} (hkept : lineage.encode = .ok kept) :
    ∃ after : Post crates, schedule.restartAt position kept = some after ∧ after.position = position ∧
      schedule.Kept nodes after := by
  obtain ⟨resolved, hrestores⟩ := hnode.restores
  have hinit := gossip_init_with_lineage_eq_ok_iff.mpr (⟨rfl, resolved, nodes position, lineage, hrestores,
    h.decode hfits hkept, h.current, rfl⟩ : (ApiState.fresh : ApiState crates).gossip_state = none ∧ _)
  have hcoherent : Coherent (.new resolved { nodes position with node_id := lineage.node_id }) lineage :=
    ⟨h.reachable, rfl, h.current.sig_public_key.symm, h.current.kem_public_key⟩
  have hidentity : ({ nodes position with node_id := lineage.node_id } : NodeIdentity crates) =
      { nodes position with node_id := (nodes 0).node_id } := by
    rw [h.node_id]
  refine ⟨⟨position, _, kept⟩, ?_, rfl, _, lineage, rfl, hkept, hcoherent, hidentity, h⟩
  unfold restartAt
  rw [hinit]

/-- The first start works, and keeps the lineage of the first keys. -/
theorem kept_start (hlengths : crates.KeyLengths) (hnode : schedule.Works crates 0 (nodes 0))
    (kem_rng sig_rng : crates.OsRng) :
    ∃ post, schedule.start kem_rng sig_rng = some post ∧ post.position = 0 ∧ schedule.Kept nodes post := by
  obtain ⟨resolved, hrestores⟩ := hnode.restores
  obtain ⟨lineage, hlineage⟩ := hnode.lineage hlengths
  have hinit := hrestores.gossip_init_eq_ok hlineage kem_rng sig_rng
  have hcoherent : Coherent (.new resolved (nodes 0)) lineage := .of_from_identity hlineage
  refine ⟨⟨0, _, _⟩, ?_, rfl, _, lineage, rfl, rfl, hcoherent, rfl, At.first hnode hlineage⟩
  unfold start
  rw [hinit]
  rfl

section Keys

variable (hcorrect : crates.SignatureCorrect) (hlengths : crates.KeyLengths) (hsignatures : crates.SignatureLengths)
  (hworks : ∀ position, schedule.Works crates position (nodes position))

include hcorrect hlengths hsignatures hworks

theorem Tended.rotate (h : schedule.Tended nodes post engine lineage)
    (hfits : schedule.size post.position ≤ MAX_LINEAGE_BYTES) (now_ms : UInt64) :
    ∃ after, schedule.take post (.rotate now_ms) = some after ∧ after.position = post.position + 1 ∧
      schedule.Kept nodes after := by
  obtain ⟨position, state, kept⟩ := post
  obtain ⟨rfl, hkept, hcoherent, _, hat⟩ := h
  dsimp only at hfits hat
  let commitment := key_commitment crates (nodes (position + 2)).sig_public_key_bytes.val
  have hholder : engine.identity.sig_public_key_bytes = lineage.current.sig_public_key := hcoherent.sig_public_key.symm
  have hmay : lineage.MayBuild (some engine.identity) (nodes (position + 1)) :=
    hat.mayBuild fun _ => ⟨engine.identity, rfl, hholder⟩
  obtain ⟨r, hbuild⟩ := KeyLineage.build_and_apply_succeeds hcorrect hlengths hmay (hat.held hfits).room
    (some commitment) now_ms
  have hrotated := rotate_keys_under_id_eq_ok_iff.mpr
    ⟨hcoherent.node_id, (KeyLineage.rotate_eq_build hholder).trans hbuild, rfl⟩
  have hcall := gossip_rotate_keys_under_id_eq_ok_iff.mpr ⟨nodes (position + 1), some commitment, r, _, _,
    (hworks (position + 1)).seeds, parse_commitment_some commitment, hrotated, rfl, rfl⟩
  have hafter := hcoherent.rotated hrotated
  have hat' := hat.built hsignatures hfits (hworks (position + 1)) hafter.reachable hbuild
  have hidentity : ({ nodes (position + 1) with node_id := (lineage.extend r).node_id } : NodeIdentity crates) =
      { nodes (position + 1) with node_id := (nodes 0).node_id } := by
    rw [hat'.node_id]
  refine ⟨⟨position + 1, _, _⟩, ?_, rfl, _, lineage.extend r, rfl, rfl, hafter, hidentity, hat'⟩
  unfold take
  dsimp only
  rw [(hworks (position + 1 + 1)).commitment]
  dsimp only
  rw [hcall]

/-- With a commitment in force, the kept lineage is all that it takes. -/
theorem Tended.recover (h : schedule.Tended nodes post engine lineage) (hstarted : post.position ≠ 0)
    (hfits : schedule.size (post.position + 1) ≤ MAX_LINEAGE_BYTES) (now_ms : UInt64) :
    ∃ after, schedule.take post (.recover now_ms) = some after ∧ after.position = post.position + 1 ∧
      schedule.Kept nodes after := by
  obtain ⟨position, state, kept⟩ := post
  obtain ⟨rfl, hkept, hcoherent, _, hat⟩ := h
  dsimp only at hfits hat hstarted hkept
  have hbefore : schedule.size position ≤ MAX_LINEAGE_BYTES := (schedule.size_mono (Nat.le_succ position)).trans hfits
  let commitment := key_commitment crates (nodes (position + 2)).sig_public_key_bytes.val
  have hmay : lineage.MayBuild none (nodes (position + 1)) := hat.mayBuild fun hfirst => absurd hfirst hstarted
  obtain ⟨r, hbuild⟩ := KeyLineage.build_and_apply_succeeds hcorrect hlengths hmay (hat.held hbefore).room
    (some commitment) now_ms
  have hcommitted : lineage.current.next_key_commitment ≠ none := by
    have hcommitment : lineage.current.next_key_commitment = _ := hat.commitment
    rw [hcommitment, if_neg hstarted]
    exact Option.some_ne_none _
  have hrecovered := (KeyLineage.recover_eq_build hcommitted).trans hbuild
  have hreachable := hat.reachable.recover (nodes (position + 1)) (some commitment) now_ms
  rw [hrecovered, final_ok] at hreachable
  have hafter := hat.built hsignatures hbefore (hworks (position + 1)) hreachable hbuild
  have hcall : gossip_recover_lineage crates kept (schedule.kem_seed (position + 1)) (schedule.sig_seed (position + 1))
      (schedule.key_epoch (position + 1)) (some commitment.val) now_ms = (lineage.extend r).encode := by
    unfold gossip_recover_lineage
    rw [hat.decode hbefore hkept, (hworks (position + 1)).seeds, parse_commitment_some]
    dsimp only [bind, Except.bind]
    rw [hrecovered]
  obtain ⟨after, hrestart, hposition, hkept'⟩ := hafter.restarts hfits (hworks (position + 1)) rfl
  refine ⟨after, ?_, hposition, hkept'⟩
  unfold take
  dsimp only
  rw [(hworks (position + 1 + 1)).commitment]
  dsimp only
  rw [hcall]
  exact hrestart

end Keys

/-- Other calls leave the lineage and the keys as they are. -/
theorem Tended.call (h : schedule.Tended nodes post engine lineage) {call : ApiCall crates}
    (hallowed : (Turn.call call).Allowed post.position) :
    ∃ after, schedule.take post (.call call) = some after ∧ after.position = post.position ∧
      schedule.Kept nodes after := by
  obtain ⟨position, state, kept⟩ := post
  obtain ⟨rfl, hkept, hcoherent, hidentity, hat⟩ := h
  have hkeys : call.rekeys = false := hallowed
  have hkept' : KeepsKeys engine lineage (call.run ⟨some engine, some lineage⟩) := run_keeps_keys hkeys
  obtain ⟨engine', hstate, hsame⟩ := hkept'
  refine ⟨_, rfl, rfl, engine', lineage, hstate, ?_, hcoherent.of_identity_eq hsame, hsame.trans hidentity, hat⟩
  unfold Validator.step ApiCall.lineageAnswer
  dsimp only at hkept ⊢
  split
  · next hreturns =>
    cases call with
    | gossip_get_key_lineage => rfl
    | gossip_rotate_keys_under_id => cases hkeys
    | _ => cases hreturns
  · exact hkept

section Runs

variable (hcorrect : crates.SignatureCorrect) (hlengths : crates.KeyLengths) (hsignatures : crates.SignatureLengths)
  (hworks : ∀ position, schedule.Works crates position (nodes position))

include hcorrect hlengths hsignatures hworks

/-- Every allowed turn succeeds. -/
theorem Kept.take {turn : Turn crates} (h : schedule.Kept nodes post) (hallowed : turn.Allowed post.position)
    (hfits : schedule.size (if turn.advances then post.position + 1 else post.position) ≤ MAX_LINEAGE_BYTES) :
    ∃ after, schedule.take post turn = some after ∧
      after.position = (if turn.advances then post.position + 1 else post.position) ∧ schedule.Kept nodes after := by
  obtain ⟨engine, lineage, htended⟩ := h
  cases turn with
  | rotate now_ms =>
    exact htended.rotate hcorrect hlengths hsignatures hworks
      ((schedule.size_mono (Nat.le_succ post.position)).trans hfits) now_ms
  | restart => exact htended.at_position.restarts hfits (hworks post.position) htended.kept
  | recover now_ms => exact htended.recover hcorrect hlengths hsignatures hworks hallowed hfits now_ms
  | call call => exact htended.call hallowed

theorem Kept.takeAll {turns : List (Turn crates)} (h : schedule.Kept nodes post)
    (hallowed : Turn.AllowedAll post.position turns)
    (hfits : schedule.size (post.position + turns.countP Turn.advances) ≤ MAX_LINEAGE_BYTES) :
    ∃ after, schedule.takeAll turns post = some after ∧
      after.position = post.position + turns.countP Turn.advances ∧ schedule.Kept nodes after := by
  induction turns generalizing post with
  | nil => exact ⟨post, rfl, rfl, h⟩
  | cons turn turns ih =>
    obtain ⟨hturn, hrest⟩ := hallowed
    have hcount : post.position + (turn :: turns).countP Turn.advances =
        (if turn.advances then post.position + 1 else post.position) + turns.countP Turn.advances := by
      rw [List.countP_cons]
      split <;> omega
    rw [hcount] at hfits ⊢
    obtain ⟨middle, htake, hposition, hmiddle⟩ := h.take hcorrect hlengths hsignatures hworks hturn
      ((schedule.size_mono (Nat.le_add_right _ _)).trans hfits)
    rw [← hposition] at hrest hfits ⊢
    obtain ⟨after, hrun, hafter⟩ := ih hmiddle hrest hfits
    refine ⟨after, ?_, hafter⟩
    unfold Schedule.takeAll
    rw [htake, Option.bind_some]
    exact hrun

end Runs

end Turns

end Schedule

/-- A scheduled validator is never locked out. However its operator rotates, restarts
    and recovers along a schedule in which every rotation commits to the key after the
    next, and whatever calls are made between that do not change its keys: as long as
    the lineage fits the decoder's limit, every step succeeds and leaves the node
    running under its first id, with exactly the keys at its position. -/
theorem schedule_never_locks_out (hcorrect : crates.SignatureCorrect) (hlengths : crates.KeyLengths)
    (hsignatures : crates.SignatureLengths) (schedule : Schedule) (nodes : Nat → NodeIdentity crates)
    (hworks : ∀ position, schedule.Works crates position (nodes position)) (kem_rng sig_rng : crates.OsRng)
    {turns : List (Turn crates)} (hallowed : Turn.AllowedAll 0 turns)
    (hfits : schedule.size (turns.countP Turn.advances) ≤ MAX_LINEAGE_BYTES) :
    ∃ start post engine lineage, schedule.start kem_rng sig_rng = some start ∧
      schedule.takeAll turns start = some post ∧ post.position = turns.countP Turn.advances ∧
      post.validator.state = ⟨some engine, some lineage⟩ ∧
      KeyLineage.decode crates post.validator.kept = .ok lineage ∧
      engine.identity = { nodes post.position with node_id := (nodes 0).node_id } ∧
      HoldsCurrent engine.identity lineage ∧ lineage.node_id = (nodes 0).node_id ∧
      lineage.sequence.toNat = post.position := by
  obtain ⟨start, hstart, hzero, hkept⟩ := Schedule.kept_start hlengths (hworks 0) kem_rng sig_rng
  rw [← hzero] at hallowed
  have htotal : start.position + turns.countP Turn.advances = turns.countP Turn.advances := by
    rw [hzero, Nat.zero_add]
  obtain ⟨post, hrun, hposition, engine, lineage, htended⟩ := hkept.takeAll hcorrect hlengths hsignatures hworks
    hallowed (by rwa [htotal])
  rw [htotal] at hposition
  have hat := htended.at_position
  have hcoherent := htended.coherent
  exact ⟨start, post, engine, lineage, hstart, hrun, hposition, htended.state,
    hat.decode (by rwa [hposition]) htended.kept, htended.identity,
    ⟨hcoherent.sig_public_key.symm, hcoherent.kem_public_key⟩, hat.node_id, hat.sequence⟩

namespace reference

/-- One key after the other, each with a configuration that carries it. -/
def schedule : Schedule where
  kem_seed position := reference.kemSeed (UInt8.ofNat (position + 1))
  sig_seed position := reference.sigSeed (UInt8.ofNat (position + 1))
  key_epoch _ := ephemeralRuntime
  config_json position := hex.encodeString [UInt8.ofNat (position + 1)]

def scheduled (position : Nat) : NodeIdentity reference.crates :=
  reference.nodeAt (UInt8.ofNat (position + 1)) ephemeralRuntime

theorem schedule_works (position : Nat) : schedule.Works reference.crates position (scheduled position) where
  seeds := identity_from_seeds _ _
  config := ⟨_, _, _, _, reference.from_json_text _, reference.resolve_config _, rfl, rfl, rfl, rfl, rfl⟩

/-- Two keys further, with other calls between; a second start is refused. -/
def turns : List (Turn reference.crates) :=
  [.rotate 1, .restart, .recover 2, .call (.gossip_init (hex.encodeString [7]) (9 : UInt8) (9 : UInt8)),
    .call (.gossip_disconnect_peer (reference.keyJson 1))]

end reference

theorem schedule_never_locks_out_reference :
    ∃ start post engine lineage, reference.schedule.start (9 : UInt8) (9 : UInt8) = some start ∧
      reference.schedule.takeAll reference.turns start = some post ∧ post.position = 2 ∧
      post.validator.state = ⟨some engine, some lineage⟩ ∧
      engine.identity = { reference.scheduled 2 with node_id := (reference.scheduled 0).node_id } ∧
      HoldsCurrent engine.identity lineage := by
  have hallowed : Turn.AllowedAll 0 reference.turns := ⟨trivial, trivial, Nat.one_ne_zero, rfl, rfl, trivial⟩
  have hfits : reference.schedule.size 2 ≤ MAX_LINEAGE_BYTES := by
    decide +kernel
  obtain ⟨start, post, engine, lineage, hstart, hrun, hposition, hstate, _, hidentity, hcurrent, _⟩ :=
    schedule_never_locks_out reference.signatureCorrect reference.keyLengths reference.signatureLengths
      reference.schedule reference.scheduled reference.schedule_works (9 : UInt8) (9 : UInt8) hallowed hfits
  have hposition' : post.position = 2 := hposition
  rw [hposition'] at hidentity
  exact ⟨start, post, engine, lineage, hstart, hrun, hposition', hstate, hidentity, hcurrent⟩

end witan.api
