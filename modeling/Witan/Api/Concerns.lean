import Witan.Api.Answers
import Witan.Fallible.Relational
import Witan.Gossip.Runs

open bincode fallible
open witan.types witan.error witan.identity witan.session witan.config witan.rotation witan.gossip
open witan.handshake (HandshakeManager)

namespace witan.api

variable {crates : Crates}

/-- What a call is about: the node's own keys, its peers, messages, or the statistics. -/
inductive Concern where
  | node
  | peers
  | messages
  | statistics
  deriving DecidableEq

namespace ApiCall

def concern : ApiCall crates → Concern
  | gossip_connect_peer _ _ _ => .peers
  | gossip_disconnect_peer _ => .peers
  | gossip_get_peers _ => .peers
  | gossip_process_handshake_bytes _ _ _ _ _ => .peers
  | gossip_build_handshake_ack _ _ _ _ => .peers
  | gossip_build_finish_ack _ _ _ => .peers
  | gossip_get_session _ => .peers
  | gossip_publish _ _ _ => .messages
  | gossip_verify_envelope _ _ => .messages
  | gossip_encode_envelope _ _ _ => .messages
  | gossip_decode_envelope _ => .messages
  | gossip_verify_envelope_from_lineage _ _ _ => .messages
  | gossip_get_stats _ _ => .statistics
  | _ => .node

/-- The calls that check an envelope which came in. -/
def receives : ApiCall crates → Bool
  | gossip_verify_envelope _ _ => true
  | gossip_verify_envelope_from_lineage _ _ _ => true
  | _ => false

theorem concern_of_receives {call : ApiCall crates} (h : call.receives = true) : call.concern = .messages := by
  cases call with
  | gossip_verify_envelope envelope_bytes now_ms => rfl
  | gossip_verify_envelope_from_lineage envelope_bytes lineage_bytes now_ms => rfl
  | _ => cases h

end ApiCall

/-- The engines agree on all that has to do with peers. -/
structure SamePeers (first second : GossipEngine crates) : Prop where
  config : first.config = second.config
  identity : first.identity = second.identity
  sessions : first.sessions = second.sessions
  handshakes : first.handshakes = second.handshakes
  mesh_peers : first.mesh_peers = second.mesh_peers

/-- The engines agree on all that has to do with messages. -/
structure SameMessages (first second : GossipEngine crates) : Prop where
  config : first.config = second.config
  identity : first.identity = second.identity
  dedup : first.dedup = second.dedup

/-- Engines in this relation run the same node, also after they got new keys. -/
structure SameNode (related : GossipEngine crates → GossipEngine crates → Prop) : Prop where
  equivalence : Equivalence related
  config : ∀ {first second}, related first second → first.config = second.config
  identity : ∀ {first second}, related first second → first.identity = second.identity
  rekeyed : ∀ {first second} (identity : NodeIdentity crates), related first second →
    related { first with identity } { second with identity }

/-- The states have the same lineage, and engines in the relation or none. -/
structure ApiState.Related (related : GossipEngine crates → GossipEngine crates → Prop)
    (first second : ApiState crates) : Prop where
  lineage : first.lineage = second.lineage
  engine : Option.Rel related first.gossip_state second.gossip_state

section Relations

theorem samePeers_sameNode : SameNode (@SamePeers crates) where
  equivalence := {
    refl := fun _ => ⟨rfl, rfl, rfl, rfl, rfl⟩
    symm := fun h => ⟨h.config.symm, h.identity.symm, h.sessions.symm, h.handshakes.symm, h.mesh_peers.symm⟩
    trans := fun h h' => ⟨h.config.trans h'.config, h.identity.trans h'.identity, h.sessions.trans h'.sessions,
      h.handshakes.trans h'.handshakes, h.mesh_peers.trans h'.mesh_peers⟩ }
  config h := h.config
  identity h := h.identity
  rekeyed _ h := ⟨h.config, rfl, h.sessions, h.handshakes, h.mesh_peers⟩

theorem sameMessages_sameNode : SameNode (@SameMessages crates) where
  equivalence := {
    refl := fun _ => ⟨rfl, rfl, rfl⟩
    symm := fun h => ⟨h.config.symm, h.identity.symm, h.dedup.symm⟩
    trans := fun h h' => ⟨h.config.trans h'.config, h.identity.trans h'.identity, h.dedup.trans h'.dedup⟩ }
  config h := h.config
  identity h := h.identity
  rekeyed _ h := ⟨h.config, rfl, h.dedup⟩

variable {related : GossipEngine crates → GossipEngine crates → Prop} {first second : ApiState crates}

/-- Related states are the same or run related engines. -/
theorem ApiState.Related.cases (h : ApiState.Related related first second) :
    first = second ∨ ∃ engine engine' lineage, first = ⟨some engine, lineage⟩ ∧ second = ⟨some engine', lineage⟩ ∧
      related engine engine' := by
  obtain ⟨gossip_state, lineage⟩ := first
  obtain ⟨gossip_state', lineage'⟩ := second
  obtain ⟨rfl, hengine⟩ := h
  cases hengine with
  | none => exact .inl rfl
  | some hrelated => exact .inr ⟨_, _, _, rfl, rfl, hrelated⟩

end Relations

section Rules

variable {related : GossipEngine crates → GossipEngine crates → Prop} {engine engine' : GossipEngine crates}
  {lineage : Option KeyLineage}

theorem with_engine_alike {α : Type} {f g : EStateM GossipError (GossipEngine crates × Option KeyLineage) α}
    (h : Alike (fun state state' => related state.1 state'.1 ∧ state.2 = state'.2) f g (engine, lineage)
      (engine', lineage)) :
    Alike (ApiState.Related related) (with_engine f) (with_engine g) ⟨some engine, lineage⟩
      ⟨some engine', lineage⟩ := by
  obtain ⟨houtcome, hfinal⟩ := h
  unfold with_engine
  constructor
  · dsimp only
    cases hx : f (engine, lineage) <;> cases hy : g (engine', lineage) <;> rw [hx, hy] at houtcome <;>
      cases houtcome <;> rfl
  · dsimp only
    cases hx : f (engine, lineage) <;> cases hy : g (engine', lineage) <;> rw [hx, hy] at houtcome hfinal <;>
      cases houtcome <;> exact ⟨hfinal.2, .some hfinal.1⟩

theorem onEngine_alike {α : Type} {f g : EStateM GossipError (GossipEngine crates) α}
    (h : Alike related f g engine engine') :
    Alike (ApiState.Related related) (with_engine (onEngine f)) (with_engine (onEngine g)) ⟨some engine, lineage⟩
      ⟨some engine', lineage⟩ :=
  with_engine_alike (.onPart h fun _ _ hrelated => ⟨hrelated, rfl⟩)

theorem query_alike {α : Type} {answer : GossipEngine crates → Except GossipError α} (h : related engine engine')
    (hanswer : answer engine = answer engine') :
    Alike (ApiState.Related related) (query answer) (query answer) ⟨some engine, lineage⟩ ⟨some engine', lineage⟩ := by
  refine onEngine_alike (.get_bind ?_)
  rw [hanswer]
  exact .attempt h

theorem answering_alike {α : Type} {answer : α → Answer} {f : EStateM GossipError (ApiState crates) α}
    {first second : ApiState crates} (h : Alike (ApiState.Related related) f f first second) :
    Alike (ApiState.Related related) (answering answer f) (answering answer f) first second := by
  obtain ⟨houtcome, hfinal⟩ := h
  refine ⟨?_, by rwa [final_answering, final_answering]⟩
  unfold answering
  cases hx : f first <;> cases hy : f second <;> rw [hx, hy] at houtcome <;> cases houtcome <;> rfl

end Rules

section Node

variable {related : GossipEngine crates → GossipEngine crates → Prop} {engine engine' : GossipEngine crates}
  {lineage : Option KeyLineage}

theorem SameNode.rotate_keys (hnode : SameNode related) (h : related engine engine') (kem_rng sig_rng : crates.OsRng) :
    Alike (ApiState.Related related) (gossip_rotate_keys kem_rng sig_rng) (gossip_rotate_keys kem_rng sig_rng)
      ⟨some engine, lineage⟩ ⟨some engine', lineage⟩ := by
  unfold gossip_rotate_keys
  refine with_engine_alike (.get_bind (.bind (.onPart ?_ fun _ _ hrelated => ⟨hrelated, rfl⟩) ?_))
  · unfold GossipEngine.rotate_keys
    dsimp only
    rw [hnode.config h]
    exact .attempt_bind rfl h fun identity _ => .modify_bind (.pure (hnode.rekeyed identity h))
  · rintro node_id ⟨middle, _⟩ ⟨middle', _⟩ _ _ ⟨hmiddle, rfl⟩
    refine .get_bind (.attempt_bind ?_ ⟨hmiddle, rfl⟩ fun updated _ => .modify_bind (.pure ⟨hmiddle, rfl⟩))
    dsimp only at hmiddle ⊢
    rw [hnode.identity hmiddle]

theorem SameNode.rotate_keys_under_id (hnode : SameNode related) (h : related engine engine')
    (kem_seed sig_seed : Bytes)
    (key_epoch : Str) (next_key_commitment : Option Bytes) (now_ms : UInt64) :
    Alike (ApiState.Related related)
      (gossip_rotate_keys_under_id kem_seed sig_seed key_epoch next_key_commitment now_ms)
      (gossip_rotate_keys_under_id kem_seed sig_seed key_epoch next_key_commitment now_ms)
      ⟨some engine, lineage⟩ ⟨some engine', lineage⟩ := by
  have hstates : ApiState.Related related ⟨some engine, lineage⟩ ⟨some engine', lineage⟩ := ⟨rfl, .some h⟩
  unfold gossip_rotate_keys_under_id
  refine .attempt_bind rfl hstates fun next _ => .attempt_bind rfl hstates fun commitment _ => ?_
  refine with_engine_alike (.get_bind (.attempt_bind rfl ⟨h, rfl⟩ fun stored _ => ?_))
  refine .bind (.onPart (.onCopy ?_) fun _ _ hrelated => ⟨hrelated, rfl⟩) ?_
  · unfold GossipEngine.rotate_keys_under_id
    refine .get_bind (.attempt_bind (by rw [hnode.identity h]) ⟨h, rfl⟩ fun _ _ => ?_)
    rw [hnode.identity h]
    refine .bind (.onPart (⟨rfl, rfl⟩ : Alike Eq _ _ stored stored) fun _ _ hnew => ⟨h, hnew⟩) ?_
    rintro rotation ⟨middle, extended⟩ ⟨middle', _⟩ _ _ ⟨hmiddle, rfl⟩
    exact .modify_bind (.pure ⟨hnode.rekeyed _ hmiddle, rfl⟩)
  · rintro updated ⟨middle, _⟩ ⟨middle', _⟩ _ _ ⟨hmiddle, rfl⟩
    exact .attempt_bind rfl ⟨hmiddle, rfl⟩ fun bytes _ => .modify_bind (.pure ⟨hmiddle, rfl⟩)

/-- The calls about the node's keys look at the configuration, the identity and the
    lineage only. -/
theorem SameNode.alike (hnode : SameNode related) (h : related engine engine') (call : ApiCall crates)
    (hconcern : call.concern = .node) :
    Alike (ApiState.Related related) call.perform call.perform ⟨some engine, lineage⟩ ⟨some engine', lineage⟩ := by
  have hstates : ApiState.Related related ⟨some engine, lineage⟩ ⟨some engine', lineage⟩ := ⟨rfl, .some h⟩
  cases call with
  | gossip_init config_json kem_rng sig_rng => exact answering_alike ⟨rfl, hstates⟩
  | gossip_init_with_lineage config_json lineage_bytes => exact answering_alike ⟨rfl, hstates⟩
  | gossip_get_node_identity =>
    refine answering_alike (query_alike h ?_)
    unfold GossipEngine.get_node_identity_json
    rw [hnode.identity h]
  | gossip_rotate_keys kem_rng sig_rng => exact answering_alike (hnode.rotate_keys h kem_rng sig_rng)
  | gossip_rotate_keys_under_id kem_seed sig_seed key_epoch next_key_commitment now_ms =>
    exact answering_alike (hnode.rotate_keys_under_id h kem_seed sig_seed key_epoch next_key_commitment now_ms)
  | gossip_get_key_lineage =>
    exact answering_alike (.onPart (⟨rfl, rfl⟩ : Alike Eq _ _ lineage lineage) fun _ _ hnew => ⟨hnew, .some h⟩)
  | gossip_recover_lineage => exact answering_alike (.attempt hstates)
  | gossip_verify_key_lineage => exact answering_alike (.attempt hstates)
  | gossip_key_commitment => exact answering_alike (.attempt hstates)
  | gossip_verify_signature => exact answering_alike (.attempt hstates)
  | _ => cases hconcern

end Node

end witan.api
