import Witan.Api.Calls

open bincode fallible
open witan.types witan.error

namespace witan.api

variable {crates : Crates}

/-- The component version string. -/
def gossip_get_version : Str := ⟨"0.2.2", by decide⟩

/-- What a call answers when it succeeds. -/
inductive Answer where
  | unit
  | flag (value : Bool)
  | bytes (value : Bytes)
  | text (value : Str)
  | response (value : Option Bytes)

/-- A call together with its answer. -/
def answering {α : Type} (answer : α → Answer) (call : EStateM GossipError (ApiState crates) α) :
    EStateM GossipError (ApiState crates) Answer := fun state =>
  match call state with
  | .ok value after => .ok (answer value) after
  | .error e after => .error e after

theorem final_answering {α : Type} (answer : α → Answer) (call : EStateM GossipError (ApiState crates) α)
    (state : ApiState crates) : final (answering answer call state) = final (call state) := by
  unfold answering
  cases call state <;> rfl

namespace ApiCall

/-- What a call answers, and the state it leaves. -/
def perform : ApiCall crates → EStateM GossipError (ApiState crates) Answer
  | gossip_init config_json kem_rng sig_rng => answering (fun _ => .unit) (api.gossip_init config_json kem_rng sig_rng)
  | gossip_init_with_lineage config_json lineage_bytes =>
    answering (fun _ => .unit) (api.gossip_init_with_lineage config_json lineage_bytes)
  | gossip_publish payload_type payload now_ms =>
    answering (fun id => .bytes id.val) (api.gossip_publish payload_type payload now_ms)
  | gossip_connect_peer peer_addr getrandom now_ms =>
    answering .bytes (api.gossip_connect_peer peer_addr getrandom now_ms)
  | gossip_disconnect_peer peer_addr => answering (fun _ => .unit) (api.gossip_disconnect_peer peer_addr)
  | gossip_get_peers order => answering .text (api.gossip_get_peers order)
  | gossip_get_node_identity => answering .text api.gossip_get_node_identity
  | gossip_verify_envelope envelope_bytes now_ms => answering .flag (api.gossip_verify_envelope envelope_bytes now_ms)
  | gossip_encode_envelope payload_type payload now_ms =>
    answering .bytes (api.gossip_encode_envelope payload_type payload now_ms)
  | gossip_decode_envelope bytes => answering .text (api.gossip_decode_envelope bytes)
  | gossip_get_stats order now_ms => answering .text (api.gossip_get_stats order now_ms)
  | gossip_process_handshake_bytes peer_addr bytes getrandom rng now_ms =>
    answering .response (api.gossip_process_handshake_bytes peer_addr bytes getrandom rng now_ms)
  | gossip_build_handshake_ack peer_addr probe_bytes getrandom now_ms =>
    answering .bytes (api.gossip_build_handshake_ack peer_addr probe_bytes getrandom now_ms)
  | gossip_build_finish_ack peer_addr finish_bytes now_ms =>
    answering .bytes (api.gossip_build_finish_ack peer_addr finish_bytes now_ms)
  | gossip_get_session peer_addr => answering .text (api.gossip_get_session peer_addr)
  | gossip_rotate_keys kem_rng sig_rng => answering .text (api.gossip_rotate_keys kem_rng sig_rng)
  | gossip_rotate_keys_under_id kem_seed sig_seed key_epoch next_key_commitment now_ms =>
    answering .bytes (api.gossip_rotate_keys_under_id kem_seed sig_seed key_epoch next_key_commitment now_ms)
  | gossip_get_key_lineage => answering .bytes api.gossip_get_key_lineage
  | gossip_verify_envelope_from_lineage envelope_bytes lineage_bytes now_ms =>
    answering .flag (api.gossip_verify_envelope_from_lineage envelope_bytes lineage_bytes now_ms)
  | gossip_recover_lineage lineage_bytes kem_seed sig_seed key_epoch next_key_commitment now_ms =>
    answering .bytes (attempt
      (api.gossip_recover_lineage crates lineage_bytes kem_seed sig_seed key_epoch next_key_commitment now_ms))
  | gossip_verify_key_lineage lineage_bytes =>
    answering .text (attempt (api.gossip_verify_key_lineage crates lineage_bytes))
  | gossip_key_commitment sig_seed =>
    answering (fun c => .bytes c.val) (attempt (api.gossip_key_commitment crates sig_seed))
  | gossip_verify_signature public_key_bytes message signature context =>
    answering .flag (attempt (api.gossip_verify_signature crates public_key_bytes message signature context))

/-- The state that a call leaves is the one that `run` gives. -/
theorem final_perform (call : ApiCall crates) (state : ApiState crates) :
    final (call.perform state) = call.run state := by
  cases call <;> unfold perform run <;> dsimp only <;> rw [final_answering]
  all_goals exact final_attempt _ _

end ApiCall

end witan.api
