import Witan.WasiExports.Replies

open bincode fallible memory
open witan.types witan.error witan.session witan.rotation witan.api witan.gossip

namespace witan.wasi_exports

variable {crates : Crates}

/-- What a call can make of the memory: it fills the slot, and it may leak one
    buffer, whose address and length are in the slot. -/
inductive Wrote (m : Memory) (out : UInt32) : Memory → Prop
  | plain (ok ptr : UInt32) : Wrote m out (write_out out ok ptr 0 m)
  | leaked (ok : UInt32) (data : Bytes) {capacity : Nat} (enough : data.length ≤ capacity) (place : m.Place capacity) :
    Wrote m out (write_out out ok (UInt32.ofNat place.ptr) (UInt32.ofNat data.length)
      ((m.allocate place).write place.ptr data))

section Wrote

variable {m m' : Memory} {out ok : UInt32} {data : Bytes} {runtime : Runtime}

theorem write_bytes_wrote (h : write_bytes runtime out ok data m = some m') : Wrote m out m' := by
  unfold write_bytes at h
  obtain ⟨buffer, _, hwritten⟩ := Option.map_eq_some_iff.mp h
  cases buffer with
  | dangling hempty =>
    obtain rfl := List.eq_nil_of_length_eq_zero hempty
    change write_out out ok 1 0 m = m' at hwritten
    rw [← hwritten]
    exact .plain ok 1
  | allocated capacity henough place =>
    rw [← hwritten]
    exact .leaked ok data henough place

theorem write_ok_fixed_wrote {n : Nat} {data : ByteArr n} (h : write_ok_fixed runtime out data m = some m') :
    Wrote m out m' := by
  unfold write_ok_fixed at h
  obtain ⟨place, _, hwritten⟩ := Option.map_eq_some_iff.mp h
  rw [← hwritten]
  have hleaked : Wrote m out _ := .leaked 1 data.val (Nat.le_of_eq data.property) place
  rwa [data.property] at hleaked

theorem Wrote.blocks_subset (h : Wrote m out m') : m.blocks ⊆ m'.blocks := by
  cases h with
  | plain ok ptr => exact List.Subset.refl _
  | leaked ok data henough place => exact List.subset_cons_self _ _

/-- What the host holds besides the slot stays as it is. -/
theorem Wrote.keeps {range : Block} (h : Wrote m out m') (hheld : m.Holds range)
    (hapart : range.Apart ⟨out.toNat, 12⟩) :
    m'.Holds range ∧ Memory.SameOn m m' range := by
  cases h with
  | plain ok ptr => exact ⟨hheld, sameOn_write_out hapart⟩
  | leaked ok data henough place =>
    have hfresh := place.front_apart_of_holds hheld henough
    refine ⟨hheld.of_blocks (List.subset_cons_self _ _), ?_⟩
    exact .trans (.trans (Memory.sameOn_allocate place range) (Memory.sameOn_write hfresh)) (sameOn_write_out hapart)

end Wrote

section Calls

variable {inst inst' : Instance crates} {runtime : Runtime} {out : UInt32}

theorem respond_wrote {α : Type} {write_ok : α → Memory → Option Memory}
    {call : EStateM GossipError (ApiState crates) α} (h : respond runtime out write_ok call inst = some inst')
    (hwrite : ∀ value m m', write_ok value m = some m' → Wrote m out m') :
    Wrote (inst.memory.disturb runtime.scratch) out inst'.memory := by
  unfold respond at h
  dsimp only at h
  cases hcall : call inst.state with
  | ok value state =>
    rw [hcall] at h
    obtain ⟨m', hm', rfl⟩ := Option.map_eq_some_iff.mp h
    exact hwrite value _ m' hm'
  | error e state =>
    rw [hcall] at h
    obtain ⟨m', hm', rfl⟩ := Option.map_eq_some_iff.mp h
    exact write_bytes_wrote hm'

theorem ExportCall.run_wrote {call : ExportCall crates} (h : call.run runtime out inst = some inst') :
    Wrote (inst.memory.disturb runtime.scratch) out inst'.memory := by
  cases call with
  | gossip_init_wasi | gossip_disconnect_peer_wasi =>
    refine respond_wrote h fun _ m m' hm' => ?_
    obtain rfl := Option.some.inj hm'
    exact .plain 1 0
  | gossip_publish_wasi => exact respond_wrote h fun _ _ _ hm' => write_ok_fixed_wrote hm'
  | gossip_connect_peer_wasi | gossip_encode_envelope_wasi | gossip_build_handshake_ack_wasi
  | gossip_build_finish_ack_wasi | gossip_get_peers_wasi | gossip_get_node_identity_wasi
  | gossip_decode_envelope_wasi | gossip_get_stats_wasi | gossip_get_session_wasi =>
    exact respond_wrote h fun _ _ _ hm' => write_bytes_wrote hm'
  | gossip_verify_envelope_wasi =>
    unfold run wasi_exports.gossip_verify_envelope_wasi at h
    refine respond_wrote h fun valid m m' hm' => ?_
    obtain rfl := Option.some.inj hm'
    exact .plain 1 _
  | gossip_process_handshake_bytes_wasi =>
    refine respond_wrote h fun value m m' hm' => ?_
    cases value with
    | some response => exact write_bytes_wrote hm'
    | none =>
      obtain rfl := Option.some.inj hm'
      exact .plain 1 0
  | gossip_get_version_wasi =>
    obtain ⟨m', hm', rfl⟩ := Option.map_eq_some_iff.mp h
    exact write_bytes_wrote hm'

/-- A call keeps what the host holds besides the slot. -/
theorem ExportCall.run_keeps {call : ExportCall crates} {range : Block} (h : call.run runtime out inst = some inst')
    (hheld : inst.memory.Holds range) (hapart : range.Apart ⟨out.toNat, 12⟩) :
    inst'.memory.Holds range ∧ Memory.SameOn inst.memory inst'.memory range := by
  have hdisturbed : (inst.memory.disturb runtime.scratch).Holds range := hheld
  obtain ⟨hholds, hsame⟩ := (run_wrote h).keeps hdisturbed hapart
  exact ⟨hholds, .trans (Memory.sameOn_disturb hheld) hsame⟩

end Calls

end witan.wasi_exports
