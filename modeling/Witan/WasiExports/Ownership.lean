import Witan.WasiExports.Hosts

open bincode fallible memory
open witan.types witan.error witan.api witan.gossip

namespace witan.wasi_exports

variable {crates : Crates}

/-- The buffer has allocated what it holds and nothing more. -/
def Tight {m : Memory} {len : Nat} : m.Buffer len → Prop
  | .dangling _ => True
  | .allocated capacity _ _ => capacity = len

/-- The growable buffer that a call leaks. A message id is leaked as a box of its
    own size. -/
def leakedBuffer {σ : Type} (crates : Crates) (call : ExportCall crates) :
    EStateM.Result GossipError σ Answer → Option Bytes
  | .error e _ => some (error_to_json crates e).toByteArray.data.toList
  | .ok answer _ =>
    match call, answer with
    | .gossip_publish_wasi _ _ _ _, _ => none
    | _, .bytes value => some value
    | _, .text value => some value.bytes.val
    | _, .response value => value
    | _, _ => none

/-- If the runtime has a buffer for these bytes, it is tight. -/
def TightFor (runtime : Runtime) (m : Memory) (leaked : Option Bytes) : Prop :=
  ∀ data, leaked = some data → ∀ buffer, runtime.buffer m data.length = some buffer → Tight buffer

/-- Freeing what the slot points to is covered by the allocator's contract, and
    gives back all that was allocated since `before`. -/
def FreesAll (before after : Memory) (out : UInt32) : Prop :=
  ∃ m, wasi_free (after.readWord (out.toNat + 4)) (after.readWord (out.toNat + 8)) after = some m ∧
    m.blocks = before.blocks

section Writes

variable {m m' : Memory} {out ok : UInt32} {data : Bytes} {runtime : Runtime}

/-- Without a buffer there is nothing to free. -/
theorem freesAll_plain (m : Memory) (out ok ptr : UInt32) : FreesAll m (write_out out ok ptr 0 m) out := by
  unfold FreesAll
  rw [(write_out_words out ok ptr 0 m).2.2]
  exact ⟨_, if_pos (.inr rfl), rfl⟩

/-- A block of the size that the slot tells is freed; any other is not. -/
theorem freesAll_leaked_iff {capacity : Nat} (henough : data.length ≤ capacity) (place : m.Place capacity) :
    FreesAll m (write_out out ok (UInt32.ofNat place.ptr) (UInt32.ofNat data.length)
      ((m.allocate place).write place.ptr data)) out ↔ capacity = data.length := by
  obtain ⟨_, hptr, hlen⟩ := write_out_words out ok (UInt32.ofNat place.ptr) (UInt32.ofNat data.length)
    ((m.allocate place).write place.ptr data)
  have hpositive : 0 < capacity := place.placed.size_pos
  have hlimit : capacity < 2 ^ 31 := place.placed.size_lt
  have hlength : (UInt32.ofNat data.length).toNat = data.length :=
    UInt32.toNat_ofNat_of_lt (show data.length < 2 ^ 32 by omega)
  have hnonnull : UInt32.ofNat place.ptr ≠ 0 := place.ofNat_ptr_ne_zero
  unfold FreesAll
  rw [hptr, hlen]
  unfold wasi_free
  rw [place.toNat_ptr, hlength]
  constructor
  · rintro ⟨m', hfree, hblocks⟩
    split at hfree
    · -- Nothing is freed, so the block is lost.
      cases hfree
      exact absurd (congrArg List.length hblocks) (Nat.succ_ne_self _)
    · split at hfree
      · next hmem =>
        rcases List.mem_cons.mp hmem with hhead | htail
        · exact (congrArg Block.size hhead).symm
        · -- A block that was there before is apart from the new one.
          have hapart := place.apart _ htail
          have hsize : 0 < data.length := (m.placed _ htail).size_pos
          rcases hapart with hapart | hapart <;> dsimp only at hapart <;> omega
      · cases hfree
  · intro htight
    have hnonempty : UInt32.ofNat data.length ≠ 0 := by
      intro hzero
      rw [hzero] at hlength
      exact absurd hlength (Nat.ne_of_lt (htight ▸ hpositive))
    rw [if_neg (not_or.mpr ⟨hnonnull, hnonempty⟩)]
    subst htight
    refine ⟨_, if_pos List.mem_cons_self, ?_⟩
    change (⟨place.ptr, data.length⟩ :: m.blocks).erase ⟨place.ptr, data.length⟩ = m.blocks
    rw [List.erase_cons_head]

theorem write_bytes_freesAll_iff (h : write_bytes runtime out ok data m = some m') :
    FreesAll m m' out ↔ TightFor runtime m (some data) := by
  unfold write_bytes at h
  obtain ⟨buffer, hbuffer, hwritten⟩ := Option.map_eq_some_iff.mp h
  have hiff : FreesAll m m' out ↔ Tight buffer := by
    cases buffer with
    | dangling hempty =>
      obtain rfl := List.eq_nil_of_length_eq_zero hempty
      change write_out out ok 1 0 m = m' at hwritten
      rw [← hwritten]
      exact iff_of_true (freesAll_plain m out ok 1) trivial
    | allocated capacity henough place =>
      rw [← hwritten]
      exact freesAll_leaked_iff henough place
  rw [hiff]
  constructor
  · rintro htight _ ⟨⟩ other hother
    rw [hbuffer] at hother
    cases hother
    exact htight
  · exact fun htight => htight data rfl buffer hbuffer

theorem write_ok_fixed_freesAll {n : Nat} {data : ByteArr n} (h : write_ok_fixed runtime out data m = some m') :
    FreesAll m m' out := by
  obtain ⟨data, rfl⟩ := data
  unfold write_ok_fixed at h
  obtain ⟨place, _, hwritten⟩ := Option.map_eq_some_iff.mp h
  rw [← hwritten]
  exact (freesAll_leaked_iff (Nat.le_refl _) place).mpr rfl

/-- A call that leaks no growable buffer. -/
theorem freesAll_iff_none (h : FreesAll m m' out) : FreesAll m m' out ↔ TightFor runtime m none :=
  iff_of_true h fun _ hnone => nomatch hnone

end Writes

section Calls

variable {inst inst' : Instance crates} {runtime : Runtime} {out : UInt32}

theorem respond_freesAll_iff {α : Type} {answer : α → Answer} {write_ok : α → Memory → Option Memory}
    {call : EStateM GossipError (ApiState crates) α} {called : ExportCall crates}
    (h : respond runtime out write_ok call inst = some inst')
    (hwrite : ∀ value (state : ApiState crates) m m', write_ok value m = some m' →
      (FreesAll m m' out ↔ TightFor runtime m (leakedBuffer crates called (.ok (answer value) state)))) :
    FreesAll (inst.memory.disturb runtime.scratch) inst'.memory out ↔
      TightFor runtime (inst.memory.disturb runtime.scratch)
        (leakedBuffer crates called (answering answer call inst.state)) := by
  unfold respond at h
  dsimp only at h
  unfold answering
  cases hcall : call inst.state with
  | ok value state =>
    rw [hcall] at h
    obtain ⟨m', hm', rfl⟩ := Option.map_eq_some_iff.mp h
    exact hwrite value state _ m' hm'
  | error e state =>
    rw [hcall] at h
    obtain ⟨m', hm', rfl⟩ := Option.map_eq_some_iff.mp h
    exact write_bytes_freesAll_iff hm'

/-- The clean-up that the convention asks of the host, `wasi_free` with the
    pointer and the length in the slot, is a legal deallocation that gives back all
    that the call allocated exactly if the growable buffer the call leaked, if any,
    has no spare capacity. -/
theorem cleanup_frees_all_iff {call : ExportCall crates} (h : call.run runtime out inst = some inst') :
    FreesAll inst.memory inst'.memory out ↔
      TightFor runtime (inst.memory.disturb runtime.scratch)
        (leakedBuffer crates call (performRequest (call.request inst.memory) inst.state)) := by
  change FreesAll (inst.memory.disturb runtime.scratch) inst'.memory out ↔ _
  cases call with
  | gossip_init_wasi | gossip_disconnect_peer_wasi =>
    refine respond_freesAll_iff h fun _ _ m m' hm' => ?_
    obtain rfl := Option.some.inj hm'
    exact freesAll_iff_none (freesAll_plain m out 1 0)
  | gossip_publish_wasi =>
    exact respond_freesAll_iff h fun _ _ _ _ hm' => freesAll_iff_none (write_ok_fixed_freesAll hm')
  | gossip_connect_peer_wasi | gossip_encode_envelope_wasi | gossip_build_handshake_ack_wasi
  | gossip_build_finish_ack_wasi | gossip_get_peers_wasi | gossip_get_node_identity_wasi
  | gossip_decode_envelope_wasi | gossip_get_stats_wasi | gossip_get_session_wasi =>
    exact respond_freesAll_iff h fun _ _ _ _ hm' => write_bytes_freesAll_iff hm'
  | gossip_verify_envelope_wasi =>
    unfold ExportCall.run gossip_verify_envelope_wasi at h
    refine respond_freesAll_iff h fun valid _ m m' hm' => ?_
    obtain rfl := Option.some.inj hm'
    exact freesAll_iff_none (freesAll_plain m out 1 _)
  | gossip_process_handshake_bytes_wasi =>
    refine respond_freesAll_iff h fun value _ m m' hm' => ?_
    cases value with
    | some response => exact write_bytes_freesAll_iff hm'
    | none =>
      obtain rfl := Option.some.inj hm'
      exact freesAll_iff_none (freesAll_plain m out 1 0)
  | gossip_get_version_wasi =>
    obtain ⟨m', hm', rfl⟩ := Option.map_eq_some_iff.mp h
    exact write_bytes_freesAll_iff hm'

theorem cleanup_frees_all_iff_version : ∃ next : Instance reference.crates,
    ExportCall.gossip_get_version_wasi.run bumpRuntime 8 (freshInstance reference.crates) = some next ∧
      FreesAll (freshInstance reference.crates).memory next.memory 8 := by
  obtain ⟨next, hnext, _⟩ := version_runs reference.crates
  refine ⟨next, hnext, (cleanup_frees_all_iff hnext).mpr fun data _ buffer hbuffer => ?_⟩
  -- The runtime hands out buffers without spare capacity.
  change Memory.bumpBuffer _ _ = some buffer at hbuffer
  unfold Memory.bumpBuffer at hbuffer
  split at hbuffer
  · cases hbuffer
    trivial
  · obtain ⟨place, _, rfl⟩ := Option.map_eq_some_iff.mp hbuffer
    exact rfl

end Calls

end witan.wasi_exports
