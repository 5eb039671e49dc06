import Witan.Api.Coherence
import Witan.WasiExports.Runs

open bincode fallible memory
open witan.types witan.error witan.session witan.rotation witan.api witan.gossip

namespace witan.wasi_exports

variable {crates : Crates}

/-! Hosts that ask for things, one call after the other. -/

section Bump

/-- A runtime that allocates one buffer after the other. -/
def bumpRuntime : Runtime := ⟨fun _ => 0, Memory.bumpBuffer, Memory.bump⟩

/-- A buffer that is leaked moves the end by its length. -/
theorem write_bytes_bump (m : Memory) {data : Bytes} (out ok : UInt32) (hlimit : data.length < 2 ^ 31)
    (hroom : m.top + data.length ≤ 2 ^ 32) :
    ∃ m', write_bytes bumpRuntime out ok data m = some m' ∧ m'.top ≤ m.top + data.length := by
  have hwritten : ∀ buffer, Memory.bumpBuffer m data.length = some buffer →
      write_bytes bumpRuntime out ok data m = some (write_out out ok (leak m data buffer).1
        (UInt32.ofNat data.length) (leak m data buffer).2) := fun buffer hbuffer =>
    Option.map_eq_some_iff.mpr ⟨buffer, hbuffer, rfl⟩
  rcases Memory.bumpBuffer_eq_some hlimit hroom with ⟨hempty, hbuffer⟩ | ⟨place, hbuffer, hptr⟩
  · exact ⟨_, hwritten _ hbuffer, Nat.le_add_right m.top _⟩
  · refine ⟨_, hwritten _ hbuffer, ?_⟩
    change (m.allocate place).top ≤ m.top + data.length
    rw [Memory.top_allocate hptr]

theorem wasi_alloc_bump (m : Memory) (size : UInt32) (hpos : 0 < size.toNat) (hlimit : size.toNat < 2 ^ 31)
    (hroom : m.top + size.toNat ≤ 2 ^ 32) :
    ∃ place : m.Place size.toNat, place.ptr = m.top ∧
      wasi_alloc size (Memory.bump · size.toNat) m = some (UInt32.ofNat place.ptr, m.allocate place) := by
  obtain ⟨place, hplace, hptr⟩ := Memory.bump_eq_some hpos hlimit hroom
  refine ⟨place, hptr, ?_⟩
  unfold wasi_alloc
  dsimp only
  rw [if_neg (by omega), hplace]

theorem read_str_of_read {ptr len : UInt32} {m : Memory} {text : Str}
    (h : m.read ptr.toNat len.toNat = text.bytes.val) : read_str ptr len m = text := by
  have hbytes : read_bytes ptr len m = text.bytes := Subtype.ext h
  unfold read_str
  rw [hbytes, Str.ofBytes?_bytes]
  rfl

/-- A host that prepares a call: it allocates a slot and room for a text, and writes the
    text there. Nothing that was allocated before is touched. -/
theorem HostRun.prepares (inst : Instance crates) {text : Str} (hpos : 0 < text.bytes.val.length)
    (hlimit : text.bytes.val.length < 2 ^ 31) (hroom : inst.memory.top + 12 + text.bytes.val.length ≤ 2 ^ 32) :
    ∃ steps out ptr len ready, HostRun inst steps [] ready ∧ ready.state = inst.state ∧ SlotHeld ready out ∧
      ready.memory.Holds ⟨ptr.toNat, len.toNat⟩ ∧ read_str ptr len ready.memory = text ∧
      ready.memory.top = inst.memory.top + 12 + text.bytes.val.length ∧ inst.memory.blocks ⊆ ready.memory.blocks ∧
      ∀ range, inst.memory.Holds range → range.Apart ⟨out.toNat, 12⟩ ∧ ∀ step ∈ steps, step.Spares range := by
  let len := UInt32.ofNat text.bytes.val.length
  have hlen : len.toNat = text.bytes.val.length := UInt32.toNat_ofNat_of_lt (show _ < 2 ^ 32 by omega)
  have hslotRoom : inst.memory.top + 12 ≤ 2 ^ 32 := by omega
  obtain ⟨slot, hslot, hslotRun⟩ := wasi_alloc_bump inst.memory 12 (by decide) (by decide) hslotRoom
  have htop : (inst.memory.allocate slot).top = inst.memory.top + 12 := Memory.top_allocate hslot
  obtain ⟨buffer, hbuffer, hbufferRun⟩ := wasi_alloc_bump (inst.memory.allocate slot) len
    (by omega) (by omega) (by omega)
  have hread := Memory.read_write ((inst.memory.allocate slot).allocate buffer) buffer.ptr text.bytes.val
  rw [← hlen, ← buffer.toNat_ptr] at hread
  have hheld : ((inst.memory.allocate slot).allocate buffer).Holds ⟨(UInt32.ofNat buffer.ptr).toNat, len.toNat⟩ := by
    rw [buffer.toNat_ptr]
    exact ⟨⟨buffer.ptr, len.toNat⟩, .head _, Nat.le_refl _, Nat.le_refl _⟩
  refine ⟨[.wasi_alloc 12 (Memory.bump · 12), .wasi_alloc len (Memory.bump · len.toNat),
    .store (UInt32.ofNat buffer.ptr) text.bytes.val], UInt32.ofNat slot.ptr, UInt32.ofNat buffer.ptr, len, _,
    .wasi_alloc hslotRun (.wasi_alloc hbufferRun (.store ?_ .done)), rfl, ?_, hheld, read_str_of_read hread, ?_,
    List.Subset.trans (List.subset_cons_self _ _) (List.subset_cons_self _ _), ?_⟩
  · rwa [← hlen]
  · unfold SlotHeld
    rw [slot.toNat_ptr]
    exact ⟨⟨slot.ptr, 12⟩, .tail _ (.head _), Nat.le_refl _, Nat.le_refl _⟩
  · change ((inst.memory.allocate slot).allocate buffer).top = _
    rw [Memory.top_allocate hbuffer, htop, hlen]
  · -- The new blocks are apart from what was allocated before.
    intro range hrange
    have hrange' : (inst.memory.allocate slot).Holds range := hrange.of_blocks (List.subset_cons_self _ _)
    refine ⟨?_, ?_⟩
    · rw [slot.toNat_ptr]
      exact slot.apart_of_holds hrange
    · intro step hstep
      simp only [List.mem_cons, List.not_mem_nil, or_false] at hstep
      rcases hstep with rfl | rfl | rfl
      · trivial
      · trivial
      · change range.Apart ⟨(UInt32.ofNat buffer.ptr).toNat, text.bytes.val.length⟩
        rw [buffer.toNat_ptr, ← hlen]
        exact buffer.apart_of_holds hrange'

/-- A host that prepares a call and makes it. -/
theorem HostRun.asks (inst : Instance crates) {text : Str} (asked : UInt32 → UInt32 → ExportCall crates)
    {request : ApiCall crates} {after : ApiState crates} (room : Nat)
    (harguments : ∀ ptr len, (asked ptr len).arguments = [⟨ptr.toNat, len.toNat⟩])
    (hrequest : ∀ ptr len m, read_str ptr len m = text → (asked ptr len).request m = some request)
    (hcall : ∀ ptr len out (called : Instance crates), called.state = inst.state →
      read_str ptr len called.memory = text → called.memory.top + room ≤ 2 ^ 32 →
      ∃ next, (asked ptr len).run bumpRuntime out called = some next ∧ next.state = after ∧
        next.memory.top ≤ called.memory.top + room)
    (hpos : 0 < text.bytes.val.length) (hlimit : text.bytes.val.length < 2 ^ 31)
    (hroom : inst.memory.top + 12 + text.bytes.val.length + room ≤ 2 ^ 32) :
    ∃ steps reply next, HostRun inst steps [⟨some request, reply⟩] next ∧ next.state = after ∧
      next.memory.top ≤ inst.memory.top + 12 + text.bytes.val.length + room ∧
      inst.memory.blocks ⊆ next.memory.blocks ∧
      ∀ range, inst.memory.Holds range → ∀ step ∈ steps, step.Spares range := by
  obtain ⟨steps, out, ptr, len, ready, hrun, hstate, hout, hheld, hread, htop, hblocks, hspares⟩ :=
    HostRun.prepares inst hpos hlimit (Nat.le_of_add_right_le hroom)
  obtain ⟨next, hnext, hnextState, hnextTop⟩ := hcall ptr len out ready hstate hread (by rwa [htop])
  have hmade : HostRun ready [.call (asked ptr len) out bumpRuntime]
      [⟨some request, readSlot (asked ptr len).shape next.memory out⟩] next := by
    rw [← hrequest ptr len ready.memory hread]
    refine .call hout (fun range hrange => .inr ?_) hnext .done
    rw [harguments] at hrange
    rwa [List.mem_singleton.mp hrange]
  refine ⟨_, _, next, hrun.append hmade, hnextState, by rwa [htop] at hnextTop,
    List.Subset.trans hblocks (ExportCall.run_wrote hnext).blocks_subset, ?_⟩
  intro range hrange step hstep
  rcases List.mem_append.mp hstep with hstep | hstep
  · exact (hspares range hrange).2 step hstep
  · rw [List.mem_singleton.mp hstep]
    exact (hspares range hrange).1

end Bump

/-- An instance that has not been initialized, whose host has allocated a slot. -/
def freshInstance (crates : Crates) : Instance crates where
  state := .fresh
  memory :=
    { bytes := fun _ => 0
      blocks := [⟨8, 12⟩]
      placed := by
        intro block hblock
        obtain rfl := List.mem_singleton.mp hblock
        exact ⟨by decide, by decide, by decide, by decide⟩
      apart := List.pairwise_singleton _ _ }

theorem freshInstance_slot (crates : Crates) : SlotHeld (freshInstance crates) 8 :=
  ⟨⟨8, 12⟩, List.mem_cons_self, by decide⟩

theorem version_runs (crates : Crates) : ∃ next : Instance crates,
    ExportCall.gossip_get_version_wasi.run bumpRuntime 8 (freshInstance crates) = some next ∧
      next.state = .fresh ∧ next.memory.top ≤ 25 := by
  have hlength : gossip_get_version.bytes.val.length = 5 := by decide
  have htop : ((freshInstance crates).memory.disturb bumpRuntime.scratch).top = 20 := rfl
  have hlimit : gossip_get_version.bytes.val.length < 2 ^ 31 := by
    rw [hlength]
    decide
  have hroom : ((freshInstance crates).memory.disturb bumpRuntime.scratch).top +
      gossip_get_version.bytes.val.length ≤ 2 ^ 32 := by
    rw [hlength, htop]
    decide
  obtain ⟨m', hm', htop'⟩ := write_bytes_bump _ 8 1 hlimit hroom
  rw [hlength, htop] at htop'
  exact ⟨⟨.fresh, m'⟩, Option.map_eq_some_iff.mpr ⟨m', hm', rfl⟩, rfl, htop'⟩

section Asking

variable {inst : Instance crates} {text : Str} {config_json : Str} {engine : GossipEngine crates}
  {lineage : Option KeyLineage} {kem_rng sig_rng : crates.OsRng}

/-- An initialization writes no data. -/
theorem init_runs {ptr len out : UInt32} {started : ApiState crates}
    (hread : read_str ptr len inst.memory = config_json)
    (hinit : gossip_init config_json.val kem_rng sig_rng inst.state = .ok () started) :
    (ExportCall.gossip_init_wasi ptr len kem_rng sig_rng).run bumpRuntime out inst =
      some ⟨started, write_out out 1 0 0 (inst.memory.disturb bumpRuntime.scratch)⟩ := by
  unfold ExportCall.run gossip_init_wasi respond
  dsimp only
  rw [hread, hinit]
  rfl

/-- A refused disconnection leaks its report. -/
theorem disconnect_runs {ptr len out : UInt32} {e : GossipError} {state : ApiState crates}
    (hread : read_str ptr len inst.memory = text) (hrefused : gossip_disconnect_peer text inst.state = .error e state)
    (hlimit : (error_to_json crates e).toByteArray.data.toList.length < 2 ^ 31)
    (hroom : inst.memory.top + (error_to_json crates e).toByteArray.data.toList.length ≤ 2 ^ 32) :
    ∃ next, (ExportCall.gossip_disconnect_peer_wasi ptr len).run bumpRuntime out inst = some next ∧
      next.state = state ∧
      next.memory.top ≤ inst.memory.top + (error_to_json crates e).toByteArray.data.toList.length := by
  obtain ⟨m', hm', htop⟩ := write_bytes_bump (inst.memory.disturb bumpRuntime.scratch) out 0 hlimit hroom
  refine ⟨⟨state, m'⟩, ?_, rfl, htop⟩
  unfold ExportCall.run gossip_disconnect_peer_wasi respond
  dsimp only
  rw [hread, hrefused]
  exact Option.map_eq_some_iff.mpr ⟨m', hm', rfl⟩

theorem disconnect_refused (hunknown : engine.sessions.get text = none) :
    gossip_disconnect_peer text (⟨some engine, lineage⟩ : ApiState crates) =
      .error (.PeerNotFound text.val) ⟨some engine, lineage⟩ := by
  have hrefused : GossipEngine.disconnect_peer text engine = .error (.PeerNotFound text.val) engine := by
    unfold GossipEngine.disconnect_peer
    rw [get_bind]
    dsimp only
    rw [set_bind, SessionStore.remove_of_get_eq_none hunknown]
    have hnone : (engine.sessions.remove text).1 = none := hunknown
    rw [hnone]
    rfl
  exact with_engine_onEngine_error hrefused

/-- A host that starts the component and then asks for a peer that nobody has heard of. -/
theorem HostRun.starts (inst : Instance crates) (hfresh : inst.state = .fresh)
    (hinit : gossip_init text.val kem_rng sig_rng .fresh = .ok () ⟨some engine, lineage⟩)
    (hunknown : engine.sessions.get text = none) (hpos : 0 < text.bytes.val.length)
    (hlimit : text.bytes.val.length < 2 ^ 20) (htop : inst.memory.top < 2 ^ 20)
    (hreport : (error_to_json crates (.PeerNotFound text.val)).toByteArray.data.toList.length < 2 ^ 20) :
    ∃ steps log last, HostRun inst steps log last ∧
      log.map Entry.request = [some (.gossip_init text.val kem_rng sig_rng), some (.gossip_disconnect_peer text)] ∧
      last.state = ⟨some engine, lineage⟩ ∧
      ∀ range, inst.memory.Holds range → ∀ step ∈ steps, step.Spares range := by
  have hrefused : gossip_disconnect_peer text (⟨some engine, lineage⟩ : ApiState crates) = _ :=
    disconnect_refused hunknown
  obtain ⟨steps, reply, middle, hstart, hstarted, htopMiddle, hblocks, hspares⟩ := HostRun.asks inst
    (fun ptr len => .gossip_init_wasi ptr len kem_rng sig_rng) 0 (fun _ _ => rfl)
    (fun _ _ _ hread => by rw [ExportCall.request, hread]) (fun ptr len out called hstate hread _ =>
      ⟨_, init_runs hread (by rw [hstate, hfresh]; exact hinit), rfl, Nat.le_refl _⟩) hpos (by omega) (by omega)
  obtain ⟨steps', reply', last, hasked, hstate, _, _, hspares'⟩ := HostRun.asks middle
    .gossip_disconnect_peer_wasi (error_to_json crates (.PeerNotFound text.val)).toByteArray.data.toList.length
    (fun _ _ => rfl) (fun _ _ _ hread => by rw [ExportCall.request, hread])
    (fun ptr len out called hstate hread hroom => disconnect_runs hread (by rw [hstate, hstarted]; exact hrefused)
      (by omega) hroom) hpos (by omega) (by omega)
  refine ⟨_, _, last, hstart.append hasked, rfl, hstate, ?_⟩
  intro range hrange step hstep
  rcases List.mem_append.mp hstep with hstep | hstep
  · exact hspares range hrange step hstep
  · exact hspares' range (hrange.of_blocks hblocks) step hstep

/-- What that host is answered after it has asked for the version. -/
theorem replies_starts (hinit : gossip_init text.val kem_rng sig_rng .fresh = .ok () ⟨some engine, lineage⟩)
    (hunknown : engine.sessions.get text = none) :
    replies [none, some (.gossip_init text.val kem_rng sig_rng), some (.gossip_disconnect_peer text)]
        (.fresh : ApiState crates) =
      [.ok (.bytes gossip_get_version.bytes.val), .ok .unit,
        .error (error_to_json crates (.PeerNotFound text.val)).toByteArray.data.toList] := by
  have hstarted : performRequest (some (.gossip_init text.val kem_rng sig_rng)) .fresh =
      .ok .unit (⟨some engine, lineage⟩ : ApiState crates) := by
    unfold performRequest ApiCall.perform answering
    dsimp only
    rw [hinit]
  have hrefused : performRequest (some (.gossip_disconnect_peer text)) (⟨some engine, lineage⟩ : ApiState crates) =
      .error (.PeerNotFound text.val) ⟨some engine, lineage⟩ := by
    unfold performRequest ApiCall.perform answering
    dsimp only
    rw [disconnect_refused hunknown]
  unfold replies replies replies replies
  change _ :: expected crates (performRequest _ .fresh) :: expected crates (performRequest _
    (final (performRequest _ .fresh))) :: [] = _
  rw [hstarted, final_ok, hrefused]
  rfl

end Asking

namespace reference

theorem startEngine_unknown (key : UInt8) (peer_addr : Str) :
    (reference.startEngine key).sessions.get peer_addr = none :=
  GossipEngine.sessions_new _ _ _

/-- That host on an instance that has been asked for the version. -/
theorem hostRun_starts (next : Instance reference.crates) (hfresh : next.state = .fresh)
    (htop : next.memory.top ≤ 25) :
    ∃ steps log last, HostRun next steps log last ∧
      log.map Entry.request = [some (.gossip_init (reference.keyJson 1).val (0 : UInt8) (0 : UInt8)),
        some (.gossip_disconnect_peer (reference.keyJson 1))] ∧
      last.state = reference.started 1 ∧
      ∀ range, next.memory.Holds range → ∀ step ∈ steps, step.Spares range := by
  have hlength : (reference.keyJson 1).bytes.val.length = 2 := reference.text_bytes_length [1] (by decide)
  exact HostRun.starts next hfresh (reference.init_started 1) (startEngine_unknown 1 _) (by omega) (by omega)
    (by omega) (by decide +kernel)

end reference

end witan.wasi_exports
