import Witan.WasiExports.Hosts

open bincode fallible memory
open witan.types witan.error witan.session witan.rotation witan.api witan.gossip

namespace witan.wasi_exports

variable {crates : Crates}

section Runs

variable {inst inst' : Instance crates} {steps : List (HostStep crates)} {log : List (Entry crates)}

theorem wasi_alloc_keeps {size ptr : UInt32} {place : (m : Memory) → Option (m.Place size.toNat)} {m m' : Memory}
    {range : Block} (h : wasi_alloc size place m = some (ptr, m')) (hheld : m.Holds range) :
    m'.Holds range ∧ Memory.SameOn m m' range := by
  unfold wasi_alloc at h
  split at h
  · cases h
  · split at h
    · cases h
      exact ⟨hheld, .refl m range⟩
    · next place _ =>
      cases h
      exact ⟨hheld.of_blocks (List.subset_cons_self _ _), Memory.sameOn_allocate place range⟩

theorem wasi_free_keeps {ptr len : UInt32} {m m' : Memory} {range : Block} (h : wasi_free ptr len m = some m')
    (hheld : m.Holds range) (hsize : 0 < range.size)
    (hspares : ptr = 0 ∨ len = 0 ∨ range.Apart ⟨ptr.toNat, len.toNat⟩) :
    m'.Holds range ∧ Memory.SameOn m m' range := by
  unfold wasi_free at h
  split at h
  · cases h
    exact ⟨hheld, .refl m range⟩
  · next hreal =>
    split at h
    · cases h
      obtain ⟨block, hblock, hwithin⟩ := hheld
      have hapart : range.Apart ⟨ptr.toNat, len.toNat⟩ := by
        rcases hspares with hptr | hlen | hapart
        · exact absurd (.inl hptr) hreal
        · exact absurd (.inr hlen) hreal
        · exact hapart
      -- The freed block is not the one that the range is in.
      have hother : block ≠ ⟨ptr.toNat, len.toNat⟩ := by
        rintro rfl
        obtain ⟨hlow, hhigh⟩ := hwithin
        rcases hapart with hapart | hapart <;> dsimp only at hlow hhigh hapart <;> omega
      exact ⟨⟨block, (List.mem_erase_of_ne hother).mpr hblock, hwithin⟩, fun _ _ => rfl⟩
    · cases h

/-- Over a run that spares it, a range that the host holds keeps its bytes. -/
theorem HostRun.keeps {range : Block} (h : HostRun inst steps log inst') (hheld : inst.memory.Holds range)
    (hsize : 0 < range.size) (hspares : ∀ step ∈ steps, step.Spares range) :
    inst'.memory.Holds range ∧ Memory.SameOn inst.memory inst'.memory range := by
  -- What one step keeps, the rest of the run keeps.
  have hchain : ∀ {m m' m'' : Memory}, Memory.SameOn m m' range → m''.Holds range ∧ Memory.SameOn m' m'' range →
      m''.Holds range ∧ Memory.SameOn m m'' range := fun hsame hrest => ⟨hrest.1, hsame.trans hrest.2⟩
  induction h with
  | done => exact ⟨hheld, .refl _ _⟩
  | wasi_alloc h rest ih =>
    obtain ⟨hheld', hsame⟩ := wasi_alloc_keeps h hheld
    exact hchain hsame (ih hheld' fun step hstep => hspares step (.tail _ hstep))
  | wasi_free h rest ih =>
    obtain ⟨hheld', hsame⟩ := wasi_free_keeps h hheld hsize (hspares _ (.head _))
    exact hchain hsame (ih hheld' fun step hstep => hspares step (.tail _ hstep))
  | store _ rest ih =>
    exact hchain (Memory.sameOn_write (hspares _ (.head _))) (ih hheld fun step hstep => hspares step (.tail _ hstep))
  | call _ _ h rest ih =>
    obtain ⟨hheld', hsame⟩ := ExportCall.run_keeps h hheld (hspares _ (.head _))
    exact hchain hsame (ih hheld' fun step hstep => hspares step (.tail _ hstep))

/-- The range that an out-slot points to. -/
def dataRange (m : Memory) (out : UInt32) : Block :=
  ⟨(m.readWord (out.toNat + 4)).toNat, (m.readWord (out.toNat + 8)).toNat⟩

theorem dataRange_size {m : Memory} {out : UInt32} {data : Bytes} (h : readSlot .bytes m out = .ok (.bytes data)) :
    (dataRange m out).size = data.length := by
  unfold readSlot at h
  dsimp only at h
  split at h
  · have hdata : m.read (dataRange m out).ptr (dataRange m out).size = data := Reply.bytes.inj (Except.ok.inj h)
    rw [← hdata, Memory.read_length]
  · cases h

theorem Wrote.data_held {m m' : Memory} {out : UInt32} (h : Wrote m out m') :
    (dataRange m' out).size = 0 ∨ m'.Holds (dataRange m' out) := by
  unfold dataRange
  cases h with
  | plain ok ptr =>
    left
    rw [(write_out_words out ok ptr 0 m).2.2]
    rfl
  | leaked ok data henough place =>
    right
    obtain ⟨_, hptr, hlen⟩ := write_out_words out ok (UInt32.ofNat place.ptr) (UInt32.ofNat data.length)
      ((m.allocate place).write place.ptr data)
    have hlength : (UInt32.ofNat data.length).toNat ≤ data.length := by
      rw [UInt32.toNat_ofNat']
      exact Nat.mod_le _ _
    rw [hptr, hlen, place.toNat_ptr]
    exact ⟨_, List.mem_cons_self, Nat.le_refl _, Nat.add_le_add_left (Nat.le_trans hlength henough) _⟩

theorem readSlot_congr {m m' : Memory} {out : UInt32} (shape : Shape) (hslot : Memory.SameOn m m' ⟨out.toNat, 12⟩)
    (hdata : (dataRange m out).size = 0 ∨ Memory.SameOn m m' (dataRange m out)) :
    readSlot shape m' out = readSlot shape m out := by
  have hword : ∀ offset, offset + 4 ≤ 12 → m'.readWord (out.toNat + offset) = m.readWord (out.toNat + offset) := by
    intro offset hoffset
    refine (hslot.within ⟨?_, ?_⟩).readWord_eq <;> dsimp only <;> omega
  have hread : m'.read (dataRange m out).ptr (dataRange m out).size =
      m.read (dataRange m out).ptr (dataRange m out).size := by
    rcases hdata with hempty | hsame
    · rw [hempty]
      rfl
    · exact hsame.read_eq
  unfold dataRange at hread
  dsimp only at hread
  have hok := hword 0 (by omega)
  rw [Nat.add_zero] at hok
  unfold readSlot
  dsimp only
  rw [hok, hword 4 (by omega), hword 8 (by omega), hread]

/-- A reply stays readable: whatever the host does after a call, further calls
    included, as long as it spares the slot and the buffer the slot points to, it
    reads there what the API answered. -/
theorem reply_lasts {next : Instance crates} {call : ExportCall crates} {runtime : Runtime} {out : UInt32}
    (h : call.run runtime out inst = some next) (hout : SlotHeld inst out) (hrun : HostRun next steps log inst')
    (hslot : ∀ step ∈ steps, step.Spares ⟨out.toNat, 12⟩)
    (hdata : ∀ step ∈ steps, step.Spares (dataRange next.memory out)) :
    readSlot call.shape inst'.memory out =
      expected crates (performRequest (call.request inst.memory) inst.state) := by
  have hwrote := ExportCall.run_wrote h
  have hheld : next.memory.Holds ⟨out.toNat, 12⟩ := hout.of_blocks hwrote.blocks_subset
  have hslotSame := (hrun.keeps hheld (Nat.succ_pos 11) hslot).2
  have hdataSame : (dataRange next.memory out).size = 0 ∨
      Memory.SameOn next.memory inst'.memory (dataRange next.memory out) := by
    rcases hwrote.data_held with hempty | hdataHeld
    · exact .inl hempty
    · rcases Nat.eq_zero_or_pos (dataRange next.memory out).size with hempty | hpos
      · exact .inl hempty
      · exact .inr (hrun.keeps hdataHeld hpos hdata).2
  rw [readSlot_congr call.shape hslotSame hdataSame]
  exact (ExportCall.run_answers h hout).2

/-- The version that a host asked for still reads after it has started node 1 and was
    refused a disconnection. -/
theorem reply_lasts_reference :
    ∃ (next last : Instance reference.crates) (steps : List (HostStep reference.crates))
      (log : List (Entry reference.crates)),
      ExportCall.gossip_get_version_wasi.run bumpRuntime 8 (freshInstance reference.crates) = some next ∧
      HostRun next steps log last ∧
      log.map Entry.request = [some (.gossip_init (reference.keyJson 1).val (0 : UInt8) (0 : UInt8)),
        some (.gossip_disconnect_peer (reference.keyJson 1))] ∧
      readSlot .bytes last.memory 8 = .ok (.bytes gossip_get_version.bytes.val) := by
  obtain ⟨next, hnext, hfresh, htop⟩ := version_runs reference.crates
  obtain ⟨steps, log, last, hrun, hrequests, _, hspares⟩ := reference.hostRun_starts next hfresh htop
  have hwrote := ExportCall.run_wrote hnext
  have hslot : next.memory.Holds ⟨8, 12⟩ := (freshInstance_slot reference.crates).of_blocks hwrote.blocks_subset
  -- The slot points to the text of the version, which is not empty.
  have hdata : next.memory.Holds (dataRange next.memory 8) := by
    have hanswer : readSlot .bytes next.memory 8 = .ok (.bytes gossip_get_version.bytes.val) :=
      (ExportCall.run_answers hnext (freshInstance_slot _)).2
    refine hwrote.data_held.resolve_left fun hempty => ?_
    exact absurd ((dataRange_size hanswer).symm.trans hempty) (by decide)
  exact ⟨next, last, steps, log, hnext, hrun, hrequests, reply_lasts hnext (freshInstance_slot _) hrun
    (hspares _ hslot) (hspares _ hdata)⟩

end Runs

end witan.wasi_exports
