import Witan.WasiExports.Writes

open bincode fallible memory
open witan.types witan.error witan.session witan.rotation witan.api witan.gossip

namespace witan.wasi_exports

variable {crates : Crates}

/-- What a host does with an instance. -/
inductive HostStep (crates : Crates) where
  | wasi_alloc (size : UInt32) (place : (m : Memory) → Option (m.Place size.toNat))
  | wasi_free (ptr len : UInt32)
  | store (ptr : UInt32) (data : Bytes)
  | call (call : ExportCall crates) (out : UInt32) (runtime : Runtime)

/-- The ranges that an export reads. -/
def ExportCall.arguments : ExportCall crates → List Block
  | gossip_init_wasi ptr len _ _ | gossip_publish_wasi _ ptr len _ | gossip_connect_peer_wasi ptr len _ _
  | gossip_disconnect_peer_wasi ptr len | gossip_verify_envelope_wasi ptr len _
  | gossip_encode_envelope_wasi _ ptr len _
  | gossip_decode_envelope_wasi ptr len | gossip_get_session_wasi ptr len => [⟨ptr.toNat, len.toNat⟩]
  | gossip_process_handshake_bytes_wasi ptr len ptr' len' _ _ _ | gossip_build_handshake_ack_wasi ptr len ptr' len' _ _
  | gossip_build_finish_ack_wasi ptr len ptr' len' _ => [⟨ptr.toNat, len.toNat⟩, ⟨ptr'.toNat, len'.toNat⟩]
  | gossip_get_peers_wasi _ | gossip_get_node_identity_wasi | gossip_get_stats_wasi _ _ | gossip_get_version_wasi => []

/-- A call of the host, as the API sees it, and the reply that the host reads. -/
structure Entry (crates : Crates) where
  request : Option (ApiCall crates)
  reply : Except Bytes Reply

/-- A run of a host that keeps to the convention: it writes, passes arguments and
    asks for replies only in blocks that are allocated. The log has its calls with
    the replies it reads. -/
inductive HostRun : Instance crates → List (HostStep crates) → List (Entry crates) → Instance crates → Prop
  | done {inst} : HostRun inst [] [] inst
  | wasi_alloc {inst last steps log size place ptr memory}
    (h : wasi_exports.wasi_alloc size place inst.memory = some (ptr, memory))
    (rest : HostRun ⟨inst.state, memory⟩ steps log last) : HostRun inst (.wasi_alloc size place :: steps) log last
  | wasi_free {inst last steps log ptr len memory} (h : wasi_exports.wasi_free ptr len inst.memory = some memory)
    (rest : HostRun ⟨inst.state, memory⟩ steps log last) : HostRun inst (.wasi_free ptr len :: steps) log last
  | store {inst last steps log data} {ptr : UInt32} (hheld : inst.memory.Holds ⟨ptr.toNat, data.length⟩)
    (rest : HostRun ⟨inst.state, inst.memory.write ptr.toNat data⟩ steps log last) :
    HostRun inst (.store ptr data :: steps) log last
  | call {inst next last steps log call out runtime} (hout : SlotHeld inst out)
    (harguments : ∀ range ∈ call.arguments, range.size = 0 ∨ inst.memory.Holds range)
    (h : call.run runtime out inst = some next) (rest : HostRun next steps log last) :
    HostRun inst (.call call out runtime :: steps)
      (⟨call.request inst.memory, readSlot call.shape next.memory out⟩ :: log) last

/-- The replies that a sequence of requests gets from the API. -/
def replies : List (Option (ApiCall crates)) → ApiState crates → List (Except Bytes Reply)
  | [], _ => []
  | request :: requests, state =>
    expected crates (performRequest request state) :: replies requests (final (performRequest request state))

/-- The step neither writes in the range nor frees what it is in. -/
def HostStep.Spares (range : Block) : HostStep crates → Prop
  | .wasi_alloc _ _ => True
  | .wasi_free ptr len => ptr = 0 ∨ len = 0 ∨ range.Apart ⟨ptr.toNat, len.toNat⟩
  | .store ptr data => range.Apart ⟨ptr.toNat, data.length⟩
  | .call _ out _ => range.Apart ⟨out.toNat, 12⟩

section Runs

variable {inst inst' : Instance crates} {steps : List (HostStep crates)} {log : List (Entry crates)}

theorem HostRun.append {first middle last : Instance crates} {steps steps' : List (HostStep crates)}
    {log log' : List (Entry crates)} (h : HostRun first steps log middle) (h' : HostRun middle steps' log' last) :
    HostRun first (steps ++ steps') (log ++ log') last := by
  induction h with
  | done => exact h'
  | wasi_alloc h rest ih => exact .wasi_alloc h (ih h')
  | wasi_free h rest ih => exact .wasi_free h (ih h')
  | store hheld rest ih => exact .store hheld (ih h')
  | call hout harguments h rest ih => exact .call hout harguments h (ih h')

theorem final_performRequest (request : Option (ApiCall crates)) (state : ApiState crates) :
    final (performRequest request state) = ApiCall.runAll request.toList state := by
  cases request with
  | none => rfl
  | some call => exact call.final_perform state

/-- The replies that a host reads are those that the API gives to its calls. -/
theorem HostRun.replies_eq (h : HostRun inst steps log inst') :
    log.map Entry.reply = replies (log.map Entry.request) inst.state := by
  induction h with
  | done => rfl
  | wasi_alloc h rest ih => exact ih
  | wasi_free h rest ih => exact ih
  | store hheld rest ih => exact ih
  | call hout _ h rest ih =>
    obtain ⟨hstate, hreply⟩ := ExportCall.run_answers h hout
    rw [hstate] at ih
    change _ :: _ = _ :: _
    rw [ih, hreply]

theorem HostRun.state_eq (h : HostRun inst steps log inst') :
    inst'.state = ApiCall.runAll (log.filterMap Entry.request) inst.state := by
  induction h with
  | done => rfl
  | wasi_alloc h rest ih => exact ih
  | wasi_free h rest ih => exact ih
  | store hheld rest ih => exact ih
  | @call inst next last steps log call out runtime hout _ h rest ih =>
    obtain ⟨hstate, _⟩ := ExportCall.run_answers h hout
    rw [ih, hstate, final_performRequest, List.filterMap_cons]
    cases call.request inst.memory <;> rfl

end Runs

end witan.wasi_exports
