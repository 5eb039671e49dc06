import Witan.WasiExports

open bincode fallible memory
open witan.types witan.error witan.api witan.gossip

namespace witan.wasi_exports

variable {crates : Crates}

/-- The exports that answer through an out-slot, with their arguments and the
    randomness, the time and the map orders they draw. -/
inductive ExportCall (crates : Crates) where
  | gossip_init_wasi (cfg_ptr cfg_len : UInt32) (kem_rng sig_rng : crates.OsRng)
  | gossip_publish_wasi (pt payload_ptr payload_len : UInt32) (now_ms : UInt64)
  | gossip_connect_peer_wasi (addr_ptr addr_len : UInt32) (getrandom : Except String Bytes32) (now_ms : UInt64)
  | gossip_disconnect_peer_wasi (addr_ptr addr_len : UInt32)
  | gossip_get_peers_wasi (order : IterationOrder)
  | gossip_get_node_identity_wasi
  | gossip_verify_envelope_wasi (bytes_ptr bytes_len : UInt32) (now_ms : UInt64)
  | gossip_encode_envelope_wasi (pt payload_ptr payload_len : UInt32) (now_ms : UInt64)
  | gossip_decode_envelope_wasi (bytes_ptr bytes_len : UInt32)
  | gossip_get_stats_wasi (order : IterationOrder) (now_ms : UInt64)
  | gossip_process_handshake_bytes_wasi (addr_ptr addr_len bytes_ptr bytes_len : UInt32)
      (getrandom : Except String Bytes32) (rng : crates.OsRng) (now_ms : UInt64)
  | gossip_build_handshake_ack_wasi (addr_ptr addr_len probe_ptr probe_len : UInt32)
      (getrandom : Except String Bytes32) (now_ms : UInt64)
  | gossip_build_finish_ack_wasi (addr_ptr addr_len finish_ptr finish_len : UInt32) (now_ms : UInt64)
  | gossip_get_version_wasi
  | gossip_get_session_wasi (addr_ptr addr_len : UInt32)

/-- How an out-slot is to be read: what stands in it on success. -/
inductive Shape where
  | unit
  | flag
  | bytes
  | response

/-- What the host reads in an out-slot on success. -/
inductive Reply where
  | unit
  | flag (value : Bool)
  | bytes (value : Bytes)
  | response (value : Option Bytes)

namespace ExportCall

def run (runtime : Runtime) (out : UInt32) : ExportCall crates → Instance crates → Option (Instance crates)
  | gossip_init_wasi cfg_ptr cfg_len kem_rng sig_rng, inst =>
    wasi_exports.gossip_init_wasi runtime out inst cfg_ptr cfg_len kem_rng sig_rng
  | gossip_publish_wasi pt payload_ptr payload_len now_ms, inst =>
    wasi_exports.gossip_publish_wasi runtime out inst pt payload_ptr payload_len now_ms
  | gossip_connect_peer_wasi addr_ptr addr_len getrandom now_ms, inst =>
    wasi_exports.gossip_connect_peer_wasi runtime out inst addr_ptr addr_len getrandom now_ms
  | gossip_disconnect_peer_wasi addr_ptr addr_len, inst =>
    wasi_exports.gossip_disconnect_peer_wasi runtime out inst addr_ptr addr_len
  | gossip_get_peers_wasi order, inst => wasi_exports.gossip_get_peers_wasi runtime out inst order
  | gossip_get_node_identity_wasi, inst => wasi_exports.gossip_get_node_identity_wasi runtime out inst
  | gossip_verify_envelope_wasi bytes_ptr bytes_len now_ms, inst =>
    wasi_exports.gossip_verify_envelope_wasi runtime out inst bytes_ptr bytes_len now_ms
  | gossip_encode_envelope_wasi pt payload_ptr payload_len now_ms, inst =>
    wasi_exports.gossip_encode_envelope_wasi runtime out inst pt payload_ptr payload_len now_ms
  | gossip_decode_envelope_wasi bytes_ptr bytes_len, inst =>
    wasi_exports.gossip_decode_envelope_wasi runtime out inst bytes_ptr bytes_len
  | gossip_get_stats_wasi order now_ms, inst => wasi_exports.gossip_get_stats_wasi runtime out inst order now_ms
  | gossip_process_handshake_bytes_wasi addr_ptr addr_len bytes_ptr bytes_len getrandom rng now_ms, inst =>
    wasi_exports.gossip_process_handshake_bytes_wasi runtime out inst addr_ptr addr_len bytes_ptr bytes_len
      getrandom rng now_ms
  | gossip_build_handshake_ack_wasi addr_ptr addr_len probe_ptr probe_len getrandom now_ms, inst =>
    wasi_exports.gossip_build_handshake_ack_wasi runtime out inst addr_ptr addr_len probe_ptr probe_len getrandom now_ms
  | gossip_build_finish_ack_wasi addr_ptr addr_len finish_ptr finish_len now_ms, inst =>
    wasi_exports.gossip_build_finish_ack_wasi runtime out inst addr_ptr addr_len finish_ptr finish_len now_ms
  | gossip_get_version_wasi, inst => wasi_exports.gossip_get_version_wasi runtime out inst
  | gossip_get_session_wasi addr_ptr addr_len, inst =>
    wasi_exports.gossip_get_session_wasi runtime out inst addr_ptr addr_len

/-- The API call that the arguments in memory stand for. Only the version is
    answered without the API's state. -/
def request (m : Memory) : ExportCall crates → Option (ApiCall crates)
  | gossip_init_wasi cfg_ptr cfg_len kem_rng sig_rng =>
    some (.gossip_init (read_str cfg_ptr cfg_len m).val kem_rng sig_rng)
  | gossip_publish_wasi pt payload_ptr payload_len now_ms =>
    some (.gossip_publish pt.toUInt8 (read_bytes payload_ptr payload_len m) now_ms)
  | gossip_connect_peer_wasi addr_ptr addr_len getrandom now_ms =>
    some (.gossip_connect_peer (read_str addr_ptr addr_len m) getrandom now_ms)
  | gossip_disconnect_peer_wasi addr_ptr addr_len => some (.gossip_disconnect_peer (read_str addr_ptr addr_len m))
  | gossip_get_peers_wasi order => some (.gossip_get_peers order)
  | gossip_get_node_identity_wasi => some .gossip_get_node_identity
  | gossip_verify_envelope_wasi bytes_ptr bytes_len now_ms =>
    some (.gossip_verify_envelope (read_bytes bytes_ptr bytes_len m).val now_ms)
  | gossip_encode_envelope_wasi pt payload_ptr payload_len now_ms =>
    some (.gossip_encode_envelope pt.toUInt8 (read_bytes payload_ptr payload_len m) now_ms)
  | gossip_decode_envelope_wasi bytes_ptr bytes_len =>
    some (.gossip_decode_envelope (read_bytes bytes_ptr bytes_len m).val)
  | gossip_get_stats_wasi order now_ms => some (.gossip_get_stats order now_ms)
  | gossip_process_handshake_bytes_wasi addr_ptr addr_len bytes_ptr bytes_len getrandom rng now_ms =>
    some (.gossip_process_handshake_bytes (read_str addr_ptr addr_len m) (read_bytes bytes_ptr bytes_len m).val
      getrandom rng now_ms)
  | gossip_build_handshake_ack_wasi addr_ptr addr_len probe_ptr probe_len getrandom now_ms =>
    some (.gossip_build_handshake_ack (read_str addr_ptr addr_len m) (read_bytes probe_ptr probe_len m).val
      getrandom now_ms)
  | gossip_build_finish_ack_wasi addr_ptr addr_len finish_ptr finish_len now_ms =>
    some (.gossip_build_finish_ack (read_str addr_ptr addr_len m) (read_bytes finish_ptr finish_len m).val now_ms)
  | gossip_get_version_wasi => none
  | gossip_get_session_wasi addr_ptr addr_len => some (.gossip_get_session (read_str addr_ptr addr_len m))

def shape : ExportCall crates → Shape
  | gossip_init_wasi _ _ _ _ => .unit
  | gossip_disconnect_peer_wasi _ _ => .unit
  | gossip_verify_envelope_wasi _ _ _ => .flag
  | gossip_process_handshake_bytes_wasi _ _ _ _ _ _ _ => .response
  | _ => .bytes

end ExportCall

/-- Perform the API call, or tell the version. -/
def performRequest : Option (ApiCall crates) → EStateM GossipError (ApiState crates) Answer
  | some call => call.perform
  | none => pure (.text gossip_get_version)

/-- Read an out-slot as the convention says. -/
def readSlot (shape : Shape) (m : Memory) (out : UInt32) : Except Bytes Reply :=
  let ptr := m.readWord (out.toNat + 4)
  let len := m.readWord (out.toNat + 8)
  let data := m.read ptr.toNat len.toNat
  if m.readWord out.toNat = 1 then
    .ok (match shape with
      | .unit => .unit
      | .flag => .flag (ptr = 1)
      | .bytes => .bytes data
      | .response => .response (if ptr = 0 then none else some data))
  else .error data

/-- An answer as the host reads it: texts by their UTF-8 bytes. -/
def ofAnswer : Answer → Reply
  | .unit => .unit
  | .flag value => .flag value
  | .bytes value => .bytes value
  | .text value => .bytes value.bytes.val
  | .response value => .response value

/-- What the host is to read for a result of the API. -/
def expected {σ : Type} (crates : Crates) : EStateM.Result GossipError σ Answer → Except Bytes Reply
  | .ok answer _ => .ok (ofAnswer answer)
  | .error e _ => .error (error_to_json crates e).toByteArray.data.toList

section Slots

variable {m m' : Memory} {out ok ptr len : UInt32} {data : Bytes} {runtime : Runtime}

/-- The three words of a slot read back. -/
theorem write_out_words (out ok ptr len : UInt32) (m : Memory) :
    (write_out out ok ptr len m).readWord out.toNat = ok ∧
      (write_out out ok ptr len m).readWord (out.toNat + 4) = ptr ∧
      (write_out out ok ptr len m).readWord (out.toNat + 8) = len := by
  refine ⟨?_, ?_, ?_⟩
  · unfold write_out
    rw [(Memory.sameOn_writeWord (.inl (by dsimp only; omega))).readWord_eq,
      (Memory.sameOn_writeWord (.inl (by dsimp only; omega))).readWord_eq, Memory.readWord_writeWord]
  · unfold write_out
    rw [(Memory.sameOn_writeWord (.inl (by dsimp only; omega))).readWord_eq, Memory.readWord_writeWord]
  · exact Memory.readWord_writeWord _ _ _

/-- Nothing but the slot is written. -/
theorem sameOn_write_out {range : Block} (h : range.Apart ⟨out.toNat, 12⟩) :
    Memory.SameOn m (write_out out ok ptr len m) range := by
  unfold Block.Apart at h
  dsimp only at h
  refine .trans (.trans (Memory.sameOn_writeWord ?_) (Memory.sameOn_writeWord ?_)) (Memory.sameOn_writeWord ?_)
  all_goals
    unfold Block.Apart
    dsimp only
    omega

/-- A leaked buffer is at the address and of the length that the slot tells. -/
theorem write_bytes_slot (h : write_bytes runtime out ok data m = some m') (hout : m.Holds ⟨out.toNat, 12⟩) :
    m'.readWord out.toNat = ok ∧ m'.readWord (out.toNat + 4) ≠ 0 ∧
      m'.read (m'.readWord (out.toNat + 4)).toNat (m'.readWord (out.toNat + 8)).toNat = data := by
  unfold write_bytes at h
  obtain ⟨buffer, _, hwritten⟩ := Option.map_eq_some_iff.mp h
  cases buffer with
  | dangling hempty =>
    obtain rfl := List.eq_nil_of_length_eq_zero hempty
    obtain ⟨hok, hptr, hlen⟩ := write_out_words out ok 1 0 m
    change write_out out ok 1 0 m = m' at hwritten
    rw [← hwritten, hok, hptr, hlen]
    exact ⟨rfl, by decide, rfl⟩
  | allocated capacity henough place =>
    change write_out out ok (UInt32.ofNat place.ptr) (UInt32.ofNat data.length)
      ((m.allocate place).write place.ptr data) = m' at hwritten
    obtain ⟨hok, hptr, hlen⟩ := write_out_words out ok (UInt32.ofNat place.ptr) (UInt32.ofNat data.length)
      ((m.allocate place).write place.ptr data)
    have hcapacity : capacity < 2 ^ 31 := place.placed.size_lt
    have hlength : (UInt32.ofNat data.length).toNat = data.length :=
      UInt32.toNat_ofNat_of_lt (show data.length < 2 ^ 32 by omega)
    -- The slot is allocated to the host, so the new block is apart from it.
    have hapart : Block.Apart ⟨place.ptr, data.length⟩ ⟨out.toNat, 12⟩ := (place.front_apart_of_holds hout henough).symm
    rw [← hwritten, hok, hptr, hlen, place.toNat_ptr, hlength, (sameOn_write_out hapart).read_eq]
    exact ⟨rfl, place.ofNat_ptr_ne_zero, Memory.read_write _ _ _⟩

theorem write_ok_fixed_slot {n : Nat} {data : ByteArr n} (h : write_ok_fixed runtime out data m = some m')
    (hout : m.Holds ⟨out.toNat, 12⟩) :
    m'.readWord out.toNat = 1 ∧
      m'.read (m'.readWord (out.toNat + 4)).toNat (m'.readWord (out.toNat + 8)).toNat = data.val := by
  unfold write_ok_fixed at h
  obtain ⟨place, _, hwritten⟩ := Option.map_eq_some_iff.mp h
  obtain ⟨hok, hptr, hlen⟩ := write_out_words out 1 (UInt32.ofNat place.ptr) (UInt32.ofNat n)
    ((m.allocate place).write place.ptr data.val)
  have hsize : n < 2 ^ 31 := place.placed.size_lt
  have hlength : (UInt32.ofNat n).toNat = n := UInt32.toNat_ofNat_of_lt (show n < 2 ^ 32 by omega)
  have hread := Memory.read_write (m.allocate place) place.ptr data.val
  rw [data.property] at hread
  rw [← hwritten, hok, hptr, hlen, place.toNat_ptr, hlength,
    (sameOn_write_out (place.apart_of_holds hout).symm).read_eq]
  exact ⟨rfl, hread⟩

theorem readSlot_write_err {shape : Shape} {e : GossipError} (h : write_err crates runtime out e m = some m')
    (hout : m.Holds ⟨out.toNat, 12⟩) :
    readSlot shape m' out = .error (error_to_json crates e).toByteArray.data.toList := by
  obtain ⟨hok, _, hdata⟩ := write_bytes_slot h hout
  unfold readSlot
  dsimp only
  rw [hok, if_neg (by decide), hdata]

theorem readSlot_write_ok_bytes (h : write_ok_bytes runtime out data m = some m') (hout : m.Holds ⟨out.toNat, 12⟩) :
    readSlot .bytes m' out = .ok (.bytes data) := by
  obtain ⟨hok, _, hdata⟩ := write_bytes_slot h hout
  unfold readSlot
  dsimp only
  rw [hok, if_pos rfl, hdata]

theorem readSlot_write_ok_response (h : write_ok_bytes runtime out data m = some m')
    (hout : m.Holds ⟨out.toNat, 12⟩) : readSlot .response m' out = .ok (.response (some data)) := by
  obtain ⟨hok, hptr, hdata⟩ := write_bytes_slot h hout
  unfold readSlot
  dsimp only
  rw [hok, if_pos rfl, hdata, if_neg hptr]

theorem readSlot_write_ok_fixed {n : Nat} {data : ByteArr n} (h : write_ok_fixed runtime out data m = some m')
    (hout : m.Holds ⟨out.toNat, 12⟩) : readSlot .bytes m' out = .ok (.bytes data.val) := by
  obtain ⟨hok, hdata⟩ := write_ok_fixed_slot h hout
  unfold readSlot
  dsimp only
  rw [hok, if_pos rfl, hdata]

theorem readSlot_write_out_unit (m : Memory) : readSlot .unit (write_out out 1 0 0 m) out = .ok .unit := by
  unfold readSlot
  dsimp only
  rw [(write_out_words out 1 0 0 m).1, if_pos rfl]

theorem readSlot_write_out_flag (m : Memory) (value : Bool) :
    readSlot .flag (write_out out 1 (if value then 1 else 0) 0 m) out = .ok (.flag value) := by
  obtain ⟨hok, hptr, _⟩ := write_out_words out 1 (if value then 1 else 0) 0 m
  unfold readSlot
  dsimp only
  rw [hok, if_pos rfl, hptr]
  cases value <;> rfl

theorem readSlot_write_out_none (m : Memory) :
    readSlot .response (write_out out 1 0 0 m) out = .ok (.response none) := by
  obtain ⟨hok, hptr, _⟩ := write_out_words out 1 0 0 m
  unfold readSlot
  dsimp only
  rw [hok, if_pos rfl, hptr, if_pos rfl]

end Slots

section Steps

variable {inst inst' : Instance crates} {runtime : Runtime} {out : UInt32}

/-- The out-slot lies in memory that the host has allocated. -/
def SlotHeld (inst : Instance crates) (out : UInt32) : Prop := inst.memory.Holds ⟨out.toNat, 12⟩

/-- The instance moves as the API does, and the slot shows the API's result. -/
def Answers (inst inst' : Instance crates) (out : UInt32) (shape : Shape)
    (call : EStateM GossipError (ApiState crates) Answer) : Prop :=
  inst'.state = final (call inst.state) ∧ readSlot shape inst'.memory out = expected crates (call inst.state)

theorem respond_answers {α : Type} {answer : α → Answer} {write_ok : α → Memory → Option Memory} {shape : Shape}
    {call : EStateM GossipError (ApiState crates) α} (h : respond runtime out write_ok call inst = some inst')
    (hout : SlotHeld inst out)
    (hwrite : ∀ value m m', m.Holds ⟨out.toNat, 12⟩ → write_ok value m = some m' →
      readSlot shape m' out = .ok (ofAnswer (answer value))) :
    Answers inst inst' out shape (answering answer call) := by
  have hheld : (inst.memory.disturb runtime.scratch).Holds ⟨out.toNat, 12⟩ := hout
  unfold respond at h
  dsimp only at h
  unfold Answers answering
  cases hcall : call inst.state with
  | ok value state =>
    rw [hcall] at h
    obtain ⟨m', hm', rfl⟩ := Option.map_eq_some_iff.mp h
    exact ⟨rfl, hwrite value _ m' hheld hm'⟩
  | error e state =>
    rw [hcall] at h
    obtain ⟨m', hm', rfl⟩ := Option.map_eq_some_iff.mp h
    exact ⟨rfl, readSlot_write_err hm' hheld⟩

theorem respondText_answers {call : EStateM GossipError (ApiState crates) Str}
    (h : respondText runtime out inst call = some inst') (hout : SlotHeld inst out) :
    Answers inst inst' out .bytes (answering .text call) :=
  respond_answers h hout fun _ _ _ hheld hm' => readSlot_write_ok_bytes hm' hheld

/-- Every export answers through its slot as the API does for the arguments in memory. -/
theorem ExportCall.run_answers {call : ExportCall crates} (h : call.run runtime out inst = some inst')
    (hout : SlotHeld inst out) :
    Answers inst inst' out call.shape (performRequest (call.request inst.memory)) := by
  cases call with
  | gossip_init_wasi | gossip_disconnect_peer_wasi =>
    refine respond_answers h hout fun _ m m' _ hm' => ?_
    obtain rfl := Option.some.inj hm'
    exact readSlot_write_out_unit m
  | gossip_publish_wasi => exact respond_answers h hout fun _ _ _ hheld hm' => readSlot_write_ok_fixed hm' hheld
  | gossip_connect_peer_wasi | gossip_encode_envelope_wasi | gossip_build_handshake_ack_wasi
  | gossip_build_finish_ack_wasi =>
    exact respond_answers h hout fun _ _ _ hheld hm' => readSlot_write_ok_bytes hm' hheld
  | gossip_get_peers_wasi | gossip_get_node_identity_wasi | gossip_decode_envelope_wasi | gossip_get_stats_wasi
  | gossip_get_session_wasi => exact respondText_answers h hout
  | gossip_verify_envelope_wasi =>
    unfold run wasi_exports.gossip_verify_envelope_wasi at h
    refine respond_answers h hout fun value m m' _ hm' => ?_
    obtain rfl := Option.some.inj hm'
    exact readSlot_write_out_flag m value
  | gossip_process_handshake_bytes_wasi =>
    refine respond_answers h hout fun value m m' hheld hm' => ?_
    cases value with
    | some response => exact readSlot_write_ok_response hm' hheld
    | none =>
      obtain rfl := Option.some.inj hm'
      exact readSlot_write_out_none m
  | gossip_get_version_wasi =>
    obtain ⟨m', hm', rfl⟩ := Option.map_eq_some_iff.mp h
    exact ⟨rfl, readSlot_write_ok_bytes hm' hout⟩

end Steps

end witan.wasi_exports
