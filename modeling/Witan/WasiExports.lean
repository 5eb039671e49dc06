import Witan.Api.Answers
import Witan.Error.Display
import Witan.Memory.Linear

open bincode fallible memory
open witan.types witan.error witan.api witan.gossip

namespace witan.wasi_exports

variable {crates : Crates}

/-! The C-ABI. Integers of 32 bits are given by their bit pattern, so that `i32`,
pointers and `usize` are one type. Where the source leaves an allocation to the
runtime, the outcome is an argument; `none` is a call that aborts. -/

/-- What the runtime decides during one call: where it allocates, and what it
    leaves in memory that is not allocated to the host. -/
structure Runtime where
  scratch : Nat → UInt8
  buffer : (m : Memory) → (len : Nat) → Option (m.Buffer len)
  boxed : (m : Memory) → (size : Nat) → Option (m.Place size)

/-- An instance of the module. Its memory shows what it shares with the host. -/
structure Instance (crates : Crates) where
  state : ApiState crates
  memory : Memory

/-- Allocate `size` bytes. A failed allocation returns the null pointer. -/
def wasi_alloc (size : UInt32) (place : (m : Memory) → Option (m.Place size.toNat)) (m : Memory) :
    Option (UInt32 × Memory) :=
  -- A layout of more than `isize::MAX` bytes is invalid.
  if size.toNat ≥ 2 ^ 31 then none
  else match place m with
    | none => some (0, m)
    | some place => some (UInt32.ofNat place.ptr, m.allocate place)

/-- Free a block. The allocator's contract covers no block but an allocated one
    with the layout it was allocated with. -/
def wasi_free (ptr len : UInt32) (m : Memory) : Option Memory :=
  if ptr = 0 ∨ len = 0 then some m
  else if ⟨ptr.toNat, len.toNat⟩ ∈ m.blocks then some (m.release ⟨ptr.toNat, len.toNat⟩)
  else none

/-- The report of an error. -/
def error_to_json (crates : Crates) (e : GossipError) : String :=
  let detail_json := match crates.json_to_string (.string e.to_string) with
    | .ok json => json.val
    | .error _ => "\"unknown\""
  "\x7b\"error\":\"" ++ e.variant.name ++ "\",\"detail\":" ++ detail_json ++ "\x7d"

/-- Write `[ok, ptr, len]` into the 12-byte out-slot. -/
def write_out (out ok ptr len : UInt32) (m : Memory) : Memory :=
  ((m.writeWord out.toNat ok).writeWord (out.toNat + 4) ptr).writeWord (out.toNat + 8) len

/-- Leak a buffer: its address and the memory that holds it. A buffer that has
    allocated nothing has a dangling address. -/
def leak (m : Memory) (data : Bytes) : m.Buffer data.length → UInt32 × Memory
  | .dangling _ => (1, m)
  | .allocated _ _ place => (UInt32.ofNat place.ptr, (m.allocate place).write place.ptr data)

/-- Write a result with a byte buffer, which is leaked. -/
def write_bytes (runtime : Runtime) (out ok : UInt32) (data : Bytes) (m : Memory) : Option Memory :=
  (runtime.buffer m data.length).map fun buffer =>
    let (ptr, m) := leak m data buffer
    write_out out ok ptr (UInt32.ofNat data.length) m

def write_ok_bytes (runtime : Runtime) (out : UInt32) (data : Bytes) (m : Memory) : Option Memory :=
  write_bytes runtime out 1 data m

/-- Write a success result with a fixed-size byte array. -/
def write_ok_fixed {n : Nat} (runtime : Runtime) (out : UInt32) (data : ByteArr n) (m : Memory) : Option Memory :=
  (runtime.boxed m n).map fun place =>
    write_out out 1 (UInt32.ofNat place.ptr) (UInt32.ofNat n) ((m.allocate place).write place.ptr data.val)

def write_ok_unit (out : UInt32) (m : Memory) : Option Memory := some (write_out out 1 0 0 m)

/-- Write an error result: the report is leaked. -/
def write_err (crates : Crates) (runtime : Runtime) (out : UInt32) (e : GossipError) (m : Memory) : Option Memory :=
  write_bytes runtime out 0 (error_to_json crates e).toByteArray.data.toList m

/-- Read a byte slice. -/
def read_bytes (ptr len : UInt32) (m : Memory) : ByteVec :=
  ⟨m.read ptr.toNat len.toNat, by
    rw [Memory.read_length]
    exact Nat.lt_trans len.toNat_lt (by decide)⟩

/-- Read a UTF-8 string. Returns an empty string on invalid UTF-8. -/
def read_str (ptr len : UInt32) (m : Memory) : Str :=
  (Str.ofBytes? (read_bytes ptr len m)).getD ⟨"", by decide⟩

/-- Call the API and write its result into the out-slot. -/
def respond {α : Type} (runtime : Runtime) (out : UInt32) (write_ok : α → Memory → Option Memory)
    (call : EStateM GossipError (ApiState crates) α) (inst : Instance crates) : Option (Instance crates) :=
  let m := inst.memory.disturb runtime.scratch
  match call inst.state with
  | .ok value state => (write_ok value m).map (Instance.mk state)
  | .error e state => (write_err crates runtime out e m).map (Instance.mk state)

section Exports

variable (runtime : Runtime) (out : UInt32) (inst : Instance crates)

def gossip_init_wasi (cfg_ptr cfg_len : UInt32) (kem_rng sig_rng : crates.OsRng) : Option (Instance crates) :=
  let cfg := read_str cfg_ptr cfg_len inst.memory
  respond runtime out (fun _ => write_ok_unit out) (gossip_init cfg.val kem_rng sig_rng) inst

/-- The payload type is cut to a byte. -/
def gossip_publish_wasi (pt payload_ptr payload_len : UInt32) (now_ms : UInt64) : Option (Instance crates) :=
  let payload := read_bytes payload_ptr payload_len inst.memory
  respond runtime out (write_ok_fixed runtime out) (gossip_publish pt.toUInt8 payload now_ms) inst

def gossip_connect_peer_wasi (addr_ptr addr_len : UInt32) (getrandom : Except String Bytes32) (now_ms : UInt64) :
    Option (Instance crates) :=
  let addr := read_str addr_ptr addr_len inst.memory
  respond runtime out (write_ok_bytes runtime out) (gossip_connect_peer addr getrandom now_ms) inst

def gossip_disconnect_peer_wasi (addr_ptr addr_len : UInt32) : Option (Instance crates) :=
  let addr := read_str addr_ptr addr_len inst.memory
  respond runtime out (fun _ => write_ok_unit out) (gossip_disconnect_peer addr) inst

/-- Answer with a string. -/
def respondText (call : EStateM GossipError (ApiState crates) Str) : Option (Instance crates) :=
  respond runtime out (fun s => write_ok_bytes runtime out s.bytes.val) call inst

def gossip_get_peers_wasi (order : IterationOrder) : Option (Instance crates) :=
  respondText runtime out inst (gossip_get_peers order)

def gossip_get_node_identity_wasi : Option (Instance crates) := respondText runtime out inst gossip_get_node_identity

/-- The answer is in the pointer's place: 1 means valid. -/
def gossip_verify_envelope_wasi (bytes_ptr bytes_len : UInt32) (now_ms : UInt64) : Option (Instance crates) :=
  let bytes := read_bytes bytes_ptr bytes_len inst.memory
  respond runtime out (fun valid m => some (write_out out 1 (if valid then 1 else 0) 0 m))
    (gossip_verify_envelope bytes.val now_ms) inst

def gossip_encode_envelope_wasi (pt payload_ptr payload_len : UInt32) (now_ms : UInt64) : Option (Instance crates) :=
  let payload := read_bytes payload_ptr payload_len inst.memory
  respond runtime out (write_ok_bytes runtime out) (gossip_encode_envelope pt.toUInt8 payload now_ms) inst

def gossip_decode_envelope_wasi (bytes_ptr bytes_len : UInt32) : Option (Instance crates) :=
  let bytes := read_bytes bytes_ptr bytes_len inst.memory
  respondText runtime out inst (gossip_decode_envelope bytes.val)

def gossip_get_stats_wasi (order : IterationOrder) (now_ms : UInt64) : Option (Instance crates) :=
  respondText runtime out inst (gossip_get_stats order now_ms)

/-- No response is a null pointer. -/
def gossip_process_handshake_bytes_wasi (addr_ptr addr_len bytes_ptr bytes_len : UInt32)
    (getrandom : Except String Bytes32) (rng : crates.OsRng) (now_ms : UInt64) : Option (Instance crates) :=
  let addr := read_str addr_ptr addr_len inst.memory
  let bytes := read_bytes bytes_ptr bytes_len inst.memory
  respond runtime out
    (fun
      | some response => write_ok_bytes runtime out response
      | none => fun m => some (write_out out 1 0 0 m))
    (gossip_process_handshake_bytes addr bytes.val getrandom rng now_ms) inst

def gossip_build_handshake_ack_wasi (addr_ptr addr_len probe_ptr probe_len : UInt32)
    (getrandom : Except String Bytes32) (now_ms : UInt64) : Option (Instance crates) :=
  let addr := read_str addr_ptr addr_len inst.memory
  let probe := read_bytes probe_ptr probe_len inst.memory
  respond runtime out (write_ok_bytes runtime out) (gossip_build_handshake_ack addr probe.val getrandom now_ms) inst

def gossip_build_finish_ack_wasi (addr_ptr addr_len finish_ptr finish_len : UInt32) (now_ms : UInt64) :
    Option (Instance crates) :=
  let addr := read_str addr_ptr addr_len inst.memory
  let finish := read_bytes finish_ptr finish_len inst.memory
  respond runtime out (write_ok_bytes runtime out) (gossip_build_finish_ack addr finish.val now_ms) inst

/-- Always succeeds. -/
def gossip_get_version_wasi : Option (Instance crates) :=
  (write_ok_bytes runtime out gossip_get_version.bytes.val (inst.memory.disturb runtime.scratch)).map
    (Instance.mk inst.state)

def gossip_get_session_wasi (addr_ptr addr_len : UInt32) : Option (Instance crates) :=
  let addr := read_str addr_ptr addr_len inst.memory
  respondText runtime out inst (gossip_get_session addr)

end Exports

end witan.wasi_exports
