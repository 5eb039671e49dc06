import Witan.Crates
import Witan.Fallible.Actions
import Witan.Text.Hex

open bincode fallible
open witan.error

namespace witan.config

/-- Resolved configuration with all defaults applied. The seeds have the lengths
    that `resolve` checks. -/
structure ResolvedConfig where
  node_id_override : Option Str
  kem_seed : Option (ByteArr 96)
  sig_seed : Option (ByteArr 32)
  key_epoch : Str
  mesh_n : UInt8
  mesh_n_low : UInt8
  mesh_n_high : UInt8
  heartbeat_ms : UInt64
  max_message_bytes : Nat
  dedup_cache_secs : UInt64
  quorum_fraction : ℚ
  replay_window_ms : UInt64
  default_ttl : UInt8

/-- The label of keys that were given none. -/
def ephemeralRuntime : Str := ⟨"ephemeral-runtime", by decide⟩

variable (crates : Crates)

/-- Parse a configuration from a JSON string. -/
def GossipConfig.from_json (s : String) : Except GossipError GossipConfig :=
  (crates.config_from_str s).mapError fun e => .ConfigError s!"JSON parse error: {e}"

/-- Decode one of the two hex seeds and check its length. -/
def decode_seed (field : String) (length : Nat) :
    Option Str → Except GossipError (Option (ByteArr length))
  | none => .ok none
  | some hex_str => do
    let bytes ← orFail (hex.decode hex_str.val)
      (let e := crates.hex_message hex_str.val
       .ConfigError s!"{field} decode error: {e}")
    if h : bytes.length = length then .ok (some ⟨bytes, h⟩)
    else .error (.ConfigError
      s!"{field} must be {length} bytes ({2 * length} hex chars), got {bytes.length} bytes")

/-- Fill missing fields with defaults and decode the seeds. -/
def GossipConfig.resolve (self : GossipConfig) : Except GossipError ResolvedConfig := do
  let kem_seed ← decode_seed crates "kem_seed_hex" 96 self.kem_seed_hex
  let sig_seed ← decode_seed crates "sig_seed_hex" 32 self.sig_seed_hex
  let mesh_n := self.mesh_n.getD 8
  let mesh_n_low := self.mesh_n_low.getD 4
  let mesh_n_high := self.mesh_n_high.getD 12
  let quorum_fraction := self.quorum_fraction.getD (67 / 100)
  failIf (mesh_n_low > mesh_n) (.ConfigError "mesh_n_low must be <= mesh_n")
  failIf (mesh_n > mesh_n_high) (.ConfigError "mesh_n must be <= mesh_n_high")
  failIf (¬ (0 ≤ quorum_fraction ∧ quorum_fraction ≤ 1))
    (.ConfigError "quorum_fraction must be between 0.0 and 1.0")
  return {
    node_id_override := self.node_id
    kem_seed
    sig_seed
    key_epoch := self.key_epoch.getD ephemeralRuntime
    mesh_n
    mesh_n_low
    mesh_n_high
    heartbeat_ms := self.heartbeat_ms.getD 700
    max_message_bytes := self.max_message_bytes.getD 1048576
    dedup_cache_secs := self.dedup_cache_secs.getD 60
    quorum_fraction
    replay_window_ms := self.replay_window_ms.getD 30000
    default_ttl := self.default_ttl.getD 8 }

/-- A resolved mesh has its target between its two bounds. -/
theorem GossipConfig.resolve_mesh {self : GossipConfig} {resolved : ResolvedConfig}
    (h : self.resolve crates = .ok resolved) :
    resolved.mesh_n_low ≤ resolved.mesh_n ∧ resolved.mesh_n ≤ resolved.mesh_n_high := by
  unfold GossipConfig.resolve at h
  simp only [except_bind_eq_ok_iff, failIf_eq_ok_iff] at h
  obtain ⟨kem_seed, _, sig_seed, _, _, hlow, _, hhigh, _, _, hresolved⟩ := h
  obtain rfl := Except.ok.inj hresolved
  exact ⟨UInt8.not_lt.mp hlow, UInt8.not_lt.mp hhigh⟩

/-- The time to live of the dedup cache is set independently of the rest. -/
theorem GossipConfig.resolve_dedup_cache_secs {self : GossipConfig} {resolved : ResolvedConfig}
    (h : self.resolve crates = .ok resolved) (secs : UInt64) :
    ({ self with dedup_cache_secs := some secs } : GossipConfig).resolve crates =
      .ok { resolved with dedup_cache_secs := secs } := by
  unfold GossipConfig.resolve at h ⊢
  simp only [except_bind_eq_ok_iff, failIf_eq_ok_iff] at h ⊢
  obtain ⟨kem_seed, hkem, sig_seed, hsig, _, hlow, _, hhigh, _, hfraction, hresolved⟩ := h
  obtain rfl := Except.ok.inj hresolved
  exact ⟨kem_seed, hkem, sig_seed, hsig, (), hlow, (), hhigh, (), hfraction, rfl⟩

end witan.config
