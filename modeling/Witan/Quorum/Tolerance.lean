import Witan.Quorum.Intersection
import Witan.Reference

open bincode fallible
open witan.types witan.config

namespace witan.quorum

namespace QuorumTracker

/-- A quorum is reached while no more than `⌊(N - 1) / 3⌋` of `N` peers stay silent:
    the acknowledgements of all others are enough, whatever led to them. -/
def ToleratesSilent (quorum_fraction : ℚ) (total_peers : Nat) : Prop :=
  ∀ ops message_id,
    total_peers - (total_peers - 1) / 3 ≤ ((new quorum_fraction).runAll ops).ack_count message_id →
    ((new quorum_fraction).runAll ops).has_quorum message_id total_peers = true

/-- A configuration that says nothing about the quorum gets the default fraction. -/
theorem resolve_quorum_fraction {crates : Crates} {config : GossipConfig} {resolved : ResolvedConfig}
    (hdefault : config.quorum_fraction = none) (hresolve : config.resolve crates = .ok resolved) :
    resolved.quorum_fraction = 67 / 100 := by
  unfold GossipConfig.resolve at hresolve
  simp only [except_bind_eq_ok_iff, pure, Except.pure, Except.ok.injEq] at hresolve
  obtain ⟨_, _, _, _, _, _, _, _, _, _, rfl⟩ := hresolve
  change config.quorum_fraction.getD (67 / 100) = 67 / 100
  rw [hdefault, Option.getD_none]

/-- The default fraction, without rounding. -/
theorem has_quorum_default_iff {self : QuorumTracker} (hfraction : self.quorum_fraction = 67 / 100)
    {message_id : Bytes32} {total_peers : Nat} :
    self.has_quorum message_id total_peers = true ↔
      total_peers ≠ 0 ∧ 67 * total_peers ≤ 100 * self.ack_count message_id := by
  rw [has_quorum_iff, hfraction]
  refine and_congr_right fun _ => ?_
  constructor
  · intro h
    have hcast : (67 * total_peers : ℚ) ≤ 100 * self.ack_count message_id := by linarith
    exact_mod_cast hcast
  · intro h
    have hcast : (67 * total_peers : ℚ) ≤ 100 * self.ack_count message_id := by exact_mod_cast h
    linarith

/-- As many peers as fit a `usize` can acknowledge a message. -/
theorem exists_ack_count (quorum_fraction : ℚ) (message_id : Bytes32) {count : Nat} (hcount : count < 2 ^ 64) :
    ∃ ops, ((new quorum_fraction).runAll ops).ack_count message_id = count := by
  refine ⟨acksOf message_id ((List.range count).map numbered), ?_⟩
  have hbound : ∀ n ∈ List.range count, n < 256 ^ 32 := by
    intro n hn
    have hlt : n < count := List.mem_range.mp hn
    have hwide : 2 ^ 64 ≤ 256 ^ 32 := by decide
    omega
  rw [← card_ackers, ackers_runAll_acksOf, ackers_new, Finset.empty_union,
    toFinset_numbered_card List.nodup_range hbound, List.length_range]

theorem toleratesSilent_iff_le {total_peers : Nat} (hpos : 1 ≤ total_peers) (husize : total_peers < 2 ^ 64) :
    ToleratesSilent (67 / 100) total_peers ↔
      67 * total_peers ≤ 100 * (total_peers - (total_peers - 1) / 3) := by
  have hfraction (ops : List QuorumOp) : ((new (67 / 100)).runAll ops).quorum_fraction = 67 / 100 :=
    runAll_quorum_fraction _ ops
  constructor
  · intro htolerates
    let message_id : Bytes32 := ⟨leBytes 32 0, leBytes_length 32 0⟩
    obtain ⟨ops, hops⟩ := exists_ack_count (67 / 100) message_id
      (show total_peers - (total_peers - 1) / 3 < 2 ^ 64 by omega)
    have hquorum := htolerates ops message_id hops.ge
    rw [has_quorum_default_iff (hfraction ops), hops] at hquorum
    exact hquorum.2
  · intro hle ops message_id hcount
    rw [has_quorum_default_iff (hfraction ops)]
    refine ⟨by omega, hle.trans ?_⟩
    exact Nat.mul_le_mul_left 100 hcount

/-- The default fraction lies above two thirds, so the margin runs out as the mesh
    grows, at a size that depends on the remainder by three. -/
theorem toleratesSilent_iff {crates : Crates} {config : GossipConfig} {resolved : ResolvedConfig}
    (hdefault : config.quorum_fraction = none) (hresolve : config.resolve crates = .ok resolved)
    {total_peers : Nat} (hpos : 1 ≤ total_peers) (husize : total_peers < 2 ^ 64) :
    ToleratesSilent resolved.quorum_fraction total_peers ↔
      total_peers % 3 = 1 ∧ total_peers ≤ 100 ∨ total_peers % 3 = 2 ∧ total_peers ≤ 200 ∨
        total_peers % 3 = 0 ∧ total_peers ≤ 300 := by
  rw [resolve_quorum_fraction hdefault hresolve, toleratesSilent_iff_le hpos husize]
  omega

/-- A mesh of four peers tolerates one silent peer. -/
theorem toleratesSilent_iff_four :
    (reference.config 1).resolve reference.crates = .ok (reference.resolved 1) ∧
      ToleratesSilent (reference.resolved 1).quorum_fraction 4 :=
  ⟨reference.resolve_config 1,
    (toleratesSilent_iff rfl (reference.resolve_config 1) (by decide) (by decide)).mpr (by decide)⟩

/-- In a mesh of 103 peers the acknowledgements of 69, all but 34, are not enough:
    the fraction asks for 70. -/
theorem silent_peers_block_quorum :
    (reference.config 1).resolve reference.crates = .ok (reference.resolved 1) ∧
      ¬ ToleratesSilent (reference.resolved 1).quorum_fraction 103 := by
  refine ⟨reference.resolve_config 1, ?_⟩
  change ¬ ToleratesSilent (67 / 100) 103
  rw [toleratesSilent_iff_le (by decide) (by decide)]
  decide

end QuorumTracker

end witan.quorum
