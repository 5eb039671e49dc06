import Mathlib.Algebra.Order.Floor.Defs
import Mathlib.Algebra.Order.Floor.Semiring
import Mathlib.Data.Rat.Floor
import Std.Data.ExtHashSet
import Witan.Types

open Std (ExtHashMap ExtHashSet)
open bincode
open witan.types

namespace witan.quorum

/-- Which peers acknowledged which message. The fraction is an exact rational. -/
structure QuorumTracker where
  acks : ExtHashMap Bytes32 (ExtHashSet Str)
  quorum_fraction : ℚ

namespace QuorumTracker

def new (quorum_fraction : ℚ) : QuorumTracker := ⟨∅, quorum_fraction⟩

/-- Record an acknowledgement of a message by a peer. -/
def record_ack (self : QuorumTracker) (message_id : Bytes32) (peer_addr : Str) : QuorumTracker :=
  { self with acks := self.acks.insert message_id ((self.acks[message_id]?.getD ∅).insert peer_addr) }

/-- Number of peers that acknowledged a message. -/
def ack_count (self : QuorumTracker) (message_id : Bytes32) : Nat :=
  ((self.acks[message_id]?).map (·.size)).getD 0

/-- Whether enough of the peers acknowledged a message. -/
def has_quorum (self : QuorumTracker) (message_id : Bytes32) (total_peers : Nat) : Bool :=
  if total_peers = 0 then false
  else
    let required := ⌈(total_peers : ℚ) * self.quorum_fraction⌉₊
    self.ack_count message_id ≥ required

/-- Forget the messages that are not among the known ones. -/
def prune (self : QuorumTracker) (known_message_ids : List Bytes32) : QuorumTracker :=
  { self with acks := self.acks.filter fun id _ => known_message_ids.contains id }

end QuorumTracker

end witan.quorum
