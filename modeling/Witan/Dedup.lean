import Witan.Maps.Lookup
import Witan.Types

open Std (ExtHashMap)
open bincode maps
open witan.types

namespace witan.dedup

/-- Message ids with the time they were inserted at. -/
structure DedupCache where
  entries : ExtHashMap Bytes32 UInt64
  ttl_ms : UInt64

namespace DedupCache

/-- A cache that keeps ids for the given seconds. The product wraps. -/
def new (ttl_secs : UInt64) : DedupCache := ⟨∅, ttl_secs * 1000⟩

/-- Drop the entries older than the time to live. -/
def evict_expired (self : DedupCache) (now_ms : UInt64) : DedupCache :=
  { self with entries := self.entries.filter fun _ ts => now_ms.toNat - ts.toNat ≤ self.ttl_ms.toNat }

/-- Whether an id is known, after eviction. -/
def is_duplicate (self : DedupCache) (message_id : Bytes32) (now_ms : UInt64) : Bool × DedupCache :=
  let self := self.evict_expired now_ms
  (self.entries.contains message_id, self)

def insert (self : DedupCache) (message_id : Bytes32) (now_ms : UInt64) : DedupCache :=
  { self with entries := self.entries.insert message_id now_ms }

def len (self : DedupCache) : Nat := self.entries.size

/-- All ids in the cache, in the order of one iteration. -/
def active_ids (self : DedupCache) (visit : Visit self.entries) : List Bytes32 := visit.keys

end DedupCache

end witan.dedup
