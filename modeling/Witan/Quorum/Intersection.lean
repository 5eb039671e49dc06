import Mathlib.Tactic.Linarith
import Mathlib.Tactic.NormNum
import Witan.Maps.Members
import Witan.Quorum
import Witan.Text.Hex

open Std (ExtHashMap ExtHashSet)
open bincode maps
open witan.types

namespace witan.quorum

/-- What happens to a tracker: a peer's acknowledgement, or a pruning to the
    messages that are still known. -/
inductive QuorumOp where
  | record_ack (message_id : Bytes32) (peer_addr : Str)
  | prune (known_message_ids : List Bytes32)

namespace QuorumTracker

/-- The tracker after an operation. -/
def step (self : QuorumTracker) : QuorumOp → QuorumTracker
  | .record_ack message_id peer_addr => self.record_ack message_id peer_addr
  | .prune known_message_ids => self.prune known_message_ids

/-- The tracker after a sequence of operations. -/
def runAll (self : QuorumTracker) (ops : List QuorumOp) : QuorumTracker := ops.foldl step self

/-- The peers that a tracker counts for a message. -/
noncomputable def ackers (self : QuorumTracker) (message_id : Bytes32) : Finset Str :=
  members (self.acks[message_id]?.getD ∅)

theorem card_ackers (self : QuorumTracker) (message_id : Bytes32) :
    (self.ackers message_id).card = self.ack_count message_id := by
  unfold ackers ack_count
  rw [card_members]
  cases self.acks[message_id]? with
  | none => exact ExtHashSet.size_empty
  | some peers => rfl

@[simp] theorem ackers_new (quorum_fraction : ℚ) (message_id : Bytes32) :
    (new quorum_fraction).ackers message_id = ∅ := by
  have hempty : (new quorum_fraction).acks[message_id]? = none := ExtHashMap.getElem?_empty
  ext peer_addr
  rw [ackers, mem_members, hempty]
  simp

@[simp] theorem ackers_record_ack_self (self : QuorumTracker) (message_id : Bytes32) (peer_addr : Str) :
    (self.record_ack message_id peer_addr).ackers message_id = insert peer_addr (self.ackers message_id) := by
  have hfound : (self.record_ack message_id peer_addr).acks[message_id]? =
      some ((self.acks[message_id]?.getD ∅).insert peer_addr) := ExtHashMap.getElem?_insert_self
  ext peer
  rw [ackers, mem_members, hfound, Option.getD_some, Finset.mem_insert, ackers, mem_members,
    ExtHashSet.mem_insert, beq_iff_eq, eq_comm]

theorem ackers_record_ack_of_ne (self : QuorumTracker) {message_id other : Bytes32} (peer_addr : Str)
    (h : message_id ≠ other) : (self.record_ack message_id peer_addr).ackers other = self.ackers other := by
  have hfound : (self.record_ack message_id peer_addr).acks[other]? = self.acks[other]? :=
    getElem?_insert_of_ne self.acks _ h
  rw [ackers, ackers, hfound]

/-- A pruning keeps the peers of a known message and drops those of any other. -/
theorem mem_ackers_prune {self : QuorumTracker} {known_message_ids : List Bytes32} {message_id : Bytes32}
    {peer_addr : Str} :
    peer_addr ∈ (self.prune known_message_ids).ackers message_id ↔
      peer_addr ∈ self.ackers message_id ∧ message_id ∈ known_message_ids := by
  have hfound : (self.prune known_message_ids).acks[message_id]? =
      (self.acks[message_id]?).filter fun _ => known_message_ids.contains message_id :=
    ExtHashMap.getElem?_filter'
  rw [ackers, mem_members, hfound, ackers, mem_members]
  cases hacks : self.acks[message_id]? with
  | none => simp
  | some peers =>
    by_cases hknown : message_id ∈ known_message_ids
    · simp [hknown, Option.filter]
    · simp [hknown, Option.filter]

/-- A message has a quorum of a positive number of peers if the counted ones make
    up the fraction. -/
theorem has_quorum_iff {self : QuorumTracker} {message_id : Bytes32} {total_peers : Nat} :
    self.has_quorum message_id total_peers = true ↔
      total_peers ≠ 0 ∧ (total_peers : ℚ) * self.quorum_fraction ≤ self.ack_count message_id := by
  unfold has_quorum
  by_cases hzero : total_peers = 0
  · simp [hzero]
  · simp only [hzero, if_false, ge_iff_le, decide_eq_true_eq, Nat.ceil_le]
    exact ⟨fun h => ⟨hzero, h⟩, And.right⟩

section Runs

variable {peers : Finset Str} {ops : List QuorumOp}

/-- No operation changes the fraction. -/
theorem runAll_quorum_fraction (self : QuorumTracker) (ops : List QuorumOp) :
    (self.runAll ops).quorum_fraction = self.quorum_fraction := by
  unfold runAll
  induction ops generalizing self with
  | nil => rfl
  | cons op ops ih =>
    rw [List.foldl_cons, ih]
    cases op <;> rfl

/-- Whoever is counted sent an acknowledgement: prunings only forget. -/
theorem ackers_runAll_subset {self : QuorumTracker} {message_id : Bytes32} (hself : self.ackers message_id ⊆ peers)
    (hops : ∀ id peer_addr, .record_ack id peer_addr ∈ ops → peer_addr ∈ peers) :
    (self.runAll ops).ackers message_id ⊆ peers := by
  unfold runAll
  induction ops generalizing self with
  | nil => exact hself
  | cons op ops ih =>
    rw [List.foldl_cons]
    refine ih ?_ fun id peer_addr hmem => hops id peer_addr (List.mem_cons_of_mem op hmem)
    intro peer hpeer
    cases op with
    | record_ack id peer_addr =>
      by_cases hid : id = message_id
      · subst hid
        rw [step, ackers_record_ack_self, Finset.mem_insert] at hpeer
        rcases hpeer with rfl | hold
        · exact hops id peer List.mem_cons_self
        · exact hself hold
      · rw [step, ackers_record_ack_of_ne self peer_addr hid] at hpeer
        exact hself hpeer
    | prune known_message_ids => exact hself (mem_ackers_prune.mp hpeer).1

/-- Two sets that hold two thirds of the peers each share more than a third of the
    others: `⌊(N - 1) / 3⌋ < |A ∩ B|`. -/
theorem two_thirds_overlap {first second : Finset Str} (hfirst : first ⊆ peers) (hsecond : second ⊆ peers)
    (hpeers : peers.card ≠ 0) (hcard : 2 * peers.card ≤ 3 * first.card) (hcard' : 2 * peers.card ≤ 3 * second.card) :
    (peers.card - 1) / 3 < (first ∩ second).card := by
  have hinter := Finset.card_union_add_card_inter first second
  have hunion : (first ∪ second).card ≤ peers.card := Finset.card_le_card (Finset.union_subset hfirst hsecond)
  omega

/-- A quorum of at least two thirds, as a bound on whole numbers. -/
theorem two_thirds_of_has_quorum {self : QuorumTracker} (hfraction : 2 / 3 ≤ self.quorum_fraction)
    {message_id : Bytes32} {total_peers : Nat} (h : self.has_quorum message_id total_peers = true) :
    2 * total_peers ≤ 3 * (self.ackers message_id).card := by
  obtain ⟨_, hcount⟩ := has_quorum_iff.mp h
  have htotal : (0 : ℚ) ≤ total_peers := Nat.cast_nonneg total_peers
  have hscaled : (total_peers : ℚ) * (2 / 3) ≤ total_peers * self.quorum_fraction :=
    mul_le_mul_of_nonneg_left hfraction htotal
  rw [card_ackers]
  have hcast : (2 * total_peers : ℚ) ≤ 3 * self.ack_count message_id := by linarith
  exact_mod_cast hcast

/-- Two quorums of one set of peers have more members in common than the number of
    peers that may be faulty, whatever acknowledgements and prunings led to them. -/
theorem quorums_intersect {quorum_fraction : ℚ} (hfraction : 2 / 3 ≤ quorum_fraction)
    (hops : ∀ message_id peer_addr, .record_ack message_id peer_addr ∈ ops → peer_addr ∈ peers)
    {first second : Bytes32}
    (hfirst : ((new quorum_fraction).runAll ops).has_quorum first peers.card = true)
    (hsecond : ((new quorum_fraction).runAll ops).has_quorum second peers.card = true) :
    (peers.card - 1) / 3 <
      (((new quorum_fraction).runAll ops).ackers first ∩ ((new quorum_fraction).runAll ops).ackers second).card := by
  have hkept : 2 / 3 ≤ ((new quorum_fraction).runAll ops).quorum_fraction := by
    rw [runAll_quorum_fraction]
    exact hfraction
  have hsubset (message_id : Bytes32) : ((new quorum_fraction).runAll ops).ackers message_id ⊆ peers := by
    refine ackers_runAll_subset ?_ hops
    rw [ackers_new]
    exact Finset.empty_subset peers
  exact two_thirds_overlap (hsubset first) (hsubset second) (has_quorum_iff.mp hfirst).1
    (two_thirds_of_has_quorum hkept hfirst) (two_thirds_of_has_quorum hkept hsecond)

end Runs

/-- Acknowledgements of one message by a list of peers. -/
def acksOf (message_id : Bytes32) (peers : List Str) : List QuorumOp := peers.map (.record_ack message_id)

theorem ackers_runAll_acksOf (self : QuorumTracker) (message_id : Bytes32) (peers : List Str) :
    (self.runAll (acksOf message_id peers)).ackers message_id = self.ackers message_id ∪ peers.toFinset := by
  unfold runAll acksOf
  induction peers generalizing self with
  | nil => simp
  | cons peer peers ih =>
    rw [List.map_cons, List.foldl_cons, ih, step, ackers_record_ack_self, List.toFinset_cons,
      Finset.insert_union, Finset.union_insert]

theorem ackers_runAll_acksOf_of_ne (self : QuorumTracker) {message_id other : Bytes32} (h : message_id ≠ other)
    (peers : List Str) : (self.runAll (acksOf message_id peers)).ackers other = self.ackers other := by
  unfold runAll acksOf
  induction peers generalizing self with
  | nil => rfl
  | cons peer peers ih => rw [List.map_cons, List.foldl_cons, ih, step, ackers_record_ack_of_ne self peer h]

/-- A supply of peer addresses. -/
def numbered (n : Nat) : Str := hex.encode32 ⟨leBytes 32 n, leBytes_length 32 n⟩

theorem numbered_injOn : Set.InjOn numbered {n | n < 256 ^ 32} := by
  intro n hn n' hn' h
  have hbytes : leBytes 32 n = leBytes 32 n' := congrArg Subtype.val (hex.encode32_injective h)
  rw [← leValue_leBytes 32 n hn, hbytes, leValue_leBytes 32 n' hn']

theorem toFinset_numbered_card {numbers : List Nat} (hnodup : numbers.Nodup) (hbound : ∀ n ∈ numbers, n < 256 ^ 32) :
    (numbers.map numbered).toFinset.card = numbers.length := by
  have hmap : (numbers.map numbered).Nodup :=
    hnodup.map_on fun n hn n' hn' h => numbered_injOn (hbound n hn) (hbound n' hn') h
  rw [List.toFinset_card_of_nodup hmap, List.length_map]

/-- Of four peers, three acknowledged one message and three another. -/
theorem quorums_intersect_four :
    ∃ (peers : Finset Str) (ops : List QuorumOp) (first second : Bytes32), peers.card = 4 ∧ first ≠ second ∧
      1 < (((new (67 / 100)).runAll ops).ackers first ∩ ((new (67 / 100)).runAll ops).ackers second).card := by
  let first : Bytes32 := ⟨leBytes 32 0, leBytes_length 32 0⟩
  let second : Bytes32 := ⟨leBytes 32 1, leBytes_length 32 1⟩
  have hne : first ≠ second := by decide
  let some_peers := [0, 1, 2].map numbered
  let other_peers := [1, 2, 3].map numbered
  let peers := ([0, 1, 2, 3].map numbered).toFinset
  let ops := acksOf first some_peers ++ acksOf second other_peers
  have hpeers : peers.card = 4 := toFinset_numbered_card (by decide) (by decide)
  have hrun : (new (67 / 100)).runAll ops =
      ((new (67 / 100)).runAll (acksOf first some_peers)).runAll (acksOf second other_peers) :=
    List.foldl_append
  have hackers : ((new (67 / 100)).runAll ops).ackers first = some_peers.toFinset := by
    rw [hrun, ackers_runAll_acksOf_of_ne _ hne.symm, ackers_runAll_acksOf, ackers_new, Finset.empty_union]
  have hackers' : ((new (67 / 100)).runAll ops).ackers second = other_peers.toFinset := by
    rw [hrun, ackers_runAll_acksOf, ackers_runAll_acksOf_of_ne _ hne, ackers_new, Finset.empty_union]
  have hquorum {message_id : Bytes32} (hcount : (((new (67 / 100)).runAll ops).ackers message_id).card = 3) :
      ((new (67 / 100)).runAll ops).has_quorum message_id peers.card = true := by
    rw [has_quorum_iff, runAll_quorum_fraction, ← card_ackers, hcount, hpeers]
    refine ⟨by decide, ?_⟩
    change ((4 : Nat) : ℚ) * (67 / 100) ≤ (3 : Nat)
    norm_num
  have hops : ∀ message_id peer_addr, .record_ack message_id peer_addr ∈ ops → peer_addr ∈ peers := by
    intro message_id peer_addr hmem
    simp only [ops, acksOf, some_peers, other_peers, peers, List.mem_append, List.mem_map, List.mem_toFinset] at hmem ⊢
    simp only [List.mem_cons, List.not_mem_nil, or_false] at hmem ⊢
    grind
  refine ⟨peers, ops, first, second, hpeers, hne, ?_⟩
  have hoverlap := quorums_intersect (by norm_num) hops
    (hquorum (hackers ▸ toFinset_numbered_card (by decide) (by decide)))
    (hquorum (hackers' ▸ toFinset_numbered_card (by decide) (by decide)))
  rwa [hpeers] at hoverlap

end QuorumTracker

end witan.quorum
