import Mathlib.Data.Finset.Card
import Mathlib.Data.List.Nodup
import Std.Data.ExtHashSet
import Witan.Maps.Lookup

open Std (DHashMap ExtDHashMap ExtHashMap ExtHashSet)

/-! The keys of a hash map and the members of a hash set, as finite sets. -/

namespace maps

/-- A list without repetitions loses as many members as the other list has, if that
    is without repetitions and inside the first. -/
theorem length_filter_notMem {K : Type} [BEq K] [LawfulBEq K] {keys taken : List K}
    (hkeys : keys.Nodup) (htaken : taken.Nodup)
    (hsubset : taken ⊆ keys) : (keys.filter (· ∉ taken)).length + taken.length = keys.length := by
  have hperm : (keys.filter (· ∈ taken)).Perm taken := by
    refine (List.perm_ext_iff_of_nodup (hkeys.filter _) htaken).mpr fun k => ?_
    rw [List.mem_filter, decide_eq_true_iff]
    exact ⟨fun h => h.2, fun h => ⟨hsubset h, h⟩⟩
  have hsplit := List.length_eq_length_filter_add (fun k => decide (k ∈ taken)) (l := keys)
  simp only [← decide_not] at hsplit
  rw [hperm.length_eq] at hsplit
  omega

variable {K V : Type} [BEq K] [Hashable K] [LawfulBEq K] [LawfulHashable K]

/-- Every map can be visited, and the visit is as long as the map is large. -/
theorem exists_visit (m : ExtHashMap K V) : ∃ visit : Visit m, visit.keys.length = m.size := by
  obtain ⟨inner⟩ := m
  cases inner with
  | mk entries =>
    refine ⟨⟨entries.keys, DHashMap.nodup_keys, fun k => ?_⟩, DHashMap.length_keys⟩
    exact DHashMap.mem_keys

/-- However a map is visited, the visit is as long as the map is large. -/
theorem Visit.length_keys {m : ExtHashMap K V} (visit : Visit m) : visit.keys.length = m.size := by
  obtain ⟨other, hlength⟩ := exists_visit m
  have hperm : visit.keys.Perm other.keys :=
    (List.perm_ext_iff_of_nodup visit.nodup other.nodup).mpr fun k =>
      (visit.mem_iff k).trans (other.mem_iff k).symm
  rw [hperm.length_eq, hlength]

/-- The size of a map is that of what passes a filter and what does not. -/
theorem size_filter_add (m : ExtHashMap K V) (keep : V → Bool) (visit : Visit m) :
    (m.filter fun _ v => keep v).size + (visit.keys.filter fun k => (m[k]?).any (! keep ·)).length = m.size := by
  obtain ⟨kept, hkept⟩ := exists_visit (m.filter fun _ v => keep v)
  have hperm : kept.keys.Perm (visit.keys.filter fun k => ! (m[k]?).any (! keep ·)) := by
    refine (List.perm_ext_iff_of_nodup kept.nodup (visit.nodup.filter _)).mpr fun k => ?_
    rw [kept.mem_iff, List.mem_filter, visit.mem_iff, ExtHashMap.mem_iff_isSome_getElem?,
      ExtHashMap.mem_iff_isSome_getElem?, ExtHashMap.getElem?_filter']
    cases m[k]? <;> simp
  have hsplit := List.length_eq_length_filter_add (fun k => (m[k]?).any (! keep ·)) (l := visit.keys)
  rw [← hkept, hperm.length_eq, ← visit.length_keys, hsplit]
  exact Nat.add_comm _ _

/-- The members of a hash set. -/
noncomputable def members [DecidableEq K] (s : ExtHashSet K) : Finset K :=
  (exists_visit s.inner).choose.keys.toFinset

variable [DecidableEq K]

@[simp] theorem mem_members {s : ExtHashSet K} {k : K} : k ∈ members s ↔ k ∈ s := by
  unfold members
  rw [List.mem_toFinset]
  exact (exists_visit s.inner).choose.mem_iff k

theorem card_members (s : ExtHashSet K) : (members s).card = s.size := by
  unfold members
  rw [List.toFinset_card_of_nodup (exists_visit s.inner).choose.nodup]
  exact (exists_visit s.inner).choose_spec

end maps
