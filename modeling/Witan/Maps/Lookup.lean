import Std.Data.ExtHashMap

open Std (ExtHashMap)

/-! Hash maps up to their iteration order, and what a lookup sees after an
update. -/

namespace maps

variable {K V : Type} [BEq K] [Hashable K] [LawfulBEq K] [LawfulHashable K]

/-- The keys of a map in the order in which one iteration visits them. Nothing is
    promised about that order. -/
structure Visit (m : ExtHashMap K V) where
  keys : List K
  nodup : keys.Nodup
  mem_iff : ∀ k, k ∈ keys ↔ k ∈ m

theorem getElem?_insert_of_ne (m : ExtHashMap K V) {k k' : K} (v : V) (h : k ≠ k') :
    (m.insert k v)[k']? = m[k']? := by
  rw [ExtHashMap.getElem?_insert, if_neg fun heq => h (eq_of_beq heq)]

theorem getElem?_erase_of_ne (m : ExtHashMap K V) {k k' : K} (h : k ≠ k') : (m.erase k)[k']? = m[k']? := by
  rw [ExtHashMap.getElem?_erase, if_neg fun heq => h (eq_of_beq heq)]

/-- Removing an absent key changes nothing. -/
theorem erase_eq_self {m : ExtHashMap K V} {k : K} (h : m[k]? = none) : m.erase k = m := by
  apply ExtHashMap.ext_getElem?
  intro k'
  by_cases hkey : k = k'
  · subst hkey
    rw [ExtHashMap.getElem?_erase_self, h]
  · exact getElem?_erase_of_ne m hkey

/-- An update at one key shows the new value there and the old ones elsewhere. -/
theorem getElem?_insert_cases {m : ExtHashMap K V} {k k' : K} {v v' : V} (h : (m.insert k v)[k']? = some v') :
    k = k' ∧ v = v' ∨ m[k']? = some v' := by
  by_cases hkey : k = k'
  · subst hkey
    rw [ExtHashMap.getElem?_insert_self] at h
    exact .inl ⟨rfl, Option.some.inj h⟩
  · rw [getElem?_insert_of_ne m v hkey] at h
    exact .inr h

/-- What is found after a removal was there before. -/
theorem getElem?_of_getElem?_erase {m : ExtHashMap K V} {k k' : K} {v : V} (h : (m.erase k)[k']? = some v) :
    m[k']? = some v := by
  by_cases hkey : k = k'
  · subst hkey
    rw [ExtHashMap.getElem?_erase_self] at h
    cases h
  · rwa [getElem?_erase_of_ne m hkey] at h

theorem getElem?_filter_eq_some_iff {m : ExtHashMap K V} {f : K → V → Bool} {k : K} {v : V} :
    (m.filter f)[k]? = some v ↔ m[k]? = some v ∧ f k v = true := by
  rw [ExtHashMap.getElem?_filter', Option.filter_eq_some_iff]

/-- A filter that every entry passes changes nothing. -/
theorem filter_eq_self {m : ExtHashMap K V} {f : K → V → Bool} (h : ∀ k v, m[k]? = some v → f k v = true) :
    m.filter f = m := by
  apply ExtHashMap.ext_getElem?
  intro k
  apply Option.ext
  intro v
  rw [getElem?_filter_eq_some_iff]
  exact and_iff_left_of_imp (h k v)

end maps
