import Mathlib.Data.Nat.Count

/-! Offers that a window suppresses. An offer passes unless the last one that passed is
too recent. A wider window lets fewer of the same offers pass, though not a subset of
them. -/

namespace runs

/-- The last position before `k` at which it holds. -/
structure LastBefore (holds : Nat → Prop) (j k : Nat) : Prop where
  lt : j < k
  here : holds j
  silent : ∀ i, j < i → i < k → ¬ holds i

/-- Offers are made at some positions, with a time each. One passes unless the last
    that passed is within the width of the window. -/
structure Windowed (time : Nat → Option Nat) (width : Nat) (passes : Nat → Prop) : Prop where
  offered : ∀ k, passes k → ∃ t, time k = some t
  refused : ∀ k t, time k = some t →
    (¬ passes k ↔ ∃ j s, LastBefore passes j k ∧ time j = some s ∧ t - s ≤ width)

/-- Later offers have later times. -/
def Ordered (time : Nat → Option Nat) : Prop :=
  ∀ j k s t, j < k → time j = some s → time k = some t → s ≤ t

variable {holds : Nat → Prop} {i j k : Nat}

theorem LastBefore.self (h : holds k) : LastBefore holds k (k + 1) := ⟨Nat.lt_succ_self k, h, fun i hki hik => by omega⟩

theorem LastBefore.succ (h : LastBefore holds j k) (hsilent : ¬ holds k) : LastBefore holds j (k + 1) := by
  refine ⟨Nat.lt_succ_of_lt h.lt, h.here, fun i hji hik => ?_⟩
  rcases Nat.lt_succ_iff_lt_or_eq.mp hik with hearlier | rfl
  · exact h.silent i hji hearlier
  · exact hsilent

theorem exists_lastBefore (hlt : j < k) (h : holds j) : ∃ i, j ≤ i ∧ LastBefore holds i k := by
  induction k with
  | zero => omega
  | succ k ih =>
    by_cases hlast : holds k
    · exact ⟨k, Nat.le_of_lt_succ hlt, .self hlast⟩
    · have hjk : j < k := by
        refine Nat.lt_of_le_of_ne (Nat.le_of_lt_succ hlt) ?_
        rintro rfl
        exact hlast h
      obtain ⟨i, hji, hi⟩ := ih hjk
      exact ⟨i, hji, hi.succ hlast⟩

theorem LastBefore.unique (h : LastBefore holds i k) (h' : LastBefore holds j k) : i = j := by
  rcases Nat.lt_trichotomy i j with hlt | heq | hgt
  · exact absurd h'.here (h.silent j hlt h'.lt)
  · exact heq
  · exact absurd h.here (h'.silent i hgt h.lt)

section Count

variable {p q : Nat → Prop} [DecidablePred p] [DecidablePred q]

/-- If `q` only gets one where `p` does not after `p` got one that `q` did not, `q` never
    gets ahead. -/
theorem count_le_count_of_interleaved
    (h : ∀ k, q k → ¬ p k → ∃ j, j < k ∧ p j ∧ ∀ i, j ≤ i → i < k → ¬ q i) (n : Nat) :
    Nat.count q n ≤ Nat.count p n := by
  -- When the counts are equal, nothing of `p` is later than all of `q`.
  have hcounts : Nat.count q n ≤ Nat.count p n ∧
      (Nat.count q n = Nat.count p n → ∀ j, j < n → p j → ∃ i, j ≤ i ∧ i < n ∧ q i) := by
    induction n with
    | zero => exact ⟨le_rfl, fun _ j hj => absurd hj (Nat.not_lt_zero j)⟩
    | succ n ih =>
      obtain ⟨hle, hcaught⟩ := ih
      rw [Nat.count_succ, Nat.count_succ]
      by_cases hq : q n
      · rw [if_pos hq]
        refine ⟨?_, fun _ j hj _ => ⟨n, Nat.le_of_lt_succ hj, Nat.lt_succ_self n, hq⟩⟩
        by_cases hp : p n
        · rw [if_pos hp]
          omega
        · rw [if_neg hp]
          obtain ⟨j, hj, hpj, hsilent⟩ := h n hq hp
          have hne : Nat.count q n ≠ Nat.count p n := by
            intro heq
            obtain ⟨i, hji, hin, hqi⟩ := hcaught heq j hj hpj
            exact hsilent i hji hin hqi
          omega
      · rw [if_neg hq]
        by_cases hp : p n
        · rw [if_pos hp]
          exact ⟨by omega, fun heq => by omega⟩
        · rw [if_neg hp]
          refine ⟨hle, fun heq j hj hpj => ?_⟩
          have hjn : j < n := by
            refine Nat.lt_of_le_of_ne (Nat.le_of_lt_succ hj) ?_
            rintro rfl
            exact hp hpj
          obtain ⟨i, hji, hin, hqi⟩ := hcaught heq j hjn hpj
          exact ⟨i, hji, Nat.lt_succ_of_lt hin, hqi⟩
  exact hcounts.1

end Count

namespace Windowed

variable {time : Nat → Option Nat} {width width' : Nat} {passes passes' : Nat → Prop}

/-- The first offer passes. -/
theorem passes_of_first (h : Windowed time width passes) {t : Nat} (hoffered : time k = some t)
    (hfirst : ∀ j, j < k → ¬ passes j) : passes k := by
  by_contra hrefused
  obtain ⟨j, _, hlast, _⟩ := (h.refused k t hoffered).mp hrefused
  exact hfirst j hlast.lt hlast.here

/-- An offer is judged by its distance to the last one that passed. -/
theorem refused_iff_of_last (h : Windowed time width passes) (hlast : LastBefore passes j k) {s t : Nat}
    (hpassed : time j = some s) (hoffered : time k = some t) : ¬ passes k ↔ t - s ≤ width := by
  rw [h.refused k t hoffered]
  constructor
  · rintro ⟨j', s', hlast', hpassed', hrecent⟩
    obtain rfl : j' = j := hlast'.unique hlast
    rw [hpassed] at hpassed'
    obtain rfl := Option.some.inj hpassed'
    exact hrecent
  · intro hrecent
    exact ⟨j, s, hlast, hpassed, hrecent⟩

/-- An offer that is refused after `j` passed is refused by a wider window as well, if
    something passed there at `j` or since. -/
theorem refused_of_wider (h : Windowed time width passes) (h' : Windowed time width' passes') (hwidth : width ≤ width')
    (htime : Ordered time) {t : Nat} (hoffered : time k = some t) (hrefused : ¬ passes k)
    (hlast : LastBefore passes j k) (hji : j ≤ i) (hik : i < k) (hpasses : passes' i) : ¬ passes' k := by
  obtain ⟨s, hs⟩ := h.offered j hlast.here
  have hrecent := (h.refused_iff_of_last hlast hs hoffered).mp hrefused
  obtain ⟨m, him, hm⟩ := exists_lastBefore hik hpasses
  obtain ⟨r, hr⟩ := h'.offered m hm.here
  refine (h'.refused_iff_of_last hm hr hoffered).mpr ?_
  have hsr : s ≤ r := by
    rcases Nat.eq_or_lt_of_le (hji.trans him) with rfl | hlt
    · rw [hs] at hr
      exact (Option.some.inj hr).le
    · exact htime j m s r hlt hs hr
  omega

/-- A wider window never lets more pass. -/
theorem count_le [DecidablePred passes] [DecidablePred passes'] (h : Windowed time width passes)
    (h' : Windowed time width' passes') (hwidth : width ≤ width') (htime : Ordered time) (n : Nat) :
    Nat.count passes' n ≤ Nat.count passes n := by
  refine count_le_count_of_interleaved (fun k hpasses hrefused => ?_) n
  obtain ⟨t, ht⟩ := h'.offered k hpasses
  obtain ⟨j, s, hlast, _, _⟩ := (h.refused k t ht).mp hrefused
  refine ⟨j, hlast.lt, hlast.here, fun i hji hik hpasses' => ?_⟩
  exact h.refused_of_wider h' hwidth htime ht hrefused hlast hji hik hpasses' hpasses

end Windowed

end runs
