import Mathlib.Data.Finset.Card
import Mathlib.Data.Set.Function

/-! Events along a run, by position. A value that only certain events can bring
into a place was brought there by the last of them. -/

namespace runs

variable {σ α E C : Type}

/-- The state before the action at a position. -/
def stateAt (step : σ → α → σ) (start : σ) (actions : List α) (k : Nat) : σ := (actions.take k).foldl step start

/-- The event of the action at a position, if there is one. -/
def eventAt (step : σ → α → σ) (event : σ → α → Option E) (start : σ) (actions : List α) (k : Nat) : Option E :=
  actions[k]?.bind (event (stateAt step start actions k))

/-- The positions of the events of one kind. -/
def occurrences (step : σ → α → σ) (event : σ → α → Option E) (start : σ) (actions : List α) (kind : E → Bool) :
    Finset Nat :=
  (Finset.range actions.length).filter fun k => (eventAt step event start actions k).any kind

/-- Between the two positions nothing happens that is about the place, and what was
    there after the first is there up to the second. -/
structure Undisturbed (step : σ → α → σ) (event : σ → α → Option E) (start : σ) (actions : List α)
    (about : E → Prop) (read : σ → Option C) (i k : Nat) : Prop where
  events : ∀ j, i < j → j < k → ∀ e, eventAt step event start actions j = some e → ¬ about e
  value : ∀ j, i < j → j ≤ k →
    read (stateAt step start actions j) = read (stateAt step start actions (i + 1))

section Positions

variable {step : σ → α → σ} {event : σ → α → Option E} {start : σ} {actions : List α} {about : E → Prop}
  {read : σ → Option C} {i k : Nat}

theorem stateAt_length : stateAt step start actions actions.length = actions.foldl step start := by
  unfold stateAt
  rw [List.take_length]

theorem stateAt_succ_of_some {action : α} (h : actions[k]? = some action) :
    stateAt step start actions (k + 1) = step (stateAt step start actions k) action := by
  unfold stateAt
  rw [List.take_add_one, h, Option.toList_some, List.foldl_append, List.foldl_cons, List.foldl_nil]

theorem stateAt_succ_of_none (h : actions[k]? = none) :
    stateAt step start actions (k + 1) = stateAt step start actions k := by
  unfold stateAt
  rw [List.take_add_one, h, Option.toList_none, List.append_nil]

/-- Two systems that take the same actions stay in step, if every action of the run
    keeps them in step. -/
theorem related_stateAt {τ : Type} {step' : τ → α → τ} {start' : τ} {related : σ → τ → Prop}
    (hstart : related start start')
    (hstep : ∀ k action, actions[k]? = some action →
      related (stateAt step start actions k) (stateAt step' start' actions k) →
      related (step (stateAt step start actions k) action) (step' (stateAt step' start' actions k) action)) (k : Nat) :
    related (stateAt step start actions k) (stateAt step' start' actions k) := by
  induction k with
  | zero => exact hstart
  | succ k ih =>
    cases haction : actions[k]? with
    | none =>
      rw [stateAt_succ_of_none haction, stateAt_succ_of_none haction]
      exact ih
    | some action =>
      rw [stateAt_succ_of_some haction, stateAt_succ_of_some haction]
      exact hstep k action haction ih

theorem eventAt_eq_some_iff {e : E} :
    eventAt step event start actions k = some e ↔
      ∃ action, actions[k]? = some action ∧ event (stateAt step start actions k) action = some e := by
  unfold eventAt
  rw [Option.bind_eq_some_iff]

theorem lt_length_of_eventAt {e : E} (h : eventAt step event start actions k = some e) : k < actions.length := by
  obtain ⟨action, haction, _⟩ := eventAt_eq_some_iff.mp h
  exact (List.getElem?_eq_some_iff.mp haction).1

theorem mem_occurrences_iff {kind : E → Bool} :
    k ∈ occurrences step event start actions kind ↔
      ∃ e, eventAt step event start actions k = some e ∧ kind e = true := by
  unfold occurrences
  rw [Finset.mem_filter, Finset.mem_range, Option.any_eq_true]
  constructor
  · rintro ⟨_, e, he, hkind⟩
    exact ⟨e, he, hkind⟩
  · rintro ⟨e, he, hkind⟩
    exact ⟨lt_length_of_eventAt he, e, he, hkind⟩

/-- Two events about the place that nothing separates from the same position are one. -/
theorem Undisturbed.unique {k' : Nat} {e e' : E} (h : Undisturbed step event start actions about read i k)
    (h' : Undisturbed step event start actions about read i k') (hlt : i < k) (hlt' : i < k')
    (he : eventAt step event start actions k = some e) (habout : about e)
    (he' : eventAt step event start actions k' = some e') (habout' : about e') : k = k' := by
  rcases Nat.lt_trichotomy k k' with hless | heq | hmore
  · exact absurd habout (h'.events k hlt hless e he)
  · exact heq
  · exact absurd habout' (h.events k' hlt' hmore e' he')

/-- Right after an event nothing has disturbed the place. -/
theorem Undisturbed.refl (k : Nat) : Undisturbed step event start actions about read k (k + 1) := by
  constructor
  · intro j hkj hjk
    omega
  · intro j hkj hjk
    rw [show j = k + 1 by omega]

/-- An action that has no event about the place and leaves it alone does not disturb it. -/
theorem Undisturbed.succ (h : Undisturbed step event start actions about read i k) (hlt : i < k)
    (hnone : ∀ e, eventAt step event start actions k = some e → ¬ about e)
    (hsame : read (stateAt step start actions (k + 1)) = read (stateAt step start actions k)) :
    Undisturbed step event start actions about read i (k + 1) := by
  constructor
  · intro j hij hjk
    rcases Nat.lt_succ_iff_lt_or_eq.mp hjk with hearlier | rfl
    · exact h.events j hij hearlier
    · exact hnone
  · intro j hij hjk
    rcases Nat.le_or_eq_of_le_succ hjk with hearlier | rfl
    · exact h.value j hij hearlier
    · rw [hsame]
      exact h.value k hlt le_rfl

/-- Where actions without an event about it leave the place alone or clear it, so does
    every position of the run without one. -/
theorem read_stateAt_succ
    (hquiet : ∀ state action, (∀ e, event state action = some e → ¬ about e) →
      read (step state action) = read state ∨ read (step state action) = none)
    (hnone : ∀ e, eventAt step event start actions k = some e → ¬ about e) :
    read (stateAt step start actions (k + 1)) = read (stateAt step start actions k) ∨
      read (stateAt step start actions (k + 1)) = none := by
  cases haction : actions[k]? with
  | none =>
    rw [stateAt_succ_of_none haction]
    exact .inl rfl
  | some action =>
    rw [stateAt_succ_of_some haction]
    exact hquiet _ action fun e he => hnone e (eventAt_eq_some_iff.mpr ⟨action, haction, he⟩)

/-- Where other actions leave the place alone or clear it, a value found there was
    brought by the last event about it. -/
theorem exists_last_event
    (hquiet : ∀ state action, (∀ e, event state action = some e → ¬ about e) →
      read (step state action) = read state ∨ read (step state action) = none)
    (hstart : read start = none) {value : C} (hread : read (stateAt step start actions k) = some value) :
    ∃ i e, i < k ∧ eventAt step event start actions i = some e ∧ about e ∧
      Undisturbed step event start actions about read i k := by
  induction k with
  | zero =>
    change read start = some value at hread
    rw [hstart] at hread
    cases hread
  | succ k ih =>
    by_cases hevent : ∃ e, eventAt step event start actions k = some e ∧ about e
    · obtain ⟨e, he, habout⟩ := hevent
      exact ⟨k, e, Nat.lt_succ_self k, he, habout, .refl k⟩
    · -- The action before the position brought nothing, so the value was there already.
      have hnone (e : E) (he : eventAt step event start actions k = some e) : ¬ about e :=
        fun habout => hevent ⟨e, he, habout⟩
      rcases read_stateAt_succ hquiet hnone with hsame | hcleared
      · obtain ⟨i, e, hi, he, habout, hundisturbed⟩ := ih (hsame ▸ hread)
        exact ⟨i, e, Nat.lt_succ_of_lt hi, he, habout, hundisturbed.succ hi hnone hsame⟩
      · rw [hcleared] at hread
        cases hread

/-- A tally that only the events of one kind raise, and by one at most. -/
theorem tally_le_card_occurrences (tally : σ → Nat) {kind : E → Bool} (hzero : tally start = 0)
    (hstep : ∀ state action, tally (step state action) ≤
      tally state + if (event state action).any kind then 1 else 0) :
    tally (actions.foldl step start) ≤ (occurrences step event start actions kind).card := by
  have hcount (k : Nat) : tally (stateAt step start actions k) ≤
      ((Finset.range k).filter fun j => (eventAt step event start actions j).any kind).card := by
    induction k with
    | zero => exact (show tally start = 0 from hzero).le
    | succ k ih =>
      rw [Finset.range_add_one, Finset.filter_insert]
      cases haction : actions[k]? with
      | none =>
        rw [stateAt_succ_of_none haction]
        refine ih.trans (Finset.card_le_card ?_)
        split
        · exact Finset.subset_insert _ _
        · exact subset_rfl
      | some action =>
        rw [stateAt_succ_of_some haction]
        have hevent : eventAt step event start actions k = event (stateAt step start actions k) action := by
          unfold eventAt
          rw [haction, Option.bind_some]
        have hraised := hstep (stateAt step start actions k) action
        rw [hevent]
        split_ifs with hkind
        · rw [if_pos hkind] at hraised
          rw [Finset.card_insert_of_notMem (by simp)]
          omega
        · rw [if_neg hkind] at hraised
          omega
  exact stateAt_length ▸ hcount actions.length

end Positions

end runs
