import Mathlib.Logic.Basic

/-! A value that some actions of a run write and others may clear. What is found
after a run is what was written last and has stood since. -/

namespace runs

variable {σ α T : Type} {step : σ → α → σ}

/-- A place in the state, with the actions that write a value there and those under
    which a value that is not written again stays. -/
structure Slot (step : σ → α → σ) (T : Type) where
  read : σ → Option T
  writes : σ → α → T → Prop
  keeps : σ → α → T → Prop
  spec : ∀ state action value, read (step state action) = some value ↔
    writes state action value ∨
      (∀ other, ¬ writes state action other) ∧ read state = some value ∧ keeps state action value

namespace Slot

variable (slot : Slot step T)

/-- Through these actions the value is neither written again nor cleared. -/
def Stands (value : T) : σ → List α → Prop
  | _, [] => True
  | state, action :: rest =>
    (∀ other, ¬ slot.writes state action other) ∧ slot.keeps state action value ∧
      Stands value (step state action) rest

/-- What stands after a run was there at first, or was written by one of the
    actions; in both cases nothing disturbed it since. -/
theorem read_foldl_iff {value : T} (start : σ) (actions : List α) :
    slot.read (actions.foldl step start) = some value ↔
      slot.read start = some value ∧ slot.Stands value start actions ∨
        ∃ before action since, actions = before ++ action :: since ∧
          slot.writes (before.foldl step start) action value ∧
          slot.Stands value ((before ++ [action]).foldl step start) since := by
  induction actions generalizing start with
  | nil => simp [Stands]
  | cons first actions ih =>
    rw [List.foldl_cons, ih, slot.spec]
    constructor
    · rintro (⟨hwritten | ⟨hsilent, hread, hkeeps⟩, hstands⟩ | ⟨before, action, since, rfl, hwritten, hstands⟩)
      · exact .inr ⟨[], first, actions, rfl, hwritten, hstands⟩
      · exact .inl ⟨hread, hsilent, hkeeps, hstands⟩
      · exact .inr ⟨first :: before, action, since, rfl, hwritten, hstands⟩
    · rintro (⟨hread, hsilent, hkeeps, hstands⟩ | ⟨before, action, since, hsplit, hwritten, hstands⟩)
      · exact .inl ⟨.inr ⟨hsilent, hread, hkeeps⟩, hstands⟩
      · cases before with
        | nil =>
          obtain ⟨rfl, rfl⟩ := List.cons_eq_cons.mp hsplit
          exact .inl ⟨.inl hwritten, hstands⟩
        | cons head before =>
          obtain ⟨rfl, rfl⟩ := List.cons_eq_cons.mp hsplit
          exact .inr ⟨before, action, since, rfl, hwritten, hstands⟩

/-- The same, action by action. -/
theorem stands_iff {value : T} (start : σ) (actions : List α) :
    slot.Stands value start actions ↔
      ∀ before action rest, actions = before ++ action :: rest →
        (∀ other, ¬ slot.writes (before.foldl step start) action other) ∧
          slot.keeps (before.foldl step start) action value := by
  induction actions generalizing start with
  | nil => simp [Stands]
  | cons first actions ih =>
    rw [Stands, ih]
    constructor
    · rintro ⟨hsilent, hkeeps, hrest⟩ before action rest hsplit
      cases before with
      | nil =>
        obtain ⟨rfl, rfl⟩ := List.cons_eq_cons.mp hsplit
        exact ⟨hsilent, hkeeps⟩
      | cons head before =>
        obtain ⟨rfl, rfl⟩ := List.cons_eq_cons.mp hsplit
        exact hrest before action rest rfl
    · intro hall
      obtain ⟨hsilent, hkeeps⟩ := hall [] first actions rfl
      refine ⟨hsilent, hkeeps, ?_⟩
      rintro before action rest rfl
      exact hall (first :: before) action rest rfl

/-- From a state without a value: what is found was written last, and every action
    since let it stand. -/
theorem read_foldl_iff_of_none {start : σ} (hstart : slot.read start = none) (actions : List α) (value : T) :
    slot.read (actions.foldl step start) = some value ↔
      ∃ before action since, actions = before ++ action :: since ∧
        slot.writes (before.foldl step start) action value ∧
        ∀ earlier other rest, since = earlier ++ other :: rest →
          (∀ another, ¬ slot.writes ((before ++ action :: earlier).foldl step start) other another) ∧
            slot.keeps ((before ++ action :: earlier).foldl step start) other value := by
  rw [read_foldl_iff, hstart]
  simp only [reduceCtorEq, false_and, false_or, stands_iff, ← List.foldl_append, List.append_assoc,
    List.singleton_append]

end Slot

end runs
