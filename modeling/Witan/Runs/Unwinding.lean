import Mathlib.Logic.Basic

/-! Runs from which some of the actions are deleted. Where the deleted actions
leave alone what an observer can see, and the others keep two runs in step, the
observer sees the same in both. -/

namespace runs

variable {σ α β : Type}

/-- What the observer hears in a run, in order. -/
def answers (step : σ → α → σ) (answer : σ → α → Option β) : σ → List α → List β
  | _, [] => []
  | state, action :: rest => (answer state action).toList ++ answers step answer (step state action) rest

/-- States that the observer cannot tell apart, with the actions that are kept. -/
structure Unwinding (step : σ → α → σ) (answer : σ → α → Option β) (kept : α → Bool)
    (related : σ → σ → Prop) : Prop where
  silent : ∀ state action, kept action = false → answer state action = none
  deleted : ∀ first second action, kept action = false → related first second → related (step first action) second
  answered : ∀ first second action, kept action = true → related first second →
    answer first action = answer second action
  stepped : ∀ first second action, kept action = true → related first second →
    related (step first action) (step second action)

/-- A run and what is left of it after the deletion. -/
theorem Unwinding.run {step : σ → α → σ} {answer : σ → α → Option β} {kept : α → Bool} {related : σ → σ → Prop}
    (h : Unwinding step answer kept related) {first second : σ} (hrelated : related first second)
    (actions : List α) :
    related (actions.foldl step first) ((actions.filter kept).foldl step second) ∧
      answers step answer first actions = answers step answer second (actions.filter kept) := by
  induction actions generalizing first second with
  | nil => exact ⟨hrelated, rfl⟩
  | cons action actions ih =>
    cases hkept : kept action with
    | true =>
      obtain ⟨hfinal, hanswers⟩ := ih (h.stepped first second action hkept hrelated)
      rw [List.filter_cons_of_pos hkept, List.foldl_cons, List.foldl_cons]
      refine ⟨hfinal, ?_⟩
      rw [answers, answers, h.answered first second action hkept hrelated, hanswers]
    | false =>
      obtain ⟨hfinal, hanswers⟩ := ih (h.deleted first second action hkept hrelated)
      rw [List.filter_cons_of_neg (by simp [hkept]), List.foldl_cons]
      refine ⟨hfinal, ?_⟩
      rw [answers, h.silent first action hkept, hanswers]
      rfl

end runs
