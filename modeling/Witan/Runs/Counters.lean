import Mathlib.Algebra.Group.Nat.Defs

/-! Counters of bounded width along a run. -/

namespace runs

variable {σ α : Type}

/-- The sum of what the actions of a run are worth, each in the state it is taken in. -/
def total (step : σ → α → σ) (worth : σ → α → Nat) : σ → List α → Nat
  | _, [] => 0
  | state, action :: actions => worth state action + total step worth (step state action) actions

/-- A counter that each action raises by its worth, in the states that a run goes
    through, stands at the total, as far as its width goes. -/
theorem counter_foldl {step : σ → α → σ} {worth : σ → α → Nat} (read : σ → Nat) {modulus : Nat} {valid : σ → Prop}
    (hvalid : ∀ state action, valid state → valid (step state action))
    (hstep : ∀ state action, valid state → read (step state action) = (read state + worth state action) % modulus)
    (actions : List α) {start : σ} (hstart : valid start) (hfits : read start < modulus) :
    read (actions.foldl step start) = (read start + total step worth start actions) % modulus := by
  induction actions generalizing start with
  | nil => exact (Nat.mod_eq_of_lt hfits).symm
  | cons action actions ih =>
    have hnext : read (step start action) < modulus := by
      rw [hstep start action hstart]
      exact Nat.mod_lt _ (Nat.zero_lt_of_lt hfits)
    rw [List.foldl_cons, ih (hvalid start action hstart) hnext, hstep start action hstart, Nat.mod_add_mod,
      Nat.add_assoc]
    rfl

end runs
