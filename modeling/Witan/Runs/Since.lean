import Mathlib.Data.List.Induction

/-! What has held since some action of a run. A state property that some actions bring
about and others may end holds after a run exactly if one of the former happened and
none of the latter has happened since. -/

namespace runs

variable {σ α : Type}

/-- One of the actions begins it, and all later ones let it go on. -/
def Since (step : σ → α → σ) (start : σ) (begins continues : σ → α → Prop) (actions : List α) : Prop :=
  ∃ before action later, actions = before ++ action :: later ∧ begins (before.foldl step start) action ∧
    ∀ earlier other rest, later = earlier ++ other :: rest →
      continues ((before ++ action :: earlier).foldl step start) other

variable {step : σ → α → σ} {start : σ} {begins continues : σ → α → Prop}

theorem not_since_nil : ¬ Since step start begins continues [] := by
  rintro ⟨before, action, later, hsplit, _⟩
  exact List.append_ne_nil_of_right_ne_nil before (List.cons_ne_nil action later) hsplit.symm

/-- One more action begins it, or lets it go on. -/
theorem since_concat_iff {actions : List α} {last : α} :
    Since step start begins continues (actions ++ [last]) ↔
      begins (actions.foldl step start) last ∨
        Since step start begins continues actions ∧ continues (actions.foldl step start) last := by
  constructor
  · rintro ⟨before, action, later, hsplit, hbegins, hcontinues⟩
    rcases List.eq_nil_or_concat later with rfl | ⟨earlier, other, rfl⟩
    · obtain ⟨rfl, hlast⟩ := List.append_inj' hsplit rfl
      obtain rfl := List.singleton_inj.mp hlast
      exact .inl hbegins
    · have hsplit' : actions ++ [last] = (before ++ action :: earlier) ++ [other] := by simp [hsplit]
      obtain ⟨rfl, hlast⟩ := List.append_inj' hsplit' rfl
      obtain rfl := List.singleton_inj.mp hlast
      refine .inr ⟨⟨before, action, earlier, rfl, hbegins, ?_⟩, ?_⟩
      · rintro first other rest rfl
        exact hcontinues first other (rest ++ [last]) (by simp)
      · exact hcontinues earlier last [] (by simp)
  · rintro (hbegins | ⟨⟨before, action, later, rfl, hbegins, hcontinues⟩, hlast⟩)
    · exact ⟨actions, last, [], rfl, hbegins, fun earlier other rest hsplit => by simp at hsplit⟩
    · refine ⟨before, action, later ++ [last], by simp, hbegins, ?_⟩
      intro earlier other rest hsplit
      rcases List.eq_nil_or_concat rest with rfl | ⟨rest, final, rfl⟩
      · obtain ⟨rfl, hother⟩ := List.append_inj' hsplit rfl
        obtain rfl := List.singleton_inj.mp hother
        exact hlast
      · have hsplit' : later ++ [last] = (earlier ++ other :: rest) ++ [final] := by simp [hsplit]
        exact hcontinues earlier other rest (List.append_inj' hsplit' rfl).1

/-- The rule: from what one action does to the property, what a run does to it. -/
theorem holds_foldl_iff_since (holds : σ → Prop)
    (hstep : ∀ state action, holds (step state action) ↔ begins state action ∨ holds state ∧ continues state action)
    (hstart : ¬ holds start) (actions : List α) :
    holds (actions.foldl step start) ↔ Since step start begins continues actions := by
  induction actions using List.reverseRecOn with
  | nil => exact ⟨fun h => absurd h hstart, fun h => absurd h not_since_nil⟩
  | append_singleton actions last ih =>
    rw [List.foldl_append, List.foldl_cons, List.foldl_nil, hstep, ih, since_concat_iff]

end runs
