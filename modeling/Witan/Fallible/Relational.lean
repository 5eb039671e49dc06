import Witan.Fallible.Actions

/-! Two runs of actions, started in related states, that a caller cannot tell
apart: they end the same way, in related states. -/

namespace fallible

variable {ε σ τ α β : Type}

/-- What the caller gets back. -/
def outcome : EStateM.Result ε σ α → Except ε α
  | .ok value _ => .ok value
  | .error error _ => .error error

theorem outcome_attempt (result : Except ε α) (state : σ) : outcome (attempt result state) = result := by
  cases result <;> rfl

/-- Run from the two states, the actions answer the same and leave related states. -/
structure Alike (related : σ → σ → Prop) (x y : EStateM ε σ α) (first second : σ) : Prop where
  outcome : outcome (x first) = fallible.outcome (y second)
  final : related (final (x first)) (fallible.final (y second))

section Alike

variable {related : σ → σ → Prop} {first second : σ}

/-- Returning one value from related states. The states have to be related
    already; the action does nothing to them. -/
theorem Alike.pure {value : α} (h : related first second) :
    Alike related (pure value : EStateM ε σ α) (pure value) first second := ⟨rfl, h⟩

/-- Both runs fail with one error, and leave the states as they are. -/
theorem Alike.throw {error : ε} (h : related first second) :
    Alike related (throw error : EStateM ε σ α) (throw error) first second := ⟨rfl, h⟩

/-- A step that looks at neither state. It ends both runs with one error, or both go
    on with one value. -/
theorem Alike.attempt_bind {result result' : Except ε α} {f g : α → EStateM ε σ β} (hresult : result = result')
    (h : related first second) (hrest : ∀ value, result = .ok value → Alike related (f value) (g value) first second) :
    Alike related (attempt result >>= f) (attempt result' >>= g) first second := by
  subst hresult
  cases result with
  | error error => exact ⟨rfl, h⟩
  | ok value => exact hrest value rfl

theorem Alike.attempt {result : Except ε α} (h : related first second) :
    Alike related (attempt result : EStateM ε σ α) (fallible.attempt result) first second := by
  cases result <;> exact ⟨rfl, h⟩

/-- Reading the state. What the runs do with the two states that they read has to be
    alike; the states themselves may differ. -/
theorem Alike.get_bind {f g : σ → EStateM ε σ β} (hrest : Alike related (f first) (g second) first second) :
    Alike related (get >>= f) (get >>= g) first second :=
  ⟨hrest.outcome, hrest.final⟩

/-- Overwriting the state. From there on the new states count, and whether the old
    ones were related does not matter. -/
theorem Alike.set_bind {new new' : σ} {f g : PUnit → EStateM ε σ β}
    (hrest : Alike related (f ⟨⟩) (g ⟨⟩) new new') :
    Alike related (set new >>= f) (set new' >>= g) first second :=
  ⟨hrest.outcome, hrest.final⟩

/-- An update in the middle of the runs, which may be a different one in each. -/
theorem Alike.modify_bind {update update' : σ → σ} {f g : PUnit → EStateM ε σ β}
    (hrest : Alike related (f ⟨⟩) (g ⟨⟩) (update first) (update' second)) :
    Alike related (modify update >>= f) (modify update' >>= g) first second :=
  ⟨hrest.outcome, hrest.final⟩

/-- An update that keeps the relation ends two runs alike. -/
theorem Alike.modify {update update' : σ → σ} (h : related (update first) (update' second)) :
    Alike related (modify update : EStateM ε σ PUnit) (modify update') first second := ⟨rfl, h⟩

/-- Two runs in sequence. The first actions end the same way, so the rest is run in
    both or in none, with one value and from related states; the rest may use that
    both first actions succeeded. -/
theorem Alike.bind {x y : EStateM ε σ α} {f g : α → EStateM ε σ β} (h : Alike related x y first second)
    (hrest : ∀ value middle middle', x first = .ok value middle → y second = .ok value middle' →
      related middle middle' → Alike related (f value) (g value) middle middle') :
    Alike related (x >>= f) (y >>= g) first second := by
  obtain ⟨houtcome, hfinal⟩ := h
  cases hx : x first with
  | error error after =>
    cases hy : y second with
    | ok value after' =>
      rw [hx, hy] at houtcome
      cases houtcome
    | error error' after' =>
      rw [hx, hy] at houtcome hfinal
      cases houtcome
      exact ⟨by rw [bind_of_error hx, bind_of_error hy]; rfl, by rwa [bind_of_error hx, bind_of_error hy]⟩
  | ok value middle =>
    cases hy : y second with
    | error error' after' =>
      rw [hx, hy] at houtcome
      cases houtcome
    | ok value' middle' =>
      rw [hx, hy] at houtcome hfinal
      cases houtcome
      have hthen := hrest value middle middle' hx hy hfinal
      exact ⟨by rw [bind_of_ok hx, bind_of_ok hy]; exact hthen.outcome,
        by rw [bind_of_ok hx, bind_of_ok hy]; exact hthen.final⟩

/-- Actions on a part of the state. It is enough that the parts are related, if
    putting related parts back gives related states. -/
theorem Alike.onPart {part : σ → τ} {update : σ → τ → σ} {action action' : EStateM ε τ α} {relatedPart : τ → τ → Prop}
    (h : Alike relatedPart action action' (part first) (part second))
    (hupdate : ∀ new new', relatedPart new new' → related (update first new) (update second new')) :
    Alike related (fallible.onPart part update action) (fallible.onPart part update action') first second := by
  refine ⟨?_, ?_⟩
  · have houtcome := h.outcome
    unfold fallible.onPart
    cases hx : action (part first) <;> cases hy : action' (part second) <;> rw [hx, hy] at houtcome <;>
      cases houtcome <;> rfl
  · rw [final_onPart, final_onPart]
    exact hupdate _ _ h.final

/-- Actions that work on a copy which both runs share. The copy is part of what is
    answered, so it has to stay the same in both. -/
theorem Alike.onCopy {copy : τ} {action action' : EStateM ε (σ × τ) α}
    (h : Alike (fun state state' => related state.1 state'.1 ∧ state.2 = state'.2) action action' (first, copy)
      (second, copy)) :
    Alike related (fallible.onCopy copy action) (fallible.onCopy copy action') first second := by
  obtain ⟨houtcome, hfinal⟩ := h
  unfold fallible.onCopy
  constructor
  · cases hx : action (first, copy) <;> cases hy : action' (second, copy) <;> rw [hx, hy] at houtcome hfinal <;>
      cases houtcome
    · exact congrArg Except.ok hfinal.2
    · rfl
  · cases hx : action (first, copy) <;> cases hy : action' (second, copy) <;> rw [hx, hy] at houtcome hfinal <;>
      cases houtcome <;> exact hfinal.1

end Alike

end fallible
