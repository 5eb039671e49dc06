import Mathlib.Logic.Basic

/-! Fallible computations, pure (`Except`) and with a state that survives an
error (`EStateM`), and what a computation that ended well went through. -/

namespace fallible

variable {ε σ τ α β : Type}

/-- Give up with `error` when the condition holds. -/
def failIf (condition : Prop) [Decidable condition] (error : ε) : Except ε Unit :=
  if condition then .error error else .ok ()

/-- The value, or `error` where there is none. -/
def orFail (found : Option α) (error : ε) : Except ε α :=
  match found with
  | some value => .ok value
  | none => .error error

/-- Run a pure computation as an action that leaves the state alone. -/
def attempt (result : Except ε α) : EStateM ε σ α := fun state =>
  match result with
  | .ok value => .ok value state
  | .error error => .error error state

/-- Run an action on a part of a larger state. -/
def onPart (part : σ → τ) (update : σ → τ → σ) (action : EStateM ε τ α) : EStateM ε σ α := fun state =>
  match action (part state) with
  | .ok value new => .ok value (update state new)
  | .error error new => .error error (update state new)

/-- Run an action on the state and a copy of something else. The copy is returned
    as the action left it, and lost if the action fails. -/
def onCopy (copy : τ) (action : EStateM ε (σ × τ) α) : EStateM ε σ τ := fun state =>
  match action (state, copy) with
  | .ok _ (state, copy) => .ok copy state
  | .error error (state, _) => .error error state

/-- The state an action leaves behind, whether it ended well or not. -/
def final : EStateM.Result ε σ α → σ
  | .ok _ state => state
  | .error _ state => state

@[simp] theorem final_ok (value : α) (state : σ) : final (.ok value state : EStateM.Result ε σ α) = state := rfl

@[simp] theorem final_error (error : ε) (state : σ) :
    final (.error error state : EStateM.Result ε σ α) = state := rfl

theorem except_bind_eq_ok_iff {x : Except ε α} {f : α → Except ε β} {value : β} :
    (x >>= f) = .ok value ↔ ∃ a, x = .ok a ∧ f a = .ok value := by
  cases x <;> simp [bind, Except.bind]

theorem failIf_eq_ok_iff {condition : Prop} [Decidable condition] {error : ε} {value : Unit} :
    failIf condition error = .ok value ↔ ¬ condition := by
  unfold failIf
  split <;> simp_all

theorem orFail_eq_ok_iff {found : Option α} {error : ε} {value : α} :
    orFail found error = .ok value ↔ found = some value := by
  cases found <;> simp [orFail]

theorem mapError_eq_ok_iff {ε' : Type} {f : ε → ε'} {x : Except ε α} {value : α} :
    x.mapError f = .ok value ↔ x = .ok value := by
  cases x with
  | error e =>
    constructor
    · intro h
      cases h
    · intro h
      cases h
  | ok v =>
    change Except.ok v = .ok value ↔ _
    rw [Except.ok.injEq, Except.ok.injEq]

theorem bind_eq_ok_iff {x : EStateM ε σ α} {f : α → EStateM ε σ β} {state after : σ} {value : β} :
    (x >>= f) state = .ok value after ↔
      ∃ a middle, x state = .ok a middle ∧ f a middle = .ok value after := by
  change EStateM.bind x f state = _ ↔ _
  unfold EStateM.bind
  cases x state <;> simp [and_assoc]

theorem bind_eq_error_iff {x : EStateM ε σ α} {f : α → EStateM ε σ β} {state after : σ} {error : ε} :
    (x >>= f) state = .error error after ↔
      x state = .error error after ∨
        ∃ a middle, x state = .ok a middle ∧ f a middle = .error error after := by
  change EStateM.bind x f state = _ ↔ _
  unfold EStateM.bind
  cases x state <;> simp [and_assoc]

theorem attempt_eq_ok_iff {result : Except ε α} {state after : σ} {value : α} :
    attempt result state = .ok value after ↔ result = .ok value ∧ after = state := by
  unfold attempt
  cases result <;> simp [eq_comm]

theorem attempt_eq_error_iff {result : Except ε α} {state after : σ} {error : ε} :
    attempt result state = .error error after ↔ result = .error error ∧ after = state := by
  unfold attempt
  cases result <;> simp [eq_comm]

@[simp] theorem final_attempt (result : Except ε α) (state : σ) : final (attempt result state) = state := by
  cases result <;> rfl

theorem attempt_bind_eq_ok_iff {result : Except ε α} {f : α → EStateM ε σ β} {state after : σ} {value : β} :
    (attempt result >>= f) state = .ok value after ↔ ∃ a, result = .ok a ∧ f a state = .ok value after := by
  change EStateM.bind (attempt result) f state = _ ↔ _
  unfold EStateM.bind attempt
  cases result <;> simp

theorem attempt_bind_eq_error_iff {result : Except ε α} {f : α → EStateM ε σ β} {state after : σ} {error : ε} :
    (attempt result >>= f) state = .error error after ↔
      result = .error error ∧ after = state ∨ ∃ a, result = .ok a ∧ f a state = .error error after := by
  change EStateM.bind (attempt result) f state = _ ↔ _
  unfold EStateM.bind attempt
  cases result <;> simp [eq_comm]

theorem onPart_eq_ok_iff {part : σ → τ} {update : σ → τ → σ} {action : EStateM ε τ α}
    {state after : σ} {value : α} :
    onPart part update action state = .ok value after ↔
      ∃ new, action (part state) = .ok value new ∧ after = update state new := by
  unfold onPart
  cases action (part state) <;> simp [eq_comm, and_assoc]

theorem onPart_eq_error_iff {part : σ → τ} {update : σ → τ → σ} {action : EStateM ε τ α}
    {state after : σ} {error : ε} :
    onPart part update action state = .error error after ↔
      ∃ new, action (part state) = .error error new ∧ after = update state new := by
  unfold onPart
  cases action (part state) <;> simp [eq_comm, and_assoc]

theorem onCopy_eq_ok_iff {copy copy' : τ} {action : EStateM ε (σ × τ) α} {state after : σ} :
    onCopy copy action state = .ok copy' after ↔ ∃ value, action (state, copy) = .ok value (after, copy') := by
  unfold onCopy
  cases action (state, copy) with
  | ok value pair => simp [Prod.ext_iff, and_comm]
  | error error pair => simp

theorem final_onPart {part : σ → τ} {update : σ → τ → σ} {action : EStateM ε τ α} {state : σ} :
    final (onPart part update action state) = update state (final (action (part state))) := by
  unfold onPart
  cases action (part state) <;> rfl

theorem bind_of_ok {x : EStateM ε σ α} {f : α → EStateM ε σ β} {state middle : σ} {value : α}
    (h : x state = .ok value middle) : (x >>= f) state = f value middle := by
  change EStateM.bind x f state = _
  unfold EStateM.bind
  rw [h]

theorem bind_of_error {x : EStateM ε σ α} {f : α → EStateM ε σ β} {state after : σ} {error : ε}
    (h : x state = .error error after) : (x >>= f) state = .error error after := by
  change EStateM.bind x f state = _
  unfold EStateM.bind
  rw [h]

@[simp] theorem pure_apply (value : α) (state : σ) :
    (pure value : EStateM ε σ α) state = .ok value state := rfl

@[simp] theorem attempt_ok_bind (value : α) (f : α → EStateM ε σ β) (state : σ) :
    (attempt (.ok value) >>= f) state = f value state := rfl

@[simp] theorem get_bind (f : σ → EStateM ε σ β) (state : σ) :
    ((get : EStateM ε σ σ) >>= f) state = f state state := rfl

@[simp] theorem get_apply (state : σ) : (get : EStateM ε σ σ) state = .ok state state := rfl

@[simp] theorem set_apply (new state : σ) : (set new : EStateM ε σ PUnit) state = .ok ⟨⟩ new := rfl

@[simp] theorem set_bind (new : σ) (f : PUnit → EStateM ε σ β) (state : σ) :
    ((set new : EStateM ε σ PUnit) >>= f) state = f ⟨⟩ new := rfl

@[simp] theorem modify_bind (update : σ → σ) (f : PUnit → EStateM ε σ β) (state : σ) :
    ((modify update : EStateM ε σ PUnit) >>= f) state = f ⟨⟩ (update state) := rfl

@[simp] theorem throw_apply (error : ε) (state : σ) :
    (throw error : EStateM ε σ α) state = .error error state := rfl

/-- Whatever error ends the computation satisfies the condition. -/
def ErrorsIn (result : Except ε α) (condition : ε → Prop) : Prop := ∀ error, result = .error error → condition error

section ErrorsIn

variable {condition : ε → Prop}

theorem ErrorsIn.ok (value : α) : ErrorsIn (.ok value : Except ε α) condition := by
  intro error h
  cases h

theorem ErrorsIn.error {error : ε} (h : condition error) : ErrorsIn (.error error : Except ε α) condition := by
  intro _ herror
  cases herror
  exact h

theorem ErrorsIn.failIf {test : Prop} [Decidable test] {error : ε} (h : condition error) :
    ErrorsIn (fallible.failIf test error) condition := by
  unfold fallible.failIf
  split
  · exact .error h
  · exact .ok ()

theorem ErrorsIn.bind {x : Except ε α} {f : α → Except ε β} (h : ErrorsIn x condition)
    (hrest : ∀ value, x = .ok value → ErrorsIn (f value) condition) : ErrorsIn (x >>= f) condition := by
  cases x with
  | error error => exact .error (h error rfl)
  | ok value => exact hrest value rfl

end ErrorsIn

/-- Whatever error ends the action from this state, the state it leaves satisfies
    the condition. -/
def FailsIn (action : EStateM ε σ α) (state : σ) (condition : σ → Prop) : Prop :=
  ∀ error after, action state = .error error after → condition after

section FailsIn

variable {state : σ} {condition : σ → Prop}

theorem FailsIn.pure (value : α) : FailsIn (pure value : EStateM ε σ α) state condition := by
  rintro error after h
  cases h

theorem FailsIn.throw (error : ε) (h : condition state) :
    FailsIn (throw error : EStateM ε σ α) state condition := by
  rintro _ after hthrow
  cases hthrow
  exact h

theorem FailsIn.attempt_bind {result : Except ε α} {f : α → EStateM ε σ β} (h : condition state)
    (hrest : ∀ value, result = .ok value → FailsIn (f value) state condition) :
    FailsIn (fallible.attempt result >>= f) state condition := by
  rintro error after hfail
  rcases attempt_bind_eq_error_iff.mp hfail with ⟨_, rfl⟩ | ⟨value, hvalue, hrun⟩
  · exact h
  · exact hrest value hvalue error after hrun

theorem FailsIn.get_bind {f : σ → EStateM ε σ β} (hrest : FailsIn (f state) state condition) :
    FailsIn (get >>= f) state condition := hrest

theorem FailsIn.set_bind {new : σ} {f : PUnit → EStateM ε σ β} (hrest : FailsIn (f ⟨⟩) new condition) :
    FailsIn (set new >>= f) state condition := hrest

theorem FailsIn.modify_bind {update : σ → σ} {f : PUnit → EStateM ε σ β}
    (hrest : FailsIn (f ⟨⟩) (update state) condition) : FailsIn (modify update >>= f) state condition := hrest

theorem FailsIn.onPart {part : σ → τ} {update : σ → τ → σ} {action : EStateM ε τ α}
    (h : FailsIn action (part state) fun after => condition (update state after)) :
    FailsIn (fallible.onPart part update action) state condition := by
  rintro error after hfail
  obtain ⟨new, hnew, rfl⟩ := onPart_eq_error_iff.mp hfail
  exact h error new hnew

theorem FailsIn.onCopy {copy : τ} {action : EStateM ε (σ × τ) α}
    (h : FailsIn action (state, copy) fun after => condition after.1) :
    FailsIn (fallible.onCopy copy action) state condition := by
  intro error after hfail
  unfold fallible.onCopy at hfail
  cases hresult : action (state, copy) with
  | ok value pair =>
    rw [hresult] at hfail
    cases hfail
  | error error' pair =>
    rw [hresult] at hfail
    cases hfail
    exact h error pair hresult

theorem FailsIn.bind {x : EStateM ε σ α} {f : α → EStateM ε σ β} (h : FailsIn x state condition)
    (hrest : ∀ value middle, x state = .ok value middle → FailsIn (f value) middle condition) :
    FailsIn (x >>= f) state condition := by
  rintro error after hfail
  rcases bind_eq_error_iff.mp hfail with hx | ⟨value, middle, hx, hf⟩
  · exact h error after hx
  · exact hrest value middle hx error after hf

end FailsIn

/-- However the action ends from this state, the state it leaves satisfies the
    condition. -/
def Leaves (action : EStateM ε σ α) (state : σ) (condition : σ → Prop) : Prop :=
  condition (final (action state))

section Leaves

variable {state : σ} {condition : σ → Prop}

theorem Leaves.of_ok {action : EStateM ε σ α} {after : σ} {value : α} (h : Leaves action state condition)
    (hrun : action state = .ok value after) : condition after := by
  unfold Leaves at h
  rwa [hrun] at h

theorem Leaves.pure {value : α} (h : condition state) : Leaves (pure value : EStateM ε σ α) state condition := h

theorem Leaves.throw {error : ε} (h : condition state) :
    Leaves (throw error : EStateM ε σ α) state condition := h

theorem Leaves.attempt {result : Except ε α} (h : condition state) :
    Leaves (fallible.attempt result : EStateM ε σ α) state condition := by
  cases result <;> exact h

theorem Leaves.attempt_bind {result : Except ε α} {f : α → EStateM ε σ β} (h : condition state)
    (hrest : ∀ value, result = .ok value → Leaves (f value) state condition) :
    Leaves (fallible.attempt result >>= f) state condition := by
  cases result with
  | error error => exact h
  | ok value => exact hrest value rfl

theorem Leaves.attempt_ok_bind {result : Except ε α} {value : α} {f : α → EStateM ε σ β} (h : result = .ok value)
    (hrest : Leaves (f value) state condition) : Leaves (fallible.attempt result >>= f) state condition := by
  subst h
  exact hrest

theorem Leaves.get_bind {f : σ → EStateM ε σ β} (hrest : Leaves (f state) state condition) :
    Leaves (get >>= f) state condition := hrest

theorem Leaves.set_bind {new : σ} {f : PUnit → EStateM ε σ β} (hrest : Leaves (f ⟨⟩) new condition) :
    Leaves (set new >>= f) state condition := hrest

theorem Leaves.modify_bind {update : σ → σ} {f : PUnit → EStateM ε σ β}
    (hrest : Leaves (f ⟨⟩) (update state) condition) : Leaves (modify update >>= f) state condition := hrest

theorem Leaves.modify {update : σ → σ} (h : condition (update state)) :
    Leaves (modify update : EStateM ε σ PUnit) state condition := h

/-- In sequence: the run ends where the first action fails, or with the second one. -/
theorem Leaves.bind_cases {x : EStateM ε σ α} {f : α → EStateM ε σ β} (herror : FailsIn x state condition)
    (hrest : ∀ value middle, x state = .ok value middle → Leaves (f value) middle condition) :
    Leaves (x >>= f) state condition := by
  unfold Leaves
  cases hx : x state with
  | error error after =>
    rw [bind_of_error hx]
    exact herror error after hx
  | ok value middle =>
    rw [bind_of_ok hx]
    exact hrest value middle hx

/-- A condition that the first action establishes, however it ends. -/
theorem Leaves.bind {x : EStateM ε σ α} {f : α → EStateM ε σ β} (h : Leaves x state condition)
    (hrest : ∀ value middle, x state = .ok value middle → condition middle → Leaves (f value) middle condition) :
    Leaves (x >>= f) state condition := by
  refine .bind_cases ?_ ?_
  · intro error after hx
    unfold Leaves at h
    rwa [hx] at h
  · intro value middle hx
    exact hrest value middle hx (h.of_ok hx)

/-- The state that an action leaves, case by case. -/
theorem Leaves.of_cases {action : EStateM ε σ α} (hok : ∀ value after, action state = .ok value after → condition after)
    (herror : FailsIn action state condition) : Leaves action state condition := by
  unfold Leaves
  cases hresult : action state with
  | ok value after => exact hok value after hresult
  | error error after => exact herror error after hresult

theorem Leaves.onPart {part : σ → τ} {update : σ → τ → σ} {action : EStateM ε τ α}
    (h : condition (update state (final (action (part state))))) :
    Leaves (fallible.onPart part update action) state condition := by
  unfold Leaves
  rw [final_onPart]
  exact h

end Leaves

end fallible
