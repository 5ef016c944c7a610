/-!
# Steps that succeed

A sequence of steps that may fail succeeds exactly when each of its steps does; otherwise the first
step that fails is the cause.
-/

namespace Except

variable {ε ε' α β : Type}

@[simp] theorem bind_eq_ok_iff {step : Except ε α} {next : α → Except ε β} {result : β} :
    (step >>= next) = .ok result ↔ ∃ value, step = .ok value ∧ next value = .ok result := by
  cases step <;> simp [bind, Except.bind]

@[simp] theorem map_eq_ok_iff {step : Except ε α} {function : α → β} {result : β} :
    step.map function = .ok result ↔ ∃ value, step = .ok value ∧ function value = result := by
  cases step <;> simp [Except.map]

@[simp] theorem mapError_ok (value : α) (function : ε → ε') :
    (.ok value : Except ε α).mapError function = .ok value := rfl

@[simp] theorem mapError_error (cause : ε) (function : ε → ε') :
    (.error cause : Except ε α).mapError function = .error (function cause) := rfl

@[simp] theorem mapError_eq_ok_iff {step : Except ε α} {function : ε → ε'} {result : α} :
    step.mapError function = .ok result ↔ step = .ok result := by
  cases step <;> simp

@[simp] theorem pure_eq_ok_iff {value result : α} :
    (pure value : Except ε α) = .ok result ↔ value = result := by
  simp [pure, Except.pure]

@[simp] theorem pure_ne_error {value : α} {cause : ε} :
    (pure value : Except ε α) ≠ .error cause := by
  simp [pure, Except.pure]

@[simp] theorem throw_ne_ok {cause : ε} {result : α} :
    (throw cause : Except ε α) ≠ .ok result := by
  simp [throw, throwThe, MonadExceptOf.throw]

theorem bind_eq_error_iff {step : Except ε α} {next : α → Except ε β} {cause : ε} :
    (step >>= next) = .error cause ↔
      step = .error cause ∨ ∃ value, step = .ok value ∧ next value = .error cause := by
  cases step <;> simp [bind, Except.bind]

@[simp] theorem map_eq_error_iff {step : Except ε α} {function : α → β} {cause : ε} :
    step.map function = .error cause ↔ step = .error cause := by
  cases step <;> simp [Except.map]

theorem mapError_eq_error_iff {step : Except ε α} {function : ε → ε'} {cause : ε'} :
    step.mapError function = .error cause ↔ ∃ inner, step = .error inner ∧ function inner = cause := by
  cases step <;> simp

@[simp] theorem toOption_ok (value : α) : (.ok value : Except ε α).toOption = some value := rfl

@[simp] theorem toOption_error (cause : ε) : (.error cause : Except ε α).toOption = none := rfl

theorem toOption_eq_some_iff {step : Except ε α} {value : α} :
    step.toOption = some value ↔ step = .ok value := by
  cases step <;> simp

@[simp] theorem toOption_bind (step : Except ε α) (next : α → Except ε β) :
    (step >>= next).toOption = step.toOption.bind fun value => (next value).toOption := by
  cases step <;> rfl

@[simp] theorem toOption_map (step : Except ε α) (function : α → β) :
    (step.map function).toOption = step.toOption.map function := by
  cases step <;> rfl

@[simp] theorem toOption_mapError (step : Except ε α) (function : ε → ε') :
    (step.mapError function).toOption = step.toOption := by
  cases step <;> rfl

/-- The cause of a failure. -/
def cause? : Except ε α → Option ε
  | .ok _ => none
  | .error cause => some cause

@[simp] theorem cause?_ok (value : α) : (.ok value : Except ε α).cause? = none := rfl

@[simp] theorem cause?_error (cause : ε) : (.error cause : Except ε α).cause? = some cause := rfl

@[simp] theorem cause?_eq_some_iff {result : Except ε α} {cause : ε} :
    result.cause? = some cause ↔ result = .error cause := by
  cases result <;> simp [cause?]

theorem cause?_eq_none_iff {result : Except ε α} :
    result.cause? = none ↔ ∃ value, result = .ok value := by
  cases result <;> simp [cause?]

@[simp] theorem cause?_map (result : Except ε α) (function : α → β) :
    (result.map function).cause? = result.cause? := by
  cases result <;> rfl

/-- Of two steps that do not depend on each other the first one that fails is the cause. -/
theorem cause?_bind_bind {γ : Type} (first : Except ε α) (second : Except ε β)
    (join : α → β → γ) :
    (do let left ← first; let right ← second; return join left right).cause? =
      first.cause?.or second.cause? := by
  cases first <;> cases second <;> rfl

end Except
