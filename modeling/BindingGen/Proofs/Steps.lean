/-!
# Steps that may fail

Steps are put together with bind, which hands the value of a step to the next one and stops at the
first fault.  A chain of steps therefore succeeds when all of them do, and its fault is that of
the first step that fails.
-/

namespace BindingGen

variable {ε δ α β : Type}

@[simp]
theorem pure_eq_ok (value : α) : (pure value : Except ε α) = .ok value :=
  rfl

@[simp]
theorem throw_eq_error (fault : ε) : (throw fault : Except ε α) = .error fault :=
  rfl

@[simp]
theorem ok_bind (value : α) (next : α → Except ε β) :
    (Except.ok value >>= next) = next value :=
  rfl

@[simp]
theorem error_bind (fault : ε) (next : α → Except ε β) :
    (Except.error fault >>= next) = .error fault :=
  rfl

/-- A chain of two steps, written without the monad. -/
@[simp]
theorem except_bind_eq (step : Except ε α) (next : α → Except ε β) :
    step.bind next = (step >>= next) :=
  rfl

@[simp]
theorem except_map_eq (f : α → β) (step : Except ε α) : step.map f = f <$> step :=
  rfl

@[simp]
theorem map_ok (f : α → β) (value : α) :
    f <$> (Except.ok value : Except ε α) = .ok (f value) :=
  rfl

@[simp]
theorem map_error (f : α → β) (fault : ε) :
    f <$> (Except.error fault : Except ε α) = .error fault :=
  rfl

@[simp]
theorem mapError_ok (f : ε → δ) (value : α) :
    (Except.ok value : Except ε α).mapError f = .ok value :=
  rfl

@[simp]
theorem mapError_error (f : ε → δ) (fault : ε) :
    (Except.error fault : Except ε α).mapError f = .error (f fault) :=
  rfl

@[simp]
theorem bind_eq_ok_iff {step : Except ε α} {next : α → Except ε β} {result : β} :
    (step >>= next) = .ok result ↔ ∃ value, step = .ok value ∧ next value = .ok result := by
  cases step <;> simp

@[simp]
theorem bind_eq_error_iff {step : Except ε α} {next : α → Except ε β} {fault : ε} :
    (step >>= next) = .error fault ↔
      step = .error fault ∨ ∃ value, step = .ok value ∧ next value = .error fault := by
  cases step <;> simp

@[simp]
theorem map_eq_ok_iff {f : α → β} {step : Except ε α} {result : β} :
    f <$> step = .ok result ↔ ∃ value, step = .ok value ∧ f value = result := by
  cases step <;> simp

@[simp]
theorem map_eq_error_iff {f : α → β} {step : Except ε α} {fault : ε} :
    f <$> step = .error fault ↔ step = .error fault := by
  cases step <;> simp

end BindingGen
