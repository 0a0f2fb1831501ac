/-!
# First failures

A computation of several steps ends with its first failure, and with a value where there is none. Told apart from the value, the failures of steps in sequence are put together with `Option.or`, and those of a list of steps with `List.findSome?`.
-/

namespace NowPlaying

universe u v

/-- The value, unless there is a failure. -/
def unlessFailed {ε : Type u} {α : Type v} (failure? : Option ε) (value : α) : Except ε α :=
  match failure? with
  | some failure => .error failure
  | none => .ok value

section

variable {ε : Type u} {α β γ : Type v}

@[simp] theorem unlessFailed_none (value : α) : unlessFailed (none : Option ε) value = .ok value := rfl

@[simp] theorem unlessFailed_some (failure : ε) (value : α) : unlessFailed (some failure) value = .error failure := rfl

theorem unlessFailed_eq_ok_iff {failure? : Option ε} {value result : α} :
    unlessFailed failure? value = .ok result ↔ failure? = none ∧ result = value := by
  cases failure? with
  | none => simp only [unlessFailed_none, Except.ok.injEq, true_and, eq_comm]
  | some failure => simp only [unlessFailed_some, reduceCtorEq, false_and]

theorem unlessFailed_eq_error_iff {failure? : Option ε} {value : α} {failure : ε} :
    unlessFailed failure? value = .error failure ↔ failure? = some failure := by
  cases failure? with
  | none => simp only [unlessFailed_none, reduceCtorEq]
  | some first => simp only [unlessFailed_some, Except.error.injEq, Option.some.injEq]

theorem unlessFailed_bind_unlessFailed {failure? later? : Option ε} {value : α} {result : β} {next : α → Except ε β}
    (h : next value = unlessFailed later? result) :
    (unlessFailed failure? value >>= next) = unlessFailed (failure?.or later?) result := by
  cases failure? with
  | none => exact h
  | some failure => rfl

@[simp] theorem map_unlessFailed (f : α → β) (failure? : Option ε) (value : α) :
    (unlessFailed failure? value).map f = unlessFailed failure? (f value) := by
  cases failure? <;> rfl

@[simp] theorem mapError_unlessFailed {κ : Type u} (wrap : ε → κ) (failure? : Option ε) (value : α) :
    (unlessFailed failure? value).mapError wrap = unlessFailed (failure?.map wrap) value := by
  cases failure? <;> rfl

theorem unlessFailed_bind_map (failure? later? : Option ε) (value : α) (result : β) (f : α → β → γ) :
    (unlessFailed failure? value >>= fun first => (unlessFailed later? result).map (f first)) =
      unlessFailed (failure?.or later?) (f value result) :=
  unlessFailed_bind_unlessFailed (map_unlessFailed (f value) later? result)

theorem findSome?_cons_eq_or (failure? : β → Option ε) (step : β) (steps : List β) :
    (step :: steps).findSome? failure? = (failure? step).or (steps.findSome? failure?) := by
  rw [List.findSome?_cons]
  cases failure? step <;> rfl

theorem findSome?_congr {failure? other? : β → Option ε} {steps : List β} (h : ∀ step ∈ steps, failure? step = other? step) :
    steps.findSome? failure? = steps.findSome? other? := by
  induction steps with
  | nil => rfl
  | cons step steps ih =>
    rw [List.forall_mem_cons] at h
    rw [findSome?_cons_eq_or, findSome?_cons_eq_or, h.1, ih h.2]

theorem forM_eq_unlessFailed {run : β → Except ε Unit} {failure? : β → Option ε}
    (h : ∀ step, run step = unlessFailed (failure? step) ()) (steps : List β) :
    steps.forM run = unlessFailed (steps.findSome? failure?) () := by
  induction steps with
  | nil => rfl
  | cons step steps ih =>
    rw [List.forM_eq_forM] at ih ⊢
    rw [List.forM_cons, h, findSome?_cons_eq_or]
    exact unlessFailed_bind_unlessFailed ih

end

end NowPlaying
