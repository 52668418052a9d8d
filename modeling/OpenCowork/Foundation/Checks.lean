import Mathlib.Logic.Basic

/-! # Checks that throw

Computations that end with the first check that fails.
-/

namespace OpenCowork.Foundation

variable {ε α β : Type} {condition : Prop} {step : Except ε α} {result : β} {error : ε}

/-- `if (condition) throw error`. -/
def refuseIf {ε : Type} (condition : Prop) [Decidable condition] (error : ε) : Except ε Unit :=
  if condition then .error error else .ok ()

@[simp] theorem refuseIf_eq_ok [Decidable condition]
    {answer : Unit} : refuseIf condition error = .ok answer ↔ ¬ condition := by
  unfold refuseIf
  split <;> simp [*]

theorem refuseIf_of_not [Decidable condition]
    (hcondition : ¬ condition) : refuseIf condition error = .ok () :=
  if_neg hcondition

@[simp] theorem refuseIf_false [Decidable False] : refuseIf False error = .ok () :=
  refuseIf_of_not id

/-- `if (value === null) throw error`. -/
def orThrow {ε α : Type} (value : Option α) (error : ε) : Except ε α :=
  match value with
  | some found => .ok found
  | none => .error error

@[simp] theorem orThrow_some (found : α) (error : ε) : orThrow (some found) error = .ok found := rfl

theorem orThrow_eq_ok {value : Option α} {found : α}
    (h : orThrow value error = .ok found) : value = some found := by
  cases value with
  | none => cases h
  | some => exact congrArg some (Except.ok.inj h)

@[simp] theorem ok_bind (value : α) (next : α → Except ε β) :
    (Except.ok value >>= next) = next value := rfl

theorem bind_eq_ok {next : α → Except ε β}
    (h : step >>= next = .ok result) : ∃ value, step = .ok value ∧ next value = .ok result := by
  cases step with
  | error => cases h
  | ok value => exact ⟨value, rfl, h⟩

theorem map_eq_ok {f : α → β}
    (h : step.map f = .ok result) : ∃ value, step = .ok value ∧ f value = result := by
  cases step with
  | error => cases h
  | ok value => exact ⟨value, rfl, Except.ok.inj h⟩

theorem isOk_iff {answer : Except ε α} : answer.isOk = true ↔ ∃ value, answer = .ok value := by
  cases answer with
  | error | ok => simp [Except.isOk, Except.toBool]

end OpenCowork.Foundation
