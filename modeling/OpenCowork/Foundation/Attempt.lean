import Mathlib.Logic.Basic

/-! # Attempts

Programs on a state that end with the first step that fails, and keep what they did before.
What every step leaves alone the whole program leaves alone.
-/

namespace OpenCowork.Foundation

/-- A program that answers or throws a text, and goes on from a state. -/
abbrev Attempt (σ α : Type) := ExceptT String (StateM σ) α

namespace Attempt

variable {σ α β : Type} (act : σ → Except String α × σ) {property : σ → Prop}
  (program : Attempt σ α) (answer : Except String α) (condition : Bool) (state : σ)
  {next : α → Attempt σ β} {after : σ} {program : Attempt σ α}

/-- What a program answers or throws from a state, and the state that it leaves. -/
def runFrom : Except String α × σ := program.run.run state

/-- A step that is given by its answer and the state that it leaves. -/
def step : Attempt σ α := ExceptT.mk act

/-- A check of its own, which touches nothing. -/
def check : Attempt σ α := step fun state => (answer, state)

/-- `if (condition) program`. -/
def when (program : Attempt σ Unit) : Attempt σ Unit := if condition then program else pure ()

@[simp] theorem runFrom_check : (check answer).runFrom state = (answer, state) := rfl

theorem runFrom_bind (next : α → Attempt σ β) (state : σ) :
    (program >>= next).runFrom state =
      match program.runFrom state with
      | (.ok value, state) => (next value).runFrom state
      | (.error thrown, state) => (.error thrown, state) := by
  unfold runFrom
  rw [ExceptT.run_bind, StateT.run_bind]
  generalize program.run.run state = outcome
  obtain ⟨answer, _⟩ := outcome
  cases answer with
  | error | ok => rfl

theorem bind_eq_ok {state : σ} {result : β}
    (h : (program >>= next).runFrom state = (.ok result, after)) :
    ∃ value middle, program.runFrom state = (.ok value, middle) ∧
      (next value).runFrom middle = (.ok result, after) := by
  rw [runFrom_bind] at h
  split at h
  next value middle hvalue => exact ⟨value, middle, hvalue, h⟩
  · cases h

theorem check_eq_ok {answer : Except String α} {state : σ} {value : α}
    (h : (check answer).runFrom state = (.ok value, after)) : answer = .ok value ∧ state = after :=
  Prod.mk.inj h

theorem when_eq_ok {condition : Bool} {program : Attempt σ Unit} {state : σ}
    (h : (when condition program).runFrom state = (.ok (), after)) :
    condition = true ∧ program.runFrom state = (.ok (), after) ∨
      condition = false ∧ state = after := by
  cases condition with
  | true => exact .inl ⟨rfl, h⟩
  | false => exact .inr ⟨rfl, (Prod.mk.inj h).2⟩

def Keeps (property : σ → Prop) (program : Attempt σ α) : Prop :=
  ∀ state, property state → property (program.runFrom state).2

theorem keeps_pure (property : σ → Prop) (value : α) : Keeps property (pure value : Attempt σ α) :=
  fun _ hstate => hstate

theorem keeps_check (property : σ → Prop) (answer : Except String α) :
    Keeps property (check answer : Attempt σ α) :=
  fun _ hstate => hstate

theorem Keeps.bind (hprogram : Keeps property program)
    (hnext : ∀ value, Keeps property (next value)) : Keeps property (program >>= next) := by
  intro state hstate
  have hmiddle := hprogram state hstate
  rw [runFrom_bind]
  generalize program.runFrom state = outcome at hmiddle
  obtain ⟨answer, middle⟩ := outcome
  cases answer with
  | error => exact hmiddle
  | ok value => exact hnext value middle hmiddle

theorem keeps_step {act : σ → Except String α × σ}
    (hact : ∀ state, property state → property (act state).2) : Keeps property (step act) :=
  hact

theorem keeps_when {program : Attempt σ Unit}
    (hprogram : Keeps property program) : Keeps property (when condition program) := by
  unfold when
  split
  · exact hprogram
  · exact keeps_pure property ()

theorem keeps_check_bind {answer : Except String α}
    (hnext : ∀ value, answer = .ok value → Keeps property (next value)) :
    Keeps property (check answer >>= next) := by
  intro state hstate
  rw [runFrom_bind, runFrom_check]
  cases answer with
  | error => exact hstate
  | ok value => exact hnext value rfl state hstate

end Attempt

end OpenCowork.Foundation
