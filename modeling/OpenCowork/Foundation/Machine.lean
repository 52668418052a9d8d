import Mathlib.Data.List.Basic
import Mathlib.Order.Defs.PartialOrder

/-! # Deterministic machines and their histories

A machine answers each input with an output and a next state. A history keeps
one moment for every step taken, so that a ghost quantity (what was handed out,
what was recorded) can be read from the past instead of being stored in the
state.
-/

namespace OpenCowork.Foundation

/-- A total transition function with an answer for every input. -/
structure Machine (State Input Output : Type*) where
  step : State → Input → Output × State

/-- One step of a run together with the states around it. -/
structure Moment (State Input Output : Type*) where
  before : State
  input : Input
  output : Output
  after : State

namespace Machine

variable {State Input Output : Type*} (machine : Machine State Input Output) {inputs : List Input}

def run (state : State) : List Input → State
  | [] => state
  | input :: rest => run (machine.step state input).2 rest

def moment (state : State) (input : Input) : Moment State Input Output where
  before := state
  input := input
  output := (machine.step state input).1
  after := (machine.step state input).2

/-- The moments of a run, oldest first. -/
def history (state : State) : List Input → List (Moment State Input Output)
  | [] => []
  | input :: rest => machine.moment state input :: history (machine.step state input).2 rest

variable (state : State)
include state

@[simp] theorem run_nil : machine.run state [] = state := rfl

@[simp] theorem run_cons (input : Input) (rest : List Input) :
    machine.run state (input :: rest) = machine.run (machine.step state input).2 rest := rfl

@[simp] theorem history_nil : machine.history state [] = [] := rfl

@[simp] theorem history_cons (input : Input) (rest : List Input) :
    machine.history state (input :: rest) =
      machine.moment state input :: machine.history (machine.step state input).2 rest := rfl

theorem run_append (first rest : List Input) :
    machine.run state (first ++ rest) = machine.run (machine.run state first) rest := by
  induction first generalizing state with
  | nil => rfl
  | cons _ _ ih => exact ih _

theorem history_append (first rest : List Input) :
    machine.history state (first ++ rest) =
      machine.history state first ++ machine.history (machine.run state first) rest := by
  induction first generalizing state with
  | nil => rfl
  | cons _ _ ih =>
    rw [List.cons_append, history_cons, history_cons, ih, List.cons_append, run_cons]

theorem map_input_history (inputs : List Input) :
    (machine.history state inputs).map Moment.input = inputs := by
  induction inputs generalizing state with
  | nil => rfl
  | cons input _ ih => exact congrArg (input :: ·) (ih _)

omit state

theorem run_invariant (invariant : State → Prop)
    (hstep : ∀ state input, invariant state → invariant (machine.step state input).2)
    (state : State) (hstate : invariant state) (inputs : List Input) :
    invariant (machine.run state inputs) := by
  induction inputs generalizing state with
  | nil => exact hstate
  | cons input _ ih => exact ih _ (hstep state input hstate)

/-- An invariant that every guarded step keeps holds of all guarded histories. -/
theorem history_invariant_of (guard : Moment State Input Output → Prop)
    (invariant : List (Moment State Input Output) → State → Prop)
    (hstep : ∀ past state input, invariant past state → guard (machine.moment state input) →
      invariant (past ++ [machine.moment state input]) (machine.step state input).2)
    (state : State) (hstate : invariant [] state) (inputs : List Input)
    (hguard : ∀ moment ∈ machine.history state inputs, guard moment) :
    invariant (machine.history state inputs) (machine.run state inputs) := by
  suffices h : ∀ past, invariant past state →
      invariant (past ++ machine.history state inputs) (machine.run state inputs) from
    h [] hstate
  clear hstate
  induction inputs generalizing state with
  | nil =>
    intro past hpast
    simpa using hpast
  | cons input rest ih =>
    intro past hpast
    have hnow : guard (machine.moment state input) := hguard _ (by simp)
    have hlater : ∀ moment ∈ machine.history (machine.step state input).2 rest,
        guard moment := fun moment hmem => hguard moment (by simp [hmem])
    have hnext := ih _ hlater (past ++ [machine.moment state input])
      (hstep past state input hpast hnow)
    simpa using hnext

theorem history_invariant (invariant : List (Moment State Input Output) → State → Prop)
    (hstep : ∀ past state input, invariant past state →
      invariant (past ++ [machine.moment state input]) (machine.step state input).2)
    (state : State) (hstate : invariant [] state) (inputs : List Input) :
    invariant (machine.history state inputs) (machine.run state inputs) :=
  machine.history_invariant_of (fun _ => True) invariant
    (fun past state input h _ => hstep past state input h) state hstate inputs
    (fun _ _ => trivial)

/-- A property of past and present that an invariant gives, and that fails where a step leaves the
guard under which the invariant is kept, holds in every state that a run reaches exactly if the
guard holds in all its moments. -/
theorem forall_history_iff_of (property invariant : List (Moment State Input Output) → State → Prop)
    (guard : Moment State Input Output → Prop)
    (hgives : ∀ past state, invariant past state → property past state)
    (hstep : ∀ past state input, invariant past state → guard (machine.moment state input) →
      invariant (past ++ [machine.moment state input]) (machine.step state input).2)
    (hfails : ∀ past state input, invariant past state →
      property (past ++ [machine.moment state input]) (machine.step state input).2 →
      guard (machine.moment state input))
    (state : State) (hstate : invariant [] state) (inputs : List Input) :
    (∀ first rest, inputs = first ++ rest →
        property (machine.history state first) (machine.run state first)) ↔
      ∀ moment ∈ machine.history state inputs, guard moment := by
  suffices h : ∀ past, invariant past state →
      ((∀ first rest, inputs = first ++ rest →
          property (past ++ machine.history state first) (machine.run state first)) ↔
        ∀ moment ∈ machine.history state inputs, guard moment) by
    simpa using h [] hstate
  clear hstate
  induction inputs generalizing state with
  | nil =>
    intro past hpast
    simp only [history_nil, List.not_mem_nil, false_implies, implies_true, iff_true]
    intro first rest hinputs
    obtain rfl := (List.append_eq_nil_iff.mp hinputs.symm).1
    simpa using hgives past state hpast
  | cons input rest ih =>
    intro past hpast
    constructor
    · intro hreached
      have hguard := hfails past state input hpast (hreached [input] rest rfl)
      have hnext := hstep past state input hpast hguard
      have hrest : ∀ first later, rest = first ++ later →
          property (past ++ [machine.moment state input] ++
              machine.history (machine.step state input).2 first)
            (machine.run (machine.step state input).2 first) := by
        intro first later h
        simpa using hreached (input :: first) later (congrArg (input :: ·) h)
      intro moment hmem
      rcases List.mem_cons.mp hmem with rfl | hmem
      · exact hguard
      · exact (ih _ _ hnext).mp hrest moment hmem
    · intro hguard first later hinputs
      have hnext := hstep past state input hpast (hguard _ (.head _))
      cases first with
      | nil => simpa using hgives past state hpast
      | cons _ first =>
        obtain ⟨rfl, hrest⟩ := List.cons_eq_cons.mp hinputs
        have hlater := (ih _ _ hnext).mpr
          (fun moment hmem => hguard moment (.tail _ hmem)) first later hrest
        simpa using hlater

theorem forall_run_iff_of (property invariant : State → Prop)
    (guard : Moment State Input Output → Prop) (hgives : ∀ state, invariant state → property state)
    (hstep : ∀ state input, invariant state → guard (machine.moment state input) →
      invariant (machine.step state input).2)
    (hfails : ∀ state input, invariant state → property (machine.step state input).2 →
      guard (machine.moment state input))
    (state : State) (hstate : invariant state) (inputs : List Input) :
    (∀ first rest, inputs = first ++ rest → property (machine.run state first)) ↔
      ∀ moment ∈ machine.history state inputs, guard moment :=
  machine.forall_history_iff_of (fun _ => property) (fun _ => invariant) guard
    (fun _ => hgives) (fun _ => hstep) (fun _ => hfails) state hstate inputs

theorem forall_run_iff (invariant : State → Prop) (guard : Moment State Input Output → Prop)
    (hstep : ∀ state input, invariant state →
      (invariant (machine.step state input).2 ↔ guard (machine.moment state input)))
    (state : State) (hstate : invariant state) (inputs : List Input) :
    (∀ first rest, inputs = first ++ rest → invariant (machine.run state first)) ↔
      ∀ moment ∈ machine.history state inputs, guard moment :=
  machine.forall_run_iff_of invariant invariant guard (fun _ h => h)
    (fun state input h => (hstep state input h).mpr)
    (fun state input h => (hstep state input h).mp) state hstate inputs

/-- An invariant that waiting and every guarded step keep holds under a monotone clock. -/
theorem history_invariant_clocked {Time : Type*} [Preorder Time] (clock : Input → Time)
    (guard : Moment State Input Output → Prop)
    (invariant : List (Moment State Input Output) → Time → State → Prop)
    (hwait : ∀ past earlier later state, earlier ≤ later → invariant past earlier state →
      invariant past later state)
    (hstep : ∀ past state input, invariant past (clock input) state →
      guard (machine.moment state input) →
      invariant (past ++ [machine.moment state input]) (clock input) (machine.step state input).2)
    (state : State) (hstate : ∀ time, invariant [] time state) (inputs : List Input) (now : Time)
    (hclock : (inputs.map clock ++ [now]).Pairwise (· ≤ ·))
    (hguard : ∀ moment ∈ machine.history state inputs, guard moment) :
    invariant (machine.history state inputs) now (machine.run state inputs) := by
  suffices h : ∀ past start, invariant past start state →
      (∀ time ∈ inputs.map clock ++ [now], start ≤ time) →
      invariant (past ++ machine.history state inputs) now (machine.run state inputs) by
    cases inputs with
    | nil => exact hstate now
    | cons input =>
      refine h [] (clock input) (hstate _) ?_
      rw [List.map_cons, List.cons_append, List.pairwise_cons] at hclock
      rintro time (_ | ⟨_, hmem⟩)
      · exact le_refl _
      · exact hclock.1 time hmem
  clear hstate
  -- the clock stands at `start` when the remaining inputs arrive
  induction inputs generalizing state with
  | nil =>
    intro past start hpast hstart
    rw [history_nil, List.append_nil]
    exact hwait past start now state (hstart now (by simp)) hpast
  | cons input _ ih =>
    intro past start hpast hstart
    rw [List.map_cons, List.cons_append, List.pairwise_cons] at hclock
    have hnow := hwait past start (clock input) state (hstart _ (by simp)) hpast
    have hnext := ih _ hclock.2 (fun moment hmem => hguard moment (by simp [hmem]))
      (past ++ [machine.moment state input]) (clock input)
      (hstep past state input hnow (hguard _ (by simp))) hclock.1
    simpa using hnext

theorem exists_prefix_of_mem_history (state : State) (inputs : List Input)
    (moment : Moment State Input Output) (hmem : moment ∈ machine.history state inputs) :
    ∃ first input rest, inputs = first ++ input :: rest ∧
      moment = machine.moment (machine.run state first) input := by
  induction inputs generalizing state with
  | nil => simp at hmem
  | cons input rest ih =>
    rw [history_cons, List.mem_cons] at hmem
    rcases hmem with rfl | hmem
    · exact ⟨[], input, rest, rfl, rfl⟩
    · obtain ⟨first, later, tail, rfl, hmoment⟩ := ih _ hmem
      exact ⟨input :: first, later, tail, rfl, hmoment⟩

theorem exists_moment_of_mem (state : State) {input : Input}
    (hmem : input ∈ inputs) : ∃ moment ∈ machine.history state inputs, moment.input = input := by
  obtain ⟨first, _, rfl⟩ := List.append_of_mem hmem
  refine ⟨machine.moment (machine.run state first) input, ?_, rfl⟩
  rw [history_append, history_cons]
  exact List.mem_append_right _ (.head _)

theorem input_mem_of_mem_history (state : State) {moment : Moment State Input Output}
    (hmem : moment ∈ machine.history state inputs) : moment.input ∈ inputs := by
  obtain ⟨_, _, _, rfl, rfl⟩ :=
    machine.exists_prefix_of_mem_history state inputs moment hmem
  exact List.mem_append_right _ (.head _)

end Machine

end OpenCowork.Foundation
