import Mathlib.Logic.Basic

/-! # Processes

Programs that act on a shared state one operation at a time. Between two operations a process
may die, which keeps what it did so far, and others may act on the state.
-/

namespace OpenCowork.Foundation

/-- A program that has ended, or asks for an operation and goes on with what that answers. -/
inductive Process {Op : Type} (Result : Op → Type) (α : Type) where
  | ended (answer : Except String α)
  | perform (op : Op) (next : Except String (Result op) → Process Result α)

/-- What each operation answers in a state, and the state that it leaves. -/
abbrev Handler {Op : Type} (Result : Op → Type) (σ : Type) :=
  (op : Op) → σ → Except String (Result op) × σ

namespace Process

variable {Op : Type} {Result : Op → Type} {σ α β ι : Type}

/-- An operation whose errors the process throws on. -/
def call (op : Op) : Process Result (Result op) := .perform op .ended

def throw (error : String) : Process Result α := .ended (.error error)

def bind (process : Process Result α) (next : α → Process Result β) : Process Result β :=
  match process with
  | .ended (.ok answer) => next answer
  | .ended (.error thrown) => .ended (.error thrown)
  | .perform op rest => .perform op fun answer => bind (rest answer) next

instance : Monad (Process Result) where
  pure answer := .ended (.ok answer)
  bind := bind

/-- Catches whatever the process throws. -/
def attempt : Process Result α → Process Result (Except String α)
  | .ended answer => .ended (.ok answer)
  | .perform op next => .perform op fun answer => attempt (next answer)

/-- `try … finally`, where the end throws nothing of its own. -/
def ensuring (process : Process Result α) (ending : Process Result Unit) : Process Result α := do
  let answer ← process.attempt
  ending
  .ended answer

/-- `for … of`, up to the first item that throws. -/
def forEach (items : List ι) (body : ι → Process Result Unit) : Process Result Unit :=
  match items with
  | [] => pure ()
  | item :: rest => do
      body item
      forEach rest body

/-- `every`, which asks no further once an item does not pass. -/
def every (items : List ι) (test : ι → Process Result Bool) : Process Result Bool :=
  match items with
  | [] => pure true
  | item :: rest => do
      if ← test item then every rest test else pure false

def nextOp : Process Result α → Option Op
  | .ended _ => none
  | .perform op _ => some op

variable (handle : Handler Result σ)

/-- The process takes its next operation, if it has any. -/
def step : Process Result α → σ → Process Result α × σ
  | .ended answer, state => (.ended answer, state)
  | .perform op next, state => (next (handle op state).1, (handle op state).2)

/-- What is left of the process after so many operations, and the state then. -/
def runFor (process : Process Result α) (state : σ) : Nat → Process Result α × σ
  | 0 => (process, state)
  | count + 1 => runFor (step handle process state).1 (step handle process state).2 count

/-- What the process ends with when nothing comes in its way, and the state that it leaves. -/
def run : Process Result α → σ → Except String α × σ
  | .ended answer, state => (answer, state)
  | .perform op next, state => run (next (handle op state).1) (handle op state).2

/-- How many operations that takes. -/
def length : Process Result α → σ → Nat
  | .ended _, _ => 0
  | .perform op next, state => length (next (handle op state).1) (handle op state).2 + 1

def Meets (each : Op → σ → Prop) (good : α → σ → Prop) (bad : String → σ → Prop) :
    Process Result α → σ → Prop
  | .ended (.ok answer), state => good answer state
  | .ended (.error thrown), state => bad thrown state
  | .perform op next, state =>
    each op state ∧ Meets each good bad (next (handle op state).1) (handle op state).2

section Rules

variable {handle} {each each' : Op → σ → Prop} {good good' : α → σ → Prop}
  {bad bad' : String → σ → Prop} {state : σ}
variable {items : List ι} {process : Process Result α} {answer : α} {next : α → Process Result β}
  {op : Op} {after : σ}

@[simp] theorem meets_ok :
    Meets handle each good bad (.ended (.ok answer) : Process Result α) state ↔
      good answer state :=
  Iff.rfl

@[simp] theorem meets_pure :
    Meets handle each good bad (pure answer : Process Result α) state ↔ good answer state :=
  Iff.rfl

theorem meets_perform {next : Except String (Result op) → Process Result α} :
    Meets handle each good bad (.perform op next) state ↔
      each op state ∧ Meets handle each good bad (next (handle op state).1) (handle op state).2 :=
  Iff.rfl

theorem meets_call {good : Result op → σ → Prop} {answer : Result op} (heach : each op state)
    (hhandle : handle op state = (.ok answer, after))
    (hgood : good answer after) : Meets handle each good bad (call op) state := by
  refine meets_perform.mpr ⟨heach, ?_⟩
  rw [hhandle]
  exact hgood

theorem meets_call_cases {good : Result op → σ → Prop} (heach : each op state)
    (hgood : ∀ answer after, handle op state = (.ok answer, after) → good answer after)
    (hbad : ∀ error after, handle op state = (.error error, after) → bad error after) :
    Meets handle each good bad (call op) state := by
  refine meets_perform.mpr ⟨heach, ?_⟩
  generalize houtcome : handle op state = outcome at hgood hbad
  obtain ⟨answer, after⟩ := outcome
  cases answer with
  | ok answer => exact hgood answer after rfl
  | error error => exact hbad error after rfl

theorem Meets.mono (h : Meets handle each good bad process state)
    (heach : ∀ op state, each op state → each' op state)
    (hgood : ∀ answer state, good answer state → good' answer state)
    (hbad : ∀ error state, bad error state → bad' error state) :
    Meets handle each' good' bad' process state := by
  induction process generalizing state with
  | ended answer =>
    cases answer with
    | ok answer => exact hgood answer state h
    | error thrown => exact hbad thrown state h
  | perform op _ ih => exact ⟨heach op state h.1, ih _ h.2⟩

theorem meets_bind {good : β → σ → Prop} :
    Meets handle each good bad (process >>= next) state ↔
      Meets handle each (fun answer => Meets handle each good bad (next answer)) bad process
        state := by
  induction process generalizing state with
  | ended answer =>
    cases answer with
    | ok | error => exact Iff.rfl
  | perform _ _ ih => exact and_congr_right fun _ => ih _

theorem meets_attempt {good : Except String α → σ → Prop} :
    Meets handle each good bad process.attempt state ↔
      Meets handle each (fun answer => good (.ok answer)) (fun error => good (.error error))
        process state := by
  induction process generalizing state with
  | ended answer =>
    cases answer with
    | ok | error => exact Iff.rfl
  | perform _ _ ih => exact and_congr_right fun _ => ih _

theorem meets_ensuring {ending : Process Result Unit} :
    Meets handle each good bad (process.ensuring ending) state ↔
      Meets handle each
        (fun answer => Meets handle each (fun _ => good answer) bad ending)
        (fun error => Meets handle each (fun _ => bad error) bad ending) process state := by
  rw [ensuring, meets_bind, meets_attempt]
  constructor
  · intro h
    exact h.mono (fun _ _ h => h) (fun _ _ hanswer => meets_bind.mp hanswer)
      (fun _ _ herror => meets_bind.mp herror)
  · intro h
    exact h.mono (fun _ _ h => h) (fun _ _ hanswer => meets_bind.mpr hanswer)
      (fun _ _ herror => meets_bind.mpr herror)

theorem meets_forEach {body : ι → Process Result Unit} (invariant : List ι → σ → Prop)
    (hbody : ∀ done item rest state, items = done ++ item :: rest → invariant done state →
      Meets handle each (fun _ => invariant (done ++ [item])) bad (body item) state)
    (hstate : invariant [] state) :
    Meets handle each (fun _ => invariant items) bad (forEach items body) state := by
  suffices h : ∀ rest done state, items = done ++ rest → invariant done state →
      Meets handle each (fun _ => invariant items) bad (forEach rest body) state from
    h items [] state rfl hstate
  intro rest
  induction rest with
  | nil =>
    intro done state hitems hdone
    rwa [hitems, List.append_nil]
  | cons item rest ih =>
    intro done state hitems hdone
    refine meets_bind.mpr ((hbody done item rest state hitems hdone).mono (fun _ _ h => h)
      (fun _ middle hmiddle => ?_) (fun _ _ h => h))
    exact ih (done ++ [item]) middle (by rw [hitems, List.append_assoc]; rfl) hmiddle

theorem meets_every {test : ι → Process Result Bool} {passes : ι → Prop}
    (htest : ∀ item ∈ items, Meets handle each
      (fun answer after => after = state ∧ (answer = true ↔ passes item)) bad (test item) state) :
    Meets handle each
      (fun answer after => after = state ∧ (answer = true ↔ ∀ item ∈ items, passes item)) bad
      (every items test) state := by
  induction items with
  | nil => exact ⟨rfl, by simp⟩
  | cons item _ ih =>
    refine meets_bind.mpr ((htest item (.head _)).mono (fun _ _ h => h) ?_ (fun _ _ h => h))
    rintro answer after ⟨rfl, hanswer⟩
    cases answer with
    | false =>
      refine ⟨rfl, iff_of_false Bool.false_ne_true fun hall => ?_⟩
      exact Bool.false_ne_true (hanswer.mpr (hall item (.head _)))
    | true =>
      refine (ih fun other hmem => htest other (.tail _ hmem)).mono
        (fun _ _ h => h) ?_ (fun _ _ h => h)
      rintro _ _ ⟨rfl, hrest⟩
      exact ⟨rfl, by rw [hrest, List.forall_mem_cons, and_iff_right (hanswer.mp rfl)]⟩

variable (h : Meets handle each good bad process state)
include h

theorem Meets.step :
    Meets handle each good bad (process.step handle state).1 (process.step handle state).2 := by
  cases process with
  | ended => exact h
  | perform => exact h.2

theorem Meets.runFor
    (count : Nat) : Meets handle each good bad (process.runFor handle state count).1
      (process.runFor handle state count).2 := by
  induction count generalizing process state with
  | zero => exact h
  | succ _ ih => exact ih h.step

theorem Meets.run :
    (∃ answer, (process.run handle state).1 = .ok answer ∧
      good answer (process.run handle state).2) ∨
      ∃ error, (process.run handle state).1 = .error error ∧
        bad error (process.run handle state).2 := by
  induction process generalizing state with
  | ended answer =>
    cases answer with
    | ok answer => exact .inl ⟨answer, rfl, h⟩
    | error thrown => exact .inr ⟨thrown, rfl, h⟩
  | perform _ _ ih => exact ih _ h.2

omit h

theorem run_bind {answer : α} (h : process.run handle state = (.ok answer, after)) :
    (process >>= next).run handle state = (next answer).run handle after := by
  induction process generalizing state with
  | ended =>
    cases h
    rfl
  | perform _ _ ih => exact ih _ h

theorem Meets.and_run (h : Meets handle each good bad process state) :
    Meets handle each
      (fun answer after => good answer after ∧ process.run handle state = (.ok answer, after))
      (fun error after => bad error after ∧ process.run handle state = (.error error, after))
      process state := by
  induction process generalizing state with
  | ended answer =>
    cases answer with
    | ok | error => exact ⟨h, rfl⟩
  | perform _ _ ih => exact ⟨h.1, ih _ h.2⟩

theorem Meets.and_invariant (invariant : σ → Prop) {process : Process Result α}
    (h : Meets handle each good bad process state)
    (hkeeps : ∀ op state, each op state → invariant state → invariant (handle op state).2)
    (hstate : invariant state) :
    Meets handle each (fun answer after => good answer after ∧ invariant after)
      (fun error after => bad error after ∧ invariant after) process state := by
  induction process generalizing state with
  | ended answer =>
    cases answer with
    | ok | error => exact ⟨h, hstate⟩
  | perform op _ ih => exact ⟨h.1, ih _ h.2 (hkeeps op state h.1 hstate)⟩

/-! ### Among others -/

section Others

variable {agree : σ → σ → Prop} {process : Process Result α} {left : Nat}

/-- In states that agree with this one, the operation answers the same and leads to states
that agree. -/
def Blind (handle : Handler Result σ) (agree : σ → σ → Prop) (op : Op) (state : σ) : Prop :=
  ∀ other, agree state other → (handle op other).1 = (handle op state).1 ∧
    agree (handle op state).2 (handle op other).2

/-- The process goes on as if it were alone: what it would find then agrees with the state, and
no more than so many operations are left. -/
def Undisturbed (handle : Handler Result σ) (agree : σ → σ → Prop) (good : α → σ → Prop)
    (bad : String → σ → Prop) (process : Process Result α) (state : σ) (left : Nat) : Prop :=
  ∃ alone, agree alone state ∧ Meets handle (Blind handle agree) good bad process alone ∧
    process.length handle alone ≤ left

theorem Undisturbed.step (h : Undisturbed handle agree good bad process state left) :
    Undisturbed handle agree good bad (process.step handle state).1
      (process.step handle state).2 (left - 1) := by
  obtain ⟨alone, hagree, hmeets, hlength⟩ := h
  cases process with
  | ended => exact ⟨alone, hagree, hmeets, Nat.zero_le _⟩
  | perform op =>
    obtain ⟨hanswer, hafter⟩ := hmeets.1 state hagree
    refine ⟨(handle op alone).2, hafter, ?_, ?_⟩
    · have hnext := hmeets.2
      rwa [← hanswer] at hnext
    · rw [length, ← hanswer] at hlength
      exact Nat.le_sub_of_add_le hlength

theorem Undisturbed.other {after : σ} (h : Undisturbed handle agree good bad process state left)
    (htrans : ∀ alone, agree alone state → agree alone after) :
    Undisturbed handle agree good bad process after left := by
  obtain ⟨alone, hagree, hmeets, hlength⟩ := h
  exact ⟨alone, htrans alone hagree, hmeets, hlength⟩

theorem Undisturbed.ended {answer : Except String α}
    (h : Undisturbed handle agree good bad (.ended answer) state left) :
    ∃ alone, agree alone state ∧
      ((∃ value, answer = .ok value ∧ good value alone) ∨
        ∃ error, answer = .error error ∧ bad error alone) := by
  obtain ⟨alone, hagree, hmeets, -⟩ := h
  cases answer with
  | ok value => exact ⟨alone, hagree, .inl ⟨value, rfl, hmeets⟩⟩
  | error thrown => exact ⟨alone, hagree, .inr ⟨thrown, rfl, hmeets⟩⟩

theorem Undisturbed.exists_ended (h : Undisturbed handle agree good bad process state 0) :
    ∃ answer, process = .ended answer := by
  obtain ⟨_, -, -, hlength⟩ := h
  cases process with
  | ended answer => exact ⟨answer, rfl⟩
  | perform => exact absurd hlength (Nat.not_succ_le_zero _)

end Others

end Rules

/-! ### Processes that ask only for some operations -/

section Confined

variable {allowed : (op : Op) → Except String (Result op) → Prop} {safe : Op → Prop}
  {process : Process Result α} {good : α → Prop}

/-- As long as it gets the answers that are allowed, the process asks for safe operations only,
and what it answers itself has the property. -/
def Confined (allowed : (op : Op) → Except String (Result op) → Prop) (safe : Op → Prop)
    (good : α → Prop) : Process Result α → Prop
  | .ended (.ok answer) => good answer
  | .ended (.error _) => True
  | .perform op next =>
    safe op ∧ ∀ answer, allowed op answer → Confined allowed safe good (next answer)

theorem confined_call {op : Op} {good : Result op → Prop} (hsafe : safe op)
    (hgood : ∀ answer, allowed op (.ok answer) → good answer) :
    Confined allowed safe good (call op : Process Result (Result op)) := by
  refine ⟨hsafe, fun answer hallowed => ?_⟩
  cases answer with
  | ok answer => exact hgood answer hallowed
  | error => exact trivial

theorem Confined.bind {next : α → Process Result β}
    {middle : α → Prop} {good : β → Prop} (h : Confined allowed safe middle process)
    (hnext : ∀ answer, middle answer → Confined allowed safe good (next answer)) :
    Confined allowed safe good (process >>= next) := by
  induction process with
  | ended answer =>
    cases answer with
    | ok answer => exact hnext answer h
    | error => exact trivial
  | perform _ _ ih => exact ⟨h.1, fun answer hallowed => ih answer (h.2 answer hallowed)⟩

theorem Confined.attempt (h : Confined allowed safe good process) :
    Confined allowed safe (fun _ => True) process.attempt := by
  induction process with
  | ended => exact trivial
  | perform _ _ ih => exact ⟨h.1, fun answer hallowed => ih answer (h.2 answer hallowed)⟩

theorem confined_forEach {items : List ι} {body : ι → Process Result Unit}
    (hbody : ∀ item ∈ items, Confined allowed safe (fun _ => True) (body item)) :
    Confined allowed safe (fun _ => True) (forEach items body) := by
  induction items with
  | nil => exact trivial
  | cons item _ ih =>
    exact (hbody item (.head _)).bind fun _ _ =>
      ih fun other hmem => hbody other (.tail _ hmem)

theorem Confined.step {state : σ} (h : Confined allowed safe good process)
    (hallowed : ∀ op, process.nextOp = some op → allowed op (handle op state).1) :
    Confined allowed safe good (process.step handle state).1 := by
  cases process with
  | ended => exact h
  | perform op => exact h.2 _ (hallowed op rfl)

end Confined

end Process

end OpenCowork.Foundation
