import OpenCowork.Gateway.GateChains

/-! # Manual gates

A task with a manual gate is not runnable. The approval of any of its gates takes the manual gate
away, so it waits for its own one only as long as no other gate of the task is approved.
-/

namespace OpenCowork.Gateway

open Foundation

def manualGateKey (taskId : String) (manualGate : ManualGate) : Option String :=
  normalizeOptionalString (some ("manual:" ++ taskId ++ ":" ++ manualGate.text)) 300

/-- What takes a manual gate from a task: the approval of the gate raised for it, or an update
that gives the task another one or none. -/
inductive LiftsManualGate (state : WorkState) (operation : WorkOperation) (taskId : String)
    (manualGate : ManualGate) : Prop where
  | approved {id : String} {note : Option String} {scope : Option HumanGateScope}
      {gate : HumanGateRecord} (hoperation : operation = .decideHumanGate id .approve note scope)
      (hgate : state.gates.get id = some gate) (hopen : isOpenHumanGateStatus gate.status = true)
      (htask : Text.truthy gate.taskId = some taskId)
      (hkey : gate.scopeKey = manualGateKey taskId manualGate)
  | updated {given : Option ManualGate} (hsets : operation.setsManualGate taskId given)
      (hgiven : given ≠ some manualGate)

/-- An open gate of a task is approved that was not raised for its manual gate. -/
def ApprovesAnother (state : WorkState) (operation : WorkOperation) : Prop :=
  ∃ id note scope gate taskId task manualGate,
    operation = .decideHumanGate id .approve note scope ∧ state.gates.get id = some gate ∧
    isOpenHumanGateStatus gate.status = true ∧ Text.truthy gate.taskId = some taskId ∧
    state.tasks.get taskId = some task ∧ task.manualGate = some manualGate ∧
    gate.scopeKey ≠ manualGateKey taskId manualGate

/-- A task that has been created waits for a manual gate, unless it is deleted. -/
structure HeldBack (platform : WorkPlatform) (taskId : String) (manualGate : ManualGate)
    (state : WorkState) : Prop where
  drawn : platform.Drawn "task_" state.drawn taskId
  manual : ∀ task, state.tasks.get taskId = some task → task.manualGate = some manualGate

namespace HeldBack

variable {platform : WorkPlatform} {operation : WorkOperation} {origin state state' : WorkState}
  {taskId : String} {manualGate : ManualGate}

theorem of_manual (h : HeldBack platform taskId manualGate state)
    (hdrawn : state.drawn ≤ state'.drawn)
    (hmanual : (state'.tasks.get taskId).map WorkTaskRecord.manualGate =
      (state.tasks.get taskId).map WorkTaskRecord.manualGate) :
    HeldBack platform taskId manualGate state' := by
  refine ⟨h.drawn.mono hdrawn, fun _ htask => ?_⟩
  rw [htask, Option.map_some] at hmanual
  obtain ⟨held, hheld, hsame⟩ := Option.map_eq_some_iff.mp hmanual.symm
  exact hsame.symm.trans (h.manual held hheld)

variable (h : HeldBack platform taskId manualGate state)
  (hlifts : ¬ LiftsManualGate origin operation taskId manualGate)
  (hanother : ¬ ApprovesAnother origin operation)
include h hlifts hanother

/-- A step leaves the task behind its manual gate. -/
theorem step (hstep : GateStep platform operation origin state state') :
    HeldBack platform taskId manualGate state' := by
  cases hstep with
  | undisturbed hsame => exact h.of_manual hsame.drawn (hsame.manual taskId)
  | created hdrawn htasks =>
    refine h.of_manual hdrawn.le ?_
    have hne : "task_" ++ platform.randomUUID state.drawn ≠ taskId := fun heq =>
      not_drawn_next platform "task_" state.drawn (heq ▸ h.drawn)
    rw [htasks, OrderedMap.get_set_of_ne _ _ hne]
  | @updated _ _ id task task' hdrawn htask hsets htasks =>
    refine ⟨h.drawn.mono hdrawn, fun held hheld => ?_⟩
    rw [htasks, OrderedMap.get_set] at hheld
    split at hheld
    next hid =>
      cases hheld
      by_contra hgiven
      exact hlifts (.updated (hid ▸ hsets) hgiven)
    · exact h.manual held hheld
  | linked | unlinked | closed => exact h.of_manual le_rfl rfl
  | raised => exact h.of_manual (Nat.le_succ _) rfl
  | deleted hdrawn htasks =>
    refine ⟨h.drawn.mono hdrawn, fun task htask => ?_⟩
    rw [htasks] at htask
    exact h.manual task ((OrderedMap.get_filter_eq_some_iff _ _ _ _).mp htask).1
  | @approved _ id gate note scope hoperation hdrawn hgate hopen hmanual =>
    have hkept := hmanual taskId
    split at hkept
    next htaskId =>
      -- the gate is one of the task, so it was raised for the manual gate or the task is gone
      refine ⟨h.drawn.mono hdrawn, fun _ htask => ?_⟩
      rw [htask, Option.map_some] at hkept
      obtain ⟨held, hheld, -⟩ := Option.map_eq_some_iff.mp hkept.symm
      have hkey : gate.scopeKey = manualGateKey taskId manualGate := by
        by_contra hkey
        exact hanother ⟨id, note, scope, gate, taskId, held, manualGate, hoperation, hgate,
          hopen, htaskId, hheld, h.manual held hheld, hkey⟩
      exact absurd (.approved hoperation hgate hopen htaskId hkey) hlifts
    · exact h.of_manual hdrawn hkept

theorem steps (hsteps : GateSteps platform operation origin state state') :
    HeldBack platform taskId manualGate state' := by
  induction hsteps with
  | refl => exact h
  | tail _ hstep ih => exact ih.step hlifts hanother hstep

end HeldBack

theorem not_runnable_of_manualGate {taskId : String} {task : WorkTaskRecord}
    {manualGate : ManualGate} (hmanual : task.manualGate = some manualGate) (state : WorkState)
    (now : Int) : calculateTaskReadiness taskId task state now ≠ .runnable := by
  unfold calculateTaskReadiness
  split
  · simp
  · split
    · simp
    · split
      · simp
      · split
        · simp
        · rw [hmanual, Option.isSome_some, if_pos rfl]
          simp

/-- Once a task has a manual gate, it keeps it and is not runnable until the gate raised for it is
approved or an update sets another one, provided that no open gate of a task is approved that was
not raised for the manual gate of the task. -/
theorem manual_gate_kept (platform : WorkPlatform) (inputs : List WorkInput)
    (hanother : ∀ moment ∈ (workStore platform).history .empty inputs,
      ¬ ApprovesAnother moment.before moment.input.operation) :
    ∀ first rest, inputs = first ++ rest → ∀ taskId task manualGate,
      ((workStore platform).run .empty first).tasks.get taskId = some task →
      task.manualGate = some manualGate →
      (∀ moment ∈ (workStore platform).history ((workStore platform).run .empty first) rest,
        ¬ LiftsManualGate moment.before moment.input.operation taskId manualGate) →
      ∀ task', ((workStore platform).run .empty inputs).tasks.get taskId = some task' →
        task'.manualGate = some manualGate ∧ ∀ now,
          calculateTaskReadiness taskId task' ((workStore platform).run .empty inputs) now ≠
            .runnable := by
  rintro first rest rfl taskId task manualGate htask hmanual hlifts task' htask'
  rw [Machine.history_append] at hanother
  have hstart : HeldBack platform taskId manualGate ((workStore platform).run .empty first) := by
    refine ⟨(linked_run platform first).taskDrawn taskId task htask, fun held hheld => ?_⟩
    obtain rfl := Option.mem_unique htask hheld
    exact hmanual
  have hheld := (workStore platform).history_invariant_of
    (fun moment => ¬ LiftsManualGate moment.before moment.input.operation taskId manualGate ∧
      ¬ ApprovesAnother moment.before moment.input.operation)
    (fun _ state => HeldBack platform taskId manualGate state)
    (fun _ state input h hguard =>
      h.steps hguard.1 hguard.2 (perform_gateSteps platform state input))
    _ hstart rest fun moment hmem =>
      ⟨hlifts moment hmem, hanother moment (List.mem_append_right _ hmem)⟩
  rw [← Machine.run_append] at hheld
  have hkept := hheld.manual task' htask'
  exact ⟨hkept, not_runnable_of_manualGate hkept _⟩

def credentialsAndBudget (decision : HumanGateDecision) : List WorkInput :=
  [⟨0, .createWorkTask { title := "Report", manualGate := some .credentialsRequired }⟩,
    ⟨1, .createHumanGate
      { type := .budgetException, taskId := some "task_", reason := "Budget" } false⟩,
    ⟨2, .decideHumanGate "gate_aa" decision none none⟩]

theorem manual_gate_kept_rejected : ∃ task,
    ((workStore countingPlatform).run .empty (credentialsAndBudget .reject)).tasks.get "task_" =
      some task ∧ task.manualGate = some .credentialsRequired ∧ ∀ now,
        calculateTaskReadiness "task_" task
          ((workStore countingPlatform).run .empty (credentialsAndBudget .reject)) now ≠
            .runnable := by
  obtain ⟨start, hstart, hmanual⟩ := Option.map_eq_some_iff.mp (by decide +kernel :
    (((workStore countingPlatform).run .empty
      ((credentialsAndBudget .reject).take 1)).tasks.get "task_").map WorkTaskRecord.manualGate =
        some (some .credentialsRequired))
  obtain ⟨task, htask⟩ := Option.isSome_iff_exists.mp (by decide +kernel :
    (((workStore countingPlatform).run .empty (credentialsAndBudget .reject)).tasks.get
      "task_").isSome)
  refine ⟨task, htask, manual_gate_kept countingPlatform (credentialsAndBudget .reject) ?_
    ((credentialsAndBudget .reject).take 1) ((credentialsAndBudget .reject).drop 1) rfl "task_"
    start .credentialsRequired hstart hmanual ?_ task htask⟩
  · rintro moment hmem ⟨id, note, scope, gate, taskId, held, manualGate, hoperation, -⟩
    have hinput := (workStore countingPlatform).input_mem_of_mem_history _ hmem
    simp only [credentialsAndBudget, List.mem_cons, List.not_mem_nil, or_false] at hinput
    rcases hinput with hinput | hinput | hinput <;> rw [hinput] at hoperation <;> cases hoperation
  · rintro moment hmem hlifts
    have hinput := (workStore countingPlatform).input_mem_of_mem_history _ hmem
    simp only [credentialsAndBudget, List.drop_succ_cons, List.drop_zero, List.mem_cons,
      List.not_mem_nil, or_false] at hinput
    cases hlifts with
    | approved hoperation =>
      rcases hinput with hinput | hinput <;> rw [hinput] at hoperation <;> cases hoperation
    | updated hsets => rcases hinput with hinput | hinput <;> rw [hinput] at hsets <;> exact hsets

/-- The approval of the budget lets the task go, while the gate for its credentials is open. -/
theorem runnable_without_credentials :
    (((workStore countingPlatform).run .empty
      ((credentialsAndBudget .approve).take 2)).tasks.get "task_").map WorkTaskRecord.manualGate =
        some (some .credentialsRequired) ∧
    (((workStore countingPlatform).run .empty (credentialsAndBudget .approve)).tasks.get
      "task_").map (fun task => calculateTaskReadiness "task_" task
        ((workStore countingPlatform).run .empty (credentialsAndBudget .approve)) 3) =
          some .runnable ∧
    (((workStore countingPlatform).run .empty (credentialsAndBudget .approve)).gates.get
      "gate_a").map (fun gate => (gate.scopeKey, gate.status)) =
        some (manualGateKey "task_" .credentialsRequired, .pending) := by
  decide +kernel

end OpenCowork.Gateway
