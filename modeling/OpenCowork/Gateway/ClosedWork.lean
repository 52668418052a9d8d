import OpenCowork.Gateway.Linked

/-! # Closed work

A task that is done, cancelled or archived stays so whatever is decided, timed out, completed or
recovered, and no task of an archived roadmap becomes pending or running, as long as no open gate
of a closed task is rejected or timed out, and nothing of an archived roadmap is resumed, retried
or approved.
-/

namespace OpenCowork.Gateway

open Foundation OrderedMap

def IsClosed (status : WorkStatus) : Prop :=
  status = .done ∨ status = .cancelled ∨ status = .archived

inductive Reopens (state : WorkState) (operation : WorkOperation) : Prop where
  | gate {gateId id : String} {gate : HumanGateRecord} {task : WorkTaskRecord}
      (hoperation : operation.closesGate = some gateId)
      (hgate : state.gates.get gateId = some gate)
      (hopen : isOpenHumanGateStatus gate.status = true) (hid : Text.truthy gate.taskId = some id)
      (htask : state.tasks.get id = some task) (hclosed : IsClosed task.status)
  | approval {gateId id : String} {gate : HumanGateRecord} {task : WorkTaskRecord}
      {note : Option String} {scope : Option HumanGateScope}
      (hoperation : operation = .decideHumanGate gateId .approve note scope)
      (hgate : state.gates.get gateId = some gate)
      (hopen : isOpenHumanGateStatus gate.status = true) (hid : Text.truthy gate.taskId = some id)
      (htask : state.tasks.get id = some task)
      (hstatus : task.status = .blocked ∨ task.status = .paused)
      (harchived : state.IsArchived task.roadmapId)
  | action {id : String} {action : WorkTaskAction} {given note stage : Option String}
      {task : WorkTaskRecord} (hoperation : operation = .applyWorkTaskAction id action given note)
      (haction : action = .resume ∨ action = .retry)
      (hnormalized : normalizeOptionalStage given "stage" = .ok stage)
      (htask : state.tasks.get id = some task) (hmember : ∀ st ∈ stage, st ∈ task.pipeline.stages)
      (harchived : state.IsArchived task.roadmapId)

section Step

variable {platform : WorkPlatform} {input : WorkInput} {origin state state' : WorkState}
  {id : String} {task task' : WorkTaskRecord} {runs : OrderedMap String RunRecord}

theorem not_running_of_closed {status : WorkStatus} (h : IsClosed status) : status ≠ .running := by
  rintro rfl
  rcases h with h | h | h <;> cases h

variable (h : TaskChange platform input origin state id task task' runs)
include h

theorem TaskChange.closed (hlinked : Linked platform state) (htask : state.tasks.get id = some task)
    (hclosed : IsClosed task.status) (hexplicit : input.operation.isExplicit = false)
    (hreopens : ¬ Reopens origin input.operation) : task'.status = task.status := by
  have hidle : ∀ runId, task.currentRunId ≠ some runId := fun runId hnamed =>
    not_running_of_closed hclosed (hlinked.named id task runId htask hnamed).1
  cases h with
  | edited hedits => rw [hexplicit] at hedits; cases hedits
  | approved =>
    unfold WorkTaskRecord.approved
    rw [if_neg]
    rintro (hstatus | hstatus)
    · rcases hclosed with h | h | h <;> exact absurd (hstatus.symm.trans h) (by decide)
    · rcases hclosed with h | h | h <;> exact absurd (hstatus.symm.trans h) (by decide)
  | resumed _ hoperation =>
    rw [hoperation] at hexplicit
    cases hexplicit
  | settled hcause =>
    cases hcause with
    | completed _ _ howned =>
      exact absurd (ownedRun_eq_some_iff.mp howned).2.2.2.1 (not_running_of_closed hclosed)
    | recovered _ _ _ _ _ _ hcurrent | stopped _ _ _ _ _ hcurrent
    | controlled _ _ _ _ _ _ _ hcurrent => exact absurd hcurrent (hidle _)
    | gated hoperation horigin hgate hopen hid =>
      subst horigin
      exact absurd (.gate hoperation hgate hopen hid htask hclosed) hreopens
    | abandoned _ _ _ hactive => exact absurd (activeRunOf_eq_some_iff.mp hactive).1 (hidle _)
    | overridden hedits =>
      rw [hexplicit] at hedits
      cases hedits

/-- Neither waiting for a run nor in one. -/
def IsAtRest (status : WorkStatus) : Prop := status ≠ .pending ∧ status ≠ .running

theorem TaskChange.atRest (hlinked : Linked platform state) (htask : state.tasks.get id = some task)
    (hreopens : ¬ Reopens origin input.operation)
    (hrest : state.IsArchived task.roadmapId → IsAtRest task.status)
    (harchived : state.IsArchived task'.roadmapId) : IsAtRest task'.status := by
  have hidle : state.IsArchived task.roadmapId → ∀ runId, task.currentRunId ≠ some runId :=
    fun hin runId hnamed => (hrest hin).2 (hlinked.named id task runId htask hnamed).1
  cases h with
  | edited _ _ _ _ _ _ hopen => exact absurd harchived hopen
  | @approved gateId gate note _ _ horigin hoperation hgate hopen hid =>
    subst horigin
    have hwas := hrest harchived
    unfold WorkTaskRecord.approved
    by_cases hhalted : task.status = .blocked ∨ task.status = .paused
    · exact absurd (.approval hoperation hgate hopen hid htask hhalted harchived) hreopens
    · rw [if_neg hhalted]
      exact hwas
  | @resumed stage given note given' horigin hoperation hnormalized hstage =>
    subst horigin
    exact absurd (.action hoperation (.inl rfl) hnormalized htask (fun st hst => (hstage st hst).1)
      harchived) hreopens
  | settled hcause =>
    cases hcause with
    | completed _ _ howned =>
      exact absurd (ownedRun_eq_some_iff.mp howned).2.2.2.1 (hrest harchived).2
    | @recovered runId retryLimit run _ _ _ _ _ _ hcurrent =>
      have hsame : (task.recovered run retryLimit orphanSummary).roadmapId = task.roadmapId := by
        unfold WorkTaskRecord.recovered
        split <;> rfl
      rw [hsame] at harchived
      exact absurd hcurrent (hidle harchived _)
    | stopped => exact ⟨by simp [WorkTaskRecord.halted], by simp [WorkTaskRecord.halted]⟩
    | gated _ _ _ _ _ hstatus =>
      rcases hstatus with rfl | rfl <;>
        exact ⟨by simp [WorkTaskRecord.halted], by simp [WorkTaskRecord.halted]⟩
    | @controlled control _ run note _ _ _ _ _ _ hactive =>
      have hsame : (task.controlled control.action run note).roadmapId = task.roadmapId := by
        unfold WorkTaskRecord.controlled
        split <;> rfl
      rw [hsame] at harchived
      exact absurd hactive (hrest harchived).2
    | abandoned _ _ _ hactive htask' =>
      have hnamed := (activeRunOf_eq_some_iff.mp hactive).1
      rcases htask' with rfl | ⟨note, rfl⟩
      · exact absurd hnamed (hidle harchived _)
      · exact absurd hnamed (hidle harchived _)
    | overridden _ _ hstatus _ _ _ hopen =>
      refine ⟨fun hpending => ?_, hstatus⟩
      rcases hopen hpending with hopen |
        ⟨given, note, stage, hoperation, hnormalized, hmember, rfl, hsame⟩
      · exact hopen harchived
      · exact hreopens (.action hoperation (.inr rfl) hnormalized htask hmember (hsame ▸ harchived))

omit h

/-- Work that has been put away with its roadmap is at rest. -/
def ArchivedAtRest (state : WorkState) : Prop :=
  ∀ id task, state.tasks.get id = some task → state.IsArchived task.roadmapId →
    IsAtRest task.status

theorem ArchivedAtRest.step (h : ArchivedAtRest state) (hlinked : Linked platform state)
    (hreopens : ¬ Reopens origin input.operation)
    (hstep : WorkStep platform input origin state state') : ArchivedAtRest state' := by
  intro id task' htask' harchived
  cases hstep with
  | kept hside htasks | leased hside _ htasks | reserved hside _ _ _ htasks =>
    exact h id task' (htasks ▸ htask') (hside.archived _ harchived)
  | receiptsChanged hside _ htasks =>
    exact h id task' (htasks ▸ htask') (hside.archived _ harchived)
  | roadmapArchived hnew _ hclosed htasks =>
    rcases hnew _ harchived with hbefore | hroadmap
    · exact h id task' (htasks ▸ htask') hbefore
    · have hstatus := hclosed id task' (htasks ▸ htask') hroadmap
      exact ⟨by simp [hstatus], by simp [hstatus]⟩
  | tasksDeleted _ hside htasks =>
    rw [htasks, get_filter_eq_some_iff] at htask'
    exact h id task' htask'.1 (hside.archived _ harchived)
  | created hside _ _ _ _ _ hopen htasks =>
    rw [htasks, get_set] at htask'
    split at htask'
    · cases htask'
      exact absurd (hside.archived _ harchived) hopen
    · exact h id task' htask' (hside.archived _ harchived)
  | changed hside htask hchange htasks =>
    rw [htasks, get_set] at htask'
    split at htask'
    · cases htask'
      exact hchange.atRest hlinked htask hreopens (h _ _ htask) (hside.archived _ harchived)
    · exact h id task' htask' (hside.archived _ harchived)
  | started hside _ _ hstartable htasks =>
    rw [htasks, get_set] at htask'
    split at htask'
    · cases htask'
      exact absurd (hside.archived _ harchived) hstartable.accepted
    · exact h id task' htask' (hside.archived _ harchived)

theorem ArchivedAtRest.steps (h : ArchivedAtRest state) (hlinked : Linked platform state)
    (hreopens : ¬ Reopens origin input.operation)
    (hsteps : WorkSteps platform input origin state state') : ArchivedAtRest state' := by
  induction hsteps with
  | refl => exact h
  | tail hfirst hstep ih => exact ih.step (hlinked.steps hfirst) hreopens hstep

/-- A closed task keeps its status under what is neither explicit nor a reopening. -/
theorem closed_steps (hlinked : Linked platform origin)
    (hreopens : ¬ Reopens origin input.operation) (hexplicit : input.operation.isExplicit = false)
    (hsteps : WorkSteps platform input origin origin state)
    (htask : origin.tasks.get id = some task) (hclosed : IsClosed task.status)
    (htask' : state.tasks.get id = some task') : task'.status = task.status := by
  induction hsteps generalizing task' with
  | refl =>
    rw [htask] at htask'
    exact congrArg _ (Option.some.inj htask').symm
  | @tail between last hfirst hstep ih =>
    have hbetween := hlinked.steps hfirst
    cases hstep with
    | kept _ htasks | roadmapArchived _ _ _ htasks | leased _ _ htasks | receiptsChanged _ _ htasks
    | reserved _ _ _ _ htasks => exact ih (htasks ▸ htask')
    | tasksDeleted _ _ htasks =>
      rw [htasks, get_filter_eq_some_iff] at htask'
      exact ih htask'.1
    | created _ _ _ _ _ _ _ htasks =>
      rw [htasks, get_set_of_ne _ _ ?_] at htask'
      · exact ih htask'
      · -- the id of a new task is none that was there before the operation
        rintro rfl
        exact not_drawn_next _ _ _ ((hlinked.taskDrawn _ _ htask).mono (drawn_le_of_steps hfirst))
    | changed _ hheld hchange htasks =>
      rw [htasks, get_set] at htask'
      split at htask'
      next hid =>
        cases htask'
        subst hid
        have hsame := ih hheld
        exact (hchange.closed hbetween hheld (hsame ▸ hclosed) hexplicit hreopens).trans hsame
      · exact ih htask'
    | started _ _ _ hstartable htasks =>
      rw [htasks, get_set] at htask'
      split at htask'
      next hid =>
        subst hid
        have hsame := ih hstartable.held
        rw [← hsame, hstartable.pending] at hclosed
        rcases hclosed with h | h | h <;> cases h
      · exact ih htask'

end Step

/-- As long as no operation opens closed work: in every moment whose operation does not act on
tasks explicitly, closed tasks keep their status; and in no state is a task of an archived
roadmap pending or running. -/
theorem closed_work_stays_closed (platform : WorkPlatform) (inputs : List WorkInput)
    (hreopens : ∀ moment ∈ (workStore platform).history .empty inputs,
      ¬ Reopens moment.before moment.input.operation) :
    (∀ moment ∈ (workStore platform).history .empty inputs,
      moment.input.operation.isExplicit = false → ∀ id task task',
        moment.before.tasks.get id = some task → IsClosed task.status →
        moment.after.tasks.get id = some task' → task'.status = task.status) ∧
    (∀ first rest, inputs = first ++ rest → ∀ id task,
      ((workStore platform).run .empty first).tasks.get id = some task →
      ((workStore platform).run .empty first).IsArchived task.roadmapId →
        task.status ≠ .pending ∧ task.status ≠ .running) := by
  constructor
  · intro moment hmem hexplicit id task task' htask hclosed htask'
    have hguard := hreopens moment hmem
    obtain ⟨first, input, rest, -, rfl⟩ :=
      (workStore platform).exists_prefix_of_mem_history _ _ _ hmem
    exact closed_steps (linked_run platform first) hguard hexplicit (perform_steps platform _ input)
      htask hclosed htask'
  · rintro first rest rfl id task htask harchived
    rw [Machine.history_append] at hreopens
    have hall := (workStore platform).history_invariant_of
      (fun moment => ¬ Reopens moment.before moment.input.operation)
      (fun _ state => Linked platform state ∧ ArchivedAtRest state)
      (fun _ state input h hguard => ⟨h.1.steps (perform_steps platform state input),
        h.2.steps h.1 hguard (perform_steps platform state input)⟩)
      .empty ⟨.empty platform, fun id task htask => by cases htask⟩ first
      (fun moment hmem => hreopens moment (List.mem_append_left _ hmem))
    exact hall.2 id task htask harchived

/-- A task is done before its gate is approved, and a roadmap is archived before the result and
the recovery of a run come in. -/
def archivedAndSettled : List WorkInput :=
  [⟨0, .createRoadmap { title := "Plan" }⟩,
    ⟨1, .createWorkTask { title := "Report", roadmapId := some "roadmap_" }⟩,
    ⟨2, .createWorkTask { title := "Notes", roadmapId := some "roadmap_" }⟩,
    ⟨3, .startWorkTaskRun
      { taskId := "task_aa", stage := "implement", sessionId := "ses_1", profile := "coder" }⟩,
    ⟨4, .createHumanGate
      { type := .stageTransition, taskId := some "task_a", reason := "Review" } false⟩,
    ⟨5, .applyWorkTaskAction "task_a" .done none none⟩,
    ⟨6, .decideHumanGate "gate_aaaa" .approve none none⟩,
    ⟨7, .archiveRoadmap "roadmap_" none⟩,
    ⟨8, .completeWorkTaskRun "run_aaa"
      { status := .pass, summary := "done", feedback := none, artifacts := [], evidence := [],
        decisions := [], failureClass := none } 3 {} none⟩,
    ⟨9, .recoverOrphanedWorkRuns [] 3⟩]

theorem closed_work_stays_closed_done :
    (∀ moment ∈ (workStore countingPlatform).history .empty archivedAndSettled,
      moment.input.operation.isExplicit = false → ∀ id task task',
        moment.before.tasks.get id = some task → IsClosed task.status →
        moment.after.tasks.get id = some task' → task'.status = task.status) ∧
    (∀ first rest, archivedAndSettled = first ++ rest → ∀ id task,
      ((workStore countingPlatform).run .empty first).tasks.get id = some task →
      ((workStore countingPlatform).run .empty first).IsArchived task.roadmapId →
        task.status ≠ .pending ∧ task.status ≠ .running) := by
  have hquiet : ((workStore countingPlatform).history .empty archivedAndSettled).all fun moment =>
      moment.input.operation.closesGate.isNone && match moment.input.operation with
      | .decideHumanGate gateId _ _ _ => (moment.before.gates.get gateId).all fun gate =>
        ((Text.truthy gate.taskId).bind moment.before.tasks.get).all fun task =>
          task.status ≠ .blocked && task.status ≠ .paused
      | .applyWorkTaskAction _ action _ _ => action = .done
      | _ => true := by decide +kernel
  refine closed_work_stays_closed countingPlatform archivedAndSettled fun moment hmem hreopens => ?_
  have hheld := List.all_eq_true.mp hquiet moment hmem
  rw [Bool.and_eq_true] at hheld
  cases hreopens with
  | gate hoperation => simp [hoperation] at hheld
  | approval hoperation hgate _ hid htask hstatus =>
    rw [hoperation] at hheld
    simp only [hgate, hid, Option.all_some, Option.bind_some, htask] at hheld
    rcases hstatus with h | h <;> simp [h] at hheld
  | action hoperation haction =>
    rw [hoperation] at hheld
    rcases haction with rfl | rfl <;> cases hheld.2

/-- The gate of a task is rejected after the task was done. -/
theorem done_task_blocked_by_gate :
    (((workStore countingPlatform).run .empty
      [⟨0, .createWorkTask { title := "Report" }⟩,
        ⟨1, .createHumanGate
          { type := .stageTransition, taskId := some "task_", reason := "Review" } false⟩,
        ⟨2, .applyWorkTaskAction "task_" .done none none⟩]).tasks.get "task_").map
          WorkTaskRecord.status = some .done ∧
    (((workStore countingPlatform).run .empty
      [⟨0, .createWorkTask { title := "Report" }⟩,
        ⟨1, .createHumanGate
          { type := .stageTransition, taskId := some "task_", reason := "Review" } false⟩,
        ⟨2, .applyWorkTaskAction "task_" .done none none⟩,
        ⟨3, .decideHumanGate "gate_a" .reject none none⟩]).tasks.get "task_").map
          WorkTaskRecord.status = some .blocked := by
  decide +kernel

end OpenCowork.Gateway
