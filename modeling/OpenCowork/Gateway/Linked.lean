import OpenCowork.Gateway.RunSteps

/-! # Links between tasks and runs

Whatever an operation leaves is reached by steps from what it found.
Every id has been drawn, every run belongs to a task, and a task that names a run is running it.
No operation breaks this.
-/

namespace OpenCowork.Gateway

open Foundation OrderedMap

section Operations

variable {platform : WorkPlatform} {input : WorkInput} {origin state state' : WorkState}
  {answer : WorkAnswer}

theorem updateRoadmap_steps {id : String} {update : RoadmapUpdateInput}
    (h : updateRoadmap id update origin = .ok (answer, state')) :
    WorkSteps platform input origin origin state' := by
  unfold updateRoadmap at h
  split at h
  · cases h
    exact .refl
  next hroadmap =>
    obtain ⟨_, -, h⟩ := bind_eq_ok h
    obtain ⟨_, -, h⟩ := bind_eq_ok h
    obtain ⟨_, hrefused, h⟩ := bind_eq_ok h
    rw [refuseIf_eq_ok] at hrefused
    cases h
    refine .single (.kept ⟨fun other harchived => ?_, le_rfl⟩ rfl rfl rfl)
    unfold WorkState.IsArchived at harchived ⊢
    dsimp only at harchived
    rw [get_set] at harchived
    by_cases hid : id = other
    · subst hid
      rw [if_pos rfl, Option.map_some, Option.some.injEq] at harchived
      rw [hroadmap, Option.map_some]
      cases hstatus : update.status with
      | none =>
        rw [hstatus, Option.getD_none] at harchived
        rw [harchived]
      | some =>
        rw [hstatus, Option.getD_some] at harchived
        exact absurd (hstatus.trans (congrArg some harchived)) hrefused
    · rw [if_neg hid] at harchived
      exact harchived

theorem createRoadmapWithTasks_steps {roadmap : RoadmapInput} {tasks : List WorkTaskCreateInput}
    (h : createRoadmapWithTasks platform roadmap tasks origin = .ok (answer, state')) :
    WorkSteps platform input origin origin state' := by
  unfold createRoadmapWithTasks at h
  obtain ⟨⟨_, _⟩, hcreated, h⟩ := bind_eq_ok h
  obtain ⟨⟨_, _⟩, hfilled, h⟩ := bind_eq_ok h
  cases h
  exact ((sameWork_createRoadmap hcreated).steps.trans (createTasks_steps hfilled)).trans
    (sameWork_recompute _ _).steps

theorem planInitiative_steps {plan : PlanInitiativeInput}
    (h : planInitiative platform plan origin = .ok (answer, state')) :
    WorkSteps platform input origin origin state' := by
  unfold planInitiative at h
  obtain ⟨⟨_, _⟩, hcreated, h⟩ := bind_eq_ok h
  obtain ⟨⟨_, _⟩, hfilled, h⟩ := bind_eq_ok h
  obtain ⟨_, hplanned, h⟩ := bind_eq_ok h
  obtain ⟨_, -, h⟩ := bind_eq_ok h
  cases h
  obtain ⟨dependencies, rfl⟩ := planDependencies_frame hplanned
  exact ((sameWork_createRoadmap hcreated).steps.trans (createTasks_steps hfilled)).trans
    ((sameWork_recompute _ _).trans (.of_dependencies _ dependencies)).steps

theorem eq_of_answered {outcome : WorkAnswer × WorkState}
    (h : (Except.ok outcome : Except String _) = .ok (answer, state')) : outcome.2 = state' :=
  congrArg Prod.snd (Except.ok.inj h)

/-- Every operation is a sequence of the steps above. -/
theorem attempt_steps
    (h : attempt platform input.now origin input.operation = .ok (answer, state')) :
    WorkSteps platform input origin origin state' := by
  generalize hoperation : input.operation = operation at h
  cases operation with
  | createRoadmap =>
    obtain ⟨⟨id, created⟩, hcreated, h⟩ := bind_eq_ok h
    cases h
    exact (sameWork_createRoadmap hcreated).steps
  | createRoadmapWithTasks => exact createRoadmapWithTasks_steps h
  | planInitiative => exact planInitiative_steps h
  | updateRoadmap => exact updateRoadmap_steps h
  | recomputeRoadmapStatus =>
    cases h
    exact (sameWork_recompute _ _).steps
  | archiveRoadmap =>
    obtain rfl := eq_of_answered h
    exact archiveRoadmap_steps hoperation
  | deleteRoadmap => exact deleteRoadmap_steps hoperation h
  | createWorkTask =>
    obtain ⟨⟨id, created⟩, hcreated, h⟩ := bind_eq_ok h
    cases h
    exact createTask_steps hcreated
  | createWorkTasks =>
    obtain ⟨⟨_, _⟩, hcreated, h⟩ := bind_eq_ok h
    cases h
    exact createTasks_steps hcreated
  | updateWorkTask => exact updateWorkTask_steps hoperation h
  | updateWorkTasks => exact updateWorkTasks_steps hoperation h
  | applyWorkTaskAction => exact applyWorkTaskAction_steps hoperation h
  | markWorkTaskDone =>
    obtain rfl := eq_of_answered h
    exact markWorkTaskDone_steps hoperation
  | archiveWorkTask =>
    obtain rfl := eq_of_answered h
    exact archiveWorkTask_steps hoperation
  | deleteWorkTask => exact deleteWorkTask_steps hoperation h
  | addWorkDependency =>
    obtain ⟨_, hadded, h⟩ := bind_eq_ok h
    cases h
    obtain ⟨dependencies, rfl⟩ := addDependency_frame hadded
    exact (SameWork.of_dependencies _ dependencies).steps
  | deleteWorkDependency =>
    cases h
    exact .single (.kept (.of_roadmaps rfl le_rfl) rfl rfl rfl)
  | applyActiveRunControl =>
    obtain rfl := eq_of_answered h
    exact applyActiveRunControl_steps hoperation
  | startWorkTaskRun =>
    obtain rfl := eq_of_answered h
    exact startWorkTaskRun_steps hoperation
  | startWorkTaskRunFromDispatch =>
    obtain rfl := eq_of_answered h
    exact startWorkTaskRunFromDispatch_steps hoperation
  | renewWorkTaskRunLease =>
    obtain rfl := eq_of_answered h
    exact renewWorkTaskRunLease_steps
  | adoptActiveWorkRunLeases =>
    obtain rfl := eq_of_answered h
    exact adoptActiveWorkRunLeases_steps
  | recoverExpiredWorkLeases =>
    obtain rfl := eq_of_answered h
    exact recoverExpiredWorkLeases_steps hoperation
  | recoverOrphanedWorkRuns | recoverOrphanedWorkRun =>
    have hlimit := congrArg WorkOperation.orphanLimit hoperation
    have hlost := congrArg WorkOperation.loses hoperation
    obtain rfl := eq_of_answered h
    exact recoverOrphans_steps hlimit hlost
  | abortWorkEnvironment =>
    obtain rfl := eq_of_answered h
    exact abortWorkEnvironment_steps hoperation
  | completeWorkTaskRun =>
    obtain rfl := eq_of_answered h
    exact completeWorkTaskRun_steps hoperation
  | blockActiveWorkTaskRun =>
    obtain rfl := eq_of_answered h
    exact blockActiveWorkTaskRun_steps hoperation
  | createHumanGate => exact createHumanGate_steps h
  | decideHumanGate =>
    obtain rfl := eq_of_answered h
    exact decideHumanGate_steps hoperation
  | consumeHumanGate =>
    obtain rfl := eq_of_answered h
    exact consumeHumanGate_steps
  | timeoutHumanGate =>
    obtain rfl := eq_of_answered h
    exact timeoutHumanGate_steps hoperation
  | reserveTaskDispatchStart => exact reserveTaskDispatchStart_steps hoperation h
  | journalTaskDispatchAcquisitionIntent dispatchId kind
  | attachTaskDispatchEnvironment dispatchId environment
  | markTaskDispatchStarted dispatchId runId sessionId
  | markTaskDispatchFailed =>
    obtain rfl := eq_of_answered h
    exact updateTaskDispatchReceipt_steps (hoperation ▸ rfl) (whileStarting_noMoreReserved
      fun _ hstarting => ⟨rfl, rfl, rfl, fun _ => hstarting⟩)
  | attachTaskDispatchSession =>
    exact attachTaskDispatchSession_steps (hoperation ▸ rfl) h
  | markTaskDispatchAcquisitionSettled =>
    obtain rfl := eq_of_answered h
    refine updateTaskDispatchReceipt_steps (hoperation ▸ rfl) fun _ _ hchanged => ?_
    cases hchanged
    exact ⟨rfl, rfl, rfl, fun hstarting => hstarting⟩
  | recoverExpiredTaskDispatchStarts =>
    obtain rfl := eq_of_answered h
    exact recoverExpiredTaskDispatchStarts_steps (hoperation ▸ rfl)

theorem perform_steps (platform : WorkPlatform) (state : WorkState) (input : WorkInput) :
    WorkSteps platform input state state (perform platform state input).2 := by
  unfold perform
  cases hattempt : attempt platform input.now state input.operation with
  | error => exact .refl
  | ok => exact attempt_steps hattempt

end Operations

variable {platform : WorkPlatform} {input : WorkInput} {origin state : WorkState} {id : String}
  {task task' : WorkTaskRecord} {runs : OrderedMap String RunRecord} {runId : String}

def WorkPlatform.Drawn (platform : WorkPlatform) (head : String) (drawn : Nat) (id : String) :
    Prop :=
  ∃ n < drawn, id = head ++ platform.randomUUID n

structure Linked (platform : WorkPlatform) (state : WorkState) : Prop where
  taskDrawn : ∀ id task, state.tasks.get id = some task → platform.Drawn "task_" state.drawn id
  runDrawn : ∀ id run, state.runs.get id = some run → platform.Drawn "run_" state.drawn id
  receiptDrawn : ∀ id receipt, state.receipts.get id = some receipt →
    platform.Drawn "dispatch_" state.drawn id
  runTask : ∀ id run, state.runs.get id = some run → (state.tasks.get run.taskId).isSome
  named : ∀ id task runId, state.tasks.get id = some task → task.currentRunId = some runId →
    task.status = .running ∧
      ∃ run, state.runs.get runId = some run ∧ run.taskId = id ∧ run.status = .running

section Drawn

variable {platform : WorkPlatform} {head : String}

theorem WorkPlatform.Drawn.mono {drawn drawn' : Nat} {id : String} (hle : drawn ≤ drawn')
    (h : platform.Drawn head drawn id) : platform.Drawn head drawn' id := by
  obtain ⟨n, hn, hid⟩ := h
  exact ⟨n, hn.trans_le hle, hid⟩

theorem drawn_succ {drawn drawn' : Nat} (hlt : drawn < drawn') :
    platform.Drawn head drawn' (head ++ platform.randomUUID drawn) :=
  ⟨drawn, hlt, rfl⟩

theorem not_drawn_next (platform : WorkPlatform) (head : String) (drawn : Nat) :
    ¬ platform.Drawn head drawn (head ++ platform.randomUUID drawn) := by
  rintro ⟨n, hn, hid⟩
  have hsame : platform.randomUUID drawn = platform.randomUUID n := by
    have hlist := congrArg String.toList hid
    rw [String.toList_append, String.toList_append] at hlist
    exact String.toList_inj.mp (List.append_cancel_left hlist)
  exact absurd (platform.randomUUID_injective hsame) (Nat.ne_of_gt hn)

end Drawn

/-! ## What a settlement does in any case -/

section Settle

variable {platform : WorkPlatform} {input : WorkInput} {origin state : WorkState} {id : String}
  {task task' : WorkTaskRecord} {endRun : RunRecord → RunRecord}

theorem completed_ends (run : RunRecord) (result : StageResult) (decision : WorkflowDecision)
    (now : Int) : (run.completed result decision now).status ≠ .running ∧
      (run.completed result decision now).taskId = run.taskId ∧
      (run.completed result decision now).stage = run.stage ∧
      (run.completed result decision now).attempt = run.attempt := by
  unfold RunRecord.completed
  split
  · exact ⟨by simp, rfl, rfl, rfl⟩
  · refine ⟨?_, rfl, rfl, rfl⟩
    unfold finishRunInState finishedRunStatus
    cases result.status <;> simp

structure EndsRun (endRun : RunRecord → RunRecord) : Prop where
  status : ∀ run, (endRun run).status ≠ .running
  taskId : ∀ run, (endRun run).taskId = run.taskId
  stage : ∀ run, (endRun run).stage = run.stage
  attempt : ∀ run, (endRun run).attempt = run.attempt

theorem endsRun_errored (now : Int) : EndsRun (RunRecord.errored · now) :=
  ⟨fun _ => by simp [RunRecord.errored], fun _ => rfl, fun _ => rfl, fun _ => rfl⟩

variable (h : Settlement platform input origin state id task task' endRun)
include h

theorem Settlement.ends : EndsRun endRun := by
  cases h with
  | completed =>
    exact ⟨fun run => (completed_ends run _ _ _).1, fun run => (completed_ends run _ _ _).2.1,
      fun run => (completed_ends run _ _ _).2.2.1, fun run => (completed_ends run _ _ _).2.2.2⟩
  | recovered | stopped | gated | controlled | abandoned | overridden =>
    exact endsRun_errored input.now

theorem Settlement.currentRunId : task'.currentRunId = none := by
  cases h with
  | completed | stopped | gated => rfl
  | recovered => exact recovered_currentRunId _ _ _ _
  | @controlled control _ _ =>
    generalize control.action = action
    cases action <;> rfl
  | abandoned _ _ _ _ htask' => rcases htask' with rfl | ⟨note, rfl⟩ <;> rfl
  | overridden _ _ _ hcurrent => exact hcurrent

omit h

theorem get_endActive {runId : String} (endRun : RunRecord → RunRecord) :
    (state.endActive task endRun).get runId =
      if task.currentRunId = some runId then
        (state.runs.get runId).map fun run => if run.status = .running then endRun run else run
      else state.runs.get runId := by
  unfold WorkState.endActive
  cases hactive : state.activeRunOf task with
  | none =>
    dsimp only
    split
    next hcurrent =>
      cases hrun : state.runs.get runId with
      | none => rfl
      | some run =>
        have hstatus : run.status ≠ .running := by
          intro hrunning
          rw [activeRunOf_eq_some_iff.mpr ⟨hcurrent, hrun, hrunning⟩] at hactive
          cases hactive
        rw [Option.map_some, if_neg hstatus]
    · rfl
  | some found =>
    obtain ⟨activeId, _⟩ := found
    obtain ⟨hcurrent, hrun, hrunning⟩ := activeRunOf_eq_some_iff.mp hactive
    rw [get_set, hcurrent]
    by_cases hid : activeId = runId
    · subst hid
      rw [if_pos rfl, if_pos rfl, hrun, Option.map_some, if_pos hrunning]
    · rw [if_neg hid, if_neg (fun heq => hid (Option.some.inj heq))]

end Settle

theorem TaskChange.runs_map {α : Type*} {f : RunRecord → α}
    (hkept : ∀ endRun, EndsRun endRun → ∀ run, f (endRun run) = f run)
    (h : TaskChange platform input origin state id task task' runs) (runId : String) :
    (runs.get runId).map f = (state.runs.get runId).map f := by
  cases h with
  | edited | approved | resumed => rfl
  | settled hcause =>
    rw [get_endActive]
    split
    · rw [Option.map_map]
      congr 1
      funext run
      rw [Function.comp_apply]
      split
      · exact hkept _ hcause.ends run
      · rfl
    · rfl

section

variable (h : TaskChange platform input origin state id task task' runs)
include h

theorem TaskChange.runs_taskId (runId : String) :
    (runs.get runId).map RunRecord.taskId = (state.runs.get runId).map RunRecord.taskId :=
  h.runs_map (fun _ hends run => hends.taskId run) runId

theorem TaskChange.kept (hcurrent : task'.currentRunId = some runId) :
    task.currentRunId = some runId ∧ (task.status = .running → task'.status = .running) ∧
      runs = state.runs := by
  cases h with
  | edited _ _ hstatus hsame => exact ⟨hsame ▸ hcurrent, fun h => hstatus.trans h, rfl⟩
  | approved =>
    refine ⟨hcurrent, fun hrunning => ?_, rfl⟩
    simp [WorkTaskRecord.approved, hrunning]
  | resumed => cases hcurrent
  | settled hcause =>
    rw [hcause.currentRunId] at hcurrent
    cases hcurrent

theorem TaskChange.runs_of_not_named
    (hother : task.currentRunId ≠ some runId) : runs.get runId = state.runs.get runId := by
  cases h with
  | edited | approved | resumed => rfl
  | settled => rw [get_endActive, if_neg hother]

theorem TaskChange.running_before
    {run : RunRecord} (hrun : runs.get runId = some run) (hrunning : run.status = .running) :
    state.runs.get runId = some run := by
  cases h with
  | edited | approved | resumed => exact hrun
  | settled hcause =>
    rw [get_endActive] at hrun
    split at hrun
    · obtain ⟨held, -, hheld⟩ := Option.map_eq_some_iff.mp hrun
      split at hheld
      · exact absurd (hheld ▸ hrunning) (hcause.ends.status held)
      next hover =>
        subst hheld
        exact absurd hrunning hover
    · exact hrun

end

namespace Linked

variable {platform : WorkPlatform} {input : WorkInput} {origin state state' : WorkState}

theorem empty (platform : WorkPlatform) : Linked platform .empty where
  taskDrawn id task h := by cases h
  runDrawn id run h := by cases h
  receiptDrawn id receipt h := by cases h
  runTask id run h := by cases h
  named id task runId h := by cases h

variable (h : Linked platform state)
include h

theorem of_kept (hdrawn : state.drawn ≤ state'.drawn)
    (htasks : ∀ id, (state'.tasks.get id).isSome = (state.tasks.get id).isSome)
    (hruns : ∀ id, (state'.runs.get id).map RunRecord.taskId =
      (state.runs.get id).map RunRecord.taskId)
    (hreceipts : ∀ id receipt, state'.receipts.get id = some receipt →
      platform.Drawn "dispatch_" state'.drawn id)
    (hnamed : ∀ id task runId, state'.tasks.get id = some task →
      task.currentRunId = some runId → task.status = .running ∧
        ∃ run, state'.runs.get runId = some run ∧ run.taskId = id ∧ run.status = .running) :
    Linked platform state' where
  taskDrawn id task' htask' := by
    have hsome := htasks id
    rw [htask', eq_comm, Option.isSome_some, Option.isSome_iff_exists] at hsome
    obtain ⟨task, htask⟩ := hsome
    exact (h.taskDrawn id task htask).mono hdrawn
  runDrawn id run' hrun' := by
    have hsome := hruns id
    rw [hrun', Option.map_some, eq_comm, Option.map_eq_some_iff] at hsome
    obtain ⟨run, hrun, -⟩ := hsome
    exact (h.runDrawn id run hrun).mono hdrawn
  receiptDrawn := hreceipts
  runTask id run' hrun' := by
    have hsome := hruns id
    rw [hrun', Option.map_some, eq_comm, Option.map_eq_some_iff] at hsome
    obtain ⟨run, hrun, htaskId⟩ := hsome
    rw [htasks, ← htaskId]
    exact h.runTask id run hrun
  named := hnamed

theorem task_fresh : state.tasks.get ("task_" ++ platform.randomUUID state.drawn) = none := by
  rw [Option.eq_none_iff_forall_ne_some]
  exact fun task htask => not_drawn_next _ _ _ (h.taskDrawn _ task htask)

theorem run_fresh : state.runs.get ("run_" ++ platform.randomUUID state.drawn) = none := by
  rw [Option.eq_none_iff_forall_ne_some]
  exact fun run hrun => not_drawn_next _ _ _ (h.runDrawn _ run hrun)

theorem receipt_fresh :
    state.receipts.get ("dispatch_" ++ platform.randomUUID state.drawn) = none := by
  rw [Option.eq_none_iff_forall_ne_some]
  exact fun receipt hreceipt => not_drawn_next _ _ _ (h.receiptDrawn _ receipt hreceipt)

/-- A changed task names what it named before, or nothing; and the run that it names is not that
of another task. -/
theorem named_changed {id other runId : String} {task task' changed : WorkTaskRecord}
    {runs : OrderedMap String RunRecord} (htask : state.tasks.get id = some task)
    (hchange : TaskChange platform input origin state id task task' runs)
    (hchanged : (state.tasks.set id task').get other = some changed)
    (hcurrent : changed.currentRunId = some runId) :
    changed.status = .running ∧
      ∃ run, runs.get runId = some run ∧ run.taskId = other ∧ run.status = .running := by
  rw [get_set] at hchanged
  split at hchanged
  next hid =>
    cases hchanged
    subst hid
    obtain ⟨hnamed, hruns', hsame⟩ := hchange.kept hcurrent
    obtain ⟨hrunning, hrun⟩ := h.named _ _ runId htask hnamed
    exact ⟨hruns' hrunning, hsame ▸ hrun⟩
  next hid =>
    obtain ⟨hrunning, run, hrun, htaskId, hactive⟩ := h.named _ _ runId hchanged hcurrent
    refine ⟨hrunning, run, (hchange.runs_of_not_named fun hnamed => ?_).trans hrun, htaskId,
      hactive⟩
    obtain ⟨-, held, hheld, hheldId, -⟩ := h.named _ _ runId htask hnamed
    rw [hrun, Option.some.injEq] at hheld
    exact hid (hheldId.symm.trans ((congrArg RunRecord.taskId hheld).symm.trans htaskId))

/-- With the tasks go their runs and receipts. -/
theorem tasksDeleted {taskIds : List String} (hdrawn : state.drawn ≤ state'.drawn)
    (htasks : state'.tasks = state.tasks.filter fun id _ => id ∉ taskIds)
    (hruns : state'.runs = state.runs.filter fun _ run => run.taskId ∉ taskIds)
    (hreceiptsEq : state'.receipts =
      state.receipts.filter fun _ receipt => receipt.taskId ∉ taskIds) :
    Linked platform state' := by
  refine ⟨fun id task htask => ?_, fun id run hrun => ?_, fun id receipt hreceipt => ?_,
    fun id run hrun => ?_, fun id task runId htask hnamed => ?_⟩
  · rw [htasks, get_filter_eq_some_iff] at htask
    exact (h.taskDrawn id task htask.1).mono hdrawn
  · rw [hruns, get_filter_eq_some_iff] at hrun
    exact (h.runDrawn id run hrun.1).mono hdrawn
  · rw [hreceiptsEq, get_filter_eq_some_iff] at hreceipt
    exact (h.receiptDrawn id receipt hreceipt.1).mono hdrawn
  · rw [hruns, get_filter_eq_some_iff, decide_eq_true_eq] at hrun
    obtain ⟨task, htask⟩ := Option.isSome_iff_exists.mp (h.runTask id run hrun.1)
    rw [htasks, Option.isSome_iff_exists]
    exact ⟨task, (get_filter_eq_some_iff _ _ _ _).mpr ⟨htask, decide_eq_true hrun.2⟩⟩
  · rw [htasks, get_filter_eq_some_iff, decide_eq_true_eq] at htask
    obtain ⟨hrunning, run, hrun, rfl, hactive⟩ := h.named id task runId htask.1 hnamed
    refine ⟨hrunning, run, ?_, rfl, hactive⟩
    rw [hruns, get_filter_eq_some_iff]
    exact ⟨hrun, decide_eq_true htask.2⟩

theorem step (hstep : WorkStep platform input origin state state') : Linked platform state' := by
  have hreceipts : state.drawn ≤ state'.drawn → state'.receipts = state.receipts →
      ∀ id receipt, state'.receipts.get id = some receipt →
        platform.Drawn "dispatch_" state'.drawn id :=
    fun hdrawn heq id receipt hget => (h.receiptDrawn id receipt (heq ▸ hget)).mono hdrawn
  cases hstep with
  | kept hside htasks hruns hreceiptsEq =>
    exact h.of_kept hside.drawn (fun id => by rw [htasks]) (fun id => by rw [hruns])
      (hreceipts hside.drawn hreceiptsEq) (by rw [htasks, hruns]; exact h.named)
  | roadmapArchived _ hdrawn _ htasks hruns hreceiptsEq =>
    exact h.of_kept hdrawn (fun id => by rw [htasks]) (fun id => by rw [hruns])
      (hreceipts hdrawn hreceiptsEq) (by rw [htasks, hruns]; exact h.named)
  | changed hside htask hchange htasks hruns hreceiptsEq =>
    refine h.of_kept hside.drawn (fun _ => ?_) (fun runId => hruns ▸ hchange.runs_taskId runId)
      (hreceipts hside.drawn hreceiptsEq) (fun _ changed runId hchanged hcurrent => ?_)
    · rw [htasks, get_set]
      split
      next hid => rw [← hid, htask, Option.isSome_some, Option.isSome_some]
      · rfl
    · rw [hruns]
      exact h.named_changed htask hchange (htasks ▸ hchanged) hcurrent
  | leased hside hcourse htasks hruns hreceiptsEq =>
    refine h.of_kept hside.drawn (fun id => by rw [htasks]) (fun id => ?_)
      (hreceipts hside.drawn hreceiptsEq) (fun id task runId htask hcurrent => ?_)
    · rw [hruns, get_mapWithKey]
      cases hrun : state.runs.get id with
      | none => rfl
      | some run => exact congrArg some (hcourse id run hrun).taskId
    · obtain ⟨hrunning, run, hrun, htaskId, hactive⟩ := h.named id task runId (htasks ▸ htask)
        hcurrent
      have hsame := hcourse runId run hrun
      refine ⟨hrunning, _, ?_, hsame.taskId.trans htaskId, hsame.status.trans hactive⟩
      rw [hruns, get_mapWithKey, hrun, Option.map_some]
  | receiptsChanged hside _ htasks hruns hreceiptsEq =>
    refine h.of_kept hside.drawn (fun id => by rw [htasks]) (fun id => by rw [hruns])
      (fun id receipt' hreceipt' => ?_) (by rw [htasks, hruns]; exact h.named)
    rw [hreceiptsEq, get_mapWithKey, Option.map_eq_some_iff] at hreceipt'
    obtain ⟨receipt, hreceipt, -⟩ := hreceipt'
    exact (h.receiptDrawn id receipt hreceipt).mono hside.drawn
  | reserved hside hdrawn _ _ htasks hruns hreceiptsEq =>
    refine h.of_kept hside.drawn (fun id => by rw [htasks]) (fun id => by rw [hruns])
      (fun id receipt' hreceipt' => ?_) (by rw [htasks, hruns]; exact h.named)
    exact of_get_set hreceiptsEq hreceipt' (drawn_succ hdrawn)
      fun hreceipt' => (h.receiptDrawn id receipt' hreceipt').mono hside.drawn
  | tasksDeleted _ hside htasks hruns hreceiptsEq =>
    exact h.tasksDeleted hside.drawn htasks hruns hreceiptsEq
  | created hside hdrawn _ hcurrent _ _ _ htasks hruns hreceiptsEq =>
    refine ⟨fun id task htask => ?_, fun id run hrun => ?_, hreceipts hside.drawn hreceiptsEq,
      fun id run hrun => ?_, fun id task runId htask hnamed => ?_⟩
    · exact of_get_set htasks htask (drawn_succ hdrawn)
        fun htask => (h.taskDrawn id task htask).mono hside.drawn
    · exact (h.runDrawn id run (hruns ▸ hrun)).mono hside.drawn
    · exact htasks ▸ isSome_set _ (h.runTask id run (hruns ▸ hrun))
    · rw [htasks, get_set] at htask
      split at htask
      · cases htask
        rw [hcurrent] at hnamed
        cases hnamed
      · rw [hruns]
        exact h.named id task runId htask hnamed
  | started hside hdrawn _ hstartable htasks hruns hreceiptsEq =>
    refine ⟨fun id task' htask' => ?_, fun id run hrun => ?_, hreceipts hside.drawn hreceiptsEq,
      fun id run hrun => ?_, fun id task' runId htask' hnamed => ?_⟩
    · exact of_get_set htasks htask' ((h.taskDrawn _ _ hstartable.held).mono hside.drawn)
        fun htask' => (h.taskDrawn id task' htask').mono hside.drawn
    · exact of_get_set hruns hrun (drawn_succ hdrawn)
        fun hrun => (h.runDrawn id run hrun).mono hside.drawn
    · rw [htasks]
      refine of_get_set hruns hrun ?_ fun hrun => isSome_set _ (h.runTask id run hrun)
      exact Option.isSome_iff_exists.mpr ⟨_, get_set_self _ _ _⟩
    · rw [htasks, get_set] at htask'
      rw [hruns, get_set]
      split at htask'
      next hid =>
        cases htask'
        rw [if_pos (Option.some.inj hnamed)]
        exact ⟨rfl, _, rfl, hid, rfl⟩
      · obtain ⟨hrunning, run, hrun, htaskId, hactive⟩ := h.named id task' runId htask' hnamed
        have hne : "run_" ++ platform.randomUUID state.drawn ≠ runId := by
          rintro rfl
          rw [h.run_fresh] at hrun
          cases hrun
        rw [if_neg hne]
        exact ⟨hrunning, run, hrun, htaskId, hactive⟩

theorem steps (hsteps : WorkSteps platform input origin state state') : Linked platform state' := by
  induction hsteps with
  | refl => exact h
  | tail _ hstep ih => exact ih.step hstep

end Linked

theorem drawn_le_of_steps
    {state' : WorkState} (hsteps : WorkSteps platform input origin state state') :
    state.drawn ≤ state'.drawn := by
  induction hsteps with
  | refl => exact le_rfl
  | tail _ hstep ih =>
    refine ih.trans ?_
    cases hstep with
    | kept hside | tasksDeleted _ hside | created hside | changed hside | started hside
    | leased hside | reserved hside | receiptsChanged hside => exact hside.drawn
    | roadmapArchived _ hdrawn => exact hdrawn

theorem linked_run (platform : WorkPlatform) (inputs : List WorkInput) :
    Linked platform ((workStore platform).run .empty inputs) :=
  (workStore platform).run_invariant (Linked platform)
    (fun state input h => h.steps (perform_steps platform state input)) _ (.empty platform) inputs

end OpenCowork.Gateway
