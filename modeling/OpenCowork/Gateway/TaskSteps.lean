import OpenCowork.Gateway.Writes

/-! # Steps of tasks

How tasks are created, updated, acted upon, put away and deleted, and what their gates do.
-/

namespace OpenCowork.Gateway

open Foundation OrderedMap

section Operations

variable {platform : WorkPlatform} {input : WorkInput} {origin state state' : WorkState}
  {updates : List WorkTaskBulkUpdateInput} {between : WorkState} {roadmapId : String} {id : String}
  {note : Option String} {now : Int} {task : WorkTaskRecord} {update : WorkTaskUpdateInput}
  {answer : WorkAnswer} {ids : List String} {stage : Option String}
  {f : WorkTaskRecord → WorkTaskRecord} {task' : WorkTaskRecord} {action : WorkTaskAction}

theorem SameWork.steps (h : SameWork state state') : WorkSteps platform input origin state state' :=
  .single (.kept h.side h.tasks h.runs h.receipts)

theorem createTask_steps {create : WorkTaskCreateInput}
    (h : createWorkTaskInState platform create state = .ok (id, state')) :
    WorkSteps platform input origin state state' := by
  unfold createWorkTaskInState at h
  obtain ⟨_, -, h⟩ := bind_eq_ok h
  obtain ⟨_, haccepts, h⟩ := bind_eq_ok h
  obtain ⟨_, -, h⟩ := bind_eq_ok h
  dsimp only at h haccepts
  have hinbox : SameWork state (if (Text.truthy create.roadmapId).isNone = true
      then ensureInboxRoadmap state else state) := by
    split
    · exact sameWork_ensureInbox state
    · exact .refl _
  generalize (Text.truthy create.roadmapId).getD inboxRoadmapId = roadmapId at h haccepts
  generalize (if (Text.truthy create.roadmapId).isNone = true
    then ensureInboxRoadmap state else state) = entered at h haccepts hinbox
  split at h
  · cases h
    exact hinbox.steps
  · obtain ⟨_, -, h⟩ := bind_eq_ok h
    obtain ⟨_, hlinked, h⟩ := bind_eq_ok h
    obtain ⟨_, hgated, h⟩ := bind_eq_ok h
    cases h
    obtain ⟨dependencies, rfl⟩ := addDependencies_frame hlinked
    refine hinbox.steps.trans (.head ?_ (((SameWork.of_dependencies _ dependencies).trans
      (sameWork_recompute _ _)).trans (sameWork_insertManualGate hgated)).steps)
    refine .created (.of_roadmaps rfl (Nat.le_succ _)) (Nat.lt_succ_self _) rfl rfl rfl rfl
      (not_isArchived_of_accepts haccepts) rfl rfl rfl

theorem createTasks_steps {inputs : List WorkTaskCreateInput}
    (h : createWorkTasksInState platform inputs state = .ok (ids, state')) :
    WorkSteps platform input origin state state' := by
  induction inputs generalizing state ids with
  | nil =>
    cases h
    exact .refl
  | cons _ _ ih =>
    rw [createWorkTasksInState] at h
    obtain ⟨⟨_, _⟩, hnext, h⟩ := bind_eq_ok h
    obtain ⟨⟨_, _⟩, hlast, h⟩ := bind_eq_ok h
    cases h
    exact (createTask_steps hnext).trans (ih hlast)

/-! ## Updates -/

theorem refuses_of_validate (h : validateTaskUpdate state task update = .ok ()) :
    update.status ≠ some .running ∧
      ¬ state.IsArchived (update.roadmapId.getD task.roadmapId) ∧
      ∀ next, update.nextPipeline task.pipeline = .ok next → update.StageFits next := by
  unfold validateTaskUpdate at h
  obtain ⟨_, hstatus, h⟩ := bind_eq_ok h
  obtain ⟨_, haccepts, h⟩ := bind_eq_ok h
  obtain ⟨_, hpipeline, h⟩ := bind_eq_ok h
  rw [refuseIf_eq_ok] at hstatus
  refine ⟨hstatus, not_isArchived_of_accepts haccepts,
    fun _ hnext _ _ hgiven hstage => ?_⟩
  obtain rfl := Except.ok.inj (hpipeline.symm.trans hnext)
  rw [hgiven] at h
  obtain ⟨_, hfound, h⟩ := bind_eq_ok h
  obtain rfl := Except.ok.inj (hfound.symm.trans hstage)
  obtain ⟨_, hmember, -⟩ := bind_eq_ok h
  rw [refuseIf_eq_ok] at hmember
  simpa using hmember

/-- One update, as the loop over many of them goes on from it. -/
structure UpdateSteps (platform : WorkPlatform) (input : WorkInput) (origin state : WorkState)
    (id : String) (task : WorkTaskRecord) (update : WorkTaskUpdateInput) (state' : WorkState) :
    Prop where
  steps : WorkSteps platform input origin state state'
  side : SideEffects state state'
  updated : ∃ updated, state'.tasks = state.tasks.set id updated ∧
    updated.roadmapId = update.roadmapId.getD task.roadmapId ∧
    update.nextPipeline task.pipeline = .ok updated.pipeline

theorem writeTaskUpdate_spec (htask : state.tasks.get id = some task)
    (h : writeTaskUpdateInState platform id update state = .ok state') :
    ∃ updated, UpdatedBy update task updated ∧
      SameWork { state with tasks := state.tasks.set id updated } state' := by
  unfold writeTaskUpdateInState at h
  obtain ⟨_, hheld, h⟩ := bind_eq_ok h
  obtain rfl := Option.some.inj ((orThrow_eq_ok hheld).symm.trans htask)
  obtain ⟨updated, hupdated, h⟩ := bind_eq_ok h
  refine ⟨updated, applyTaskUpdate_spec hupdated, ?_⟩
  refine .trans ?_ (sameWork_insertManualGate h)
  split
  · exact (sameWork_recompute _ _).trans (sameWork_recompute _ _)
  · exact sameWork_recompute _ _

/-- An accepted update is made of steps, and writes the one task. -/
theorem updateTask_steps {abortedSessionId : Option String} (htask : state.tasks.get id = some task)
    (hexplicit : input.operation.isExplicit = true)
    (hoverrides : input.operation.overrides origin id) (hrunning : update.status ≠ some .running)
    (hopen : ¬ state.IsArchived (update.roadmapId.getD task.roadmapId))
    (hfits : input.operation.StagesHold origin → ∀ next,
      update.nextPipeline task.pipeline = .ok next → update.StageFits next)
    (h : updateTaskInState platform id update input.now state = .ok (abortedSessionId, state')) :
    UpdateSteps platform input origin state id task update state' := by
  unfold updateTaskInState at h
  cases hstatus : update.status with
  | none =>
    simp only [hstatus, Option.any_none, Bool.false_eq_true, if_false] at h
    obtain ⟨written, hwritten, h⟩ := bind_eq_ok h
    cases h
    obtain ⟨updated, hspec, hsame⟩ := writeTaskUpdate_spec htask hwritten
    have hside : SideEffects state state' := ⟨hsame.side.archived, hsame.side.drawn⟩
    refine ⟨.single (.changed hside htask (.edited hexplicit hoverrides ?_ (hspec.kept hstatus)
      hspec.attempts (fun hholds => hspec.stage (hfits hholds _ hspec.pipeline)) ?_ hspec.valid)
      hsame.tasks hsame.runs hsame.receipts), hside,
      updated, hsame.tasks, hspec.roadmapId, hspec.pipeline⟩
    · rw [hspec.status, hstatus, Option.getD_none]
    · rw [hspec.roadmapId]
      exact hopen
  | some status =>
    have hne : status ≠ .running := fun heq => hrunning (by rw [hstatus, heq])
    have haborts : shouldAbortActiveRunForTaskStatus status = true := by
      simp [shouldAbortActiveRunForTaskStatus, isTaskActiveStatus, hne]
    simp only [hstatus, Option.any_some, haborts, if_true] at h
    obtain ⟨_, hwritten, h⟩ := bind_eq_ok h
    cases h
    obtain ⟨aborted, haborted⟩ := abort_spec input.now htask
    have hget : (abortActiveRunInState id input.now state).2.tasks.get id = some aborted := by
      rw [haborted.tasks, get_set_self]
    obtain ⟨updated, hspec, hsame⟩ := writeTaskUpdate_spec hget hwritten
    have hside : SideEffects state state' :=
      (SideEffects.of_roadmaps haborted.roadmaps haborted.drawn.ge).trans
        ⟨hsame.side.archived, hsame.side.drawn⟩
    have htasks : state'.tasks = state.tasks.set id updated := by
      rw [hsame.tasks, haborted.tasks, set_set]
    -- the abort touches nothing of the task that the update looks at
    have hroadmap : updated.roadmapId = update.roadmapId.getD task.roadmapId := by
      rw [hspec.roadmapId]
      rcases haborted.shape with rfl | rfl <;> rfl
    have hpipeline : update.nextPipeline task.pipeline = .ok updated.pipeline := by
      rw [← hspec.pipeline]
      rcases haborted.shape with rfl | rfl <;> rfl
    have hattempts : updated.attempts = task.attempts := by
      rw [hspec.attempts]
      rcases haborted.shape with rfl | rfl <;> rfl
    have hkept : StageKept task aborted := by
      rcases haborted.shape with rfl | rfl <;> exact fun h => h
    have hvalid : isStage task.stage = true → isStage aborted.stage = true := by
      rcases haborted.shape with rfl | rfl <;> exact fun h => h
    have hwas : updated.status = status := by rw [hspec.status, hstatus, Option.getD_some]
    refine ⟨.single (.changed hside htask (.settled (.overridden hexplicit hoverrides
      (hwas ▸ hne) (hspec.cleared status hstatus hne) hattempts
      (fun hholds htask' => hspec.stage (hfits hholds _ hpipeline) (hkept htask'))
      (fun _ => .inl (hroadmap ▸ hopen)) fun h =>
        hspec.valid (hvalid h))) htasks (hsame.runs.trans haborted.runs)
      (hsame.receipts.trans haborted.receipts)), hside, updated, htasks, hroadmap, hpipeline⟩

theorem updateWorkTask_steps (hoperation : input.operation = .updateWorkTask id update)
    (h : updateWorkTask platform id update input.now origin = .ok (answer, state')) :
    WorkSteps platform input origin origin state' := by
  unfold updateWorkTask at h
  split at h
  · cases h
    exact .refl
  next htask =>
    obtain ⟨_, hvalid, h⟩ := bind_eq_ok h
    obtain ⟨⟨_, _⟩, hupdated, h⟩ := bind_eq_ok h
    cases h
    obtain ⟨hrunning, hopen, hfits⟩ := refuses_of_validate hvalid
    refine (updateTask_steps htask ?_ ?_ hrunning hopen (fun _ => hfits) hupdated).steps
    · rw [hoperation]
      rfl
    · rw [hoperation]
      exact rfl

/-- What the first loop of a bulk update has checked of an entry, on a later state. -/
structure StillValid (state : WorkState) (id : String) (update : WorkTaskUpdateInput) : Prop where
  notRunning : update.status ≠ some .running
  accepted : ∃ task, state.tasks.get id = some task ∧
    ¬ state.IsArchived (update.roadmapId.getD task.roadmapId)

theorem stillValid_of_validate (h : validateTaskUpdates state updates = .ok ()) :
    ∀ entry ∈ updates, StillValid state entry.1 entry.2 := by
  induction updates with
  | nil => exact fun entry hmem => absurd hmem List.not_mem_nil
  | cons entry _ ih =>
    obtain ⟨_, _⟩ := entry
    rw [validateTaskUpdates] at h
    obtain ⟨task, htask, h⟩ := bind_eq_ok h
    obtain ⟨_, hvalid, h⟩ := bind_eq_ok h
    rintro entry (_ | ⟨_, hmem⟩)
    · have hchecked := refuses_of_validate hvalid
      exact ⟨hchecked.1, task, orThrow_eq_ok htask, hchecked.2.1⟩
    · exact ih h entry hmem

theorem StillValid.next {other : String} {update later : WorkTaskUpdateInput}
    (hnow : UpdateSteps platform input origin state id task update state')
    (hopen : ¬ state.IsArchived (update.roadmapId.getD task.roadmapId))
    (h : StillValid state other later) : StillValid state' other later := by
  obtain ⟨updated, htasks, hroadmap, -⟩ := hnow.updated
  obtain ⟨held, hheld, haccepted⟩ := h.accepted
  refine ⟨h.notRunning, ?_⟩
  rw [htasks]
  by_cases hid : id = other
  · subst hid
    refine ⟨updated, get_set_self _ _ _, fun harchived => ?_⟩
    have harchived := hnow.side.archived _ harchived
    cases hlater : later.roadmapId with
    | none =>
      rw [hlater, Option.getD_none, hroadmap] at harchived
      exact hopen harchived
    | some =>
      rw [hlater, Option.getD_some] at harchived haccepted
      exact haccepted harchived
  · exact ⟨held, (get_set_of_ne _ _ hid).trans hheld,
      fun harchived => haccepted (hnow.side.archived _ harchived)⟩

theorem updateTasks_steps (hexplicit : input.operation.isExplicit = true)
    (hoverrides : ∀ entry ∈ updates, input.operation.overrides origin entry.1)
    (hvalid : ∀ entry ∈ updates, StillValid state entry.1 entry.2)
    (hholds : input.operation.StagesHold origin →
      StagesHold updates fun id => (state.tasks.get id).map WorkTaskRecord.pipeline)
    (h : updateTasksInState platform input.now updates state = .ok (ids, state')) :
    WorkSteps platform input origin state state' := by
  induction updates generalizing state ids with
  | nil =>
    cases h
    exact .refl
  | cons entry _ ih =>
    obtain ⟨id, update⟩ := entry
    rw [updateTasksInState] at h
    obtain ⟨⟨_, next⟩, hnext, h⟩ := bind_eq_ok h
    obtain ⟨⟨_, _⟩, hlast, h⟩ := bind_eq_ok h
    cases h
    have hentry := hvalid _ (.head _)
    obtain ⟨task, htask, hopen⟩ := hentry.accepted
    have hpipeline : (state.tasks.get id).map WorkTaskRecord.pipeline = some task.pipeline := by
      rw [htask, Option.map_some]
    have hstep := updateTask_steps htask hexplicit (hoverrides _ (.head _))
      hentry.notRunning hopen (fun hall next hnext => (hholds hall _ _ hpipeline hnext).1) hnext
    refine hstep.steps.trans (ih (fun entry hmem => hoverrides _ (.tail _ hmem))
      (fun _ hmem => (hvalid _ (.tail _ hmem)).next hstep hopen)
      (fun hall => ?_) hlast)
    obtain ⟨updated, htasks, -, hupdated⟩ := hstep.updated
    have hrest := (hholds hall _ _ hpipeline hupdated).2
    have hpipelines : Function.update
        (fun id => (state.tasks.get id).map WorkTaskRecord.pipeline) id (some updated.pipeline) =
          fun id => (next.tasks.get id).map WorkTaskRecord.pipeline := by
      funext other
      rw [htasks, get_set]
      by_cases hid : id = other
      · subst hid
        rw [if_pos rfl, Function.update_self, Option.map_some]
      · rw [if_neg hid, Function.update_of_ne (Ne.symm hid)]
    rw [← hpipelines]
    exact hrest

theorem updateWorkTasks_steps (hoperation : input.operation = .updateWorkTasks updates)
    (h : updateWorkTasks platform updates input.now origin = .ok (answer, state')) :
    WorkSteps platform input origin origin state' := by
  unfold updateWorkTasks at h
  obtain ⟨_, -, h⟩ := bind_eq_ok h
  obtain ⟨_, -, h⟩ := bind_eq_ok h
  obtain ⟨_, hvalid, h⟩ := bind_eq_ok h
  obtain ⟨⟨_, _⟩, hupdated, h⟩ := bind_eq_ok h
  cases h
  refine updateTasks_steps ?_ (fun _ hmem => ?_) (stillValid_of_validate hvalid) ?_ hupdated
  · rw [hoperation]
    rfl
  · rw [hoperation]
    exact List.mem_map_of_mem hmem
  · rw [hoperation]
    exact fun hall => hall

/-! ## Taking a task from its run -/

theorem activeRunOf_congr (hruns : state'.runs = state.runs) (task : WorkTaskRecord) :
    state'.activeRunOf task = state.activeRunOf task := by
  unfold WorkState.activeRunOf
  rw [hruns]

theorem endActive_congr (hruns : state'.runs = state.runs) (task : WorkTaskRecord)
    (endRun : RunRecord → RunRecord) : state'.endActive task endRun =
    state.endActive task endRun := by
  unfold WorkState.endActive
  rw [activeRunOf_congr hruns, hruns]

theorem abortAndUpdate_step {roadmapId : String} (hsame : SameWork state between)
    (htask : state.tasks.get id = some task) (hf : f { task with currentRunId    := none } = f task)
    (hcause : Settlement platform input origin state id task (f task)
      (RunRecord.errored · input.now)) :
    WorkStep platform input origin state
      (abortAndUpdateTask id roadmapId input.now f between).2 := by
  have hbetween : between.tasks.get id = some task := by rw [hsame.tasks, htask]
  obtain ⟨_, haborted⟩ := abort_spec input.now hbetween
  obtain ⟨htasks, hruns, hreceipts, hside⟩ := haborted.updateTask hf
  have hrecompute := sameWork_recompute roadmapId
    ((abortActiveRunInState id input.now between).2.updateTask id f)
  refine .changed (hsame.side.trans (hside.trans hrecompute.side)) htask (.settled hcause) ?_ ?_ ?_
  · exact hrecompute.tasks.trans (htasks.trans (by rw [hsame.tasks]))
  · exact hrecompute.runs.trans (hruns.trans (endActive_congr hsame.runs _ _))
  · exact hrecompute.receipts.trans (hreceipts.trans hsame.receipts)

theorem change_step {roadmapId : String}
    (hchange : TaskChange platform input origin state id task (f task) state.runs)
    (hsame : SameWork state between) (htask : state.tasks.get id = some task) :
    WorkStep platform input origin state
      (recomputeRoadmapStatusInState roadmapId (between.updateTask id f)) := by
  have hbetween : between.tasks.get id = some task := by rw [hsame.tasks, htask]
  have hrecompute := sameWork_recompute roadmapId (between.updateTask id f)
  have htasks : (between.updateTask id f).tasks = between.tasks.set id (f task) :=
    modify_of_get f hbetween
  refine .changed (hsame.side.trans ⟨hrecompute.side.archived, hrecompute.side.drawn⟩) htask hchange
    ?_ (hrecompute.runs.trans hsame.runs) (hrecompute.receipts.trans hsame.receipts)
  rw [hrecompute.tasks, htasks, hsame.tasks]

/-! ## Gates -/

theorem taskOfGate_eq_some_iff {gate : HumanGateRecord} :
    state.taskOfGate gate = some (id, task) ↔
      Text.truthy gate.taskId = some id ∧ state.tasks.get id = some task := by
  simp only [WorkState.taskOfGate, Option.bind_eq_bind, Option.bind_eq_some_iff]
  constructor
  · rintro ⟨_, hfound, _, hheld, heq⟩
    cases heq
    exact ⟨hfound, hheld⟩
  · rintro ⟨hid, htask⟩
    exact ⟨id, hid, task, htask, rfl⟩

theorem createHumanGate_steps {gate : HumanGateInput} {force : Bool}
    (h : createHumanGate platform gate force origin = .ok (answer, state')) :
    WorkSteps platform input origin origin state' := by
  unfold createHumanGate at h
  obtain ⟨⟨_, _⟩, hinserted, h⟩ := bind_eq_ok h
  cases h
  obtain ⟨gates, _, hdrawn, rfl⟩ := insertHumanGateRow_frame hinserted
  exact (SameWork.of_gates gates hdrawn).steps

theorem sameWork_setGate (state : WorkState) (id : String) (gate : HumanGateRecord) :
    SameWork state { state with gates := state.gates.set id gate } :=
  ⟨.of_roadmaps rfl le_rfl, rfl, rfl, rfl⟩

theorem decideHumanGate_steps {decision : HumanGateDecision} {scope : Option HumanGateScope}
    (hoperation : input.operation = .decideHumanGate id decision note scope) :
    WorkSteps platform input origin origin
      (decideHumanGate id decision note scope input.now origin).2 := by
  unfold decideHumanGate
  cases hgate : origin.gates.get id with
  | none => exact .refl
  | some existing =>
    dsimp only
    by_cases hopen : isOpenHumanGateStatus existing.status = false
    · rw [if_pos hopen]
    rw [if_neg hopen]
    rw [Bool.not_eq_false] at hopen
    generalize hdecided : ({ existing with
      status := if decision = .approve then HumanGateStatus.approved else .rejected
      scope := some (scope.getD .once) } : HumanGateRecord) = decided
    have hsame := sameWork_setGate origin id decided
    cases howner : WorkState.taskOfGate { origin with gates := origin.gates.set id decided }
        existing with
    | none => exact hsame.steps
    | some found =>
      obtain ⟨_, _⟩ := found
      obtain ⟨hid, htask⟩ := taskOfGate_eq_some_iff.mp howner
      cases decision with
      | approve =>
        exact .single (change_step (.approved rfl hoperation hgate hopen hid) hsame htask)
      | reject =>
        refine .single (abortAndUpdate_step hsame htask rfl (.gated (by rw [hoperation]; rfl)
          rfl hgate hopen hid (.inl rfl)))

theorem consumeHumanGate_steps :
    WorkSteps platform input origin origin (consumeHumanGate id origin).2 := by
  unfold consumeHumanGate
  split
  · exact .refl
  · split
    · exact .refl
    · exact (sameWork_setGate _ _ _).steps

theorem timeoutHumanGate_steps {action : HumanGateTimeoutAction}
    (hoperation : input.operation = .timeoutHumanGate id action) :
    WorkSteps platform input origin origin (timeoutHumanGate id action input.now origin).2 := by
  unfold timeoutHumanGate
  cases hgate : origin.gates.get id with
  | none => exact .refl
  | some existing =>
    dsimp only
    by_cases hopen : isOpenHumanGateStatus existing.status = false
    · rw [if_pos hopen]
    rw [if_neg hopen]
    rw [Bool.not_eq_false] at hopen
    have hsame := sameWork_setGate origin id { existing with status := .timedOut }
    have hhalted : ∀ taskId task, WorkState.taskOfGate { origin with
          gates := origin.gates.set id { existing with status := .timedOut } }
          existing = some (taskId, task) →
        input.operation.closesGate = some id →
        WorkSteps platform input origin origin (abortAndUpdateTask taskId task.roadmapId input.now
          (fun task => task.halted (timeoutTaskStatus action)
            (some ("Human gate timed out: " ++ existing.reason)))
          { origin with
            gates := origin.gates.set id { existing with status := .timedOut } }).2 := by
      intro taskId task howner hcloses
      obtain ⟨hid, htask⟩ := taskOfGate_eq_some_iff.mp howner
      refine .single (abortAndUpdate_step hsame htask rfl (.gated hcloses rfl hgate hopen hid ?_))
      unfold timeoutTaskStatus
      split
      · exact .inr rfl
      · exact .inl rfl
    cases action with
    | remind => exact .refl
    | escalate => exact (sameWork_setGate _ _ _).steps
    | pause | block =>
      dsimp only
      split
      · exact hsame.steps
      next taskId task howner => exact hhalted taskId task howner (by rw [hoperation]; rfl)

/-! ## Actions -/

theorem stageKept_of_stage (hpipeline : task'.pipeline = task.pipeline)
    (hstage : task'.currentStage = task.currentStage) : StageKept task task' := by
  intro htask
  have hsame : task'.stage = task.stage := by
    unfold WorkTaskRecord.stage
    rw [hpipeline, hstage]
  rw [hsame, hpipeline]
  exact htask

theorem stageKept_of_none (hstage : task'.currentStage = none) : StageKept task task' := by
  intro _
  rw [stage_of_none hstage]
  exact task'.pipeline.first_mem

theorem stage_of_action {given : Option String} {pipeline : Pipeline} {label : String}
    (hnormalized : normalizeOptionalStage given label = .ok stage)
    (hmember : ¬ (stage.any fun stage => stage ∉ pipeline.stages) = true) :
    ∀ st ∈ stage, st ∈ pipeline.stages ∧ st ≠ "" := by
  intro _ hst
  rw [Option.mem_def] at hst
  subst hst
  refine ⟨?_, isStage_ne_empty (normalizeOptionalStage_isStage hnormalized)⟩
  simpa using hmember

theorem acted_spec (note : Option String) (haction : action ≠ .resume)
    (hstage : action = .retry → ∀ st ∈ stage, st ∈ task.pipeline.stages ∧ st ≠ "") :
    (task.acted action stage note).status ≠ .running ∧
      (task.acted action stage note).currentRunId = none ∧
      (task.acted action stage note).attempts = task.attempts ∧
      (task.acted action stage note).roadmapId = task.roadmapId ∧
      StageKept task (task.acted action stage note) ∧
      ((task.acted action stage note).status = .pending → action = .retry) ∧
      (isStage task.stage = true → isStage (task.acted action stage note).stage = true) := by
  cases action with
  | resume => exact absurd rfl haction
  | pause =>
    exact ⟨by simp [WorkTaskRecord.acted, WorkTaskRecord.halted], rfl, rfl, rfl,
      stageKept_of_stage rfl rfl, by simp [WorkTaskRecord.acted, WorkTaskRecord.halted],
      fun h => h⟩
  | cancel | done | block =>
    exact ⟨by simp [WorkTaskRecord.acted], rfl, rfl, rfl, stageKept_of_none rfl,
      by simp [WorkTaskRecord.acted], fun _ => isStage_of_none rfl⟩
  | retry =>
    have hin : (task.acted .retry stage note).stage ∈ task.pipeline.stages := by
      cases stage with
      | none =>
        rw [stage_of_some rfl (isStage_ne_empty (task.pipeline.valid _ task.pipeline.first_mem))]
        exact task.pipeline.first_mem
      | some st =>
        obtain ⟨hmember, hne⟩ := hstage rfl st rfl
        rw [stage_of_some rfl hne]
        exact hmember
    exact ⟨by simp [WorkTaskRecord.acted], rfl, rfl, rfl, fun _ => hin, fun _ => rfl,
      fun _ => task.pipeline.valid _ hin⟩

theorem applyWorkTaskAction_steps
    (hoperation : input.operation = .applyWorkTaskAction id action stage note)
    (h : applyWorkTaskAction id action stage note input.now origin = .ok (answer, state')) :
    WorkSteps platform input origin origin state' := by
  unfold applyWorkTaskAction at h
  split at h
  · cases h
    exact .refl
  next htask =>
    obtain ⟨normalized, hnormalized, h⟩ := bind_eq_ok h
    obtain ⟨_, hmember, h⟩ := bind_eq_ok h
    rw [refuseIf_eq_ok, not_and] at hmember
    by_cases haction : action = .resume
    · subst haction
      cases h
      exact .single (change_step (.resumed rfl hoperation hnormalized
        (stage_of_action hnormalized (hmember (.inl rfl)))) (.refl _) htask)
    · have haborts : action.abortsRun = true := by simp [WorkTaskAction.abortsRun, haction]
      rw [if_pos haborts] at h
      cases h
      obtain ⟨hstatus, hcurrent, hattempts, hroadmap, hkept, hopen, hvalid⟩ :=
        acted_spec (normalizeOptionalString note 5000) haction
          fun hretry => stage_of_action hnormalized (hmember (.inr hretry))
      refine .single (abortAndUpdate_step (.refl _) htask ?_ (.overridden ?_ ?_ hstatus hcurrent
        hattempts (fun _ => hkept)
          (fun hpending => .inr ⟨stage, note, normalized, ?_, hnormalized,
          fun st hst => (stage_of_action hnormalized (hmember (.inr (hopen hpending))) st hst).1,
          rfl, hroadmap⟩) hvalid))
      · cases action with
        | resume => exact absurd rfl haction
        | pause | cancel | retry | done | block => rfl
      · rw [hoperation]
        rfl
      · rw [hoperation]
        exact rfl
      · rw [hoperation, hopen hpending]

theorem markWorkTaskDone_steps {text : String}
    (hoperation : input.operation = .markWorkTaskDone text) :
    WorkSteps platform input origin origin (markWorkTaskDone text input.now origin).2 := by
  unfold markWorkTaskDone
  cases hnamed : origin.taskNamed text with
  | none => exact .refl
  | some found =>
    obtain ⟨id, task⟩ := found
    have htask : origin.tasks.get id = some task :=
      (get_eq_some_iff _ _ _).mpr (List.mem_of_find?_eq_some hnamed)
    refine .single (abortAndUpdate_step (.refl _) htask rfl (.overridden ?_ ?_ ?_ rfl rfl
      (fun _ => stageKept_of_none rfl) ?_ fun _ => isStage_of_none rfl))
    · rw [hoperation]
      rfl
    · rw [hoperation]
      exact congrArg (Option.map Prod.fst) hnamed
    · simp [WorkTaskRecord.finish]
    · simp [WorkTaskRecord.finish]

theorem archive_cause (hexplicit : input.operation.isExplicit = true)
    (hoverrides : input.operation.overrides origin id) :
    Settlement platform input origin state id task (task.archive note)
      (RunRecord.errored · input.now) := by
  refine .overridden hexplicit hoverrides ?_ rfl rfl (fun _ => stageKept_of_none rfl) ?_
    fun _ => isStage_of_none rfl
  · simp [WorkTaskRecord.archive]
  · simp [WorkTaskRecord.archive]

theorem archiveWorkTask_steps (hoperation : input.operation = .archiveWorkTask id note) :
    WorkSteps platform input origin origin (archiveWorkTask id note input.now origin).2 := by
  unfold archiveWorkTask
  cases htask : origin.tasks.get id with
  | none => exact .refl
  | some =>
    refine .single (abortAndUpdate_step (.refl _) htask rfl (archive_cause ?_ ?_))
    · rw [hoperation]
      rfl
    · rw [hoperation]
      exact rfl

/-! ## The archive of a roadmap -/

/-- What the archive of some tasks leaves of the tasks. -/
structure ArchivedAmong (ids : List String) (state state' : WorkState) : Prop where
  roadmaps : state'.roadmaps = state.roadmaps
  drawn : state'.drawn = state.drawn
  held : ∀ id task', state'.tasks.get id = some task' →
    ∃ task, state.tasks.get id = some task ∧ task'.roadmapId = task.roadmapId ∧
      (id ∈ ids ∨ task.status = .archived → task'.status = .archived)

theorem archiveTask_step (note : Option String) (hexplicit : input.operation.isExplicit = true)
    (hoverrides : input.operation.overrides origin id) (htask : state.tasks.get id = some task) :
    WorkStep platform input origin state (archiveTaskInState note input.now state id) ∧
      (archiveTaskInState note input.now state id).tasks =
        state.tasks.set id (task.archive note) ∧
      (archiveTaskInState note input.now state id).roadmaps = state.roadmaps ∧
      (archiveTaskInState note input.now state id).drawn = state.drawn := by
  obtain ⟨_, haborted⟩ := abort_spec input.now htask
  obtain ⟨htasks, hruns, hreceipts, hside⟩ :=
    haborted.updateTask (show WorkTaskRecord.archive note { task with currentRunId := none } =
      WorkTaskRecord.archive note task from rfl)
  exact ⟨.changed hside htask (.settled (archive_cause hexplicit hoverrides)) htasks hruns
    hreceipts,
    htasks,
    haborted.roadmaps, haborted.drawn⟩

theorem archiveTasks_steps (note : Option String) (hexplicit : input.operation.isExplicit = true)
    (hoverrides : ∀ id ∈ ids, input.operation.overrides origin id)
    (hheld : ∀ id ∈ ids, (state.tasks.get id).isSome) :
    WorkSteps platform input origin state
        (ids.foldl (archiveTaskInState note input.now) state) ∧
      ArchivedAmong ids state (ids.foldl (archiveTaskInState note input.now) state) := by
  induction ids generalizing state with
  | nil =>
    refine ⟨.refl, rfl, rfl, fun id task htask => ⟨task, htask, rfl, fun h => ?_⟩⟩
    exact h.resolve_left List.not_mem_nil
  | cons id rest ih =>
    obtain ⟨task, htask⟩ := Option.isSome_iff_exists.mp (hheld id (.head _))
    obtain ⟨hstep, htasks, hroadmaps, hdrawn⟩ :=
      archiveTask_step note hexplicit (hoverrides id (.head _)) htask
    rw [List.foldl_cons]
    generalize archiveTaskInState note input.now state id = next at hstep htasks hroadmaps hdrawn
    have hrest : ∀ other ∈ rest, (next.tasks.get other).isSome := by
      intro other hmem
      exact htasks ▸ isSome_set _ (hheld other (.tail _ hmem))
    obtain ⟨hsteps, hamong⟩ := ih (fun other hmem => hoverrides other (.tail _ hmem)) hrest
    refine ⟨.head hstep hsteps, hamong.roadmaps.trans hroadmaps, hamong.drawn.trans hdrawn, ?_⟩
    intro other task' htask'
    obtain ⟨between, hbetween, hroadmap, harchived⟩ := hamong.held other task' htask'
    rw [htasks, get_set] at hbetween
    by_cases hid : id = other
    · subst hid
      rw [if_pos rfl] at hbetween
      cases hbetween
      exact ⟨task, htask, hroadmap, fun _ => harchived (.inr rfl)⟩
    · rw [if_neg hid] at hbetween
      refine ⟨between, hbetween, hroadmap, fun h => harchived (h.imp_left fun hmem => ?_)⟩
      exact (List.mem_cons.mp hmem).resolve_left (Ne.symm hid)

theorem archiveTask_withRoadmaps (roadmaps : OrderedMap String RoadmapRecord) (state : WorkState) :
    archiveTaskInState note now { state with roadmaps := roadmaps } id =
      { archiveTaskInState note now state id with roadmaps := roadmaps } := by
  unfold archiveTaskInState abortActiveRunInState
  have hactive : WorkState.activeRunOf { state with roadmaps := roadmaps } = state.activeRunOf :=
    rfl
  rw [hactive]
  cases (state.tasks.get id).bind state.activeRunOf with
  | none | some => rfl

theorem archiveTasks_withRoadmaps (ids : List String)
    (roadmaps : OrderedMap String RoadmapRecord) (state : WorkState) :
    ids.foldl (archiveTaskInState note now) { state with roadmaps := roadmaps } =
      { ids.foldl (archiveTaskInState note now) state with roadmaps := roadmaps } := by
  induction ids generalizing state with
  | nil => rfl
  | cons _ _ ih => rw [List.foldl_cons, List.foldl_cons, archiveTask_withRoadmaps, ih]

theorem mem_taskIdsOf {roadmapId : String} :
    id ∈ state.taskIdsOf roadmapId ↔
      ∃ task, state.tasks.get id = some task ∧ task.roadmapId = roadmapId := by
  simp only [WorkState.taskIdsOf, List.mem_map, List.mem_filter, get_eq_some_iff,
    decide_eq_true_eq, Prod.exists]
  constructor
  · rintro ⟨_, task, ⟨hmem, hroadmap⟩, rfl⟩
    exact ⟨task, hmem, hroadmap⟩
  · rintro ⟨task, hmem, hroadmap⟩
    exact ⟨id, task, ⟨hmem, hroadmap⟩, rfl⟩

theorem archiveRoadmap_steps (hoperation : input.operation = .archiveRoadmap roadmapId note) :
    WorkSteps platform input origin origin (archiveRoadmap roadmapId note input.now origin).2 := by
  unfold archiveRoadmap
  cases hroadmap : origin.roadmaps.get roadmapId with
  | none => exact .refl
  | some =>
    dsimp only
    rw [archiveTasks_withRoadmaps]
    have hexplicit : input.operation.isExplicit = true := by
      rw [hoperation]
      rfl
    have hoverrides : ∀ id ∈ origin.taskIdsOf roadmapId,
        input.operation.overrides origin id := by
      intro id hmem
      rw [hoperation]
      exact hmem
    have hheld : ∀ id ∈ origin.taskIdsOf roadmapId, (origin.tasks.get id).isSome := by
      intro id hmem
      obtain ⟨task, htask, -⟩ := mem_taskIdsOf.mp hmem
      rw [htask]
      rfl
    obtain ⟨hsteps, hamong⟩ :=
      archiveTasks_steps (normalizeOptionalString note 5000) hexplicit hoverrides hheld
    refine hsteps.tail (.roadmapArchived (fun id harchived => ?_) le_rfl
      (fun id task' htask' (hin : _ = roadmapId) => ?_) rfl rfl rfl)
    · unfold WorkState.IsArchived at harchived ⊢
      dsimp only at harchived
      rw [get_set] at harchived
      by_cases hid : roadmapId = id
      · exact .inr hid.symm
      · rw [if_neg hid] at harchived
        rw [hamong.roadmaps]
        exact .inl harchived
    · obtain ⟨task, htask, hsame, harchived⟩ := hamong.held id task' htask'
      exact harchived (.inl (mem_taskIdsOf.mpr ⟨task, htask, hsame ▸ hin⟩))

/-! ## Deletions -/

theorem settled_of_assert {taskIds : List String}
    (h : assertNoUnsettledTaskDispatchAcquisitions state taskIds = .ok ()) :
    ∀ id receipt, state.receipts.get id = some receipt → receipt.taskId ∈ taskIds →
      receipt.isUnsettled = false := by
  intro id receipt hreceipt hmem
  unfold assertNoUnsettledTaskDispatchAcquisitions at h
  rw [refuseIf_eq_ok, not_not, List.filter_eq_nil_iff] at h
  have hnone := h receipt.taskId hmem
  rw [Bool.not_eq_true, List.any_eq_false] at hnone
  have hheld := hnone receipt ((mem_values_iff _ _).mpr ⟨id, hreceipt⟩)
  simpa using hheld

theorem deleteTasks_step (taskIds : List String)
    (hoverrides : ∀ id ∈ taskIds, input.operation.overrides origin id)
    (hsettled : assertNoUnsettledTaskDispatchAcquisitions state taskIds = .ok ())
    (hside : SideEffects state state') (htasks : state'.tasks = (state.withoutTasks taskIds).tasks)
    (hruns : state'.runs = (state.withoutTasks taskIds).runs)
    (hreceipts : state'.receipts = (state.withoutTasks taskIds).receipts) :
    WorkSteps platform input origin state state' :=
  .single (.tasksDeleted hoverrides hside htasks hruns hreceipts (settled_of_assert hsettled))

theorem deleteWorkTask_steps (hoperation : input.operation = .deleteWorkTask id)
    (h : deleteWorkTask id origin = .ok (answer, state')) :
    WorkSteps platform input origin origin state' := by
  unfold deleteWorkTask at h
  split at h
  · cases h
    exact .refl
  · obtain ⟨_, hsettled, h⟩ := bind_eq_ok h
    cases h
    have hside : SideEffects origin (origin.withoutTasks [id]) := .of_roadmaps rfl le_rfl
    refine deleteTasks_step [id] (fun _ hmem => ?_) hsettled
      (hside.trans (sameWork_recompute _ _).side)
      (recompute_tasks _ _) (recompute_runs _ _) (recompute_receipts _ _)
    rw [hoperation]
    exact (List.mem_singleton.mp hmem).symm

theorem deleteRoadmap_steps (hoperation : input.operation = .deleteRoadmap roadmapId)
    (h : deleteRoadmap roadmapId origin = .ok (answer, state')) :
    WorkSteps platform input origin origin state' := by
  unfold deleteRoadmap at h
  split at h
  · cases h
    exact .refl
  · obtain ⟨_, hsettled, h⟩ := bind_eq_ok h
    cases h
    refine deleteTasks_step (origin.taskIdsOf roadmapId) (fun _ hmem => ?_) hsettled
      ⟨fun _ harchived => ?_, le_rfl⟩ rfl rfl rfl
    · rw [hoperation]
      exact hmem
    · unfold WorkState.IsArchived at harchived ⊢
      dsimp only [WorkState.withoutTasks] at harchived
      obtain ⟨_, hroadmap, harchived⟩ := Option.map_eq_some_iff.mp harchived
      rw [(of_get_erase hroadmap).2, Option.map_some, harchived]

end Operations

end OpenCowork.Gateway
