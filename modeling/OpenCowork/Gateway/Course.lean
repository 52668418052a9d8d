import OpenCowork.Gateway.Linked

/-! # The course of a task

What the store holds of one task that no operator touches: its record, its runs that are over,
each with whether its result was accepted, and the run that it is in. A course goes on in four
ways: a run starts, its result is applied, it gets lost, or its lease or session fails.
-/

namespace OpenCowork.Gateway

open Foundation OrderedMap

structure CourseRun where
  (id stage : String)
  attempt : Nat
  status : RunStatus
  deriving DecidableEq

def RunRecord.inCourse (run : RunRecord) (id : String) : CourseRun where
  id := id
  stage := run.stage
  attempt := run.attempt
  status := run.status

def WorkState.runsOf (state : WorkState) (taskId : String) : List CourseRun :=
  (state.runs.entries.filter fun (_, run) => run.taskId = taskId).map fun (id, run) =>
    run.inCourse id

def WorkflowDecision.accepts (decision : WorkflowDecision) : Bool :=
  decision.taskStatus = .done || decision.nextStage.isSome

structure Course where
  task : WorkTaskRecord
  ended : List (CourseRun × Bool)
  active : Option CourseRun

def Course.runs (course : Course) : List CourseRun :=
  course.ended.map Prod.fst ++ course.active.toList

structure Course.IsNew (course : Course) : Prop where
  status : course.task.status = .pending
  stage : course.task.currentStage = some course.task.pipeline.first
  attempts : course.task.attempts = .empty
  ended : course.ended = []
  active : course.active = none

/-- How the course of a task goes on under an operation on the state `origin`, and under its
answer. -/
inductive CourseStep (platform : WorkPlatform) (input : WorkInput) (origin : WorkState)
    (answer : WorkAnswer) : Course → Course → Prop where
  | started {course : Course} {runId stage : String} {qualitySpec : Option TaskQualitySpec}
      (hidle : course.active = none) (hpending : course.task.status = .pending)
      (hmember : stage ∈ course.task.pipeline.stages) (hstage : course.task.stage = stage) :
      CourseStep platform input origin answer course
        { course with
          task := { course.task with
            qualitySpec := qualitySpec
            status := .running
            currentStage := some stage
            currentRunId := some runId }
          active := some
            { id := runId, stage
              attempt := (course.task.attempts.get stage).getD 0 + 1, status := .running } }
  | completed {course : Course} {runId : String} {run : RunRecord} {raw result : StageResult}
      {retryLimit : Int} {lease : RunLeaseExpectation} {collected : Option EnvironmentCollection}
      {decision : WorkflowDecision} {status : RunStatus}
      (hactive : course.active = some (run.inCourse runId))
      (hoperation : input.operation =
        .completeWorkTaskRun runId raw retryLimit lease collected)
      (howned : origin.ownedRun runId = some (run, course.task))
      (hlease : runLeaseExpectationFailure run lease input.now = none)
      (hresult : result = collectRunEnvironmentArtifacts run raw collected)
      (hdecision : decision = course.task.decision platform.toUpperCase run result retryLimit)
      (hanswer : answer = .completed true none (some decision)) (hover : status ≠ .running)
      (herrored : status ≠ .errored) :
      CourseStep platform input origin answer course
        { task := (course.task.counted run).decided decision
          ended :=
            course.ended ++ [({ run.inCourse runId with status := status }, decision.accepts)]
          active := none }
  | recovered {course : Course} {runId : String} {run : RunRecord} {retryLimit : Int}
      (hactive : course.active = some (run.inCourse runId))
      (hoperation : input.operation.orphanLimit = some retryLimit)
      (hrun : origin.runs.get runId = some run)
      (hlost : input.operation.loses runId run = true) :
      CourseStep platform input origin answer course
        { task := course.task.recovered run retryLimit orphanSummary
          ended := course.ended ++ [({ run.inCourse runId with status := .errored }, false)]
          active := none }
  | stopped {course : Course} {runId note : String} {run : RunRecord}
      (hactive : course.active = some (run.inCourse runId))
      (hoperation : input.operation.stopsRuns = true) :
      CourseStep platform input origin answer course
        { task := { course.task.halted .blocked (some note) with currentStage := none }
          ended := course.ended ++ [({ run.inCourse runId with status := .errored }, false)]
          active := none }

structure Course.Describes (course : Course) (state : WorkState) (id : String) : Prop where
  task : state.tasks.get id = some course.task
  runs : state.runsOf id = course.runs
  past : ∀ entry ∈ course.ended, entry.1.status ≠ .running
  running : ∀ run, course.active = some run → run.status = .running ∧
    course.task.status = .running ∧ course.task.currentRunId = some run.id
  idle : course.active = none → course.task.status ≠ .running

section RunsOf

variable {state state' : WorkState} {id runId : String}

theorem mem_runsOf {entry : CourseRun} : entry ∈ state.runsOf id ↔
    ∃ run, state.runs.get entry.id = some run ∧ run.taskId = id ∧
      entry = run.inCourse entry.id := by
  simp only [WorkState.runsOf, List.mem_map, List.mem_filter, decide_eq_true_eq, Prod.exists,
    ← get_eq_some_iff]
  constructor
  · rintro ⟨_, run, ⟨hrun, htaskId⟩, rfl⟩
    exact ⟨run, hrun, htaskId, rfl⟩
  · rintro ⟨run, hrun, htaskId, heq⟩
    exact ⟨entry.id, run, ⟨hrun, htaskId⟩, heq.symm⟩

theorem nodup_runsOf (state : WorkState) (id : String) :
    ((state.runsOf id).map CourseRun.id).Nodup := by
  have hids : (state.runsOf id).map CourseRun.id =
      (state.runs.entries.filter fun (_, run) => run.taskId = id).map Prod.fst := by
    rw [WorkState.runsOf, List.map_map]
    rfl
  rw [hids]
  exact state.runs.nodupKeys.sublist (List.filter_sublist.map Prod.fst)

theorem runsOf_mapWithKey {f : String → RunRecord → RunRecord}
    (htaskId : ∀ runId run, state.runs.get runId = some run → (f runId run).taskId = run.taskId)
    (hruns : state'.runs = state.runs.mapWithKey f) :
    state'.runsOf id = ((state.runs.entries.filter fun (_, run) => run.taskId = id).map
      fun (runId, run) => (f runId run).inCourse runId) := by
  have hsame : ∀ entry ∈ state.runs.entries,
      (decide ((f entry.1 entry.2).taskId = id)) = decide (entry.2.taskId = id) := by
    rintro ⟨runId, run⟩ hmem
    rw [htaskId runId run ((get_eq_some_iff _ _ _).mpr hmem)]
  unfold WorkState.runsOf
  rw [hruns, OrderedMap.mapWithKey, List.filter_map, List.map_map]
  congr 1
  exact List.filter_congr hsame

theorem runsOf_leased {lease : String → RunRecord → RunRecord}
    (hcourse : ∀ runId run, state.runs.get runId = some run → SameCourse run (lease runId run))
    (hruns : state'.runs = state.runs.mapWithKey lease) : state'.runsOf id = state.runsOf id := by
  rw [runsOf_mapWithKey (fun runId run hrun => (hcourse runId run hrun).taskId) hruns]
  unfold WorkState.runsOf
  apply List.map_congr_left
  rintro ⟨runId, run⟩ hmem
  have hsame := hcourse runId run ((get_eq_some_iff _ _ _).mpr (List.mem_filter.mp hmem).1)
  simp only [RunRecord.inCourse, hsame.stage, hsame.attempt, hsame.status]

theorem runsOf_filter {taskIds : List String} (hid : id ∉ taskIds)
    (hruns : state'.runs = state.runs.filter fun _ run => run.taskId ∉ taskIds) :
    state'.runsOf id = state.runsOf id := by
  unfold WorkState.runsOf
  rw [hruns, OrderedMap.filter, List.filter_filter]
  congr 1
  apply List.filter_congr
  rintro ⟨_, run⟩ _
  by_cases htaskId : run.taskId = id
  · simp [htaskId, hid]
  · simp [htaskId]

theorem runsOf_set_of_free {run : RunRecord} (hfree : state.runs.get runId = none)
    (hruns : state'.runs = state.runs.set runId run) :
    state'.runsOf id =
      state.runsOf id ++ if run.taskId = id then [run.inCourse runId] else [] := by
  unfold WorkState.runsOf
  rw [hruns, entries_set_of_free _ hfree, List.filter_append, List.map_append]
  congr 1
  by_cases htaskId : run.taskId = id
  · simp [htaskId]
  · simp [htaskId]

theorem runsOf_set {run run' : RunRecord} (hrun : state.runs.get runId = some run)
    (htaskId : run'.taskId = run.taskId) (hruns : state'.runs = state.runs.set runId run') :
    state'.runsOf id = (state.runsOf id).map fun entry =>
      if entry.id = runId then run'.inCourse runId else entry := by
  rw [set_eq_mapWithKey _ _ hrun] at hruns
  rw [runsOf_mapWithKey ?_ hruns]
  · unfold WorkState.runsOf
    rw [List.map_map]
    apply List.map_congr_left
    rintro ⟨other, held⟩ _
    by_cases hother : other = runId
    · subst hother
      simp [RunRecord.inCourse]
    · simp [RunRecord.inCourse, hother]
  · intro other held hheld
    split
    next hother =>
      subst hother
      obtain rfl := Option.mem_unique hrun hheld
      exact htaskId
    · rfl

end RunsOf

section Describes

variable {platform : WorkPlatform} {input : WorkInput} {answer : WorkAnswer}
  {origin state state' : WorkState} {id : String} {course : Course} {runId : String}
  {task : WorkTaskRecord} {run : RunRecord} {task' : WorkTaskRecord}
  {endRun : RunRecord → RunRecord} {result : StageResult} {retryLimit : Int}
  (h : course.Describes state id)
include h

theorem Course.Describes.active_eq (hlinked : Linked platform state)
    (hnamed : course.task.currentRunId = some runId) :
    ∃ run, course.active = some (run.inCourse runId) ∧ state.runs.get runId = some run ∧
      run.taskId = id ∧ run.status = .running := by
  obtain ⟨hrunning, run, hrun, htaskId, hactive⟩ := hlinked.named id course.task runId h.task hnamed
  cases hcourse : course.active with
  | none => exact absurd hrunning (h.idle hcourse)
  | some active =>
    obtain ⟨-, -, hsame⟩ := h.running active hcourse
    obtain rfl := Option.mem_unique hnamed hsame
    have hmem : active ∈ state.runsOf id := by
      rw [h.runs, Course.runs, hcourse]
      exact List.mem_append_right _ (List.mem_singleton_self _)
    obtain ⟨_, hheld, -, heq⟩ := mem_runsOf.mp hmem
    rw [hrun, Option.some.injEq] at hheld
    subst hheld
    exact ⟨run, congrArg some heq, hrun, htaskId, hactive⟩

theorem Course.Describes.active_taskId (hactive : course.active = some (run.inCourse runId))
    (hrun : state.runs.get runId = some run) : run.taskId = id := by
  have hmem : run.inCourse runId ∈ state.runsOf id := by
    rw [h.runs, Course.runs, hactive]
    exact List.mem_append_right _ (List.mem_singleton_self _)
  obtain ⟨_, hheld, htaskId, -⟩ := mem_runsOf.mp hmem
  obtain rfl := Option.mem_unique hrun hheld
  exact htaskId

theorem Course.Describes.of_same (htask : state'.tasks.get id = state.tasks.get id)
    (hruns : state'.runsOf id = state.runsOf id) : course.Describes state' id :=
  ⟨htask.trans h.task, hruns.trans h.runs, h.past, h.running, h.idle⟩

theorem Course.Describes.of_end (hlinked : Linked platform state) (accepted : Bool)
    (hends : EndsRun endRun) (hnamed : course.task.currentRunId = some runId)
    (hrun : state.runs.get runId = some run) (hrunning : run.status = .running)
    (hstatus : task'.status ≠ .running) (htasks : state'.tasks = state.tasks.set id task')
    (hruns : state'.runs = state.endActive course.task endRun) :
    course.active = some (run.inCourse runId) ∧
      Course.Describes
        { task := task'
          ended := course.ended ++
            [({ run.inCourse runId with status := (endRun run).status }, accepted)]
          active := none } state' id := by
  obtain ⟨_, hactive, hheld, _, -⟩ := h.active_eq hlinked hnamed
  rw [hrun, Option.some.injEq] at hheld
  subst hheld
  refine ⟨hactive, ?_⟩
  have hended : (endRun run).inCourse runId =
      { run.inCourse runId with status := (endRun run).status } := by
    simp only [RunRecord.inCourse, hends.stage, hends.attempt]
  have hset : state'.runs = state.runs.set runId (endRun run) := by
    rw [hruns, endActive_of_active (activeRunOf_eq_some_iff.mpr ⟨hnamed, hrun, hrunning⟩)]
  refine ⟨?_, ?_, ?_, fun _ hnone => (Option.some_ne_none _ hnone.symm).elim, fun _ => hstatus⟩
  · rw [htasks, get_set_self]
  · rw [runsOf_set hrun (hends.taskId run) hset, h.runs, hended]
    unfold Course.runs
    rw [hactive, List.map_append, List.map_append, Option.toList_some, Option.toList_none,
      List.append_nil]
    -- none of the runs that are over has the id of the active one
    have hdistinct := nodup_runsOf state id
    rw [h.runs, Course.runs, hactive, List.map_append, List.nodup_append] at hdistinct
    congr 1
    · refine (List.map_congr_left fun entry hentry => ?_).trans (List.map_id _)
      rw [if_neg]
      · rfl
      · intro heq
        exact hdistinct.2.2 entry.id (List.mem_map_of_mem hentry) (run.inCourse runId).id (by simp)
          heq
    · simp [RunRecord.inCourse]
  · intro entry hentry
    rcases List.mem_append.mp hentry with hentry | hentry
    · exact h.past entry hentry
    · rw [List.mem_singleton.mp hentry]
      exact hends.status run

omit h

theorem overrides_of_closesGate {gateId : String} {gate : HumanGateRecord}
    (hoperation : input.operation.closesGate = some gateId)
    (hgate : origin.gates.get gateId = some gate) (hid : Text.truthy gate.taskId = some id) :
    input.operation.overrides origin id := by
  have hfound : (origin.gates.get gateId).bind (fun gate => Text.truthy gate.taskId) = some id := by
    rw [hgate, Option.bind_some, hid]
  cases hop : input.operation with
  | decideHumanGate _ decision =>
    rw [hop] at hoperation
    cases decision with
    | approve => cases hoperation
    | reject =>
      cases hoperation
      exact hfound
  | timeoutHumanGate _ action =>
    rw [hop] at hoperation
    cases action with
    | remind | escalate => cases hoperation
    | pause | block =>
      cases hoperation
      exact hfound
  | _ =>
    rw [hop] at hoperation
    cases hoperation

inductive RunEnd (platform : WorkPlatform) (input : WorkInput) (origin state : WorkState)
    (task : WorkTaskRecord) : WorkTaskRecord → (RunRecord → RunRecord) → Prop where
  | completed {runId : String} {raw result : StageResult} {retryLimit : Int}
      {lease : RunLeaseExpectation} {collected : Option EnvironmentCollection} {run : RunRecord}
      (hoperation : input.operation =
        .completeWorkTaskRun runId raw retryLimit lease collected)
      (horigin : state = origin) (howned : origin.ownedRun runId = some (run, task))
      (hlease : runLeaseExpectationFailure run lease input.now = none)
      (hresult : result = collectRunEnvironmentArtifacts run raw collected) :
      RunEnd platform input origin state task
        ((task.counted run).decided (task.decision platform.toUpperCase run result retryLimit))
        (fun ended => ended.completed result
          (task.decision platform.toUpperCase run result retryLimit) input.now)
  | recovered {runId : String} {retryLimit : Int} {run : RunRecord}
      (hoperation : input.operation.orphanLimit = some retryLimit)
      (hrun : origin.runs.get runId = some run)
      (hheld : state.runs.get runId = some run) (hrunning : run.status = .running)
      (hcurrent : task.currentRunId = some runId)
      (hlost : input.operation.loses runId run = true) :
      RunEnd platform input origin state task (task.recovered run retryLimit orphanSummary)
        (RunRecord.errored · input.now)
  | stopped {runId note : String} {run : RunRecord}
      (hoperation : input.operation.stopsRuns = true)
      (hheld : state.runs.get runId = some run) (hrunning : run.status = .running)
      (hcurrent : task.currentRunId = some runId) :
      RunEnd platform input origin state task
        { task.halted .blocked (some note) with currentStage := none }
        (RunRecord.errored · input.now)

theorem TaskChange.unattended {runs : OrderedMap String RunRecord}
    (h : TaskChange platform input origin state id task task' runs)
    (hunattended : ¬ input.operation.overrides origin id) :
    ∃ endRun, runs = state.endActive task endRun ∧
      RunEnd platform input origin state task task' endRun := by
  cases h with
  | edited _ hoverrides => exact absurd hoverrides hunattended
  | approved _ hoperation hgate _ hid =>
    refine absurd ?_ hunattended
    rw [hoperation]
    change (origin.gates.get _).bind _ = some id
    rw [hgate, Option.bind_some, hid]
  | resumed _ hoperation =>
    refine absurd ?_ hunattended
    rw [hoperation]
    exact rfl
  | @settled _ endRun hcause =>
    refine ⟨endRun, rfl, ?_⟩
    cases hcause with
    | completed hoperation horigin howned _ hlease hresult =>
      exact .completed hoperation horigin howned hlease hresult
    | recovered hoperation hrun hheld hrunning _ _ hcurrent hlost =>
      exact .recovered hoperation hrun hheld hrunning hcurrent hlost
    | stopped hoperation _ hheld hrunning _ hcurrent =>
      exact .stopped hoperation hheld hrunning hcurrent
    | gated hoperation _ hgate _ hid =>
      exact absurd (overrides_of_closesGate hoperation hgate hid) hunattended
    | controlled hoperation _ hnamed _ _ hid =>
      refine absurd ?_ hunattended
      rw [hoperation]
      change (origin.controlledRun _).map (·.2.taskId) = some id
      rw [hnamed, Option.map_some, hid]
    | abandoned _ _ hoverrides | overridden _ hoverrides => exact absurd hoverrides hunattended

theorem RunEnd.ends
    (h : RunEnd platform input origin state task task' endRun) : EndsRun endRun := by
  cases h with
  | completed =>
    exact ⟨fun run => (completed_ends run _ _ _).1, fun run => (completed_ends run _ _ _).2.1,
      fun run => (completed_ends run _ _ _).2.2.1, fun run => (completed_ends run _ _ _).2.2.2⟩
  | recovered | stopped => exact endsRun_errored input.now

variable (platform) in
theorem answer_of_completed {raw : StageResult}
    {lease : RunLeaseExpectation} {collected : Option EnvironmentCollection}
    (hoperation : input.operation = .completeWorkTaskRun runId raw retryLimit lease collected)
    (howned : origin.ownedRun runId = some (run, task))
    (hlease : runLeaseExpectationFailure run lease input.now = none)
    (hresult : result = collectRunEnvironmentArtifacts run raw collected) :
    (perform platform origin input).1 =
      .completed true none (some (task.decision platform.toUpperCase run result retryLimit)) := by
  obtain ⟨now, operation⟩ := input
  obtain rfl : operation = _ := hoperation
  subst hresult
  rw [perform_of_ok platform origin
    ⟨now, .completeWorkTaskRun runId raw retryLimit lease collected⟩ rfl]
  unfold completeWorkTaskRun
  rw [howned]
  dsimp only
  rw [hlease]
  rfl

theorem completed_status_ne_errored (run : RunRecord) (result : StageResult)
    (decision : WorkflowDecision) (now : Int) :
    (run.completed result decision now).status ≠ .errored := by
  unfold RunRecord.completed
  split
  · simp
  · unfold finishRunInState finishedRunStatus
    cases result.status <;> simp

theorem decided_status_ne_running {toUpperCase : String → String} :
    ((task.counted run).decided (task.decision toUpperCase run result retryLimit)).status ≠
      .running := by
  have hverdict := verdict_decide toUpperCase (task.counted run) run.stage result retryLimit
  change (decideNextTaskState toUpperCase (task.counted run) run.stage result
    retryLimit).taskStatus ≠ .running
  generalize decideNextTaskState toUpperCase (task.counted run) run.stage result retryLimit =
    decision at hverdict
  cases hverdict <;> simp

variable (hlinked : Linked platform state)
include hlinked

theorem runsOf_endActive_of_ne {other : String} (hends : EndsRun endRun)
    (htask : state.tasks.get other = some task) (hother : other ≠ id)
    (hruns : state'.runs = state.endActive task endRun) : state'.runsOf id = state.runsOf id := by
  cases hactive : state.activeRunOf task with
  | none =>
    unfold WorkState.runsOf
    rw [hruns, WorkState.endActive, hactive]
  | some found =>
    obtain ⟨runId, run⟩ := found
    obtain ⟨hnamed, hrun, -⟩ := activeRunOf_eq_some_iff.mp hactive
    obtain ⟨-, held, hheld, htaskId, -⟩ := hlinked.named other task runId htask hnamed
    rw [hrun, Option.some.injEq] at hheld
    subst hheld
    rw [runsOf_set hrun (hends.taskId run) (hruns.trans (endActive_of_active hactive endRun))]
    refine (List.map_congr_left fun _ hentry => ?_).trans (List.map_id _)
    obtain ⟨_, hheld, hheldId, -⟩ := mem_runsOf.mp hentry
    rw [if_neg]
    · rfl
    · intro heq
      rw [heq, hrun, Option.some.injEq] at hheld
      subst hheld
      exact hother (htaskId.symm.trans hheldId)

/-- What a step makes of a task that no operator touches. -/
inductive TaskMove (platform : WorkPlatform) (input : WorkInput) (origin state : WorkState)
    (id : String) (task : WorkTaskRecord) (state' : WorkState) : Prop where
  | kept (htask : state'.tasks.get id = some task) (hruns : state'.runsOf id = state.runsOf id)
  | ended {task' : WorkTaskRecord} {endRun : RunRecord → RunRecord}
      (hend : RunEnd platform input origin state task task' endRun)
      (htasks : state'.tasks = state.tasks.set id task')
      (hruns : state'.runs = state.endActive task endRun)
  | started {start : RunStart} {run : RunRecord} {runId : String}
      {qualitySpec : Option TaskQualitySpec}
      (hstarts : input.operation.startsRun = true) (htaskId : run.taskId = id)
      (hrun : run.inCourse runId =
        { id := runId, stage := start.stage
          attempt := (task.attempts.get start.stage).getD 0 + 1, status := .running })
      (horigin : state.tasks = origin.tasks)
      (hstartable : Startable state start input.now task) (hfree : state.runs.get runId = none)
      (htasks : state'.tasks = state.tasks.set id { task with
        qualitySpec := qualitySpec
        status := .running
        currentStage := some start.stage
        currentRunId := some runId })
      (hruns : state'.runs = state.runs.set runId run)

theorem WorkStep.move (hunattended : ¬ input.operation.overrides origin id)
    (htask : state.tasks.get id = some task) (hstep : WorkStep platform input origin state state') :
    TaskMove platform input origin state id task state' := by
  have hsame : state'.runs = state.runs → state'.runsOf id = state.runsOf id := fun hruns => by
    unfold WorkState.runsOf
    rw [hruns]
  cases hstep with
  | kept _ htasks hruns | roadmapArchived _ _ _ htasks hruns | receiptsChanged _ _ htasks hruns
  | reserved _ _ _ _ htasks hruns => exact .kept (htasks ▸ htask) (hsame hruns)
  | leased _ hcourse htasks hruns => exact .kept (htasks ▸ htask) (runsOf_leased hcourse hruns)
  | tasksDeleted hoverrides _ htasks hruns =>
    have hid : id ∉ _ := fun hmem => hunattended (hoverrides id hmem)
    refine .kept ?_ (runsOf_filter hid hruns)
    rw [htasks, get_filter_eq_some_iff]
    exact ⟨htask, decide_eq_true hid⟩
  | created _ _ _ _ _ _ _ htasks hruns =>
    refine .kept ?_ (hsame hruns)
    rw [htasks, get_set_of_ne _ _ ?_]
    · exact htask
    · rintro rfl
      rw [hlinked.task_fresh] at htask
      cases htask
  | @changed _ _ other held task' _ _ hheld hchange htasks hruns =>
    by_cases hid : other = id
    · subst hid
      rw [htask, Option.some.injEq] at hheld
      subst hheld
      obtain ⟨_, rfl, hend⟩ := hchange.unattended hunattended
      exact .ended hend htasks hruns
    · have hget : state'.tasks.get id = some task := by
        rw [htasks, get_set_of_ne _ _ hid, htask]
      cases hchange with
      | edited | approved | resumed => exact .kept hget (hsame hruns)
      | settled hcause =>
        exact .kept hget (runsOf_endActive_of_ne hlinked hcause.ends hheld hid hruns)
  | @started _ _ start held _ _ hvia hstartable htasks hruns =>
    by_cases hid : start.taskId = id
    · subst hid
      obtain rfl := Option.mem_unique htask hstartable.held
      have hstarts : input.operation.startsRun = true := by
        cases hvia with
        | direct hoperation | dispatch hoperation => rw [hoperation]; rfl
      have horigin : state.tasks = origin.tasks := by
        cases hvia with
        | direct | dispatch => rfl
      exact .started hstarts rfl rfl horigin hstartable hlinked.run_fresh htasks hruns
    · refine .kept ?_ ?_
      · rw [htasks, get_set_of_ne _ _ hid, htask]
      · refine (runsOf_set_of_free hlinked.run_fresh hruns).trans ?_
        exact (congrArg _ (if_neg hid)).trans (List.append_nil _)

/-- A course described, or one step further on, in a run exactly if the operation starts one. -/
def Course.DescribesWithin (course : Course) (platform : WorkPlatform) (input : WorkInput)
    (origin : WorkState) (answer : WorkAnswer) (state : WorkState) (id : String) : Prop :=
  course.Describes state id ∨ ∃ next, CourseStep platform input origin answer course next ∧
    next.Describes state id ∧ next.active.isSome = input.operation.startsRun

omit hlinked in
theorem recovered_status_ne_running (task : WorkTaskRecord) (run : RunRecord)
    (retryLimit : Int) (summary : String) :
    (task.recovered run retryLimit summary).status ≠ .running := by
  unfold WorkTaskRecord.recovered
  split <;> simp

omit hlinked in
theorem Course.Describes.ended (h : course.Describes state id) (hlinked : Linked platform state)
    (hend : RunEnd platform input origin state course.task task' endRun)
    (htasks : state'.tasks = state.tasks.set id task')
    (hruns : state'.runs = state.endActive course.task endRun) :
    ∃ next, CourseStep platform input origin (perform platform origin input).1 course next ∧
      next.Describes state' id ∧ next.active.isSome = input.operation.startsRun := by
  have hends := hend.ends
  cases hend with
  | @completed runId raw result retryLimit lease collected run hoperation horigin howned hlease
      hresult =>
      subst horigin
      obtain ⟨hrun, -, hrunning, -, hcurrent⟩ := ownedRun_eq_some_iff.mp howned
      have hanswer := answer_of_completed platform hoperation howned hlease hresult
      obtain ⟨hactive, hnext⟩ := h.of_end hlinked (course.task.decision
        platform.toUpperCase run result retryLimit).accepts hends hcurrent hrun hrunning
        decided_status_ne_running htasks hruns
      refine ⟨_, .completed hactive hoperation howned hlease hresult rfl hanswer (hends.status run)
        (completed_status_ne_errored _ _ _ _), hnext, ?_⟩
      rw [hoperation]
      rfl
  | recovered hoperation hrun hheld hrunning hcurrent hlost =>
    obtain ⟨hactive, hnext⟩ := h.of_end hlinked false hends hcurrent hheld hrunning
      (recovered_status_ne_running _ _ _ _) htasks hruns
    exact ⟨_, .recovered hactive hoperation hrun hlost, hnext,
      (WorkOperation.startsRun_of_orphanLimit hoperation).symm⟩
  | stopped hoperation hheld hrunning hcurrent =>
    obtain ⟨hactive, hnext⟩ := h.of_end hlinked false hends hcurrent hheld hrunning
      (by simp [WorkTaskRecord.halted]) htasks hruns
    exact ⟨_, .stopped hactive hoperation, hnext,
      (WorkOperation.startsRun_of_stopsRuns hoperation).symm⟩

omit hlinked in
theorem Course.Describes.started (h : course.Describes state id)
    {start : RunStart} {qualitySpec : Option TaskQualitySpec}
    (hstarts : input.operation.startsRun = true) (htaskId : run.taskId = id)
    (hrun : run.inCourse runId =
      { id := runId, stage := start.stage
        attempt := (course.task.attempts.get start.stage).getD 0 + 1, status := .running })
    (hstartable : Startable state start input.now course.task) (hfree : state.runs.get runId = none)
    (htasks : state'.tasks = state.tasks.set id { course.task with
      qualitySpec := qualitySpec
      status := .running
      currentStage := some start.stage
      currentRunId := some runId })
    (hruns : state'.runs = state.runs.set runId run) :
    ∃ next, CourseStep platform input origin answer course next ∧
      next.Describes state' id ∧ next.active.isSome = input.operation.startsRun := by
  have hidle : course.active = none := by
    cases hactive : course.active with
    | none => rfl
    | some active =>
      have hrunning := (h.running active hactive).2.1
      rw [hstartable.pending] at hrunning
      cases hrunning
  refine ⟨_, @CourseStep.started platform input origin answer course runId start.stage qualitySpec
    hidle hstartable.pending hstartable.member hstartable.atStage,
    ⟨?_, ?_, h.past, ?_, fun hnone => (Option.some_ne_none _ hnone).elim⟩, hstarts.symm⟩
  · rw [htasks, get_set_self]
  · rw [runsOf_set_of_free hfree hruns, if_pos htaskId, h.runs, hrun]
    unfold Course.runs
    rw [hidle, Option.toList_none, List.append_nil, Option.toList_some]
  · rintro _ ⟨⟩
    exact ⟨rfl, rfl, rfl⟩

/-- The course of a task follows every step without an operator. -/
theorem Course.DescribesWithin.step (hcourse : course.Describes origin id)
    (hunattended : ¬ input.operation.overrides origin id)
    (h : course.DescribesWithin platform input origin (perform platform origin input).1 state id)
    (hstep : WorkStep platform input origin state state') :
    course.DescribesWithin platform input origin (perform platform origin input).1 state' id := by
  rcases h with h | ⟨next, hnext, h, hstarted⟩
  · cases hstep.move hlinked hunattended h.task with
    | kept htask hruns => exact .inl (h.of_same (htask.trans h.task.symm) hruns)
    | ended hend htasks hruns => exact .inr (h.ended hlinked hend htasks hruns)
    | started hstarts htaskId hrun _ hstartable hfree htasks hruns =>
      exact .inr (h.started hstarts htaskId hrun hstartable hfree htasks hruns)
  · cases hstep.move hlinked hunattended h.task with
    | kept htask hruns =>
      exact .inr ⟨next, hnext, h.of_same (htask.trans h.task.symm) hruns, hstarted⟩
    | ended hend htasks hruns =>
      -- one operation ends no run that it has started, and no run twice
      have hnamed : ∀ runId, next.task.currentRunId = some runId →
          input.operation.startsRun = true := by
        intro runId hcurrent
        obtain ⟨_, hactive, -⟩ := h.active_eq hlinked hcurrent
        rw [← hstarted, hactive]
        rfl
      cases hend with
      | completed hoperation horigin howned hlease hresult =>
        subst horigin
        have hsame : next.task = course.task := Option.mem_unique h.task hcourse.task
        refine .inr (hcourse.ended hlinked ?_ htasks (hsame ▸ hruns))
        rw [← hsame]
        exact .completed hoperation rfl howned hlease hresult
      | recovered hoperation _ _ _ hcurrent =>
        exact absurd (hnamed _ hcurrent)
          (by rw [WorkOperation.startsRun_of_orphanLimit hoperation]; simp)
      | stopped hoperation _ _ hcurrent =>
        exact absurd (hnamed _ hcurrent)
          (by rw [WorkOperation.startsRun_of_stopsRuns hoperation]; simp)
    | started hstarts _ _ _ hstartable =>
      rw [hstarts, Option.isSome_iff_exists] at hstarted
      obtain ⟨active, hactive⟩ := hstarted
      have hrunning := (h.running active hactive).2.1
      rw [hstartable.pending] at hrunning
      cases hrunning

omit hlinked in
theorem Course.IsNew.not_named (hnew : course.IsNew) (h : course.Describes state id)
    (hlinked : Linked platform state) : course.task.currentRunId ≠ some runId := by
  intro hnamed
  obtain ⟨_, hactive, -⟩ := h.active_eq hlinked hnamed
  rw [hnew.active] at hactive
  cases hactive

omit hlinked in
theorem Course.IsNew.step (hnew : course.IsNew) (h : course.Describes state id)
    (hlinked : Linked platform state) (hnone : origin.tasks.get id = none)
    (hunattended : ¬ input.operation.overrides origin id)
    (hstep : WorkStep platform input origin state state') : course.Describes state' id := by
  cases hstep.move hlinked hunattended h.task with
  | kept htask hruns => exact h.of_same (htask.trans h.task.symm) hruns
  | ended hend =>
    cases hend with
    | completed _ _ howned =>
      exact absurd (ownedRun_eq_some_iff.mp howned).2.2.2.2 (hnew.not_named h hlinked)
    | recovered _ _ _ _ hcurrent | stopped _ _ _ hcurrent =>
      exact absurd hcurrent (hnew.not_named h hlinked)
  | started _ _ _ horigin =>
    have hheld := h.task
    rw [horigin, hnone] at hheld
    cases hheld

theorem runsOf_eq_nil (hnone : state.tasks.get id = none) : state.runsOf id = [] := by
  rw [List.eq_nil_iff_forall_not_mem]
  intro entry hentry
  obtain ⟨run, hrun, htaskId, -⟩ := mem_runsOf.mp hentry
  have htask := hlinked.runTask entry.id run hrun
  rw [htaskId, hnone] at htask
  cases htask

def NoneOrNew (state : WorkState) (id : String) : Prop :=
  state.tasks.get id = none ∨ ∃ course : Course, course.IsNew ∧ course.Describes state id

theorem WorkStep.of_none (h : state.tasks.get id = none)
    (hstep : WorkStep platform input origin state state') : NoneOrNew state' id := by
  cases hstep with
  | kept _ htasks | roadmapArchived _ _ _ htasks | leased _ _ htasks | receiptsChanged _ _ htasks
  | reserved _ _ _ _ htasks => exact .inl (by rw [htasks, h])
  | tasksDeleted _ _ htasks =>
    refine .inl (Option.eq_none_iff_forall_not_mem.mpr fun task htask => ?_)
    rw [htasks, Option.mem_def, get_filter_eq_some_iff, h] at htask
    cases htask.1
  | @created _ _ task _ _ hstatus hcurrent hstage hattempts _ htasks hruns =>
    by_cases hid : "task_" ++ platform.randomUUID state.drawn = id
    · have hsame : state'.runsOf id = [] := by
        rw [← runsOf_eq_nil hlinked h]
        unfold WorkState.runsOf
        rw [hruns]
      subst hid
      refine .inr ⟨⟨task, [], none⟩, ⟨hstatus, hstage, hattempts, rfl, rfl⟩, ?_, hsame,
        fun _ hentry => absurd hentry List.not_mem_nil,
        fun _ hrun => (Option.some_ne_none _ hrun.symm).elim, fun _ => ?_⟩
      · rw [htasks, get_set_self]
      · rw [hstatus]
        decide
    · exact .inl (by rw [htasks, get_set_of_ne _ _ hid, h])
  | changed _ hheld _ htasks =>
    refine .inl ?_
    rw [htasks, get_set_of_ne _ _ ?_, h]
    rintro rfl
    rw [h] at hheld
    cases hheld
  | started _ _ _ hstartable htasks =>
    refine .inl ?_
    rw [htasks, get_set_of_ne _ _ ?_, h]
    rintro rfl
    have hheld := hstartable.held
    rw [h] at hheld
    cases hheld

omit hlinked

theorem NoneOrNew.step (h : NoneOrNew state id) (hlinked : Linked platform state)
    (hnone : origin.tasks.get id = none) (hunattended : ¬ input.operation.overrides origin id)
    (hstep : WorkStep platform input origin state state') : NoneOrNew state' id := by
  rcases h with h | ⟨course, hnew, h⟩
  · exact hstep.of_none hlinked h
  · exact .inr ⟨course, hnew, hnew.step h hlinked hnone hunattended hstep⟩

end Describes

/-! ## Histories of the store -/

section History

variable {platform : WorkPlatform} {input : WorkInput} {state : WorkState} {id : String}
  {course : Course}

theorem Course.Describes.perform (h : course.Describes state id) (hlinked : Linked platform state)
    (hunattended : ¬ input.operation.overrides state id) :
    course.DescribesWithin platform input state (perform platform state input).1
      (perform platform state input).2 id := by
  have hsteps := perform_steps platform state input
  generalize (Gateway.perform platform state input).2 = state' at hsteps
  induction hsteps with
  | refl => exact .inl h
  | tail hfirst hstep ih => exact ih.step (hlinked.steps hfirst) h hunattended hstep

theorem noneOrNew_perform (hlinked : Linked platform state) (hnone : state.tasks.get id = none)
    (hunattended : ¬ input.operation.overrides state id) :
    NoneOrNew (perform platform state input).2 id := by
  have hsteps := perform_steps platform state input
  generalize (perform platform state input).2 = state' at hsteps
  induction hsteps with
  | refl => exact .inl hnone
  | tail hfirst hstep ih => exact ih.step (hlinked.steps hfirst) hnone hunattended hstep

def acceptedRun : WorkOperation → WorkAnswer → Option String
  | .completeWorkTaskRun runId _ _ _ _, .completed true none (some decision) =>
    if decision.accepts then some runId else none
  | _, _ => none

def acceptedRuns (history : List (Moment WorkState WorkInput WorkAnswer)) : List String :=
  history.filterMap fun moment => acceptedRun moment.input.operation moment.output

def Course.AcceptedIn (course : Course)
    (history : List (Moment WorkState WorkInput WorkAnswer)) : Prop :=
  ∀ entry ∈ course.ended, entry.2 = true → entry.1.id ∈ acceptedRuns history

theorem CourseStep.acceptedIn {answer : WorkAnswer} {next : Course}
    (h : CourseStep platform input state answer course next)
    {past : List (Moment WorkState WorkInput WorkAnswer)}
    {moment : Moment WorkState WorkInput WorkAnswer} (hinput : moment.input = input)
    (hanswer : moment.output = answer) (haccepted : course.AcceptedIn past) :
    next.AcceptedIn (past ++ [moment]) := by
  have hbefore : course.AcceptedIn (past ++ [moment]) := fun entry hentry htrue => by
    rw [acceptedRuns, List.filterMap_append]
    exact List.mem_append_left _ (haccepted entry hentry htrue)
  -- the entry of a run that ends without a result is not an accepted one
  have hpush : ∀ entry, entry.2 = false → ∀ held ∈ course.ended ++ [entry], held.2 = true →
      held.1.id ∈ acceptedRuns (past ++ [moment]) := by
    intro entry hfalse held hheld htrue
    rcases List.mem_append.mp hheld with hheld | hheld
    · exact hbefore held hheld htrue
    · rw [List.mem_singleton.mp hheld, hfalse] at htrue
      cases htrue
  cases h with
  | started => exact hbefore
  | @completed runId run raw result retryLimit lease collected decision status _ hoperation _ _ _
      _ hcompleted =>
      intro held hheld htrue
      rcases List.mem_append.mp hheld with hheld | hheld
      · exact hbefore held hheld htrue
      · obtain rfl := List.mem_singleton.mp hheld
        rw [acceptedRuns, List.filterMap_append]
        refine List.mem_append_right _ (List.mem_filterMap.mpr ⟨moment, by simp, ?_⟩)
        rw [hinput, hoperation, hanswer, hcompleted]
        exact if_pos htrue
  | recovered | stopped => exact hpush _ rfl

/-- What each step of a course keeps holds of a task that no operator touches. -/
theorem course_invariant (platform : WorkPlatform) (id : String) (invariant : Course → Prop)
    (guard : Moment WorkState WorkInput WorkAnswer → Prop)
    (hnew : ∀ course : Course, course.IsNew → invariant course)
    (hstep : ∀ state input answer course next, Linked platform state →
      course.Describes state id → guard ((workStore platform).moment state input) →
      invariant course → CourseStep platform input state answer course next → invariant next)
    (inputs : List WorkInput)
    (hunattended : ∀ moment ∈ (workStore platform).history .empty inputs,
      ¬ moment.input.operation.overrides moment.before id)
    (hguard : ∀ moment ∈ (workStore platform).history .empty inputs, guard moment)
    {task : WorkTaskRecord}
    (htask : ((workStore platform).run .empty inputs).tasks.get id = some task) :
    ∃ course : Course, course.Describes ((workStore platform).run .empty inputs) id ∧
      invariant course ∧ course.AcceptedIn ((workStore platform).history .empty inputs) := by
  have hall := (workStore platform).history_invariant_of
    (fun moment => ¬ moment.input.operation.overrides moment.before id ∧ guard moment)
    (fun past state => Linked platform state ∧ (state.tasks.get id = none ∨
      ∃ course : Course, course.Describes state id ∧ invariant course ∧ course.AcceptedIn past))
    ?_ .empty ⟨.empty platform, .inl rfl⟩ inputs
    (fun moment hmem => ⟨hunattended moment hmem, hguard moment hmem⟩)
  · rcases hall.2 with hnone | hcourse
    · rw [htask] at hnone
      cases hnone
    · exact hcourse
  · rintro _ state input ⟨hlinked, h⟩ ⟨hleft, hallowed⟩
    refine ⟨hlinked.steps (perform_steps platform state input), ?_⟩
    rcases h with hnone | ⟨course, hcourse, hholds, haccepted⟩
    · rcases noneOrNew_perform hlinked hnone hleft with hstill | ⟨course, hisNew, hcourse⟩
      · exact .inl hstill
      · refine .inr ⟨course, hcourse, hnew course hisNew, fun entry hentry => ?_⟩
        rw [hisNew.ended] at hentry
        cases hentry
    · rcases hcourse.perform hlinked hleft with hsame | ⟨next, hnext, hdescribes, -⟩
      · refine .inr ⟨course, hsame, hholds, fun entry hentry htrue => ?_⟩
        rw [acceptedRuns, List.filterMap_append]
        exact List.mem_append_left _ (haccepted entry hentry htrue)
      · exact .inr ⟨next, hdescribes,
          hstep state input _ course next hlinked hcourse hallowed hholds hnext,
          hnext.acceptedIn rfl rfl haccepted⟩

end History

/-- A result that says nothing but its status. -/
def plainResult (status : StageResultStatus) : StageResult where
  status := status
  summary := "done"
  feedback := none
  artifacts := []
  evidence := []
  decisions := []
  failureClass := none

end OpenCowork.Gateway
