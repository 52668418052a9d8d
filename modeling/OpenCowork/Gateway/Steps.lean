import OpenCowork.Gateway.WorkStore

/-! # Steps of the work store

What one operation does to tasks, runs and receipts, one write after the other. Every operation
is a chain of these steps, so that a fact about the store is checked once for each kind of
write.
-/

namespace OpenCowork.Gateway

open Foundation

variable (platform : WorkPlatform) (state : WorkState) (task : WorkTaskRecord) (run : RunRecord)

/-- A roadmap that has been put away. -/
def WorkState.IsArchived (roadmapId : String) : Prop :=
  (state.roadmaps.get roadmapId).map RoadmapRecord.status = some .archived

/-! ## Kinds of operations -/

namespace WorkOperation

/-- An operation that acts on a task for an operator: an action, an update, an archiving, a
deletion, a control of its run, an abort of its environment or a decision or timeout of its
gate. -/
def overrides (operation : WorkOperation) (state : WorkState) (taskId : String) : Prop :=
  match operation with
  | archiveRoadmap roadmapId _ | deleteRoadmap roadmapId => taskId ∈ state.taskIdsOf roadmapId
  | updateWorkTask id _ | applyWorkTaskAction id _ _ _ | archiveWorkTask id _
  | deleteWorkTask id => id = taskId
  | updateWorkTasks inputs => taskId ∈ inputs.map Prod.fst
  | markWorkTaskDone text => (state.taskNamed text).map Prod.fst = some taskId
  | applyActiveRunControl input =>
    (state.controlledRun input.runId).map (·.2.taskId) = some taskId
  | abortWorkEnvironment id _ => (state.runs.entries.find? fun (runId, run) =>
    run.environment = some id || runId = id).map (·.2.taskId) = some taskId
  | decideHumanGate id _ _ _ | timeoutHumanGate id _ =>
    (state.gates.get id).bind (fun gate => Text.truthy gate.taskId) = some taskId
  | _ => False

/-- The operations by which a task that is over may change: an action, an update, an
archiving. -/
def isExplicit : WorkOperation → Bool
  | archiveRoadmap _ _ | updateWorkTask _ _ | updateWorkTasks _ | applyWorkTaskAction _ _ _ _
  | markWorkTaskDone _ | archiveWorkTask _ _ => true
  | _ => false

def orphanLimit : WorkOperation → Option Int
  | recoverOrphanedWorkRuns _ retryLimit | recoverOrphanedWorkRun _ retryLimit => some retryLimit
  | _ => none

def loses : WorkOperation → String → RunRecord → Bool
  | recoverOrphanedWorkRuns activeSessionIds _, _, run => run.sessionId ∉ activeSessionIds
  | recoverOrphanedWorkRun id _, runId, _ => runId = id
  | _, _, _ => false

def startsRun : WorkOperation → Bool
  | startWorkTaskRun _ | startWorkTaskRunFromDispatch _ _ => true
  | _ => false

def stopsRuns : WorkOperation → Bool
  | recoverExpiredWorkLeases | blockActiveWorkTaskRun _ _ => true
  | _ => false

def changesReceipts : WorkOperation → Bool
  | startWorkTaskRunFromDispatch _ _ | journalTaskDispatchAcquisitionIntent _ _
  | attachTaskDispatchEnvironment _ _ | attachTaskDispatchSession _ _
  | markTaskDispatchAcquisitionSettled _ _ _ | markTaskDispatchStarted _ _ _
  | markTaskDispatchFailed _ | recoverExpiredTaskDispatchStarts _ => true
  | _ => false

variable {operation : WorkOperation}

theorem startsRun_of_orphanLimit {retryLimit : Int}
    (h : operation.orphanLimit = some retryLimit) : operation.startsRun = false := by
  cases operation with
  | startWorkTaskRun | startWorkTaskRunFromDispatch => cases h
  | _ => rfl

theorem startsRun_of_stopsRuns (h : operation.stopsRuns = true) : operation.startsRun = false := by
  cases operation with
  | startWorkTaskRun | startWorkTaskRunFromDispatch => cases h
  | _ => rfl

/-- An operation that takes a task from its run because of an open gate. -/
def closesGate : WorkOperation → Option String
  | decideHumanGate id .reject _ _ | timeoutHumanGate id .pause | timeoutHumanGate id .block =>
    some id
  | _ => none

end WorkOperation

/-! ## Stages -/

def StageKept (task task' : WorkTaskRecord) : Prop :=
  task.stage ∈ task.pipeline.stages → task'.stage ∈ task'.pipeline.stages

def WorkTaskUpdateInput.StageFits (input : WorkTaskUpdateInput) (pipeline : Pipeline) : Prop :=
  ∀ given stage, input.currentStage = some given →
    normalizeOptionalStage (some given) "currentStage" = .ok (some stage) →
    stage ∈ pipeline.stages

/-- No entry of a bulk update names a stage outside of the pipeline that the entries before it
have left to its task. -/
def StagesHold : List WorkTaskBulkUpdateInput → (String → Option Pipeline) → Prop
  | [], _ => True
  | (taskId, input) :: rest, pipelines =>
    ∀ pipeline next, pipelines taskId = some pipeline → input.nextPipeline pipeline = .ok next →
      input.StageFits next ∧ StagesHold rest (Function.update pipelines taskId (some next))

def WorkOperation.StagesHold (operation : WorkOperation) (state : WorkState) : Prop :=
  match operation with
  | updateWorkTasks inputs =>
    Gateway.StagesHold inputs fun id => (state.tasks.get id).map WorkTaskRecord.pipeline
  | _ => True

/-! ## Steps -/

/-- What every step leaves in order: no roadmap is archived on the side, and no id is drawn
twice. -/
structure SideEffects (state state' : WorkState) : Prop where
  archived : ∀ id, state'.IsArchived id → state.IsArchived id
  drawn : state.drawn ≤ state'.drawn

def WorkState.endActive
    (endRun : RunRecord → RunRecord) : OrderedMap String RunRecord :=
  match state.activeRunOf task with
  | none => state.runs
  | some (runId, run) => state.runs.set runId (endRun run)

def RunRecord.completed (result : StageResult) (decision : WorkflowDecision)
    (now : Int) : RunRecord :=
  if rejectedByQualityGate result decision then
    { finishRunInState run result now with status := .failed }
  else finishRunInState run result now

/-- The task that a result is applied to, with the attempt of its run on record. -/
def WorkTaskRecord.counted : WorkTaskRecord :=
  { task with
    currentRunId := none
    attempts := task.attempts.set run.stage run.attempt }

def WorkTaskRecord.decision (toUpperCase : String → String)
    (run : RunRecord) (result : StageResult) (retryLimit : Int) : WorkflowDecision :=
  decideNextTaskState toUpperCase (task.counted run) run.stage result retryLimit

/-- How a task is taken from its active run: what becomes of the task, and of the run. -/
inductive Settlement (input : WorkInput) (origin state : WorkState) (id : String)
    (task : WorkTaskRecord) : WorkTaskRecord → (RunRecord → RunRecord) → Prop where
  | completed {runId : String} {raw result : StageResult} {retryLimit : Int}
      {lease : RunLeaseExpectation} {collected : Option EnvironmentCollection} {run : RunRecord}
      (hoperation : input.operation =
        .completeWorkTaskRun runId raw retryLimit lease collected)
      (horigin : state = origin) (howned : origin.ownedRun runId = some (run, task))
      (hid : run.taskId = id) (hlease : runLeaseExpectationFailure run lease input.now = none)
      (hresult : result = collectRunEnvironmentArtifacts run raw collected) :
      Settlement input origin state id task
        ((task.counted run).decided (task.decision platform.toUpperCase run result retryLimit))
        (fun ended => ended.completed result
          (task.decision platform.toUpperCase run result retryLimit) input.now)
  | recovered {runId : String} {retryLimit : Int} {run : RunRecord}
      (hoperation : input.operation.orphanLimit = some retryLimit)
      (hrun : origin.runs.get runId = some run) (hheld : state.runs.get runId = some run)
      (hrunning : run.status = .running) (htask : origin.tasks.get id = some task)
      (hid : run.taskId = id) (hcurrent : task.currentRunId = some runId)
      (hlost : input.operation.loses runId run = true) :
      Settlement input origin state id task (task.recovered run retryLimit orphanSummary)
        (RunRecord.errored · input.now)
  | stopped {runId : String} {run : RunRecord} {note : String}
      (hoperation : input.operation.stopsRuns = true)
      (hrun : origin.runs.get runId = some run) (hheld : state.runs.get runId = some run)
      (hrunning : run.status = .running) (hid : run.taskId = id)
      (hcurrent : task.currentRunId = some runId) :
      Settlement input origin state id task
        { task.halted .blocked (some note) with currentStage := none }
        (RunRecord.errored · input.now)
  | gated {gateId : String} {gate : HumanGateRecord} {status : WorkStatus}
      {note : Option String}
      (hoperation : input.operation.closesGate = some gateId) (horigin : state = origin)
      (hgate : origin.gates.get gateId = some gate)
      (hopen : isOpenHumanGateStatus gate.status = true)
      (hid : Text.truthy gate.taskId = some id) (hstatus : status = .blocked ∨ status = .paused) :
      Settlement input origin state id task (task.halted status note)
        (RunRecord.errored · input.now)
  | controlled {control : ActiveRunControlInput} {runId : String} {run : RunRecord}
      {note : Option String}
      (hoperation : input.operation = .applyActiveRunControl control) (horigin : state = origin)
      (hnamed : origin.controlledRun control.runId = some (runId, run))
      (hrun : origin.runs.get runId = some run) (hrunning : run.status = .running)
      (hid : run.taskId = id) (hactive : task.status = .running)
      (hcurrent : task.currentRunId = some runId) (hallowed : control.denial run input.now = none) :
      Settlement input origin state id task (task.controlled control.action run note)
        (RunRecord.errored · input.now)
  | abandoned {environment : String} {envNote : Option String} {runId : String}
      {run : RunRecord} {task' : WorkTaskRecord}
      (hoperation : input.operation = .abortWorkEnvironment environment envNote)
      (horigin : state = origin) (hoverrides : input.operation.overrides origin id)
      (hactive : state.activeRunOf task = some (runId, run))
      (htask' : task' = { task with currentRunId := none } ∨
        ∃ note, task' = { task.halted .blocked note with currentStage := none }) :
      Settlement input origin state id task task' (RunRecord.errored · input.now)
  | overridden {task' : WorkTaskRecord}
      (hexplicit : input.operation.isExplicit = true)
      (hoverrides : input.operation.overrides origin id)
      (hstatus : task'.status ≠ .running) (hcurrent : task'.currentRunId = none)
      (hattempts : task'.attempts = task.attempts)
      (hstage : input.operation.StagesHold origin → StageKept task task')
      (hopen : task'.status = .pending → ¬ state.IsArchived task'.roadmapId ∨
        ∃ given note stage, input.operation = .applyWorkTaskAction id .retry given note ∧
          normalizeOptionalStage given "stage" = .ok stage ∧
          (∀ st ∈ stage, st ∈ task.pipeline.stages) ∧ state = origin ∧
          task'.roadmapId = task.roadmapId)
      (hvalid : isStage task.stage = true → isStage task'.stage = true) :
      Settlement input origin state id task task' (RunRecord.errored · input.now)

/-- How one task changes while it gets no run: what becomes of it, and of the runs. -/
inductive TaskChange (input : WorkInput) (origin state : WorkState) (id : String)
    (task : WorkTaskRecord) : WorkTaskRecord → OrderedMap String RunRecord → Prop where
  | edited {task' : WorkTaskRecord}
      (hexplicit : input.operation.isExplicit = true)
      (hoverrides : input.operation.overrides origin id)
      (hstatus : task'.status = task.status) (hcurrent : task'.currentRunId = task.currentRunId)
      (hattempts : task'.attempts = task.attempts)
      (hstage : input.operation.StagesHold origin → StageKept task task')
      (hopen : ¬ state.IsArchived task'.roadmapId)
      (hvalid : isStage task.stage = true → isStage task'.stage = true) :
      TaskChange input origin state id task task' state.runs
  | approved {gateId : String} {gate : HumanGateRecord} {note decisionNote : Option String}
      {scope : Option HumanGateScope} (horigin : state = origin)
      (hoperation : input.operation = .decideHumanGate gateId .approve decisionNote scope)
      (hgate : origin.gates.get gateId = some gate)
      (hopen : isOpenHumanGateStatus gate.status = true)
      (hid : Text.truthy gate.taskId = some id) :
      TaskChange input origin state id task (task.approved gate note) state.runs
  | resumed {stage given note given' : Option String} (horigin : state = origin)
      (hoperation : input.operation = .applyWorkTaskAction id .resume given given')
      (hnormalized : normalizeOptionalStage given "stage" = .ok stage)
      (hstage : ∀ st ∈ stage, st ∈ task.pipeline.stages ∧ st ≠ "") :
      TaskChange input origin state id task (task.acted .resume stage note) state.runs
  | settled {task' : WorkTaskRecord} {endRun : RunRecord → RunRecord}
      (hcause : Settlement platform input origin state id task task' endRun) :
      TaskChange input origin state id task task' (state.endActive task endRun)

structure Startable (state : WorkState) (start : RunStart) (now : Int) (task : WorkTaskRecord) :
    Prop where
  held : state.tasks.get start.taskId = some task
  pending : task.status = .pending
  current : task.currentRunId = none
  accepted : ¬ state.IsArchived task.roadmapId
  member : start.stage ∈ task.pipeline.stages
  atStage : task.stage = start.stage
  ready : calculateTaskReadiness start.taskId task state now = .runnable

/-- How a run was admitted: directly, or through a receipt that is then handed over. -/
inductive StartedBy (input : WorkInput) (origin : WorkState) (start : RunStart) :
    WorkState → Prop where
  | direct (hoperation : input.operation = .startWorkTaskRun start) :
      StartedBy input origin start origin
  | dispatch {dispatchId runId : String} {receipt : TaskDispatchReceiptRecord}
      (hoperation : input.operation = .startWorkTaskRunFromDispatch dispatchId start)
      (hreceipt : origin.receipts.get dispatchId = some receipt)
      (hadmits : receipt.admits start input.now = true) :
      StartedBy input origin start { origin with
        receipts := origin.receipts.set dispatchId (receipt.handedOver runId start.sessionId) }

/-- A run under another lease. -/
structure SameCourse (run run' : RunRecord) : Prop where
  taskId : run'.taskId = run.taskId
  stage : run'.stage = run.stage
  status : run'.status = run.status
  attempt : run'.attempt = run.attempt

/-- What a reservation has to find for a receipt to be written for it. -/
structure Reserves (state : WorkState) (now : Int) (reservation : ReserveTaskDispatchInput)
    (stage : String) (task : WorkTaskRecord) : Prop where
  normalized : normalizeStage reservation.stage "stage" = .ok stage
  unused : ∀ id receipt, state.receipts.get id = some receipt →
    normalizeOptionalString reservation.idempotencyKey 240 ≠ some receipt.idempotencyKey
  held : state.tasks.get reservation.taskId = some task
  pending : task.status = .pending
  current : task.currentRunId = none
  atStage : task.stage = stage
  free : ∀ id receipt, state.receipts.get id = some receipt →
    receipt.taskId = reservation.taskId → receipt.stage = stage → receipt.isLive now = false
  unique : ∀ id receipt, state.receipts.get id = some receipt → receipt.idempotencyKey ≠
    (newTaskDispatchReceipt platform reservation stage (platform.isoString now) now).idempotencyKey

structure NoMoreReserved (receipt receipt' : TaskDispatchReceiptRecord) : Prop where
  taskId : receipt'.taskId = receipt.taskId
  stage : receipt'.stage = receipt.stage
  leaseExpiresAt : receipt'.leaseExpiresAt = receipt.leaseExpiresAt
  starting : receipt'.status = .starting → receipt.status = .starting

/-- The writes that an operation on the state `origin` consists of. -/
inductive WorkStep (input : WorkInput) (origin : WorkState) : WorkState → WorkState → Prop where
  | kept {state state' : WorkState} (hside : SideEffects state state')
      (htasks : state'.tasks = state.tasks) (hruns : state'.runs = state.runs)
      (hreceipts : state'.receipts = state.receipts) : WorkStep input origin state state'
  | roadmapArchived {state state' : WorkState} {roadmapId : String}
      (harchived : ∀ id, state'.IsArchived id → state.IsArchived id ∨ id = roadmapId)
      (hdrawn : state.drawn ≤ state'.drawn)
      (hclosed : ∀ id task, state.tasks.get id = some task → task.roadmapId = roadmapId →
        task.status = .archived)
      (htasks : state'.tasks = state.tasks) (hruns : state'.runs = state.runs)
      (hreceipts : state'.receipts = state.receipts) : WorkStep input origin state state'
  | tasksDeleted {state state' : WorkState} {taskIds : List String}
      (hoverrides : ∀ id ∈ taskIds, input.operation.overrides origin id)
      (hside : SideEffects state state')
      (htasks : state'.tasks = state.tasks.filter fun id _ => id ∉ taskIds)
      (hruns : state'.runs = state.runs.filter fun _ run => run.taskId ∉ taskIds)
      (hreceipts : state'.receipts =
        state.receipts.filter fun _ receipt => receipt.taskId ∉ taskIds)
      (hsettled : ∀ id receipt, state.receipts.get id = some receipt → receipt.taskId ∈ taskIds →
        receipt.isUnsettled = false) :
      WorkStep input origin state state'
  | created {state state' : WorkState} {task : WorkTaskRecord}
      (hside : SideEffects state state') (hdrawn : state.drawn < state'.drawn)
      (hstatus : task.status = .pending) (hcurrent : task.currentRunId = none)
      (hstage : task.currentStage = some task.pipeline.first) (hattempts : task.attempts = .empty)
      (hopen : ¬ state.IsArchived task.roadmapId)
      (htasks : state'.tasks =
        state.tasks.set ("task_" ++ platform.randomUUID state.drawn) task)
      (hruns : state'.runs = state.runs) (hreceipts : state'.receipts = state.receipts) :
      WorkStep input origin state state'
  | changed {state state' : WorkState} {id : String} {task task' : WorkTaskRecord}
      {runs : OrderedMap String RunRecord} (hside : SideEffects state state')
      (htask : state.tasks.get id = some task)
      (hchange : TaskChange platform input origin state id task task' runs)
      (htasks : state'.tasks = state.tasks.set id task') (hruns : state'.runs = runs)
      (hreceipts : state'.receipts = state.receipts) : WorkStep input origin state state'
  | started {state state' : WorkState} {start : RunStart} {task : WorkTaskRecord}
      (hside : SideEffects state state') (hdrawn : state.drawn < state'.drawn)
      (hvia : StartedBy input origin start state)
      (hstartable : Startable state start input.now task)
      (htasks : state'.tasks = state.tasks.set start.taskId { task with
        qualitySpec :=
          (start.resolution.taskQualitySpec.map normalizeTaskQualitySpec).or task.qualitySpec
        status := .running
        currentStage := some start.stage
        currentRunId := some ("run_" ++ platform.randomUUID state.drawn) })
      (hruns : state'.runs = state.runs.set ("run_" ++ platform.randomUUID state.drawn)
        (createRun start.taskId task start.stage start.sessionId start.profile input.now
          start.lease start.resolution))
      (hreceipts : state'.receipts = state.receipts) : WorkStep input origin state state'
  | leased {state state' : WorkState} {lease : String → RunRecord → RunRecord}
      (hside : SideEffects state state')
      (hcourse : ∀ id run, state.runs.get id = some run → SameCourse run (lease id run))
      (htasks : state'.tasks = state.tasks) (hruns : state'.runs = state.runs.mapWithKey lease)
      (hreceipts : state'.receipts = state.receipts) : WorkStep input origin state state'
  | reserved {state' : WorkState} {reservation : ReserveTaskDispatchInput} {stage : String}
      {task : WorkTaskRecord} (hside : SideEffects origin state')
      (hdrawn : origin.drawn < state'.drawn)
      (hoperation : input.operation = .reserveTaskDispatchStart reservation)
      (hreserves : Reserves platform origin input.now reservation stage task)
      (htasks : state'.tasks = origin.tasks) (hruns : state'.runs = origin.runs)
      (hreceipts : state'.receipts =
        origin.receipts.set ("dispatch_" ++ platform.randomUUID origin.drawn)
          (newTaskDispatchReceipt platform reservation stage (platform.isoString input.now)
            input.now)) :
      WorkStep input origin origin state'
  | receiptsChanged {state state' : WorkState}
      {change : String → TaskDispatchReceiptRecord → TaskDispatchReceiptRecord}
      (hside : SideEffects state state')
      (hchange : ∀ id receipt, state.receipts.get id = some receipt →
        NoMoreReserved receipt (change id receipt))
      (htasks : state'.tasks = state.tasks) (hruns : state'.runs = state.runs)
      (hreceipts : state'.receipts = state.receipts.mapWithKey change)
      (hoperation : input.operation.changesReceipts = true) :
      WorkStep input origin state state'

abbrev WorkSteps (input : WorkInput) (origin : WorkState) : WorkState → WorkState → Prop :=
  Relation.ReflTransGen (WorkStep platform input origin)

end OpenCowork.Gateway
