import Mathlib.Data.List.Sort
import OpenCowork.Foundation.Machine
import OpenCowork.Gateway.TaskDispatch

/-! # The work store

The operations on the store, each one transaction: an operation that throws leaves the store
as it was. The clock is read once for each operation.
-/

namespace OpenCowork.Gateway

open Foundation

variable (platform : WorkPlatform)

/-! ## Roadmaps -/

def createRoadmap (input : RoadmapInput) (state : WorkState) :
    Except String (WorkAnswer × WorkState) := do
  let (id, state) ← createRoadmapInState platform input state
  return (.created [id], state)

/-- One task after the other; the answer is their ids. -/
def createWorkTasksInState : List WorkTaskCreateInput → WorkState →
    Except String (List String × WorkState)
  | [], state => .ok ([], state)
  | input :: rest, state => do
      let (id, state) ← createWorkTaskInState platform input state
      let (ids, state) ← createWorkTasksInState rest state
      return (id :: ids, state)

/-- `{ ...input, roadmapId: input.roadmapId || roadmapId }`. -/
def WorkTaskCreateInput.withRoadmap (input : WorkTaskCreateInput) (roadmapId : Option String) :
    WorkTaskCreateInput :=
  { input with roadmapId := (Text.truthy input.roadmapId).or roadmapId }

def createRoadmapWithTasks (input : RoadmapInput) (tasks : List WorkTaskCreateInput)
    (state : WorkState) : Except String (WorkAnswer × WorkState) := do
  let (id, state) ← createRoadmapInState platform input state
  let (ids, state) ← createWorkTasksInState platform
    (tasks.map fun task => task.withRoadmap (some id)) state
  return (.created (id :: ids), recomputeRoadmapStatusInState id state)

inductive PlanTaskRef where
  | index (index : Int)
  | text (text : String)

structure PlanInitiativeDependency where
  (taskRef dependsOnRef : PlanTaskRef)
  type : WorkDependencyType := .blocks

/-- `supervisorRejection` is what the checks of the supervisor throw. -/
structure PlanInitiativeInput where
  roadmap : RoadmapInput
  tasks : List WorkTaskCreateInput := []
  dependencies : List PlanInitiativeDependency := []
  supervisorRejection : Option String := none

/-- `ids` are those of the plan's tasks. -/
def resolveTaskRef (ids : List String) (state : WorkState) (label : String) :
    PlanTaskRef → Except String String
  | .index index =>
    orThrow (if index < 0 then none else ids[index.toNat]?)
      (label ++ " index out of range: " ++ toString index)
  | .text text => do
      let trimmed := Text.trim text
      refuseIf (trimmed = "") (label ++ " is required")
      match ids.filter fun id => (state.tasks.get id).any fun task => task.title = trimmed with
      | [id] => return id
      | _ :: _ :: _ => .error (label ++ " matches multiple new tasks by title: " ++ trimmed)
      | [] =>
        refuseIf (state.tasks.get trimmed = none)
          (label ++ " does not match a new task index/title or an existing task id: " ++ trimmed)
        return trimmed

/-- The dependencies of a plan from the one at `index` on. -/
def planDependenciesInState (ids : List String) : Nat → List PlanInitiativeDependency →
    WorkState → Except String WorkState
  | _, [], state => .ok state
  | index, dep :: rest, state => do
      let label := "dependencies[" ++ toString index ++ "]"
      let taskId ← resolveTaskRef ids state (label ++ ".taskRef") dep.taskRef
      let dependsOnTaskId ← resolveTaskRef ids state (label ++ ".dependsOnRef") dep.dependsOnRef
      let state ← addWorkDependencyInState { taskId, dependsOnTaskId, type := dep.type } state
      planDependenciesInState ids (index + 1) rest state

def planInitiative (input : PlanInitiativeInput) (state : WorkState) :
    Except String (WorkAnswer × WorkState) := do
  let (id, state) ← createRoadmapInState platform input.roadmap state
  let (ids, state) ← createWorkTasksInState platform
    (input.tasks.map fun task => task.withRoadmap (some id)) state
  let state ← planDependenciesInState ids 0 input.dependencies
    (recomputeRoadmapStatusInState id state)
  rejectUnread input.supervisorRejection
  return (.created (id :: ids), state)

structure RoadmapUpdateInput where
  title : Option String := none
  status : Option RoadmapStatus := none
  rejection : Option String := none

def updateRoadmap (id : String) (input : RoadmapUpdateInput) (state : WorkState) :
    Except String (WorkAnswer × WorkState) :=
  match state.roadmaps.get id with
  | none => .ok (.nothing, state)
  | some roadmap => do
      let title ← updatedText input.title roadmap.title "title" 200
      rejectUnread input.rejection
      refuseIf (input.status = some .archived)
        "use roadmap_archive to archive a roadmap and cascade child tasks"
      let roadmap := { title, status := input.status.getD roadmap.status : RoadmapRecord }
      return (.changed [], { state with roadmaps := state.roadmaps.set id roadmap })

def recomputeRoadmapStatus (roadmapId : String) (state : WorkState) : WorkAnswer × WorkState :=
  (.changed [], recomputeRoadmapStatusInState roadmapId state)

def WorkState.taskIdsOf (state : WorkState) (roadmapId : String) : List String :=
  (state.tasks.entries.filter fun (_, task) => task.roadmapId = roadmapId).map Prod.fst

/-- A task that is put away. -/
def WorkTaskRecord.archive (note : Option String) (task : WorkTaskRecord) : WorkTaskRecord :=
  { task with
    status := .archived
    currentRunId := none
    currentStage := none
    note := note.or task.note }

def archiveTaskInState (note : Option String) (now : Int) (state : WorkState) (taskId : String) :
    WorkState :=
  (abortActiveRunInState taskId now state).2.updateTask taskId (WorkTaskRecord.archive note)

def archiveRoadmap (roadmapId : String) (note : Option String) (now : Int) (state : WorkState) :
    WorkAnswer × WorkState :=
  match state.roadmaps.get roadmapId with
  | none => (.nothing, state)
  | some roadmap =>
    let note := normalizeOptionalString note 5000
    let taskIds := state.taskIdsOf roadmapId
    let aborted := taskIds.filterMap fun id =>
      ((state.tasks.get id).bind state.activeRunOf).map (·.2.sessionId)
    let roadmaps := state.roadmaps.set roadmapId { roadmap with status := .archived }
    (.changed aborted.eraseDups,
      taskIds.foldl (archiveTaskInState note now) { state with roadmaps })

/-- What the deletion of some tasks takes with it. -/
def WorkState.withoutTasks (state : WorkState) (taskIds : List String) : WorkState :=
  { state with
    tasks := state.tasks.filter fun id _ => id ∉ taskIds
    runs := state.runs.filter fun _ run => run.taskId ∉ taskIds
    dependencies := state.dependencies.filter fun dep =>
      dep.taskId ∉ taskIds ∧ dep.dependsOnTaskId ∉ taskIds
    gates := state.gates.filter fun _ gate => gate.taskId.all fun id => id ∉ taskIds
    receipts := state.receipts.filter fun _ receipt => receipt.taskId ∉ taskIds }

def deleteRoadmap (roadmapId : String) (state : WorkState) :
    Except String (WorkAnswer × WorkState) :=
  match state.roadmaps.get roadmapId with
  | none => .ok (.nothing, state)
  | some _ => do
      let taskIds := state.taskIdsOf roadmapId
      assertNoUnsettledTaskDispatchAcquisitions state taskIds
      let rest := state.withoutTasks taskIds
      return (.changed (activeRunSessionIdsForTasks state taskIds),
        { rest with
          roadmaps := rest.roadmaps.erase roadmapId
          gates := rest.gates.filter fun _ gate => gate.roadmapId ≠ some roadmapId })

/-! ## Tasks -/

def createWorkTask (input : WorkTaskCreateInput) (state : WorkState) :
    Except String (WorkAnswer × WorkState) := do
  let (id, state) ← createWorkTaskInState platform input state
  return (.created [id], state)

def createWorkTasks (inputs : List WorkTaskCreateInput) (defaultRoadmapId : Option String)
    (state : WorkState) : Except String (WorkAnswer × WorkState) := do
  let (ids, state) ← createWorkTasksInState platform
    (inputs.map fun input => input.withRoadmap defaultRoadmapId) state
  return (.created ids, state)

/-- The fields of a task are written, the roadmaps and the manual gate follow. -/
def writeTaskUpdateInState (taskId : String) (input : WorkTaskUpdateInput) (state : WorkState) :
    Except String WorkState := do
  let task ← orThrow (state.tasks.get taskId) ("task not found: " ++ taskId)
  let updated ← applyTaskUpdate task input
  let state := { state with tasks := state.tasks.set taskId updated }
  let state := recomputeRoadmapStatusInState task.roadmapId state
  let state := if updated.roadmapId ≠ task.roadmapId
    then recomputeRoadmapStatusInState updated.roadmapId state else state
  insertManualGate platform taskId state

/-- The part of an update that is the same for one task and for many: the active run is
aborted where the task gets a status that is not a running one. -/
def updateTaskInState (taskId : String) (input : WorkTaskUpdateInput) (now : Int)
    (state : WorkState) : Except String (Option String × WorkState) := do
  let (abortedSessionId, state) := if input.status.any shouldAbortActiveRunForTaskStatus
    then abortActiveRunInState taskId now state else (none, state)
  let state ← writeTaskUpdateInState platform taskId input state
  return (abortedSessionId, state)

def updateWorkTask (id : String) (input : WorkTaskUpdateInput) (now : Int) (state : WorkState) :
    Except String (WorkAnswer × WorkState) :=
  match state.tasks.get id with
  | none => .ok (.nothing, state)
  | some task => do
      validateTaskUpdate state task input
      let (abortedSessionId, state) ← updateTaskInState platform id input now state
      return (.changed abortedSessionId.toList, state)

abbrev WorkTaskBulkUpdateInput := String × WorkTaskUpdateInput

def validateTaskUpdates (state : WorkState) : List WorkTaskBulkUpdateInput → Except String Unit
  | [] => .ok ()
  | (taskId, input) :: rest => do
      let task ← orThrow (state.tasks.get taskId) ("task not found: " ++ taskId)
      validateTaskUpdate state task input
      validateTaskUpdates state rest

/-- The second loop, which writes one entry after the other. -/
def updateTasksInState (now : Int) : List WorkTaskBulkUpdateInput → WorkState →
    Except String (List String × WorkState)
  | [], state => .ok ([], state)
  | (taskId, input) :: rest, state => do
      let (abortedSessionId, state) ← updateTaskInState platform taskId input now state
      let (abortedSessionIds, state) ← updateTasksInState now rest state
      return (abortedSessionId.toList ++ abortedSessionIds, state)

def updateWorkTasks (inputs : List WorkTaskBulkUpdateInput) (now : Int) (state : WorkState) :
    Except String (WorkAnswer × WorkState) := do
  refuseIf (inputs = []) "updates must include at least one task update"
  refuseIf ((inputs.any fun (taskId, _) => Text.trim taskId = "") = true) "update requires taskId"
  validateTaskUpdates state inputs
  let (abortedSessionIds, state) ← updateTasksInState platform now inputs state
  return (.changed abortedSessionIds.eraseDups, state)

inductive WorkTaskAction where
  | pause | resume | cancel | retry | done | block
  deriving DecidableEq

/-- `['pause', 'cancel', 'retry', 'done', 'block'].includes(action)`. -/
def WorkTaskAction.abortsRun (action : WorkTaskAction) : Bool := action ≠ .resume

def WorkTaskRecord.acted (action : WorkTaskAction) (stage note : Option String)
    (task : WorkTaskRecord) : WorkTaskRecord :=
  match action with
  | .pause => task.halted .paused (note.or task.note)
  | .resume => { task with
      status := .pending
      currentRunId := none
      currentStage := some (stage.getD task.stage)
      earliestStartAt := none
      note := note.or task.note }
  | .cancel => { task with
      status := .cancelled
      currentRunId := none
      currentStage := none
      note := note.or (some "Cancelled by Gateway") }
  | .retry => { task with
      status := .pending
      currentRunId := none
      currentStage := some (stage.getD task.pipeline.first)
      earliestStartAt := none
      note := note.or task.note }
  | .done => { task with
      status := .done
      currentRunId := none
      currentStage := none
      note := note.or task.note }
  | .block => { task with
      status := .blocked
      currentRunId := none
      currentStage := none
      note := note.or (some "Blocked by Gateway") }

def applyWorkTaskAction (id : String) (action : WorkTaskAction) (stage note : Option String)
    (now : Int) (state : WorkState) : Except String (WorkAnswer × WorkState) :=
  match state.tasks.get id with
  | none => .ok (.nothing, state)
  | some task => do
      let note := normalizeOptionalString note 5000
      let stage ← normalizeOptionalStage stage "stage"
      refuseIf ((action = .resume ∨ action = .retry) ∧
          (stage.any fun stage => stage ∉ task.pipeline.stages))
        ("stage must be in pipeline: " ++ stage.getD "")
      let (abortedSessionId, state) := if action.abortsRun
        then abortActiveRunInState id now state else (none, state)
      return (.changed abortedSessionId.toList, recomputeRoadmapStatusInState task.roadmapId
        (state.updateTask id (WorkTaskRecord.acted action stage note)))

def WorkState.taskNamed (state : WorkState) (text : String) : Option (String × WorkTaskRecord) :=
  state.tasks.entries.find? fun (id, task) =>
    id = text || Text.includes task.title text || Text.includes task.description text

def WorkTaskRecord.finish (task : WorkTaskRecord) : WorkTaskRecord :=
  { task with status := .done, currentRunId := none, currentStage := none }

def markWorkTaskDone (text : String) (now : Int) (state : WorkState) : WorkAnswer × WorkState :=
  match state.taskNamed text with
  | none => (.nothing, state)
  | some (id, task) =>
    let (abortedSessionId, state) :=
      abortAndUpdateTask id task.roadmapId now WorkTaskRecord.finish state
    (.changed abortedSessionId.toList, state)

def archiveWorkTask (id : String) (note : Option String) (now : Int) (state : WorkState) :
    WorkAnswer × WorkState :=
  match state.tasks.get id with
  | none => (.nothing, state)
  | some task =>
    let note := normalizeOptionalString note 5000
    let (abortedSessionId, state) :=
      abortAndUpdateTask id task.roadmapId now (WorkTaskRecord.archive note) state
    (.changed abortedSessionId.toList, state)

def deleteWorkTask (id : String) (state : WorkState) : Except String (WorkAnswer × WorkState) :=
  match state.tasks.get id with
  | none => .ok (.nothing, state)
  | some task => do
      assertNoUnsettledTaskDispatchAcquisitions state [id]
      return (.changed (activeRunSessionIdsForTasks state [id]).head?.toList,
        recomputeRoadmapStatusInState task.roadmapId (state.withoutTasks [id]))

/-! ## Runs -/

inductive ActiveRunControlAction where
  | cancel | stop | retry | restart
  deriving DecidableEq

structure ActiveRunControlInput where
  runId : String
  action : ActiveRunControlAction
  note : Option String := none
  expectedLeaseOwner : Option String := none
  expectedSchedulerGeneration : Option String := none

def WorkTaskRecord.controlled (action : ActiveRunControlAction) (run : RunRecord)
    (note : Option String) (task : WorkTaskRecord) : WorkTaskRecord :=
  match action with
  | .cancel => { task with
      status := .cancelled
      currentRunId := none
      currentStage := none
      note := note.or (some "Cancelled by local operator") }
  | .stop => { task with
      status := .blocked
      currentRunId := none
      currentStage := none
      note := note.or (some "Stopped by local operator") }
  | .retry | .restart => { task with
      status := .pending
      currentRunId := none
      currentStage := some ((Text.truthy (some run.stage)).getD task.stage)
      earliestStartAt := none
      note := note.or (some (if action = .restart then
        "Restart requested by local operator; Gateway will create a new OpenCode session on " ++
          "the next scheduler dispatch."
        else "Retry requested by local operator; Gateway requeued durable work for the same " ++
          "stage.")) }

def activeRunControlDenial (run : RunRecord) (owner generation : Option String) (now : Int) :
    Option ActiveRunControlReason :=
  if (Text.truthy run.leaseOwner).isNone ∨ run.leaseExpiresAt.isNone then some .leaseMissing
  else if isExpiredLease run.leaseExpiresAt now then some .leaseExpired
  else if owner.isSome ∧ owner ≠ run.leaseOwner then some .leaseOwnerMismatch
  else if generation.isSome ∧ generation ≠ run.schedulerGeneration then
    some .schedulerGenerationMismatch
  else none

def LIVE_RECENT_TERMINAL_RUNS : Nat := 500

/-- A run in the live window: a running one, one that a task names, or one of the latest. -/
def WorkState.isLiveRun (state : WorkState) (runId : String) (run : RunRecord) : Bool :=
  run.status = .running ||
    (state.tasks.entries.any fun (_, task) => task.currentRunId = some runId) ||
    (state.runs.entries.countP fun (_, other) =>
      other.status ≠ .running && run.startedAt < other.startedAt) < LIVE_RECENT_TERMINAL_RUNS

/-- The oldest run with this id or of this session. -/
def getRunFromDb (state : WorkState) (id : String) : Option (String × RunRecord) :=
  ((state.runs.entries.filter fun entry => entry.1 = id || entry.2.sessionId = id).insertionSort
    fun first second => first.2.startedAt ≤ second.2.startedAt).head?

/-- The run that a control names, by its id or by that of its session. -/
def WorkState.controlledRun (state : WorkState) (id : String) : Option (String × RunRecord) :=
  (((state.runs.get id).filter (state.isLiveRun id)).map fun run => (id, run)).or
    (getRunFromDb state id)

theorem WorkState.get_of_controlledRun {state : WorkState} {id runId : String} {run : RunRecord}
    (h : state.controlledRun id = some (runId, run)) : state.runs.get runId = some run := by
  rcases Option.or_eq_some_iff.mp h with hlive | ⟨-, hstored⟩
  · obtain ⟨_, hheld, heq⟩ := Option.map_eq_some_iff.mp hlive
    cases heq
    exact (Option.filter_eq_some_iff.mp hheld).1
  · rw [OrderedMap.get_eq_some_iff]
    have hfound := (List.mem_insertionSort _).mp (List.mem_of_head? hstored)
    exact (List.mem_filter.mp hfound).1

def ActiveRunControlInput.denial (input : ActiveRunControlInput) (run : RunRecord) (now : Int) :
    Option ActiveRunControlReason :=
  activeRunControlDenial run (normalizeOptionalString input.expectedLeaseOwner 200)
    (normalizeOptionalString input.expectedSchedulerGeneration 120) now

def applyActiveRunControl (input : ActiveRunControlInput) (now : Int) (state : WorkState) :
    WorkAnswer × WorkState :=
  match state.controlledRun input.runId with
  | none => (.controlled .runNotFound, state)
  | some (runId, run) =>
    match state.tasks.get run.taskId with
    | none => (.controlled .taskNotFound, state)
    | some task =>
      if run.status ≠ .running then (.controlled .runNotActive, state)
      else if task.status ≠ .running ∨ task.currentRunId ≠ some runId then
        (.controlled .taskNotOwnedByRun, state)
      else
        match input.denial run now with
        | some reason => (.controlled reason, state)
        | none => (.controlled .applied, (abortAndUpdateTask run.taskId task.roadmapId now
            (WorkTaskRecord.controlled input.action run
              (normalizeOptionalString input.note 5000)) state).2)

structure RunStart where
  (taskId stage sessionId profile : String)
  lease : RunLease := {}
  resolution : RunResolutionInput := {}

def startRun (start : RunStart) (now : Int) (state : WorkState) : Option (String × WorkState) :=
  startWorkTaskRunInState platform start.taskId start.stage start.sessionId start.profile
    start.lease start.resolution now state

def startWorkTaskRun (start : RunStart) (now : Int) (state : WorkState) : WorkAnswer × WorkState :=
  match startRun platform start now state with
  | none => (.nothing, state)
  | some (runId, state) => (.started runId, state)

def TaskDispatchReceiptRecord.admits (receipt : TaskDispatchReceiptRecord) (start : RunStart)
    (now : Int) : Bool :=
  receipt.taskId = start.taskId && receipt.stage = start.stage && receipt.isLive now &&
    (Text.truthy start.lease.owner).any (fun owner => receipt.leaseOwner = owner) &&
    (Text.truthy receipt.profile).all fun profile => profile = start.profile

def TaskDispatchReceiptRecord.handedOver (receipt : TaskDispatchReceiptRecord)
    (runId sessionId : String) : TaskDispatchReceiptRecord :=
  ((receipt.startedAs runId sessionId).note .environment .released
    (receipt.environment.map (·.resourceId))).note .session .released (some sessionId)

def startWorkTaskRunFromDispatch (dispatchId : String) (start : RunStart) (now : Int)
    (state : WorkState) : WorkAnswer × WorkState :=
  match (state.receipts.get dispatchId).filter fun receipt => receipt.admits start now with
  | none => (.nothing, state)
  | some receipt =>
    match startRun platform start now state with
    | none => (.nothing, state)
    | some (runId, state) => (.started runId, { state with
        receipts := state.receipts.set dispatchId (receipt.handedOver runId start.sessionId) })

def renewedRun (run : RunRecord) (lease : RunLease) (now : Int) : Option RunRecord :=
  let owner := Text.truthy lease.owner
  let generation := Text.truthy lease.generation
  let runOwner := Text.truthy run.leaseOwner
  let runGeneration := Text.truthy run.schedulerGeneration
  if owner.isSome ∧ runOwner.isSome ∧ owner ≠ runOwner then none
  else if generation.isSome ∧ runGeneration.isSome ∧ generation ≠ runGeneration then none
  else
    let renewWindowMs := max (60 * 1000) (lease.duration / 2)
    if run.leaseExpiresAt.any fun expiresAt => renewWindowMs < expiresAt - now then some run
    else some { run with
      leaseOwner := owner.or run.leaseOwner
      schedulerGeneration := generation.or run.schedulerGeneration
      leaseExpiresAt := some (now + lease.duration) }

def renewWorkTaskRunLease (runId : String) (lease : RunLease) (now : Int) (state : WorkState) :
    WorkAnswer × WorkState :=
  match (state.runs.get runId).bind fun run =>
    if run.status = .running then renewedRun run lease now else none with
  | none => (.nothing, state)
  | some run => (.changed [], { state with runs := state.runs.set runId run })

def adoptedRun (owner generation : String) (leaseMs now : Int) (run : RunRecord) : RunRecord :=
  if run.status ≠ .running ∨
      (run.leaseOwner = some owner ∧ run.schedulerGeneration = some generation) then run
  else { run with
    leaseOwner := some owner
    schedulerGeneration := some generation
    leaseExpiresAt := some (max (now + leaseMs) (run.leaseExpiresAt.getD 0)) }

def adoptActiveWorkRunLeases (owner generation : String) (leaseMs : Option Int) (now : Int)
    (state : WorkState) : WorkAnswer × WorkState :=
  if owner = "" ∨ generation = "" then (.nothing, state)
  else
    let duration := RunLease.duration { leaseMs := leaseMs }
    let adopted := state.runningRunIds fun _ run =>
      ¬(run.leaseOwner = some owner ∧ run.schedulerGeneration = some generation)
    (.recovered adopted,
      { state with runs := state.runs.map (adoptedRun owner generation duration now) })

/-- The running runs of a predicate that their tasks name. -/
def WorkState.ownedRunIds (state : WorkState) (predicate : String → RunRecord → Bool) :
    List String :=
  (state.runningRunIds predicate).filter fun runId => (state.runs.get runId).any fun run =>
    (state.tasks.get run.taskId).any fun task => task.currentRunId = some runId

def WorkTaskRecord.leaseExpired (task : WorkTaskRecord) (run : RunRecord) : WorkTaskRecord :=
  { task with
    currentRunId := none
    status := .blocked
    currentStage := none
    note := some ("Expired scheduler lease for " ++ run.stage ++
      "; old OpenCode session may still be running, so Gateway blocked retry until an operator " ++
      "verifies or aborts it.") }

def expireLeaseInState (now : Int) (state : WorkState) (runId : String) : WorkState :=
  let settled := settleLostRun now (fun task run => task.leaseExpired run) state runId
  match (state.runs.get runId).bind fun run => (state.tasks.get run.taskId).filter fun task =>
    task.currentRunId = some runId with
  | none => settled
  | some task => recomputeRoadmapStatusInState task.roadmapId settled

def recoverExpiredWorkLeases (now : Int) (state : WorkState) : WorkAnswer × WorkState :=
  let expired : String → RunRecord → Bool := fun _ run => isExpiredLease run.leaseExpiresAt now
  (.recovered (state.ownedRunIds expired),
    (state.runningRunIds expired).foldl (expireLeaseInState now) state)

/-- What orphan recovery says of a run. -/
def orphanSummary : String := "Recovered missing OpenCode session"

def recoverOrphans (predicate : String → RunRecord → Bool) (retryLimit now : Int)
    (state : WorkState) : WorkAnswer × WorkState :=
  (.recovered (state.ownedRunIds predicate),
    recoverRunsInState retryLimit now predicate orphanSummary state)

def recoverOrphanedWorkRuns (activeSessionIds : List String) :
    Int → Int → WorkState → WorkAnswer × WorkState :=
  recoverOrphans fun _ run => run.sessionId ∉ activeSessionIds

def recoverOrphanedWorkRun (runId : String) : Int → Int → WorkState → WorkAnswer × WorkState :=
  recoverOrphans fun id _ => id = runId

/-- The abort of an environment, as far as it concerns the task of its run. -/
def abortWorkEnvironment (id : String) (note : Option String) (now : Int) (state : WorkState) :
    WorkAnswer × WorkState :=
  match state.runs.entries.find? fun (runId, run) => run.environment = some id || runId = id with
  | none => (.nothing, state)
  | some (_, run) =>
    if run.environment = none then (.nothing, state)
    else
      match (state.tasks.get run.taskId).filter fun _ => isActiveRunStatus run.status with
      | none => (.changed [], state)
      | some task =>
        let (abortedSessionId, aborted) := abortActiveRunInState run.taskId now state
        match Text.truthy abortedSessionId with
        | none => (.changed [], aborted)
        | some sessionId =>
          (.changed [sessionId], recomputeRoadmapStatusInState task.roadmapId
            (aborted.updateTask run.taskId fun task =>
              { task.halted .blocked ((normalizeOptionalString note 5000).or
                  (some "Environment abort requested by Gateway operator.")) with
                currentStage := none }))

def WorkState.ownedRun (state : WorkState) (runId : String) :
    Option (RunRecord × WorkTaskRecord) := do
  let run ← state.runs.get runId
  let task ← state.tasks.get run.taskId
  guard (run.status = .running ∧ task.status = .running ∧ task.currentRunId = some runId)
  return (run, task)

def notAppliedAnswer (runId : String) (state : WorkState) : WorkAnswer :=
  if (state.runs.get runId).any fun run => (state.tasks.get run.taskId).isSome
  then .completed false none none else .nothing

def completeWorkTaskRun (runId : String) (result : StageResult) (retryLimit : Int)
    (expectedLease : RunLeaseExpectation) (collected : Option EnvironmentCollection) (now : Int)
    (state : WorkState) : WorkAnswer × WorkState :=
  match state.ownedRun runId with
  | none => (notAppliedAnswer runId state, state)
  | some (run, task) =>
    match runLeaseExpectationFailure run expectedLease now with
    | some reason => (.completed false (some reason) none, state)
    | none =>
      let completedResult := collectRunEnvironmentArtifacts run result collected
      let run := finishRunInState run completedResult now
      let (decision, state) := applyStageResultInState platform run.taskId runId task run
        completedResult retryLimit state
      (.completed true none (some decision), state)

def blockActiveWorkTaskRun (runId note : String) (now : Int) (state : WorkState) :
    WorkAnswer × WorkState :=
  match state.ownedRun runId with
  | none => (notAppliedAnswer runId state, state)
  | some (run, task) =>
    let task := { task.halted .blocked (some note) with currentStage := none }
    (.completed true none none, recomputeRoadmapStatusInState task.roadmapId
      { state with
        runs := state.runs.set runId (run.errored now)
        tasks := state.tasks.set run.taskId task })

def addWorkDependency (input : WorkDependencyInput) (state : WorkState) :
    Except String (WorkAnswer × WorkState) := do
  let state ← addWorkDependencyInState input state
  return (.changed [], state)

def deleteWorkDependency (taskId dependsOnTaskId : String) (type : Option WorkDependencyType)
    (state : WorkState) : WorkAnswer × WorkState :=
  let dependencies := state.dependencies.filter fun dep =>
    ¬(dep.taskId = taskId ∧ dep.dependsOnTaskId = dependsOnTaskId ∧
      type.all fun type => dep.type = type)
  (if dependencies.length = state.dependencies.length then .nothing else .changed [],
    { state with dependencies })

/-! ## Histories of operations -/

inductive WorkOperation where
  | createRoadmap (input : RoadmapInput)
  | createRoadmapWithTasks (input : RoadmapInput) (tasks : List WorkTaskCreateInput)
  | planInitiative (input : PlanInitiativeInput)
  | updateRoadmap (id : String) (input : RoadmapUpdateInput)
  | recomputeRoadmapStatus (roadmapId : String)
  | archiveRoadmap (roadmapId : String) (note : Option String)
  | deleteRoadmap (roadmapId : String)
  | createWorkTask (input : WorkTaskCreateInput)
  | createWorkTasks (inputs : List WorkTaskCreateInput) (defaultRoadmapId : Option String)
  | updateWorkTask (id : String) (input : WorkTaskUpdateInput)
  | updateWorkTasks (inputs : List WorkTaskBulkUpdateInput)
  | applyWorkTaskAction (id : String) (action : WorkTaskAction) (stage note : Option String)
  | markWorkTaskDone (text : String)
  | archiveWorkTask (id : String) (note : Option String)
  | deleteWorkTask (id : String)
  | addWorkDependency (input : WorkDependencyInput)
  | deleteWorkDependency (taskId dependsOnTaskId : String) (type : Option WorkDependencyType)
  | applyActiveRunControl (input : ActiveRunControlInput)
  | startWorkTaskRun (start : RunStart)
  | startWorkTaskRunFromDispatch (dispatchId : String) (start : RunStart)
  | renewWorkTaskRunLease (runId : String) (lease : RunLease)
  | adoptActiveWorkRunLeases (owner generation : String) (leaseMs : Option Int)
  | recoverExpiredWorkLeases
  | recoverOrphanedWorkRuns (activeSessionIds : List String) (retryLimit : Int)
  | recoverOrphanedWorkRun (runId : String) (retryLimit : Int)
  | abortWorkEnvironment (id : String) (note : Option String)
  | completeWorkTaskRun (runId : String) (result : StageResult) (retryLimit : Int)
      (expectedLease : RunLeaseExpectation) (collected : Option EnvironmentCollection)
  | blockActiveWorkTaskRun (runId note : String)
  | createHumanGate (input : HumanGateInput) (force : Bool)
  | decideHumanGate (id : String) (decision : HumanGateDecision) (note : Option String)
      (scope : Option HumanGateScope)
  | consumeHumanGate (id : String)
  | timeoutHumanGate (id : String) (action : HumanGateTimeoutAction)
  | reserveTaskDispatchStart (input : ReserveTaskDispatchInput)
  | journalTaskDispatchAcquisitionIntent (dispatchId : String) (kind : TaskDispatchAcquisitionKind)
  | attachTaskDispatchEnvironment (dispatchId : String) (environment : DispatchEnvironment)
  | attachTaskDispatchSession (dispatchId sessionId : String)
  | markTaskDispatchAcquisitionSettled (dispatchId : String) (kind : TaskDispatchAcquisitionKind)
      (failed : Bool)
  | markTaskDispatchStarted (dispatchId runId sessionId : String)
  | markTaskDispatchFailed (dispatchId : String)
  | recoverExpiredTaskDispatchStarts (releases : String → Bool)

/-- An operation and the reading of the clock while it runs. -/
structure WorkInput where
  now : Int
  operation : WorkOperation

def attempt (now : Int) (state : WorkState) :
    WorkOperation → Except String (WorkAnswer × WorkState)
  | .createRoadmap input => createRoadmap platform input state
  | .createRoadmapWithTasks input tasks => createRoadmapWithTasks platform input tasks state
  | .planInitiative input => planInitiative platform input state
  | .updateRoadmap id input => updateRoadmap id input state
  | .recomputeRoadmapStatus roadmapId => .ok (recomputeRoadmapStatus roadmapId state)
  | .archiveRoadmap roadmapId note => .ok (archiveRoadmap roadmapId note now state)
  | .deleteRoadmap roadmapId => deleteRoadmap roadmapId state
  | .createWorkTask input => createWorkTask platform input state
  | .createWorkTasks inputs defaultRoadmapId =>
    createWorkTasks platform inputs defaultRoadmapId state
  | .updateWorkTask id input => updateWorkTask platform id input now state
  | .updateWorkTasks inputs => updateWorkTasks platform inputs now state
  | .applyWorkTaskAction id action stage note => applyWorkTaskAction id action stage note now state
  | .markWorkTaskDone text => .ok (markWorkTaskDone text now state)
  | .archiveWorkTask id note => .ok (archiveWorkTask id note now state)
  | .deleteWorkTask id => deleteWorkTask id state
  | .addWorkDependency input => addWorkDependency input state
  | .deleteWorkDependency taskId dependsOnTaskId type =>
    .ok (deleteWorkDependency taskId dependsOnTaskId type state)
  | .applyActiveRunControl input => .ok (applyActiveRunControl input now state)
  | .startWorkTaskRun start => .ok (startWorkTaskRun platform start now state)
  | .startWorkTaskRunFromDispatch dispatchId start =>
    .ok (startWorkTaskRunFromDispatch platform dispatchId start now state)
  | .renewWorkTaskRunLease runId lease => .ok (renewWorkTaskRunLease runId lease now state)
  | .adoptActiveWorkRunLeases owner generation leaseMs =>
    .ok (adoptActiveWorkRunLeases owner generation leaseMs now state)
  | .recoverExpiredWorkLeases => .ok (recoverExpiredWorkLeases now state)
  | .recoverOrphanedWorkRuns activeSessionIds retryLimit =>
    .ok (recoverOrphanedWorkRuns activeSessionIds retryLimit now state)
  | .recoverOrphanedWorkRun runId retryLimit =>
    .ok (recoverOrphanedWorkRun runId retryLimit now state)
  | .abortWorkEnvironment id note => .ok (abortWorkEnvironment id note now state)
  | .completeWorkTaskRun runId result retryLimit expectedLease collected =>
    .ok (completeWorkTaskRun platform runId result retryLimit expectedLease collected now state)
  | .blockActiveWorkTaskRun runId note => .ok (blockActiveWorkTaskRun runId note now state)
  | .createHumanGate input force => createHumanGate platform input force state
  | .decideHumanGate id decision note scope =>
    .ok (decideHumanGate id decision note scope now state)
  | .consumeHumanGate id => .ok (consumeHumanGate id state)
  | .timeoutHumanGate id action => .ok (timeoutHumanGate id action now state)
  | .reserveTaskDispatchStart input => reserveTaskDispatchStart platform input now state
  | .journalTaskDispatchAcquisitionIntent dispatchId kind =>
    .ok (journalTaskDispatchAcquisitionIntent dispatchId kind state)
  | .attachTaskDispatchEnvironment dispatchId environment =>
    .ok (attachTaskDispatchEnvironment dispatchId environment state)
  | .attachTaskDispatchSession dispatchId sessionId =>
    attachTaskDispatchSession dispatchId sessionId state
  | .markTaskDispatchAcquisitionSettled dispatchId kind failed =>
    .ok (markTaskDispatchAcquisitionSettled dispatchId kind failed state)
  | .markTaskDispatchStarted dispatchId runId sessionId =>
    .ok (markTaskDispatchStarted dispatchId runId sessionId state)
  | .markTaskDispatchFailed dispatchId => .ok (markTaskDispatchFailed dispatchId state)
  | .recoverExpiredTaskDispatchStarts releases =>
    .ok (recoverExpiredTaskDispatchStarts releases now state)

/-- `mutateWorkState`: what throws is rolled back. -/
def perform (state : WorkState) (input : WorkInput) : WorkAnswer × WorkState :=
  match attempt platform input.now state input.operation with
  | .ok outcome => outcome
  | .error error => (.refused error, state)

theorem perform_of_ok (state : WorkState) (input : WorkInput) {outcome : WorkAnswer × WorkState}
    (h : attempt platform input.now state input.operation = .ok outcome) :
    perform platform state input = outcome := by
  rw [perform, h]

def workStore : Machine WorkState WorkInput WorkAnswer where
  step := perform platform

theorem replicate_a_ne_inbox (n : Nat) : String.ofList (List.replicate n 'a') ≠ "inbox" := by
  intro h
  have hlist : List.replicate n 'a' = "inbox".toList := by
    rw [← h, String.toList_ofList]
  have hmem : 'i' ∈ List.replicate n 'a' := hlist ▸ (by decide)
  exact absurd (List.eq_of_mem_replicate hmem) (by decide)

/-- A platform that draws the ids `""`, `"a"`, `"aa"`, …, in a process of id 1. -/
def countingPlatform : WorkPlatform where
  randomUUID n := String.ofList (List.replicate n 'a')
  randomUUID_injective := Text.replicate_a_injective
  randomUUID_ne_inbox := replicate_a_ne_inbox
  processId := 1
  toUpperCase text := String.ofList (text.toList.map Char.toUpper)
  isoString time := toString time

end OpenCowork.Gateway
