import OpenCowork.Gateway.TaskHelpers

/-! # Runs of a state

How a run starts, how its result or its loss is applied to its task, and how it is aborted
when its task is taken from it.
-/

namespace OpenCowork.Gateway

open Foundation

/-- `state.tasks` with the task of an id changed in place. -/
def WorkState.updateTask (taskId : String) (f : WorkTaskRecord → WorkTaskRecord)
    (state : WorkState) : WorkState :=
  { state with tasks := state.tasks.modify taskId f }

/-- `state.runs` with the run of an id changed in place. -/
def WorkState.updateRun (runId : String) (f : RunRecord → RunRecord) (state : WorkState) :
    WorkState :=
  { state with runs := state.runs.modify runId f }

def isExpiredLease (leaseExpiresAt : Option Int) (now : Int) : Bool :=
  leaseExpiresAt.all fun expiresAt => expiresAt ≤ now

structure RunLease where
  owner : Option String := none
  leaseMs : Option Int := none
  generation : Option String := none

/-- `lease.leaseMs || 60 * 60 * 1000`. -/
def RunLease.duration (lease : RunLease) : Int :=
  (lease.leaseMs.filter fun leaseMs => leaseMs ≠ 0).getD (60 * 60 * 1000)

structure RunLeaseExpectation where
  owner : Option String := none
  generation : Option String := none

inductive ActiveRunControlReason where
  | applied | runNotFound | runNotActive | taskNotFound | taskNotOwnedByRun | leaseMissing
  | leaseExpired | leaseOwnerMismatch | schedulerGenerationMismatch
  deriving DecidableEq

def runLeaseExpectationFailure (run : RunRecord) (expected : RunLeaseExpectation) (now : Int) :
    Option ActiveRunControlReason :=
  let owner := Text.truthy expected.owner
  let generation := Text.truthy expected.generation
  if owner.isNone ∧ generation.isNone then none
  else if (Text.truthy run.leaseOwner).isNone ∨ run.leaseExpiresAt.isNone then some .leaseMissing
  else if isExpiredLease run.leaseExpiresAt now then some .leaseExpired
  else if owner.isSome ∧ owner ≠ run.leaseOwner then some .leaseOwnerMismatch
  else if generation.isSome ∧ generation ≠ run.schedulerGeneration then
    some .schedulerGenerationMismatch
  else none

structure RunResolutionInput where
  environment : Option String := none
  taskQualitySpec : Option TaskQualitySpec := none

def createRun (taskId : String) (task : WorkTaskRecord) (stage sessionId profile : String)
    (now : Int) (lease : RunLease) (resolution : RunResolutionInput) : RunRecord where
  taskId := taskId
  stage := stage
  sessionId := sessionId
  profile := profile
  environment := resolution.environment
  status := .running
  attempt := (task.attempts.get stage).getD 0 + 1
  startedAt := now
  completedAt := none
  leaseOwner := lease.owner
  leaseExpiresAt := some (now + lease.duration)
  schedulerGeneration := lease.generation

variable (platform : WorkPlatform) (task : WorkTaskRecord) (run : RunRecord) (result : StageResult)
  (decision : WorkflowDecision) (now : Int) (state : WorkState)

def startWorkTaskRunInState (id stage sessionId profile : String) (lease : RunLease)
    (resolution : RunResolutionInput) (now : Int) (state : WorkState) :
    Option (String × WorkState) := do
  let task ← state.tasks.get id
  guard (task.status = .pending ∧ task.currentRunId = none)
  guard ((state.roadmaps.get task.roadmapId).map RoadmapRecord.status ≠ some .archived)
  guard (stage ∈ task.pipeline.stages)
  guard (task.stage = stage)
  guard (calculateTaskReadiness id task state now = .runnable)
  let task := { task with qualitySpec :=
    (resolution.taskQualitySpec.map normalizeTaskQualitySpec).or task.qualitySpec }
  let run := createRun id task stage sessionId profile now lease resolution
  let (runId, state) := platform.drawId "run_" state
  let task := { task with
    status := .running
    currentStage := some stage
    currentRunId := some runId }
  return (runId, { state with
    runs := state.runs.set runId run
    tasks := state.tasks.set id task })

def WorkState.activeRunOf (task : WorkTaskRecord) :
    Option (String × RunRecord) := do
  let runId ← task.currentRunId
  let run ← state.runs.get runId
  guard (isActiveRunStatus run.status)
  return (runId, run)

/-- What becomes of a run that ends without a result. -/
def RunRecord.errored : RunRecord := { run with status := .errored, completedAt := some now }

def abortActiveRunInState (taskId : String) (now : Int) (state : WorkState) :
    Option String × WorkState :=
  match (state.tasks.get taskId).bind state.activeRunOf with
  | none => (none, state)
  | some (runId, run) =>
    (some run.sessionId,
      (state.updateRun runId fun run => run.errored now).updateTask taskId fun task =>
        { task with currentRunId := none })

def activeRunSessionIdsForTasks (taskIds : List String) : List String :=
  let owned := state.tasks.entries.filterMap fun (id, task) =>
    if id ∈ taskIds then (state.activeRunOf task).map (·.2.sessionId) else none
  let running := (state.runs.values.filter fun run =>
    run.taskId ∈ taskIds ∧ isActiveRunStatus run.status = true).map RunRecord.sessionId
  ((owned.filter fun sessionId => sessionId ≠ "") ++ running).eraseDups

structure EnvironmentCollection where
  (artifacts evidence : List String)

def uniqueResultStrings (values : List String) : List String :=
  ((values.map Text.trim).filter fun value => value ≠ "").eraseDups

/-- `collected` is what the environment of the run yields, if that works out. -/
def collectRunEnvironmentArtifacts
    (collected : Option EnvironmentCollection) : StageResult :=
  match run.environment, collected with
  | some environment, some collection =>
    let artifacts := uniqueResultStrings (result.artifacts ++ collection.artifacts)
    if collection.artifacts.isEmpty || collection.evidence.isEmpty then
      { result with artifacts }
    else
      let reference := (Text.truthy collection.artifacts.head?).getD environment
      let evidence := collection.evidence.map fun summary =>
        { type := .log, ref := reference, summary := some summary : StageEvidence }
      { result with artifacts, evidence := result.evidence ++ evidence }
  | _, _ => result

def finishedRunStatus : RunStatus :=
  match result.status with
  | .pass => .passed
  | .blocked => .blocked
  | .fail | .unknown => .failed

def finishRunInState : RunRecord :=
  { run with status := finishedRunStatus result, completedAt := some now }

/-- Whether a passing result was sent back by the quality gate. -/
def rejectedByQualityGate : Bool :=
  result.status = .pass && decision.retryStage.isSome &&
    Text.startsWith decision.note "Quality gate missing required evidence"

def WorkTaskRecord.decided :
    WorkTaskRecord :=
  { task with
    status := decision.taskStatus
    note := (Text.truthy (some decision.note)).or task.note
    currentStage := (Text.truthy decision.nextStage).or (Text.truthy decision.retryStage) }

def applyStageResultInState (taskId runId : String) (task : WorkTaskRecord) (run : RunRecord)
    (result : StageResult) (retryLimit : Int) (state : WorkState) :
    WorkflowDecision × WorkState :=
  let task := { task with
    currentRunId := none
    attempts := task.attempts.set run.stage run.attempt }
  let decision := decideNextTaskState platform.toUpperCase task run.stage result retryLimit
  let run := if rejectedByQualityGate result decision then { run with status := .failed } else run
  let state := { state with
    runs := state.runs.set runId run
    tasks := state.tasks.set taskId (task.decided decision) }
  (decision, if isTaskRunOwnershipTerminalStatus decision.taskStatus then
    recomputeRoadmapStatusInState task.roadmapId state else state)

/-- `value || fallback` of a count. -/
def countOr (value fallback : Nat) : Nat := if value = 0 then fallback else value

/-- The task of a run whose session got lost. -/
def WorkTaskRecord.recovered (retryLimit : Int)
    (summary : String) : WorkTaskRecord :=
  if (countOr ((task.attempts.get run.stage).getD 0) (countOr run.attempt 1) : Int) ≤
    retryLimit then
    { task with
      currentRunId := none
      status := .pending
      currentStage := some run.stage
      note := some (summary ++ " for " ++ run.stage ++ "; task is eligible to retry.") }
  else
    { task with
      currentRunId := none
      status := .blocked
      currentStage := none
      note := some (summary ++ " for " ++ run.stage ++ " exceeded retry policy.") }

/-- One turn of the loops over the running runs: the run ends without a result if its task
names it, and its task goes on as `next` says. -/
def settleLostRun (next : WorkTaskRecord → RunRecord → WorkTaskRecord)
    (state : WorkState) (runId : String) : WorkState :=
  match state.runs.get runId with
  | none => state
  | some run =>
    match state.tasks.get run.taskId with
    | none => state
    | some task =>
      if task.currentRunId ≠ some runId then state
      else
        { state with
          runs := state.runs.set runId (run.errored now)
          tasks := state.tasks.set run.taskId (next task run) }

def WorkState.runningRunIds (predicate : String → RunRecord → Bool) :
    List String :=
  (state.runs.entries.filter fun (id, run) =>
    isActiveRunStatus run.status && predicate id run).map Prod.fst

def recoverRunsInState (retryLimit now : Int) (predicate : String → RunRecord → Bool)
    (summary : String) (state : WorkState) : WorkState :=
  (state.runningRunIds predicate).foldl
    (settleLostRun now fun task run => task.recovered run retryLimit summary) state

end OpenCowork.Gateway
