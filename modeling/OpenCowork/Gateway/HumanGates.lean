import OpenCowork.Gateway.RunHelpers

/-! # Human gates

A gate waits for a person. It is decided, consumed or times out, and what its task is then
allowed to do is written to the task. Before a task is started at a stage, a gate is asked for.
-/

namespace OpenCowork.Gateway

open Foundation

/-- What an operation returns, apart from the records themselves. -/
inductive WorkAnswer where
  | refused (error : String)
  | nothing
  | created (ids : List String)
  | changed (abortedSessionIds : List String)
  | started (runId : String)
  | completed (applied : Bool) (reason : Option ActiveRunControlReason)
      (decision : Option WorkflowDecision)
  | controlled (reason : ActiveRunControlReason)
  | recovered (runIds : List String)
  | gate (id : String)
  | receipt (id : String)
  deriving DecidableEq

inductive HumanGateDecision where
  | approve | reject
  deriving DecidableEq

inductive HumanGateTimeoutAction where
  | remind | escalate | pause | block
  deriving DecidableEq

variable (platform : WorkPlatform) (task : WorkTaskRecord) (id : String)
  (action : HumanGateTimeoutAction) (state : WorkState)

/-- `createHumanGate` and, without `force`, `ensureHumanGate`. -/
def createHumanGate (input : HumanGateInput) (force : Bool) (state : WorkState) :
    Except String (WorkAnswer × WorkState) := do
  let (id, state) ← insertHumanGateRow platform input force state
  return ((id.map .gate).getD .nothing, state)

def WorkTaskRecord.approved (gate : HumanGateRecord)
    (note : Option String) : WorkTaskRecord :=
  { task with
    manualGate := none
    status := if task.status = .blocked ∨ task.status = .paused then .pending else task.status
    currentStage := (Text.truthy task.currentStage).or
      (some ((Text.truthy gate.stage).getD task.pipeline.first))
    note := note.or task.note }

def WorkTaskRecord.halted (status : WorkStatus) (note : Option String) :
    WorkTaskRecord :=
  { task with status := status, currentRunId := none, note := note }

/-- `abortActiveRunInState`, then a change of the task, then its roadmap's status. -/
def abortAndUpdateTask (taskId roadmapId : String) (now : Int)
    (f : WorkTaskRecord → WorkTaskRecord) (state : WorkState) : Option String × WorkState :=
  let (abortedSessionId, state) := abortActiveRunInState taskId now state
  (abortedSessionId, recomputeRoadmapStatusInState roadmapId (state.updateTask taskId f))

def WorkState.taskOfGate (gate : HumanGateRecord) :
    Option (String × WorkTaskRecord) := do
  let taskId ← Text.truthy gate.taskId
  let task ← state.tasks.get taskId
  return (taskId, task)

def decideHumanGate (decision : HumanGateDecision) (note : Option String)
    (scope : Option HumanGateScope) (now : Int) (state : WorkState) : WorkAnswer × WorkState :=
  match state.gates.get id with
  | none => (.nothing, state)
  | some existing =>
    if isOpenHumanGateStatus existing.status = false then (.gate id, state)
    else
      let note := normalizeOptionalString note 2000
      let status := if decision = .approve then HumanGateStatus.approved else .rejected
      let gate := { existing with status, scope := some (scope.getD .once) }
      let state := { state with gates := state.gates.set id gate }
      match state.taskOfGate existing with
      | none => (.gate id, state)
      | some (taskId, task) =>
        match decision with
        | .approve => (.gate id, recomputeRoadmapStatusInState task.roadmapId
            (state.updateTask taskId fun task => task.approved existing note))
        | .reject => (.gate id, (abortAndUpdateTask taskId task.roadmapId now (fun task =>
          task.halted .blocked (note.or (some ("Rejected human gate: " ++ existing.reason))))
          state).2)

def consumeHumanGate : WorkAnswer × WorkState :=
  match state.gates.get id with
  | none => (.nothing, state)
  | some existing =>
    if existing.status ≠ .approved ∨ existing.scope = some .always then (.gate id, state)
    else
      (.gate id, { state with gates := state.gates.set id { existing with status := .consumed } })

def timeoutTaskStatus : WorkStatus := if action = .pause then .paused else .blocked

def timeoutHumanGate (now : Int)
    (state : WorkState) : WorkAnswer × WorkState :=
  match state.gates.get id with
  | none => (.nothing, state)
  | some existing =>
    if isOpenHumanGateStatus existing.status = false then (.gate id, state)
    else
      match action with
      | .remind => (.gate id, state)
      | .escalate =>
        let gate := { existing with status := .escalated }
        (.gate id, { state with gates := state.gates.set id gate })
      | .pause | .block =>
        let gate := { existing with status := .timedOut }
        let state := { state with gates := state.gates.set id gate }
        match state.taskOfGate existing with
        | none => (.gate id, state)
        | some (taskId, task) =>
          (.gate id, (abortAndUpdateTask taskId task.roadmapId now (fun task =>
            task.halted (timeoutTaskStatus action)
              (some ("Human gate timed out: " ++ existing.reason))) state).2)

/-- `config.humanLoop`, as far as it says which gates are asked for. -/
structure HumanLoopConfig where
  (enabled taskStartApproval : Bool)
  stageApprovals : List String

def taskHasAnyRun (taskId : String) (state : WorkState) : Bool :=
  state.runs.entries.any fun (_, run) => run.taskId = taskId

def gateInput (taskId : String) (task : WorkTaskRecord) (stage : String) (type : HumanGateType)
    (reason : String) : HumanGateInput where
  type := type
  taskId := some taskId
  roadmapId := some task.roadmapId
  stage := some stage
  reason := reason
  scopeKey := some (type.text ++ ":task:" ++ taskId ++ ":" ++ stage)

/-- The gate that a start of the task at the stage needs; runs are looked up in the store. -/
def gateInputForTaskStage (config : HumanLoopConfig) (taskId : String) (task : WorkTaskRecord)
    (stage : String) (state : WorkState) : Option HumanGateInput :=
  match task.manualGate with
  | some manualGate =>
    some {
      type := humanGateTypeForManualGate manualGate
      taskId := some taskId
      roadmapId := some task.roadmapId
      stage := some stage
      reason := manualGateReason manualGate
      scopeKey := some ("manual:" ++ taskId ++ ":" ++ manualGate.text) }
  | none =>
    if config.taskStartApproval ∧ stage = task.pipeline.first ∧
        taskHasAnyRun taskId state = false then
      some (gateInput taskId task stage .taskStart "Task start requires operator approval")
    else if stage ∈ config.stageApprovals then
      some (gateInput taskId task stage .stageTransition
        ("Stage transition to " ++ stage ++ " requires operator approval"))
    else none

theorem gateInputForTaskStage_manual {task : WorkTaskRecord} {manualGate : ManualGate}
    (hmanual : task.manualGate = some manualGate) (config : HumanLoopConfig) (taskId : String)
    (state : WorkState) :
    gateInputForTaskStage config taskId task task.stage state =
      some (humanGateInputForManualTask taskId task) := by
  rw [gateInputForTaskStage, hmanual, humanGateInputForManualTask, hmanual]
  rfl

end OpenCowork.Gateway
