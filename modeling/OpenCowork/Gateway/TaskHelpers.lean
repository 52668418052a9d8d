import OpenCowork.Foundation.Checks
import OpenCowork.Gateway.Workflow

/-! # Tasks and roadmaps of a state

What the operations share: the checks of their inputs, the roadmap's status, dependencies,
the gate that a task waits for, and the creation and the update of one task. A check of input
that nothing here reads is represented by what it throws.
-/

namespace OpenCowork.Gateway

open Foundation

/-! ## Checks of inputs -/

def normalizeRequiredString (value label : String) (maxLength : Nat) : Except String String :=
  if Text.trim value = "" then .error (label ++ " is required")
  else .ok (Text.substringTo maxLength (Text.trim value))

def normalizeOptionalString (value : Option String) (maxLength : Nat) : Option String :=
  (Text.truthy (value.map Text.trim)).map (Text.substringTo maxLength)

def normalizeStage (value label : String) : Except String String := do
  let stage ← normalizeRequiredString value label 64
  refuseIf (isStage stage = false)
    (label ++ " must be 1-64 letters, numbers, underscores, or dashes")
  return stage

/-- `value ? normalizeStage(value, label) : undefined`. -/
def normalizeOptionalStage (value : Option String) (label : String) :
    Except String (Option String) :=
  match Text.truthy value with
  | none => .ok none
  | some stage => (normalizeStage stage label).map some

theorem nodup_eraseDups {α : Type*} [DecidableEq α] (items : List α) : items.eraseDups.Nodup := by
  induction hlength : items.length using Nat.strong_induction_on generalizing items with
  | _ _ ih =>
    cases items with
    | nil => exact List.nodup_nil
    | cons =>
      rw [List.eraseDups_cons, List.nodup_cons]
      constructor
      · rw [List.mem_eraseDups, List.mem_filter]
        simp
      · apply ih _ _ _ rfl
        rw [← hlength, List.length_cons]
        exact Nat.lt_succ_of_le (List.length_filter_le _ _)

def normalizeTaskPipeline (input : Option (List String)) (fallback : Pipeline) :
    Except String Pipeline :=
  let source := (input.filter fun stages => !stages.isEmpty).getD fallback.stages
  let pipeline := ((source.map Text.trim).filter fun stage => stage ≠ "").eraseDups
  if hempty : pipeline = [] then .error "pipeline must include at least one stage"
  else if hvalid : ∀ stage ∈ pipeline, isStage stage = true then
    .ok ⟨pipeline, hempty, nodup_eraseDups _, hvalid⟩
  else .error ("pipeline contains invalid stage: " ++
    (pipeline.find? fun stage => !isStage stage).getD "")

/-- `task.pipeline[0] || 'implement'`. -/
def Pipeline.first (pipeline : Pipeline) : String :=
  (Text.truthy pipeline.stages.head?).getD "implement"

theorem Pipeline.head?_eq_first (pipeline : Pipeline) :
    pipeline.stages.head? = some pipeline.first := by
  obtain ⟨stages, hnonempty, _, hvalid⟩ := pipeline
  cases stages with
  | nil => exact absurd rfl hnonempty
  | cons stage =>
    have hstage : stage ≠ "" := by
      rintro rfl
      exact absurd (hvalid "" List.mem_cons_self) (by decide)
    simp [Pipeline.first, Text.truthy, Option.filter, hstage]

theorem Pipeline.first_mem (pipeline : Pipeline) : pipeline.first ∈ pipeline.stages :=
  List.mem_of_head? pipeline.head?_eq_first

/-- `currentStage || pipeline[0] || 'implement'`. -/
def WorkTaskRecord.stage (task : WorkTaskRecord) : String :=
  (Text.truthy task.currentStage).getD task.pipeline.first

/-! ## Roadmaps -/

def assertRoadmapAcceptsTasks (state : WorkState) (roadmapId : String) : Except String Unit := do
  let roadmap ← orThrow (state.roadmaps.get roadmapId) ("roadmap not found: " ++ roadmapId)
  refuseIf (roadmap.status = .archived) ("roadmap is archived: " ++ roadmapId)

def roadmapStatusOf (tasks : List WorkTaskRecord) : RoadmapStatus :=
  if !tasks.isEmpty && tasks.all (fun task => task.status = .done) then .done
  else if tasks.any (fun task => task.status = .blocked) then .blocked
  else .active

def recomputeRoadmapStatusInState (roadmapId : String) (state : WorkState) : WorkState :=
  match state.roadmaps.get roadmapId with
  | none => state
  | some roadmap =>
    if roadmap.status = .archived then state
    else
      let tasks := state.tasks.values.filter fun task =>
        task.roadmapId = roadmapId ∧ task.status ≠ .archived
      { state with roadmaps :=
          state.roadmaps.set roadmapId { roadmap with status := roadmapStatusOf tasks } }

def ensureInboxRoadmap (state : WorkState) : WorkState :=
  if (state.roadmaps.get inboxRoadmapId).isSome then state
  else { state with roadmaps :=
    state.roadmaps.set inboxRoadmapId { title := "Task Inbox", status := .active } }

structure RoadmapInput where
  title : String
  rejection : Option String := none

/-- `if (the checks of the fields that nothing here reads fail) throw`. -/
def rejectUnread (rejection : Option String) : Except String Unit :=
  match rejection with
  | none => .ok ()
  | some error => .error error

variable (platform : WorkPlatform)

/-- A fresh id with the given head. -/
def WorkPlatform.drawId (head : String) (state : WorkState) : String × WorkState :=
  (head ++ platform.randomUUID state.drawn, { state with drawn := state.drawn + 1 })

def createRoadmapInState (input : RoadmapInput) (state : WorkState) :
    Except String (String × WorkState) := do
  let title ← normalizeRequiredString input.title "title" 200
  rejectUnread input.rejection
  let (id, state) := platform.drawId "roadmap_" state
  return (id, { state with roadmaps := state.roadmaps.set id { title, status := .active } })

/-! ## Dependencies and readiness -/

def isBlockingDependency (dep : WorkDependencyRecord) : Bool :=
  dep.type = .blocks || dep.type = .blockedBy || dep.type = .parent

def targetsOf (edges : List WorkDependencyRecord) (taskId : String) : List String :=
  (edges.filter fun dep => dep.taskId = taskId).map (·.dependsOnTaskId)

/-- The edges that leave a task outside `seen`. -/
def edgesOutside (edges : List WorkDependencyRecord) (seen : List String) :
    List WorkDependencyRecord :=
  edges.filter fun dep => dep.taskId ∉ seen

theorem length_edgesOutside (edges : List WorkDependencyRecord) {seen : List String}
    {taskId : String} (hseen : taskId ∉ seen) :
    (edgesOutside edges seen).length =
      (targetsOf edges taskId).length + (edgesOutside edges (taskId :: seen)).length := by
  induction edges with
  | nil => rfl
  | cons dep _ ih =>
    simp only [edgesOutside, targetsOf, List.length_map, List.mem_cons] at ih ⊢
    by_cases hdep : dep.taskId = taskId
    · simp only [hdep, hseen, List.filter_cons, not_false_eq_true, true_or,
        not_true_eq_false, decide_true, decide_false, if_true, List.length_cons]
      simp only [Bool.false_eq_true, if_false]
      omega
    · by_cases hmem : dep.taskId ∈ seen
      · simp only [hdep, hmem, List.filter_cons, or_true, not_true_eq_false,
          decide_false]
        exact ih
      · simp only [hdep, hmem, List.filter_cons, or_false, not_false_eq_true,
          decide_true, decide_false, if_true, List.length_cons]
        simp only [Bool.false_eq_true, if_false]
        omega

/-- `visit` of the cycle check: whether `target` is reached from a task of the stack along the
edges, `seen` being the tasks visited before. -/
def reachesTask (edges : List WorkDependencyRecord) (target : String) (stack seen : List String) :
    Bool :=
  match stack with
  | [] => false
  | taskId :: rest =>
    if taskId = target then true
    else if taskId ∈ seen then reachesTask edges target rest seen
    else reachesTask edges target (targetsOf edges taskId ++ rest) (taskId :: seen)
  termination_by stack.length + (edgesOutside edges seen).length
  decreasing_by
    · simp
    next hseen =>
      rw [length_edgesOutside edges hseen, List.length_append, List.length_cons]
      omega

def assertNoDependencyCycle (state : WorkState) (proposed : WorkDependencyRecord) :
    Except String Unit :=
  if isBlockingDependency proposed then
    refuseIf (reachesTask (state.dependencies.filter isBlockingDependency ++ [proposed])
      proposed.taskId [proposed.dependsOnTaskId] [] = true) "dependency would create a cycle"
  else .ok ()

structure WorkDependencyInput where
  (taskId dependsOnTaskId : String)
  type : WorkDependencyType := .blocks

def addWorkDependencyInState (input : WorkDependencyInput) (state : WorkState) :
    Except String WorkState := do
  let taskId ← normalizeRequiredString input.taskId "taskId" 120
  let dependsOnTaskId ← normalizeRequiredString input.dependsOnTaskId "dependsOnTaskId" 120
  let record : WorkDependencyRecord := { taskId, dependsOnTaskId, type := input.type }
  refuseIf (taskId = dependsOnTaskId) "task cannot depend on itself"
  let _ ← orThrow (state.tasks.get taskId) ("task not found: " ++ taskId)
  let _ ← orThrow (state.tasks.get dependsOnTaskId)
    ("dependency task not found: " ++ dependsOnTaskId)
  if record ∈ state.dependencies then return state
  assertNoDependencyCycle state record
  return { state with dependencies := state.dependencies ++ [record] }

inductive WorkTaskReadinessStatus where
  | runnable | blocked | waiting | scheduled | paused | running | done
  deriving DecidableEq

/-- `calculateTaskReadiness(task, state).status`. -/
def calculateTaskReadiness (taskId : String) (task : WorkTaskRecord) (state : WorkState)
    (now : Int) : WorkTaskReadinessStatus :=
  if task.status = .done ∨ task.status = .cancelled ∨ task.status = .archived then .done
  else if isTaskActiveStatus task.status then .running
  else if task.status = .paused then .paused
  else if task.status = .blocked then .blocked
  else if task.manualGate.isSome then .waiting
  else if (task.earliestStartAt.any fun earliest => now < earliest) then .scheduled
  else
    let blockers := state.dependencies.filter fun dep =>
      dep.taskId = taskId ∧ isBlockingDependency dep = true ∧
        (state.tasks.get dep.dependsOnTaskId).map WorkTaskRecord.status ≠ some .done
    if blockers.isEmpty then .runnable else .blocked

/-! ## Gates -/

structure HumanGateInput where
  type : HumanGateType
  roadmapId : Option String := none
  taskId : Option String := none
  runId : Option String := none
  stage : Option String := none
  reason : String
  scopeKey : Option String := none
  rejection : Option String := none

def HumanGateType.text : HumanGateType → String
  | taskStart => "task_start"
  | stageTransition => "stage_transition"
  | externalSideEffect => "external_side_effect"
  | budgetException => "budget_exception"
  | destructiveAction => "destructive_action"
  | credentialUse => "credential_use"
  | manual => "manual"

def ManualGate.text : ManualGate → String
  | approvalRequired => "approval_required"
  | credentialsRequired => "credentials_required"
  | externalDependency => "external_dependency"
  | waitingForUser => "waiting_for_user"

def manualGateReason : ManualGate → String
  | .approvalRequired => "Waiting for operator approval"
  | .credentialsRequired => "Waiting for credentials"
  | .externalDependency => "Waiting for an external dependency"
  | .waitingForUser => "Waiting for user input"

def humanGateTypeForManualGate : ManualGate → HumanGateType
  | .approvalRequired => .taskStart
  | .credentialsRequired => .credentialUse
  | .externalDependency => .externalSideEffect
  | .waitingForUser => .manual

def humanGateInputForManualTask (taskId : String) (task : WorkTaskRecord) : HumanGateInput :=
  let manualGate := task.manualGate.getD .waitingForUser
  { type := humanGateTypeForManualGate manualGate
    roadmapId := some task.roadmapId
    taskId := some taskId
    stage := some task.stage
    reason := manualGateReason manualGate
    scopeKey := some ("manual:" ++ taskId ++ ":" ++ manualGate.text) }

def defaultHumanGateScopeKey (type : HumanGateType) (taskId roadmapId runId stage : Option String) :
    Option String :=
  match runId, taskId, roadmapId with
  | some runId, _, _ => some (type.text ++ ":run:" ++ runId)
  | none, some taskId, _ => some (type.text ++ ":task:" ++ taskId ++ ":" ++ stage.getD "")
  | none, none, some roadmapId =>
    some (type.text ++ ":roadmap:" ++ roadmapId ++ ":" ++ stage.getD "")
  | none, none, none => none

/-- The answer is the gate's id, if there is an open one for the asker. -/
def insertHumanGateRow (input : HumanGateInput) (force : Bool) (state : WorkState) :
    Except String (Option String × WorkState) := do
  let taskId := normalizeOptionalString input.taskId 120
  let roadmapId := normalizeOptionalString input.roadmapId 120
  let runId := normalizeOptionalString input.runId 120
  let stage ← normalizeOptionalStage input.stage "stage"
  let reason ← normalizeRequiredString input.reason "reason" 1000
  rejectUnread input.rejection
  let scopeKey := (normalizeOptionalString input.scopeKey 300).orElse fun _ =>
    defaultHumanGateScopeKey input.type taskId roadmapId runId stage
  let ofScope := state.gates.entries.filter fun (_, gate) =>
    force = false ∧ scopeKey.isSome ∧ gate.scopeKey = scopeKey
  if ofScope.any fun (_, gate) => gate.status = .approved then return (none, state)
  match ofScope.find? fun (_, gate) => isOpenHumanGateStatus gate.status with
  | some (id, _) => return (some id, state)
  | none =>
    let (id, state) := platform.drawId "gate_" state
    let gate : HumanGateRecord :=
      { type := input.type, status := .pending, scope := none,
        roadmapId, taskId, runId, stage, reason, scopeKey }
    return (some id, { state with gates := state.gates.set id gate })

/-- `if (task.manualGate) insertHumanGateRow(db, humanGateInputForManualTask(task), …)`. -/
def insertManualGate (taskId : String) (state : WorkState) : Except String WorkState :=
  match state.tasks.get taskId with
  | none => .ok state
  | some task =>
    if task.manualGate.isSome then
      (insertHumanGateRow platform (humanGateInputForManualTask taskId task) false state).map
        Prod.snd
    else .ok state

/-! ## One task -/

structure WorkTaskCreateInput where
  title : String
  description : Option String := none
  roadmapId : Option String := none
  pipeline : Option (List String) := none
  dependsOn : List String := []
  note : Option String := none
  earliestStartAt : Option Int := none
  manualGate : Option ManualGate := none
  qualitySpec : Option TaskQualitySpec := none
  idempotencyKey : Option String := none
  sourceType : Option String := none
  rejection : Option String := none

def newWorkTask (input : WorkTaskCreateInput) (pipeline : Pipeline) (roadmapId title : String)
    (sourceType : String) (sourceKey : Option String) : WorkTaskRecord where
  roadmapId := roadmapId
  title := title
  description := (normalizeOptionalString input.description 10000).getD title
  status := .pending
  pipeline := pipeline
  currentStage := some pipeline.first
  currentRunId := none
  attempts := .empty
  note := normalizeOptionalString input.note 5000
  earliestStartAt := input.earliestStartAt
  manualGate := input.manualGate
  qualitySpec := input.qualitySpec.map normalizeTaskQualitySpec
  sourceType := sourceType
  sourceKey := sourceKey

def createWorkTaskInState (input : WorkTaskCreateInput) (state : WorkState) :
    Except String (String × WorkState) := do
  let pipeline ← normalizeTaskPipeline input.pipeline defaultPipeline
  let roadmapId := (Text.truthy input.roadmapId).getD inboxRoadmapId
  let state := if (Text.truthy input.roadmapId).isNone then ensureInboxRoadmap state else state
  assertRoadmapAcceptsTasks state roadmapId
  let title ← normalizeRequiredString input.title "title" 120
  let sourceKey := normalizeOptionalString input.idempotencyKey 200
  let sourceType := if sourceKey.isSome then
    (normalizeOptionalString input.sourceType 80).getD "external" else "manual"
  match state.tasks.entries.find? fun (_, task) =>
      sourceKey.isSome ∧ task.sourceType = sourceType ∧ task.sourceKey = sourceKey with
  | some (id, _) => return (id, state)
  | none =>
    rejectUnread input.rejection
    let (id, state) := platform.drawId "task_" state
    let task := newWorkTask input pipeline roadmapId title sourceType sourceKey
    let state := { state with tasks := state.tasks.set id task }
    let state ← input.dependsOn.foldlM (fun state dependsOnTaskId =>
      addWorkDependencyInState { taskId := id, dependsOnTaskId } state) state
    let state ← insertManualGate platform id (recomputeRoadmapStatusInState roadmapId state)
    return (id, state)

structure WorkTaskUpdateInput where
  title : Option String := none
  description : Option String := none
  roadmapId : Option String := none
  pipeline : Option (List String) := none
  currentStage : Option String := none
  note : Option String := none
  earliestStartAt : Option (Option Int) := none
  manualGate : Option (Option ManualGate) := none
  qualitySpec : Option (Option TaskQualitySpec) := none
  status : Option WorkStatus := none
  rejection : Option String := none

def WorkTaskUpdateInput.nextPipeline (input : WorkTaskUpdateInput) (pipeline : Pipeline) :
    Except String Pipeline :=
  match input.pipeline with
  | some stages => normalizeTaskPipeline (some stages) pipeline
  | none => .ok pipeline

def validateTaskUpdate (state : WorkState) (task : WorkTaskRecord) (input : WorkTaskUpdateInput) :
    Except String Unit := do
  refuseIf (input.status = some .running) "running status is reserved for scheduler run dispatch"
  assertRoadmapAcceptsTasks state (input.roadmapId.getD task.roadmapId)
  let pipeline ← input.nextPipeline task.pipeline
  match input.currentStage with
  | some given =>
    let currentStage ← normalizeOptionalStage (some given) "currentStage"
    refuseIf (currentStage.any (fun stage => stage ∉ pipeline.stages))
      ("currentStage must be in pipeline: " ++ currentStage.getD "")
  | none =>
    refuseIf (task.status = .running ∧
        (Text.truthy task.currentStage).any (fun stage => stage ∉ pipeline.stages))
      ("currentStage must be in pipeline: " ++ task.currentStage.getD "")
  rejectUnread input.rejection

def applyStatusUpdate (status : WorkStatus) (task : WorkTaskRecord) : WorkTaskRecord :=
  let task := { task with
    status := status
    currentRunId := if isTaskActiveStatus status then task.currentRunId else none
    currentStage := if isTaskRunOwnershipTerminalStatus status && status ≠ .blocked then none
      else task.currentStage }
  if status = .pending && (Text.truthy task.currentStage).isNone then
    { task with currentStage := some task.pipeline.first }
  else task

def updatedText (input : Option String) (held label : String) (maxLength : Nat) :
    Except String String :=
  match input with
  | some text => normalizeRequiredString text label maxLength
  | none => .ok held

def WorkTaskUpdateInput.nextStage (input : WorkTaskUpdateInput) (task : WorkTaskRecord)
    (pipeline : Pipeline) : Except String (Option String) :=
  match input.currentStage with
  | some given => normalizeOptionalStage (some given) "currentStage"
  | none => .ok (if input.pipeline.isSome && (Text.truthy task.currentStage).any
      (fun stage => stage ∉ pipeline.stages) then some pipeline.first else task.currentStage)

def applyTaskUpdate (task : WorkTaskRecord) (input : WorkTaskUpdateInput) :
    Except String WorkTaskRecord := do
  let title ← updatedText input.title task.title "title" 120
  let description ← updatedText input.description task.description "description" 10000
  let pipeline ← input.nextPipeline task.pipeline
  let currentStage ← input.nextStage task pipeline
  let task := { task with
    title, description, pipeline, currentStage
    roadmapId := input.roadmapId.getD task.roadmapId
    note := if input.note.isSome then normalizeOptionalString input.note 5000 else task.note
    earliestStartAt := input.earliestStartAt.getD task.earliestStartAt
    manualGate := input.manualGate.getD task.manualGate
    qualitySpec := match input.qualitySpec with
      | some spec => spec.map normalizeTaskQualitySpec
      | none => task.qualitySpec }
  return match input.status with
    | some status => applyStatusUpdate status task
    | none => task

end OpenCowork.Gateway
