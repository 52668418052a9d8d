import Mathlib.Data.List.Sort
import OpenCowork.Gateway.ProjectBindings

/-! # Projects and delegations

A call may make a roadmap with its tasks, a supervisor and a binding in one transaction. The
receipt under its idempotency key remembers what it made.
-/

namespace OpenCowork.Gateway

open Foundation

variable (platform : ProjectPlatform) (id : String) (taskIds : List String)
  (input : SupervisedProjectCreateInput) (project : DelegatedProjectInput)
  (operation : WorkOperation) (roadmapId : String) (idempotencyKey : String)
  (receipt : DelegatedWorkReceipt) (objective : String) (now : Int) (state : ProjectState)

/-! ## Supervisors -/

/-- `rejection` is what the checks of the other fields throw. -/
structure RoadmapSupervisorInput where
  sessionId : String
  profile : Option String := none
  status : Option RoadmapSupervisorStatus := none
  isDefault : Bool := false
  rejection : Option String := none

/-- `normalizeOptionalIdentifier(input.profile, 'profile') || 'supervisor'`. -/
def normalizeSupervisorProfile (input : Option String) : Except String String := do
  let given ← normalizeOptionalStage input "profile"
  let profile := given.getD "supervisor"
  refuseIf (platform.hasProfile profile = false) ("profile not found: " ++ profile)
  return profile

def createRoadmapSupervisorInState (input : RoadmapSupervisorInput) (now : Int)
    (state : ProjectState) : Except String (String × RoadmapSupervisorRecord × ProjectState) := do
  let roadmapId ← normalizeRequiredString roadmapId "roadmapId" 120
  let roadmap ← orThrow (state.work.roadmaps.get roadmapId) ("roadmap not found: " ++ roadmapId)
  refuseIf (roadmap.status = .archived) ("roadmap is archived: " ++ roadmapId)
  let status := input.status.getD .active
  refuseIf (status = .archived) "cannot create an archived roadmap supervisor"
  let profile ← normalizeSupervisorProfile platform input.profile
  let sessionId ← normalizeRequiredString input.sessionId "sessionId" 200
  rejectUnread input.rejection
  let (id, work) := platform.drawId "supervisor_" state.work
  let supervisor : RoadmapSupervisorRecord :=
    { roadmapId, sessionId, profile, status, isDefault := input.isDefault, createdAt := now }
  return (id, supervisor, { state with
    work, supervisors := state.supervisors.set id supervisor })

abbrev SupervisorEntry := String × RoadmapSupervisorRecord

def compareRoadmapSupervisors (a b : SupervisorEntry) : Ordering :=
  let roadmap := platform.localeCompare a.2.roadmapId b.2.roadmapId
  if roadmap ≠ .eq then roadmap
  else if a.2.status = .active ∧ b.2.status ≠ .active then .lt
  else if a.2.status ≠ .active ∧ b.2.status = .active then .gt
  else if a.2.isDefault ≠ b.2.isDefault then if a.2.isDefault then .lt else .gt
  else
    let created := compare a.2.createdAt b.2.createdAt
    if created ≠ .eq then created else platform.localeCompare a.1 b.1

/-- `supervisors.sort(compareRoadmapSupervisors)[0]`. -/
def firstSupervisor (supervisors : List SupervisorEntry) : Option SupervisorEntry :=
  (supervisors.insertionSort fun a b =>
    compareRoadmapSupervisors platform a b ≠ .gt).head?

def reconcileDefaultSupervisorInState (preferredSupervisorId : Option String)
    (state : ProjectState) : ProjectState :=
  let active := state.supervisors.entries.filter fun (_, supervisor) =>
    supervisor.roadmapId = roadmapId ∧ supervisor.status = .active
  let preferred := active.find? fun (id, _) => some id = preferredSupervisorId
  let existingDefault := firstSupervisor platform (active.filter fun (_, supervisor) =>
    supervisor.isDefault)
  let selected := (preferred.or existingDefault).or (firstSupervisor platform active)
  { state with supervisors := state.supervisors.mapWithKey fun id supervisor =>
      if supervisor.roadmapId = roadmapId then
        { supervisor with isDefault := selected.any fun (other, _) => id = other }
      else supervisor }

/-- A supervisor is created and, where it asks to be, made the default. -/
def addSupervisorInState (input : RoadmapSupervisorInput) (now : Int)
    (state : ProjectState) : Except String (String × RoadmapSupervisorRecord × ProjectState) := do
  let (id, supervisor, state) ← createRoadmapSupervisorInState platform roadmapId input now state
  return (id, supervisor, reconcileDefaultSupervisorInState platform supervisor.roadmapId
    (if supervisor.isDefault then some id else none) state)

def createRoadmapSupervisor (input : RoadmapSupervisorInput) (now : Int)
    (state : ProjectState) : Except String (ProjectAnswer × ProjectState) := do
  let (id, _, state) ← addSupervisorInState platform roadmapId input now state
  return (.supervisor id, state)

structure RoadmapSupervisorUpdateInput where
  sessionId : Option String := none
  profile : Option String := none
  status : Option RoadmapSupervisorStatus := none
  isDefault : Option Bool := none
  rejection : Option String := none

def applyRoadmapSupervisorUpdate (supervisor : RoadmapSupervisorRecord)
    (input : RoadmapSupervisorUpdateInput) : Except String RoadmapSupervisorRecord := do
  let roadmap ← orThrow (state.work.roadmaps.get supervisor.roadmapId)
    ("roadmap not found: " ++ supervisor.roadmapId)
  refuseIf (roadmap.status = .archived ∧ (supervisor.status ≠ .archived ∨
    (input.status.any fun status => status ≠ .archived) = true))
    ("roadmap is archived: " ++ supervisor.roadmapId)
  let sessionId ← updatedText input.sessionId supervisor.sessionId "sessionId" 200
  let profile ← match input.profile with
    | some given => normalizeSupervisorProfile platform (some given)
    | none => .ok supervisor.profile
  refuseIf (input.status = some .archived) "use roadmap_supervisor_archive to archive a supervisor"
  rejectUnread input.rejection
  return { supervisor with
    sessionId, profile
    status := input.status.getD supervisor.status
    isDefault := input.isDefault.getD supervisor.isDefault }

def updateRoadmapSupervisor (input : RoadmapSupervisorUpdateInput)
    (state : ProjectState) : Except String (ProjectAnswer × ProjectState) :=
  match state.supervisors.get id with
  | none => .ok (.nothing, state)
  | some supervisor => do
      let supervisor ← applyRoadmapSupervisorUpdate platform state supervisor input
      return (.supervisor id, reconcileDefaultSupervisorInState platform supervisor.roadmapId
        (if supervisor.isDefault then some id else none)
        { state with supervisors := state.supervisors.set id supervisor })

/-- A supervisor that is put away. -/
def RoadmapSupervisorRecord.archive (supervisor : RoadmapSupervisorRecord) :
    RoadmapSupervisorRecord :=
  { supervisor with status := .archived, isDefault := false }

def archiveRoadmapSupervisor : ProjectAnswer × ProjectState :=
  match state.supervisors.get id with
  | none => (.nothing, state)
  | some supervisor =>
    (.supervisor id, reconcileDefaultSupervisorInState platform supervisor.roadmapId none
      { state with supervisors := state.supervisors.set id supervisor.archive })

/-! ## Receipts -/

def findDelegationReceiptInDb (idempotencyKey : String) :
    Option DelegatedWorkReceipt :=
  if idempotencyKey = "" then none else state.delegationReceipts.get idempotencyKey

def upsertDelegationReceiptRow : ProjectState :=
  { state with delegationReceipts := state.delegationReceipts.set idempotencyKey receipt }

structure DelegatedObjects where
  roadmapId : Option String
  taskIds : List String
  (supervisorId projectBindingId : Option String)
  deriving DecidableEq

def receiptLinks (made : DelegatedObjects) : List (String × String) :=
  (made.roadmapId.map fun id => ("roadmap", "/roadmaps/" ++ id)).toList ++
    (match made.taskIds with
      | [] => []
      | [id] => [("task", "/tasks/" ++ id)]
      | _ => [("tasks", "/tasks?roadmapId=" ++ made.roadmapId.getD "")]) ++
    (made.supervisorId.map fun id => ("supervisor", "/roadmap-supervisors/" ++ id)).toList ++
    (made.projectBindingId.map fun id => ("projectBinding", "/project-bindings/" ++ id)).toList

def nextDelegationSchedulerAction (tasks : List WorkTaskRecord) (supervised : Bool) (now : Int) :
    String :=
  if tasks.any fun task => task.manualGate.isSome then "await_human_gate"
  else if tasks.any fun task => task.earliestStartAt.any fun earliest => now < earliest then
    "scheduled_for_earliest_start"
  else if !tasks.isEmpty then "dispatch_when_scheduler_runs"
  else if supervised then "roadmap_supervisor_review_when_due"
  else "none"

def delegatedWorkReceipt (targetType : String) (made : DelegatedObjects)
    (parentSessionId : Option String) (now : Int) (state : ProjectState) :
    DelegatedWorkReceipt where
  targetType := targetType
  taskIds := made.taskIds
  roadmapId := made.roadmapId
  supervisorId := made.supervisorId
  projectBindingId := made.projectBindingId
  parentSessionId := Text.truthy parentSessionId
  links := receiptLinks made
  nextSchedulerAction := nextDelegationSchedulerAction
    (made.taskIds.filterMap state.work.tasks.get) made.supervisorId.isSome now

def supervisedProjectResultFromReceipt : Except String ProjectAnswer := do
  let roadmapId ← orThrow (receipt.roadmapId.filter fun id => (state.work.roadmaps.get id).isSome)
    ("project create receipt references missing roadmap: " ++ idempotencyKey)
  let supervisorId ← orThrow
    (match receipt.supervisorId with
      | some supervisorId =>
        (state.supervisors.entries.find? fun (id, _) => id = supervisorId).map Prod.fst
      | none => (state.supervisors.entries.find? fun (_, supervisor) =>
        supervisor.roadmapId = roadmapId && supervisor.isDefault).map Prod.fst)
    ("project create receipt references missing supervisor: " ++ idempotencyKey)
  let bindingId ← orThrow
    (match receipt.projectBindingId with
      | some bindingId =>
        (state.projectBindings.entries.find? fun (id, _) => id = bindingId).map Prod.fst
      | none => (state.projectBindings.entries.find? fun (_, binding) =>
        binding.roadmapId = roadmapId).map Prod.fst)
    ("project create receipt references missing project binding: " ++ idempotencyKey)
  let tasks := state.work.tasks.entries.filter fun (id, task) =>
    task.roadmapId = roadmapId && (receipt.taskIds.isEmpty || receipt.taskIds.contains id)
  return .project roadmapId (tasks.map Prod.fst) supervisorId bindingId true

def updateDelegationReceiptsForDeletion (roadmapId : Option String)
    (supervisorIds projectBindingIds : List String) (state : ProjectState) : ProjectState :=
  { state with delegationReceipts := state.delegationReceipts.map fun receipt =>
      { receipt with
        taskIds := receipt.taskIds.filter fun id => id ∉ taskIds
        roadmapId := receipt.roadmapId.filter fun id => some id ≠ roadmapId
        supervisorId := receipt.supervisorId.filter fun id => id ∉ supervisorIds
        projectBindingId := receipt.projectBindingId.filter fun id => id ∉ projectBindingIds } }

/-! ## Calls that make several objects -/

/-- `binding.roadmapId` is not read. -/
structure SupervisedProjectCreateInput where
  idempotencyKey : Option String := none
  roadmap : RoadmapInput
  tasks : List WorkTaskCreateInput := []
  supervisor : RoadmapSupervisorInput
  binding : ProjectBindingInput

/-- The answer is what was made, and the session of the supervisor. -/
def makeSupervisedProject :
    Except String ((String × List String × String × String) × String × ProjectState) := do
  let (roadmapId, work) ←
    createRoadmapInState platform.toWorkPlatform input.roadmap state.work
  let (taskIds, work) ← createWorkTasksInState platform.toWorkPlatform
    (input.tasks.map fun task => task.withRoadmap (some roadmapId)) work
  let (supervisorId, supervisor, state) ← addSupervisorInState platform roadmapId input.supervisor
    now { state with work := recomputeRoadmapStatusInState roadmapId work }
  let title := (Text.truthy input.binding.title).or
    ((state.work.roadmaps.get roadmapId).map RoadmapRecord.title)
  let (bindingId, _, state) ← bindProjectInState platform
    { input.binding with roadmapId, title } state
  return ((roadmapId, taskIds, supervisorId, bindingId), supervisor.sessionId, state)

def SupervisedProjectCreateInput.key : Option String :=
  normalizeOptionalString input.idempotencyKey 240

def createSupervisedProject : Except String (ProjectAnswer × ProjectState) :=
  match input.key.bind fun key => (findDelegationReceiptInDb state key).map fun receipt =>
    (key, receipt) with
  | some (key, existing) => do
      refuseIf (existing.targetType ≠ "project_create")
        ("idempotency key already used for " ++ existing.targetType ++ ": " ++ key)
      let answer ← supervisedProjectResultFromReceipt key existing state
      return (answer, state)
  | none => do
      let ((roadmapId, taskIds, supervisorId, bindingId), sessionId, state) ←
        makeSupervisedProject platform input now state
      let made : DelegatedObjects :=
        { roadmapId := some roadmapId, taskIds, supervisorId := some supervisorId,
          projectBindingId := some bindingId }
      let receipt := delegatedWorkReceipt "project_create" made (some sessionId) now state
      return (.project roadmapId taskIds supervisorId bindingId false,
        match input.key with
        | some key => upsertDelegationReceiptRow key receipt state
        | none => state)

/-- `rejection` is what the checks of the roadmap's other fields throw; `binding.roadmapId` is
not read. -/
structure DelegatedProjectInput where
  roadmapId : Option String := none
  title : Option String := none
  rejection : Option String := none
  tasks : List WorkTaskCreateInput := []
  supervisor : Option RoadmapSupervisorInput := none
  binding : Option ProjectBindingInput := none

structure DelegatedWorkMutationInput where
  (idempotencyKey targetType objective : String)
  parentSessionId : Option String := none
  issue : Option WorkTaskCreateInput := none
  project : Option DelegatedProjectInput := none

def delegateIssueInState (issue : WorkTaskCreateInput) (state : ProjectState) :
    Except String (DelegatedObjects × ProjectState) := do
  let (id, work) ← createWorkTaskInState platform.toWorkPlatform issue state.work
  return ({
    roadmapId := issue.roadmapId.filter fun roadmapId => (work.roadmaps.get roadmapId).isSome
    taskIds := [id]
    supervisorId := none
    projectBindingId := none }, { state with work })

def delegatedRoadmapInState
    (work : WorkState) : Except String (String × WorkState) :=
  match Text.truthy project.roadmapId with
  | some roadmapId => do
      assertRoadmapAcceptsTasks work roadmapId
      return (roadmapId, work)
  | none => createRoadmapInState platform.toWorkPlatform
      { title := (Text.truthy project.title).getD objective, rejection := project.rejection } work

def delegateSupervisorInState (input : Option RoadmapSupervisorInput)
    (now : Int) (state : ProjectState) : Except String (Option String × ProjectState) :=
  match input with
  | none => .ok (none, state)
  | some input => do
      let (id, _, state) ← addSupervisorInState platform roadmapId input now state
      return (some id, state)

def delegateBindingInState (input : Option ProjectBindingInput)
    (state : ProjectState) : Except String (Option String × ProjectState) :=
  match input with
  | none => .ok (none, state)
  | some input => do
      let (id, binding, state) ←
        upsertProjectBindingInState platform { input with roadmapId } none state
      return (some id, upsertChannelBindingRow binding state)

def delegateProjectInState : Except String (DelegatedObjects × ProjectState) := do
  let (roadmapId, work) ← delegatedRoadmapInState platform project objective state.work
  let (taskIds, work) ← createWorkTasksInState platform.toWorkPlatform
    (project.tasks.map fun task => { task with roadmapId := some roadmapId }) work
  let (supervisorId, state) ← delegateSupervisorInState platform roadmapId project.supervisor now
    { state with work := recomputeRoadmapStatusInState roadmapId work }
  let (projectBindingId, state) ← delegateBindingInState platform roadmapId project.binding state
  return ({ roadmapId := some roadmapId, taskIds, supervisorId, projectBindingId }, state)

def makeDelegatedWork (input : DelegatedWorkMutationInput) (now : Int) (state : ProjectState) :
    Except String (DelegatedObjects × ProjectState) :=
  match input.issue, input.project with
  | some issue, _ => delegateIssueInState platform issue state
  | none, some project => delegateProjectInState platform project input.objective now state
  | none, none => .error "delegation mutation requires issue or project input"

def createDelegatedWork (input : DelegatedWorkMutationInput) (now : Int) (state : ProjectState) :
    Except String (ProjectAnswer × ProjectState) :=
  match findDelegationReceiptInDb state input.idempotencyKey with
  | some existing => .ok (.delegated existing true, state)
  | none => do
      let (made, state) ← makeDelegatedWork platform input now state
      let receipt := delegatedWorkReceipt input.targetType made input.parentSessionId now state
      return (.delegated receipt false,
        upsertDelegationReceiptRow input.idempotencyKey receipt state)

/-! ## Histories of operations -/

/-- `rows` are the channel bindings of the tasks. -/
def cleanupDeletedTaskReferences : ProjectState :=
  { state with channelBindings := state.channelBindings.filter fun _ row =>
      row.taskId.all fun id => id ∉ taskIds }

def ProjectState.bindingsOf (roadmapId : String) :
    List (String × ProjectBindingRecord) :=
  state.projectBindings.entries.filter fun entry => entry.2.roadmapId = roadmapId

def ProjectState.supervisorIdsOf (roadmapId : String) : List String :=
  (state.supervisors.entries.filter fun entry => entry.2.roadmapId = roadmapId).map Prod.fst

def withoutRoadmapRows (before state : ProjectState) : ProjectState :=
  let taskIds := before.work.taskIdsOf roadmapId
  let cleaned := cleanupDeletedTaskReferences taskIds state
  let unbound := { cleaned with
    channelBindings := cleaned.channelBindings.filter fun _ row => row.roadmapId ≠ some roadmapId }
  let forgotten := updateDelegationReceiptsForDeletion taskIds (some roadmapId)
    (before.supervisorIdsOf roadmapId) ((before.bindingsOf roadmapId).map Prod.fst) unbound
  { forgotten with
    supervisors := forgotten.supervisors.filter fun _ supervisor =>
      supervisor.roadmapId ≠ roadmapId
    projectBindings := forgotten.projectBindings.filter fun _ binding =>
      binding.roadmapId ≠ roadmapId }

def dropRoadmapRows (before state : ProjectState) : ProjectState :=
  deleteProjectBindingChannelRows ((before.bindingsOf roadmapId).map Prod.snd)
    (withoutRoadmapRows roadmapId before state)

def followWork (before : ProjectState) (work : WorkState) :
    ProjectState :=
  let state := { before with work }
  match operation with
  | .archiveRoadmap roadmapId _ =>
    if (before.work.roadmaps.get roadmapId).isSome then
      { state with supervisors := state.supervisors.map fun supervisor =>
          if supervisor.roadmapId = roadmapId ∧ supervisor.status ≠ .archived then
            supervisor.archive
          else supervisor }
    else state
  | .deleteRoadmap roadmapId =>
    if (before.work.roadmaps.get roadmapId).isSome then dropRoadmapRows roadmapId before state
    else state
  | .deleteWorkTask id =>
    if (before.work.tasks.get id).isSome then
      updateDelegationReceiptsForDeletion [id] none [] []
        (cleanupDeletedTaskReferences [id] state)
    else state
  | _ => state

def performWork :
    Except String (ProjectAnswer × ProjectState) := do
  let (answer, work) ← attempt platform.toWorkPlatform now state.work operation
  return (.work answer, followWork operation state work)

/-- A plan with a supervisor is a plan and the creation of its supervisor. -/
inductive ProjectOperation where
  | work (operation : WorkOperation)
  | createRoadmapSupervisor (roadmapId : String) (input : RoadmapSupervisorInput)
  | updateRoadmapSupervisor (id : String) (input : RoadmapSupervisorUpdateInput)
  | archiveRoadmapSupervisor (id : String)
  | upsertProjectBinding (input : ProjectBindingInput)
  | updateProjectBinding (id : String) (input : ProjectBindingUpdateInput)
  | deleteProjectBinding (id : String)
  | createSupervisedProject (input : SupervisedProjectCreateInput)
  | createDelegatedWork (input : DelegatedWorkMutationInput)

/-- An operation and the reading of the clock while it runs. -/
structure ProjectInput where
  now : Int
  operation : ProjectOperation

def attemptProject :
    ProjectOperation → Except String (ProjectAnswer × ProjectState)
  | .work operation => performWork platform operation now state
  | .createRoadmapSupervisor roadmapId input =>
    createRoadmapSupervisor platform roadmapId input now state
  | .updateRoadmapSupervisor id input => updateRoadmapSupervisor platform id input state
  | .archiveRoadmapSupervisor id => .ok (archiveRoadmapSupervisor platform id state)
  | .upsertProjectBinding input => upsertProjectBinding platform input state
  | .updateProjectBinding id input => updateProjectBinding platform id input state
  | .deleteProjectBinding id => .ok (deleteProjectBinding id state)
  | .createSupervisedProject input => createSupervisedProject platform input now state
  | .createDelegatedWork input => createDelegatedWork platform input now state

/-- `mutateWorkState`: what throws is rolled back. -/
def performProject (input : ProjectInput) : ProjectAnswer × ProjectState :=
  match attemptProject platform input.now state input.operation with
  | .ok (answer, next) => (answer, next.reloaded)
  | .error error => (.refused error, state)

def projectStore : Machine ProjectState ProjectInput ProjectAnswer where
  step := performProject platform

end OpenCowork.Gateway
