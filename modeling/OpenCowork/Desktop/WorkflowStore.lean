import OpenCowork.ControlPlane.Workflows.Objects
import OpenCowork.Foundation.Checks
import OpenCowork.Foundation.Machine

/-! # The workflow store of the desktop

Workflows and their runs are rows of one local database, and every operation that
writes is one transaction: what throws leaves the rows as they were. Starting a
run, attaching its session and ending it write the workflow's row along with the
run's, each by its own rule. The next instant of a schedule depends on its time zone.
-/

namespace OpenCowork.Desktop

open ControlPlane Foundation

/-- What a webhook trigger holds: the secret itself, or the record the safe
storage of the system has made of it. -/
inductive WebhookSecret where
  | text (secret : String)
  | encrypted (value : String)
  deriving DecidableEq

structure InternalWorkflowTrigger (Schedule : Type) where
  id : String
  type : WorkflowTriggerType
  enabled : Bool
  schedule : Option Schedule
  webhookSecret : Option WebhookSecret
  deriving DecidableEq

inductive SecretStorageMode where
  | encrypted | plaintext | unavailable
  deriving DecidableEq

structure WorkflowSecretStorageAdapter where
  mode : SecretStorageMode
  encryptString : Option (String → String)
  /-- `none` where the storage throws on the payload. -/
  decryptString : Option (String → Option String)

structure DesktopHost (Schedule : Type) where
  computeNextWorkflowScheduleRunAt : Schedule → Int → Option Int
  secretStorage : WorkflowSecretStorageAdapter
  redactSecretText : String → Nat → String
  /-- The `n`-th id that `crypto.randomUUID` hands out. -/
  randomUUID : Nat → String
  randomUUID_injective : Function.Injective randomUUID

variable {Schedule : Type} (host : DesktopHost Schedule)
  (triggers : List (InternalWorkflowTrigger Schedule)) (storage : WorkflowSecretStorageAdapter)

def computeNextWorkflowRunAt (now : Int) :
    Option Int :=
  let candidates := triggers.filterMap fun trigger =>
    if trigger.enabled ∧ trigger.type = .schedule then
      trigger.schedule.bind (host.computeNextWorkflowScheduleRunAt · now)
    else none
  (candidates.insertionSort (· ≤ ·)).head?

def WebhookSecret.isText : WebhookSecret → Bool
  | .text secret => secret ≠ ""
  | .encrypted _ => false

/-- `activeWebhookSecret(triggers) !== null`. -/
def hasActiveWebhookSecret : Bool :=
  triggers.any fun trigger =>
    trigger.type = .webhook ∧ trigger.enabled ∧ trigger.webhookSecret.any WebhookSecret.isText

def encodeWebhookSecretForStorage :
    Option WebhookSecret → Except String (Option WebhookSecret)
  | some (.encrypted value) => .ok (some (.encrypted value))
  | none | some (.text "") => .ok none
  | some (.text secret) =>
    match storage.mode with
    | .encrypted =>
      match storage.encryptString with
      | none => .error "Electron safeStorage is unavailable"
      | some encryptString => .ok (some (.encrypted (encryptString secret)))
    | .plaintext => .ok (some (.text secret))
    | .unavailable => .error ("Secure storage unavailable on this system. Open Cowork " ++
        "cannot persist workflow webhook secrets in production without OS-backed secret storage.")

def decodeWebhookSecretFromStorage :
    Option WebhookSecret → Option WebhookSecret
  | none => none
  | some (.encrypted value) =>
    match storage.decryptString.bind (· value) with
    | some secret => some (.text secret)
    | none => some (.encrypted value)
  | some (.text secret) => if Text.trim secret = "" then none else some (.text secret)

def serializeWorkflowTriggersForStorage :
    Except String (List (InternalWorkflowTrigger Schedule)) :=
  triggers.mapM fun trigger =>
    if trigger.type = .webhook then do
      let webhookSecret ← encodeWebhookSecretForStorage host.secretStorage trigger.webhookSecret
      return { trigger with webhookSecret }
    else .ok trigger

def parseWorkflowTriggersFromStorage :
    List (InternalWorkflowTrigger Schedule) :=
  triggers.map fun trigger =>
    if trigger.type = .webhook then
      { trigger with
        webhookSecret := decodeWebhookSecretFromStorage host.secretStorage trigger.webhookSecret }
    else trigger

def maxWorkflowListItems : Nat := 50

structure WorkflowStep where
  (id title : String)
  detail : Option String
  deriving DecidableEq

/-- A draft as `normalizeWorkflowDraft` returns it. -/
structure WorkflowDraft (Schedule : Type) where
  (title instructions agentName : String)
  (skillNames toolIds : List String)
  steps : List WorkflowStep
  (projectDirectory draftSessionId : Option String)
  triggers : List (InternalWorkflowTrigger Schedule)
  deriving DecidableEq

/-- A row of `workflows`. The draft's triggers are those in storage. -/
structure WorkflowRow (Schedule : Type) where
  draft : WorkflowDraft Schedule
  status : WorkflowStatus
  (createdAt updatedAt : Int)
  (nextRunAt lastRunAt : Option Int)
  latestRunId : Option String
  latestRunStatus : Option WorkflowRunStatus
  (latestRunSessionId latestRunSummary : Option String)
  deriving DecidableEq

/-- What started a run: the caller's own JSON text, or the instant it was due. -/
inductive TriggerPayload where
  | given (payload : String)
  | scheduledFor (time : Int)
  deriving DecidableEq

/-- A row of `workflow_runs`. -/
structure WorkflowRun where
  workflowId : String
  sessionId : Option String
  triggerType : WorkflowTriggerType
  triggerPayload : Option TriggerPayload
  status : WorkflowRunStatus
  title : String
  (summary error : Option String)
  createdAt : Int
  (startedAt finishedAt : Option Int)
  deriving DecidableEq

structure WorkflowDb (Schedule : Type) where
  workflows : OrderedMap String (WorkflowRow Schedule)
  runs : OrderedMap String WorkflowRun
  projectionVersion : Nat
  /-- How many ids have been drawn. -/
  drawn : Nat

variable {Schedule : Type} (host : DesktopHost Schedule)

namespace WorkflowDb

def empty : WorkflowDb Schedule where
  workflows := OrderedMap.empty
  runs := OrderedMap.empty
  projectionVersion := 0
  drawn := 0

def bumpWorkflowProjectionVersion (db : WorkflowDb Schedule) : WorkflowDb Schedule :=
  { db with projectionVersion := db.projectionVersion + 1 }

def updateWorkflow (workflowId : String) (write : WorkflowRow Schedule → WorkflowRow Schedule)
    (db : WorkflowDb Schedule) : WorkflowDb Schedule :=
  { db with workflows := db.workflows.modify workflowId write }

def updateRun (runId : String) (write : WorkflowRun → WorkflowRun) (db : WorkflowDb Schedule) :
    WorkflowDb Schedule :=
  { db with runs := db.runs.modify runId write }

def insertWorkflow (workflowId : String) (row : WorkflowRow Schedule) (db : WorkflowDb Schedule) :
    WorkflowDb Schedule :=
  { db with workflows := db.workflows.set workflowId row, drawn := db.drawn + 1 }

def insertRun (runId : String) (run : WorkflowRun) (db : WorkflowDb Schedule) :
    WorkflowDb Schedule :=
  { db with runs := db.runs.set runId run, drawn := db.drawn + 1 }

end WorkflowDb

open WorkflowDb

/-- A run as it is returned, with the number its projection fence is made of. -/
structure FencedRun where
  id : String
  run : WorkflowRun
  projectionFence : Option Nat

def getWorkflowRun (db : WorkflowDb Schedule) (runId : String) (projectionFence : Option Nat) :
    Option FencedRun :=
  (db.runs.get runId).map fun run => ⟨runId, run, projectionFence⟩

def createWorkflow (normalized : WorkflowDraft Schedule) (now : Int) (db : WorkflowDb Schedule) :
    Except String (String × WorkflowDb Schedule) := do
  let id := host.randomUUID db.drawn
  let triggers ← serializeWorkflowTriggersForStorage host normalized.triggers
  return (id, (db.insertWorkflow id
    { draft := { normalized with triggers }
      status := .active
      createdAt := now
      updatedAt := now
      nextRunAt := computeNextWorkflowRunAt host normalized.triggers now
      lastRunAt := none
      latestRunId := none
      latestRunStatus := none
      latestRunSessionId := none
      latestRunSummary := none }).bumpWorkflowProjectionVersion)

def triggersOf (db : WorkflowDb Schedule) (workflowId : String) :
    List (InternalWorkflowTrigger Schedule) :=
  match db.workflows.get workflowId with
  | some row => parseWorkflowTriggersFromStorage host row.draft.triggers
  | none => []

def updateWorkflowStatus (workflowId : String) (status : WorkflowStatus) (now : Int)
    (db : WorkflowDb Schedule) : Except String (WorkflowDb Schedule) := do
  let triggers := triggersOf host db workflowId
  refuseIf (status = .active ∧ (triggers.any fun trigger =>
      trigger.type = .webhook ∧ trigger.enabled) ∧ hasActiveWebhookSecret triggers = false)
    "Regenerate the workflow webhook secret before restoring this playbook."
  let storedTriggers := if status = .archived then triggers.map fun trigger =>
      if trigger.type = .webhook then { trigger with webhookSecret := none } else trigger
    else triggers
  let nextRunAt := if status = .active then computeNextWorkflowRunAt host triggers now else none
  let stored ← serializeWorkflowTriggersForStorage host storedTriggers
  return (db.updateWorkflow workflowId fun row =>
    { row with
      status, nextRunAt, updatedAt := now
      draft := { row.draft with triggers := stored } }).bumpWorkflowProjectionVersion

def newRun (workflowId title : String) (triggerType : WorkflowTriggerType)
    (triggerPayload : Option TriggerPayload) (now : Int) : WorkflowRun where
  workflowId
  sessionId := none
  triggerType
  triggerPayload
  status := .queued
  title := "Run " ++ title
  summary := none
  error := none
  createdAt := now
  startedAt := none
  finishedAt := none

/-- What both ways of starting a run write to the workflow. -/
def queueOn (runId : String) (now : Int) (row : WorkflowRow Schedule) : WorkflowRow Schedule :=
  { row with
    status := .running
    latestRunId := some runId
    latestRunStatus := some .queued
    updatedAt := now }

def createWorkflowRun (workflowId : String) (triggerType : WorkflowTriggerType)
    (payload : Option String) (now : Int) (db : WorkflowDb Schedule) :
    Except String (Option FencedRun × WorkflowDb Schedule) := do
  let workflow ← orThrow (db.workflows.get workflowId) "Workflow not found."
  refuseIf (workflow.status = .archived) "Archived workflows cannot run."
  refuseIf (workflow.status = .paused) "Paused workflows cannot run."
  refuseIf (workflow.status = .running) "Workflow is already running."
  let id := host.randomUUID db.drawn
  let run := newRun workflowId workflow.draft.title triggerType (payload.map .given) now
  let db := ((db.insertRun id run).updateWorkflow workflowId
    (queueOn id now)).bumpWorkflowProjectionVersion
  return (getWorkflowRun db id (some db.projectionVersion), db)

def isDue (now : Int) (row : WorkflowRow Schedule) : Bool :=
  row.status = .active ∧ row.nextRunAt.any (· ≤ now)

def nextDueWorkflow (now : Int) (db : WorkflowDb Schedule) :
    Option (String × WorkflowRow Schedule) :=
  ((db.workflows.entries.filter fun entry => isDue now entry.2).insertionSort fun first second =>
    first.2.nextRunAt.getD 0 ≤ second.2.nextRunAt.getD 0).head?

/-- One turn of the loop per `attempt`: a due workflow without a schedule in use
only gets its next instant computed afresh. -/
def claimDueAttempts (now : Int) : Nat → WorkflowDb Schedule →
    Option FencedRun × WorkflowDb Schedule
  | 0, db => (none, db)
  | attempts + 1, db =>
    match nextDueWorkflow now db with
    | none => (none, db)
    | some (workflowId, workflow) =>
      let triggers := parseWorkflowTriggersFromStorage host workflow.draft.triggers
      if triggers.any fun trigger =>
          trigger.enabled ∧ trigger.type = .schedule ∧ trigger.schedule.isSome then
        let runId := host.randomUUID db.drawn
        let run := newRun workflowId workflow.draft.title .schedule
          (workflow.nextRunAt.map .scheduledFor) now
        let db := ((db.updateWorkflow workflowId (queueOn runId now)).insertRun runId
          run).bumpWorkflowProjectionVersion
        (getWorkflowRun db runId (some db.projectionVersion), db)
      else
        let nextRunAt := computeNextWorkflowRunAt host triggers now
        claimDueAttempts now attempts
          (db.updateWorkflow workflowId fun row => { row with nextRunAt, updatedAt := now })

def claimDueWorkflowRun (now : Int) (db : WorkflowDb Schedule) :
    Option FencedRun × WorkflowDb Schedule :=
  claimDueAttempts host now maxWorkflowListItems db

def attachWorkflowRunSession (workflowId runId sessionId : String) (now : Int)
    (db : WorkflowDb Schedule) : Option FencedRun × WorkflowDb Schedule :=
  let db := db.updateRun runId fun run =>
    { run with
      sessionId := some sessionId
      status := .running
      startedAt := some (run.startedAt.getD now) }
  let db := db.updateWorkflow workflowId fun row =>
    { row with
      latestRunId := some runId
      latestRunStatus := some .running
      latestRunSessionId := some sessionId
      updatedAt := now
      status := .running }
  let db := db.bumpWorkflowProjectionVersion
  (getWorkflowRun db runId (some db.projectionVersion), db)

/-- `completed`, `failed` and `cancelled`. -/
def hasEnded (status : WorkflowRunStatus) : Bool :=
  status = .completed || status = .failed || status = .cancelled

/-- `paused` and `archived`, the two statuses that a run of the workflow leaves. -/
def isHalted (status : WorkflowStatus) : Bool := status = .paused || status = .archived

def statusAfterRun (status : WorkflowStatus) : WorkflowStatus :=
  if isHalted status then status else .active

/-- What the end of a run writes to the workflow, with a next instant that each
way of ending computes by its own rule. -/
def endRunOf (runId : String) (status : WorkflowRunStatus) (summary : Option String) (now : Int)
    (nextRunAt : Option Int) (row : WorkflowRow Schedule) : WorkflowRow Schedule :=
  { row with
    status := statusAfterRun row.status
    latestRunId := some runId
    latestRunStatus := some status
    latestRunSummary := summary
    nextRunAt
    updatedAt := now }

def markWorkflowRunCompleted (runId : String) (summary : Option String) (now : Int)
    (db : WorkflowDb Schedule) : Option FencedRun × WorkflowDb Schedule :=
  match db.runs.get runId with
  | none => (none, db)
  | some run =>
    if hasEnded run.status then (getWorkflowRun db runId none, db)
    else
      let nextRunAt := match db.workflows.get run.workflowId with
        | some workflow =>
          if isHalted workflow.status then none
          else computeNextWorkflowRunAt host (triggersOf host db run.workflowId) now
        | none => none
      let db := (db.updateRun runId fun run =>
        { run with status := .completed, summary, finishedAt := some now }).updateWorkflow
          run.workflowId fun row =>
            { endRunOf runId .completed summary now nextRunAt row with lastRunAt := some now }
      let db := db.bumpWorkflowProjectionVersion
      (getWorkflowRun db runId (some db.projectionVersion), db)

/-- The next instant is computed for every workflow that exists, whatever its status. -/
def markWorkflowRunFailed (runId error : String) (now : Int) (db : WorkflowDb Schedule) :
    Option FencedRun × WorkflowDb Schedule :=
  match db.runs.get runId with
  | none => (none, db)
  | some run =>
    if hasEnded run.status then (getWorkflowRun db runId none, db)
    else
      let nextRunAt := match db.workflows.get run.workflowId with
        | some _ => computeNextWorkflowRunAt host (triggersOf host db run.workflowId) now
        | none => none
      let safeError := host.redactSecretText error 1000
      let db := (db.updateRun runId fun run =>
        { run with status := .failed, error := some safeError, finishedAt := some now }
          ).updateWorkflow run.workflowId (endRunOf runId .failed (some safeError) now nextRunAt)
      let db := db.bumpWorkflowProjectionVersion
      (getWorkflowRun db runId (some db.projectionVersion), db)

/-- One row of the recovery: the workflow is written only where this run is the
latest it knows of. -/
def recoverRun (error : String) (now : Int) (runId : String) (run : WorkflowRun)
    (db : WorkflowDb Schedule) : FencedRun × WorkflowDb Schedule :=
  let triggers := triggersOf host db run.workflowId
  let db := (db.updateRun runId fun run =>
    { run with status := .failed, error := some error, finishedAt := some now }).updateWorkflow
      run.workflowId fun row =>
        let nextRunAt :=
          if isHalted row.status then none else computeNextWorkflowRunAt host triggers now
        if row.latestRunId = some runId then endRunOf runId .failed (some error) now nextRunAt row
        else row
  let db := db.bumpWorkflowProjectionVersion
  (⟨runId, { run with status := .failed, error := some error, finishedAt := some now },
    some db.projectionVersion⟩, db)

def recoverRows (error : String) (now : Int) : List (String × WorkflowRun) →
    WorkflowDb Schedule → List FencedRun × WorkflowDb Schedule
  | [], db => ([], db)
  | (runId, run) :: rows, db =>
    let (recovered, db) := recoverRun host error now runId run db
    let (others, db) := recoverRows error now rows db
    (recovered :: others, db)

/-- The runs that have not ended, oldest first. -/
def interruptedRuns (db : WorkflowDb Schedule) : List (String × WorkflowRun) :=
  (db.runs.entries.filter fun entry =>
    entry.2.status = .queued || entry.2.status = .running).insertionSort fun first second =>
      first.2.createdAt ≤ second.2.createdAt

def recoverInterruptedWorkflowRuns (error : String) (now : Int) (db : WorkflowDb Schedule) :
    List FencedRun × WorkflowDb Schedule :=
  recoverRows host error now (interruptedRuns db) db

inductive UserStatus where
  | active | paused | archived
  deriving DecidableEq

def UserStatus.toStatus : UserStatus → WorkflowStatus
  | active => .active
  | paused => .paused
  | archived => .archived

inductive WorkflowOp (Schedule : Type) where
  | createWorkflow (normalized : WorkflowDraft Schedule)
  | updateWorkflowStatus (workflowId : String) (status : UserStatus)
  | createWorkflowRun (workflowId : String) (triggerType : WorkflowTriggerType)
      (payload : Option String)
  | claimDueWorkflowRun
  | attachWorkflowRunSession (workflowId runId sessionId : String)
  | markWorkflowRunCompleted (runId : String) (summary : Option String)
  | markWorkflowRunFailed (runId error : String)
  | recoverInterruptedWorkflowRuns (error : String)

structure WorkflowCall (Schedule : Type) where
  now : Int
  op : WorkflowOp Schedule

inductive WorkflowAnswer where
  | refused (error : String)
  | workflow (id : String)
  | run (run : Option FencedRun)
  | runs (runs : List FencedRun)

/-- `withTransaction`: what throws is rolled back. -/
def perform (db : WorkflowDb Schedule) (call : WorkflowCall Schedule) :
    WorkflowAnswer × WorkflowDb Schedule :=
  match call.op with
  | .createWorkflow normalized =>
    match createWorkflow host normalized call.now db with
    | .error error => (.refused error, db)
    | .ok (id, db) => (.workflow id, db)
  | .updateWorkflowStatus workflowId status =>
    match updateWorkflowStatus host workflowId status.toStatus call.now db with
    | .error error => (.refused error, db)
    | .ok db => (.workflow workflowId, db)
  | .createWorkflowRun workflowId triggerType payload =>
    match createWorkflowRun host workflowId triggerType payload call.now db with
    | .error error => (.refused error, db)
    | .ok (run, db) => (.run run, db)
  | .claimDueWorkflowRun =>
    let (run, db) := claimDueWorkflowRun host call.now db
    (.run run, db)
  | .attachWorkflowRunSession workflowId runId sessionId =>
    let (run, db) := attachWorkflowRunSession workflowId runId sessionId call.now db
    (.run run, db)
  | .markWorkflowRunCompleted runId summary =>
    let (run, db) := markWorkflowRunCompleted host runId summary call.now db
    (.run run, db)
  | .markWorkflowRunFailed runId error =>
    let (run, db) := markWorkflowRunFailed host runId error call.now db
    (.run run, db)
  | .recoverInterruptedWorkflowRuns error =>
    let (runs, db) := recoverInterruptedWorkflowRuns host error call.now db
    (.runs runs, db)

def workflowStore : Machine (WorkflowDb Schedule) (WorkflowCall Schedule) WorkflowAnswer where
  step := perform host

end OpenCowork.Desktop
