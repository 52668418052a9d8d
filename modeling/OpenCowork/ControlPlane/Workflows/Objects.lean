import OpenCowork.ControlPlane.WorkspaceEvents

/-! # Workflow runs as shared objects

A run is one object that is reachable in two ways: from the list of its workflow
and from the run table. An update through the table shows in the list as long as
both hold the same object. A snapshot copies the contents of the list and of the
table; what it restores are two objects for each run.
-/

namespace OpenCowork.ControlPlane

open Foundation

inductive WorkflowStatus where
  | active | paused | running | failed | archived
  deriving DecidableEq

inductive WorkflowRunStatus where
  | queued | running | completed | failed | cancelled
  deriving DecidableEq

inductive WorkflowTriggerType where
  | manual | schedule | webhook
  deriving DecidableEq

structure WorkflowTrigger where
  id : String
  type : WorkflowTriggerType
  deriving DecidableEq

structure CloudWorkflowRunRecord where
  (tenantId userId id workflowId : String)
  sessionId : Option String
  triggerType : WorkflowTriggerType
  triggerPayload : Option Json
  status : WorkflowRunStatus
  title : String
  (summary error : Option String)
  createdAt : Instant
  (startedAt finishedAt : Option Instant)
  (claimedBy claimToken : Option String)
  claimExpiresAt : Option Instant
  attemptCount : Nat
  idempotencyKey : Option String
  checkpointVersion : Nat
  (lastErrorCode lastErrorSummary : Option String)
  deriving DecidableEq

/-- The authored parts that no operation reads are kept as one value. -/
structure CloudWorkflowRecord where
  (tenantId userId id title : String)
  authored : Json
  triggers : List WorkflowTrigger
  status : WorkflowStatus
  (createdAt updatedAt : Instant)
  (nextRunAt lastRunAt : Option Instant)
  latestRunId : Option String
  latestRunStatus : Option WorkflowRunStatus
  (latestRunSessionId latestRunSummary : Option String)
  deriving DecidableEq

inductive WebhookSecretStatus where
  | active | revoked
  deriving DecidableEq

structure CloudWorkflowWebhookSecretRecord where
  (tenantId workflowId triggerId ciphertext : String)
  envelopeVersion : ℚ
  status : WebhookSecretStatus
  (createdAt updatedAt : Instant)
  deriving DecidableEq

def CloudWorkflowRecord.key (workflow : CloudWorkflowRecord) : String :=
  ControlPlane.key workflow.tenantId workflow.id

namespace CloudWorkflowRunRecord

variable (run : CloudWorkflowRunRecord)

/-- Not yet completed, failed or cancelled. -/
def live : Bool := run.status == .queued || run.status == .running

def tableKey : String := key run.tenantId run.id

def workflowKey : String := key run.tenantId run.workflowId

end CloudWorkflowRunRecord

inductive RunObject where
  | created (number : Nat)
  | listCopy (workflowKey : String) (position : Nat)
  | tableCopy (runKey : String)
  deriving DecidableEq

structure WorkflowState where
  record : CloudWorkflowRecord
  runs : List RunObject

structure WorkflowsDomain where
  objects : RunObject → Option CloudWorkflowRunRecord
  nextObject : Nat
  workflows : OrderedMap String WorkflowState
  workflowRuns : OrderedMap String RunObject
  workflowWebhookSecrets : OrderedMap String CloudWorkflowWebhookSecretRecord

/-- Cloned contents, of the workflows with their runs and of the run table apart. -/
structure WorkflowsSnapshot where
  workflows : OrderedMap String (CloudWorkflowRecord × List (Option CloudWorkflowRunRecord))
  workflowRuns : OrderedMap String (Option CloudWorkflowRunRecord)
  workflowWebhookSecrets : OrderedMap String CloudWorkflowWebhookSecretRecord

namespace WorkflowsDomain

variable (domain : WorkflowsDomain)

def empty : WorkflowsDomain where
  objects := fun _ => none
  nextObject := 0
  workflows := OrderedMap.empty
  workflowRuns := OrderedMap.empty
  workflowWebhookSecrets := OrderedMap.empty

def run? (runKey : String) : Option CloudWorkflowRunRecord :=
  (domain.workflowRuns.get runKey).bind domain.objects

/-- The contents of the run table, in its order. -/
def allRuns : List CloudWorkflowRunRecord :=
  (domain.workflowRuns.map domain.objects).values.filterMap id

def runsOf (workflow : WorkflowState) : List CloudWorkflowRunRecord :=
  (workflow.runs.map domain.objects).filterMap id

/-- Mutate the object that the run table holds under a key. -/
def updateRun (runKey : String) (update : CloudWorkflowRunRecord → CloudWorkflowRunRecord) :
    WorkflowsDomain :=
  match domain.workflowRuns.get runKey with
  | none => domain
  | some object =>
    { domain with
      objects := fun other =>
        if other = object then (domain.objects object).map update else domain.objects other }

def updateWorkflow (workflowKey : String)
    (update : CloudWorkflowRecord → CloudWorkflowRecord) : WorkflowsDomain :=
  match domain.workflows.get workflowKey with
  | none => domain
  | some workflow =>
    { domain with
      workflows := domain.workflows.set workflowKey
        { workflow with record := update workflow.record } }

/-- Push a new run object onto the list of a workflow and enter it in the table. -/
def addRun (workflowKey : String) (run : CloudWorkflowRunRecord) : WorkflowsDomain :=
  match domain.workflows.get workflowKey with
  | none => domain
  | some workflow =>
    let object := RunObject.created domain.nextObject
    { domain with
      objects := fun other => if other = object then some run else domain.objects other
      nextObject := domain.nextObject + 1
      workflows := domain.workflows.set workflowKey
        { workflow with runs := workflow.runs ++ [object] }
      workflowRuns := domain.workflowRuns.set run.tableKey object }

def snapshot : WorkflowsSnapshot where
  workflows := domain.workflows.map fun workflow =>
    (workflow.record, workflow.runs.map domain.objects)
  workflowRuns := domain.workflowRuns.map domain.objects
  workflowWebhookSecrets := domain.workflowWebhookSecrets

/-- The maps are cleared and filled with copies; nothing else refers to the objects
there were. -/
def restore (snapshot : WorkflowsSnapshot) : WorkflowsDomain where
  objects := fun
    | .listCopy workflowKey position =>
      (snapshot.workflows.get workflowKey).bind fun entry => (entry.2[position]?).bind id
    | .tableCopy runKey => (snapshot.workflowRuns.get runKey).bind id
    | .created _ => none
  nextObject := domain.nextObject
  workflows := snapshot.workflows.mapWithKey fun workflowKey entry =>
    { record := entry.1
      runs := (List.range entry.2.length).map (RunObject.listCopy workflowKey) }
  workflowRuns := snapshot.workflowRuns.mapWithKey fun runKey _ => RunObject.tableCopy runKey
  workflowWebhookSecrets := snapshot.workflowWebhookSecrets

end WorkflowsDomain

end OpenCowork.ControlPlane
