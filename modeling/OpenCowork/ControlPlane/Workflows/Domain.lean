import OpenCowork.ControlPlane.Sessions.Domain
import OpenCowork.ControlPlane.Workflows.Objects

/-! # The in-memory workflows domain

Authoring and run lifecycle of workflows. Tenants, quotas, sessions and their
leases are reached through a host.
-/

namespace OpenCowork.ControlPlane

open Foundation

abbrev LeaseTokenArgument := Option (Option String)

structure WorkflowRunQuota where
  orgId : Option String
  (maxConcurrentWorkflowRunsPerOrg maxWorkflowRunsPerHour : Option ℚ)
  (policyCode workflowRunsPolicyCode : Option String)

structure CreateWorkflowWebhookSecretInput where
  (triggerId ciphertext : String)
  envelopeVersion : ℚ

structure CreateWorkflowInput where
  (tenantId userId workflowId title : String)
  authored : Json
  triggers : List WorkflowTrigger
  webhookSecrets : List CreateWorkflowWebhookSecretInput
  (nextRunAt createdAt : Option Instant)

structure UpdateWorkflowStatusInput where
  (tenantId userId workflowId : String)
  status : WorkflowStatus
  (nextRunAt updatedAt : Option Instant)

structure RotateWorkflowWebhookSecretInput where
  (tenantId userId workflowId triggerId ciphertext : String)
  envelopeVersion : ℚ
  updatedAt : Option Instant

structure CreateWorkflowRunInput where
  (tenantId userId workflowId runId : String)
  sessionId : Option String
  triggerType : WorkflowTriggerType
  triggerPayload : Option Json
  claimedBy : Option String
  leaseTtlMs : Option ℚ
  createdAt : Option Instant
  quota : Option WorkflowRunQuota

structure ClaimDueWorkflowRunInput where
  runId : String
  (sessionId claimedBy : Option String)
  leaseTtlMs : Option ℚ
  quota : Option WorkflowRunQuota

structure AttachWorkflowRunSessionInput where
  (tenantId workflowId runId sessionId : String)
  claimToken : Option String
  startedAt : Option Instant

structure CompleteWorkflowRunInput where
  (tenantId workflowId runId : String)
  summary : Option String
  nextStatus : WorkflowStatus
  nextRunAt : Option Instant
  leaseToken : LeaseTokenArgument
  finishedAt : Option Instant

structure FailWorkflowRunInput where
  (tenantId workflowId runId error : String)
  nextStatus : WorkflowStatus
  nextRunAt : Option Instant
  leaseToken : LeaseTokenArgument
  finishedAt : Option Instant

/-- What completing and failing a run have in common. -/
structure FinishWorkflowRunInput where
  (tenantId workflowId runId : String)
  status : WorkflowRunStatus
  (summary error : Option String)
  nextStatus : WorkflowStatus
  nextRunAt : Option Instant
  leaseToken : LeaseTokenArgument
  finishedAt : Option Instant

structure ReapedWorkflowClaimRecord where
  (tenantId workflowId runId claimToken claimedBy : String)
  action : WorkReaperAction
  reapedAt : Instant
  deriving DecidableEq

/-- Hashing, redaction and the text of instants that the domain relies on. -/
structure WorkflowsEnvironment where
  stableId : String → List String → String
  redactSecretText : String → Nat → String
  isoString : Instant → String

/-- What the workflows domain asks of its neighbours in their present state. -/
structure WorkflowsHost (σ : Type) where
  requireTenant : String → Except StoreError Unit
  requireTenantUser : String → String → Except StoreError Unit
  sessionHasCommands : String → String → Bool
  assertSessionLease : String → String → LeaseTokenArgument → Except StoreError Unit
  assertWorkflowRunQuota : List CloudWorkflowRunRecord → String → Option WorkflowRunQuota →
    Instant → Outcome σ Unit

/-- The run of `createWorkflowRun` and `claimDueWorkflowRun` before anything happened. -/
def queuedRun (tenantId userId runId workflowId : String) (workflow : CloudWorkflowRecord)
    (sessionId : String) (createdAt : Instant) : CloudWorkflowRunRecord where
  tenantId := tenantId
  userId := userId
  id := runId
  workflowId := workflowId
  sessionId := some sessionId
  triggerType := .manual
  triggerPayload := none
  status := .queued
  title := "Run " ++ workflow.title
  summary := none
  error := none
  createdAt := createdAt
  startedAt := none
  finishedAt := none
  claimedBy := none
  claimToken := none
  claimExpiresAt := none
  attemptCount := 0
  idempotencyKey := none
  checkpointVersion := 0
  lastErrorCode := none
  lastErrorSummary := none

namespace CloudWorkflowRecord

/-- The workflow's trail of its latest run, as a started or retried run leaves it. -/
def follow (workflow : CloudWorkflowRecord) (run : CloudWorkflowRunRecord)
    (updatedAt : Instant) : CloudWorkflowRecord :=
  { workflow with
    status := .running
    latestRunId := some run.id
    latestRunStatus := some run.status
    latestRunSessionId := run.sessionId
    updatedAt := updatedAt }

end CloudWorkflowRecord

namespace CloudWorkflowRunRecord

def claimed (run : CloudWorkflowRunRecord) (claimedBy claimToken : String)
    (claimExpiresAt : Instant) : CloudWorkflowRunRecord :=
  { run with
    claimedBy := some claimedBy
    claimToken := some claimToken
    claimExpiresAt := some claimExpiresAt
    attemptCount := run.attemptCount + 1
    lastErrorCode := none
    lastErrorSummary := none }

def unclaimed (run : CloudWorkflowRunRecord) : CloudWorkflowRunRecord :=
  { run with claimedBy := none, claimToken := none, claimExpiresAt := none }

def attached (run : CloudWorkflowRunRecord) (sessionId : String) (startedAt : Instant) :
    CloudWorkflowRunRecord :=
  { run.unclaimed with
    sessionId := some sessionId
    status := .running
    startedAt := some (run.startedAt.getD startedAt) }

def finished (run : CloudWorkflowRunRecord) (input : FinishWorkflowRunInput)
    (finishedAt : Instant) : CloudWorkflowRunRecord :=
  { run with
    status := input.status
    summary := input.summary
    error := input.error
    finishedAt := some finishedAt }

def claimExpired (run : CloudWorkflowRunRecord) (action : WorkReaperAction) (now : Instant) :
    CloudWorkflowRunRecord :=
  if action = .failed then
    { run.unclaimed with
      status := .failed
      error := some "Workflow run claim expired after the maximum retry attempts."
      summary := some "Workflow run claim expired after the maximum retry attempts."
      finishedAt := some now
      lastErrorCode := some "claim_expired_max_attempts"
      lastErrorSummary := some "Workflow run claim expired after the maximum retry attempts." }
  else
    { run.unclaimed with
      lastErrorCode := some "claim_expired"
      lastErrorSummary := some
        (if run.status = .running then "Workflow run claim expired before command enqueue."
         else "Workflow run claim expired before session attachment.") }

end CloudWorkflowRunRecord

/-- `Math.max(1, Math.floor(leaseTtlMs ?? 30_000))`. -/
def claimTtlMs (leaseTtlMs : Option ℚ) : Int := max 1 (leaseTtlMs.getD 30000).floor

namespace WorkflowsDomain

variable {σ : Type} (env : Environment) (texts : WorkflowsEnvironment) (host : WorkflowsHost σ)

def workflowRunSessionId (tenantId workflowId runId : String) : String :=
  texts.stableId "workflow_session" [tenantId, workflowId, runId]

def createWorkClaimToken (tenantId workId claimedBy nonce : String) : String :=
  texts.stableId "claim" [tenantId, workId, claimedBy, nonce]

def requireWorkflow (domain : WorkflowsDomain) (tenantId workflowId : String) :
    Except StoreError WorkflowState :=
  match host.requireTenant tenantId with
  | .error thrown => .error thrown
  | .ok () =>
    match domain.workflows.get (key tenantId workflowId) with
    | none => .error (.error ("Unknown workflow " ++ workflowId ++ "."))
    | some workflow => .ok workflow

def createdWorkflow (input : CreateWorkflowInput) (createdAt : Instant) : CloudWorkflowRecord where
  tenantId := input.tenantId
  userId := input.userId
  id := input.workflowId
  title := input.title
  authored := input.authored
  triggers := input.triggers
  status := .active
  createdAt := createdAt
  updatedAt := createdAt
  nextRunAt := input.nextRunAt
  lastRunAt := none
  latestRunId := none
  latestRunStatus := none
  latestRunSessionId := none
  latestRunSummary := none

def createWorkflow (domain : WorkflowsDomain) (input : CreateWorkflowInput) (dateNow : Instant) :
    Outcome WorkflowsDomain CloudWorkflowRecord :=
  match host.requireTenantUser input.tenantId input.userId with
  | .error thrown => (.error thrown, domain)
  | .ok () =>
    match domain.workflows.get (key input.tenantId input.workflowId) with
    | some existing =>
      if existing.record.userId ≠ input.userId then
        (.error (.error ("Unknown workflow " ++ input.workflowId ++ ".")), domain)
      else (.ok existing.record, domain)
    | none =>
      let createdAt := input.createdAt.getD dateNow
      let record := createdWorkflow input createdAt
      (.ok record,
        { domain with
          workflows := domain.workflows.set (key input.tenantId input.workflowId) ⟨record, []⟩
          workflowWebhookSecrets := input.webhookSecrets.foldl (fun secrets secret =>
            secrets.set (key (key input.tenantId input.workflowId) secret.triggerId)
              { tenantId := input.tenantId
                workflowId := input.workflowId
                triggerId := secret.triggerId
                ciphertext := secret.ciphertext
                envelopeVersion := secret.envelopeVersion
                status := .active
                createdAt := createdAt
                updatedAt := createdAt }) domain.workflowWebhookSecrets })

def coversWebhook (workflow : CloudWorkflowRecord)
    (secret : CloudWorkflowWebhookSecretRecord) : Bool :=
  decide (secret.tenantId = workflow.tenantId) && decide (secret.workflowId = workflow.id) &&
    (workflow.triggers.any fun trigger =>
      decide (trigger.type = .webhook) && decide (trigger.id = secret.triggerId)) &&
    decide (secret.status = .active)

def updateWorkflowStatus (domain : WorkflowsDomain) (input : UpdateWorkflowStatusInput)
    (dateNow : Instant) : Outcome WorkflowsDomain (Option CloudWorkflowRecord) :=
  match host.requireTenantUser input.tenantId input.userId with
  | .error thrown => (.error thrown, domain)
  | .ok () =>
    match domain.workflows.get (key input.tenantId input.workflowId) with
    | none => (.ok none, domain)
    | some workflow =>
      if workflow.record.userId ≠ input.userId then (.ok none, domain)
      else if input.status = .active ∧
          (workflow.record.triggers.any fun trigger => decide (trigger.type = .webhook)) ∧
          ¬(domain.workflowWebhookSecrets.values.any (coversWebhook workflow.record)) then
        (.ok none, domain)
      else
        let updatedAt := input.updatedAt.getD dateNow
        let update (record : CloudWorkflowRecord) : CloudWorkflowRecord :=
          { record with
            status := input.status
            nextRunAt := input.nextRunAt
            updatedAt := updatedAt }
        let secrets :=
          if input.status = .archived then
            domain.workflowWebhookSecrets.map fun secret =>
              if coversWebhook workflow.record secret then
                { secret with status := .revoked, updatedAt := updatedAt }
              else secret
          else domain.workflowWebhookSecrets
        (.ok (some (update workflow.record)),
          { domain.updateWorkflow (key input.tenantId input.workflowId) update with
            workflowWebhookSecrets := secrets })

def rotateWorkflowWebhookSecret (domain : WorkflowsDomain)
    (input : RotateWorkflowWebhookSecretInput) (dateNow : Instant) :
    Outcome WorkflowsDomain (Option CloudWorkflowWebhookSecretRecord) :=
  match host.requireTenantUser input.tenantId input.userId with
  | .error thrown => (.error thrown, domain)
  | .ok () =>
    match domain.workflows.get (key input.tenantId input.workflowId) with
    | none => (.ok none, domain)
    | some workflow =>
      if workflow.record.userId ≠ input.userId ∨
          ¬(workflow.record.triggers.any fun trigger =>
            decide (trigger.id = input.triggerId) && decide (trigger.type = .webhook)) then
        (.ok none, domain)
      else
        let secretKey := key (key input.tenantId input.workflowId) input.triggerId
        let updatedAt := input.updatedAt.getD dateNow
        let next : CloudWorkflowWebhookSecretRecord :=
          { tenantId := input.tenantId
            workflowId := input.workflowId
            triggerId := input.triggerId
            ciphertext := input.ciphertext
            envelopeVersion := input.envelopeVersion
            status := .active
            createdAt := ((domain.workflowWebhookSecrets.get secretKey).map
              CloudWorkflowWebhookSecretRecord.createdAt).getD updatedAt
            updatedAt := updatedAt }
        (.ok (some next),
          { domain.updateWorkflow (key input.tenantId input.workflowId)
              (fun record => { record with updatedAt := updatedAt }) with
            workflowWebhookSecrets := domain.workflowWebhookSecrets.set secretKey next })

/-- Archived, paused and running workflows refuse a run. -/
def assertWorkflowRunnable (workflow : CloudWorkflowRecord) : Except StoreError Unit :=
  match workflow.status with
  | .archived => .error (.error "Archived workflows cannot run.")
  | .paused => .error (.error "Paused workflows cannot run.")
  | .running => .error (.error "Workflow is already running.")
  | _ => .ok ()

/-- Newer runs first, then by id. -/
def listedBefore (left right : CloudWorkflowRunRecord) : Bool :=
  decide (right.createdAt < left.createdAt) ||
    (decide (right.createdAt = left.createdAt) && env.localeCompare left.id right.id != .gt)

/-- Older runs first, then by id. -/
def retriedBefore (left right : CloudWorkflowRunRecord) : Bool :=
  decide (left.createdAt < right.createdAt) ||
    (decide (left.createdAt = right.createdAt) && env.localeCompare left.id right.id != .gt)

def listWorkflowRuns (domain : WorkflowsDomain) (tenantId workflowId : String) (limit : Int) :
    Except StoreError (List CloudWorkflowRunRecord) :=
  match domain.requireWorkflow host tenantId workflowId with
  | .error thrown => .error thrown
  | .ok workflow =>
    .ok (((domain.runsOf workflow).insertionSort fun left right =>
      listedBefore env left right = true).take (min (max 1 limit) 100).toNat)

/-- `Math.max(1, Math.min(100, Math.floor(limit ?? fallback)))`. -/
def runListLimit (limit : Option ℚ) (fallback : ℚ) : Nat :=
  (max 1 (min 100 (limit.getD fallback).floor)).toNat

def listWorkflowRunsForWorkflows (domain : WorkflowsDomain) (tenantId userId : String)
    (workflowIds : List String) (limitPerWorkflow limit : Option ℚ) :
    Except StoreError (List CloudWorkflowRunRecord) :=
  match host.requireTenantUser tenantId userId with
  | .error thrown => .error thrown
  | .ok () =>
    let wanted := workflowIds.filter fun workflowId => decide (workflowId ≠ "")
    let listed := (domain.workflows.map fun workflow =>
      (workflow.record, domain.runsOf workflow)).values
    let chosen := listed.filter fun entry =>
      decide (entry.1.tenantId = tenantId) && decide (entry.1.userId = userId) &&
        decide (entry.1.id ∈ wanted)
    let runs := chosen.flatMap fun entry =>
      (entry.2.insertionSort fun left right => listedBefore env left right = true).take
        (runListLimit limitPerWorkflow 25)
    .ok ((runs.insertionSort fun left right => listedBefore env left right = true).take
      (runListLimit limit 100))

/-- The run that `createWorkflowRun` adds, claimed at once where a claimant is named. -/
def createdRun (input : CreateWorkflowRunInput) (workflow : CloudWorkflowRecord) (nonce : String)
    (createdAt : Instant) : CloudWorkflowRunRecord :=
  let sessionId := (optionalTrimmedText input.sessionId).getD
    (workflowRunSessionId texts input.tenantId input.workflowId input.runId)
  let planned : CloudWorkflowRunRecord :=
    { queuedRun input.tenantId input.userId input.runId input.workflowId workflow
        sessionId createdAt with
      triggerType := input.triggerType
      triggerPayload := input.triggerPayload }
  match optionalTrimmedText input.claimedBy with
  | none => planned
  | some claimedBy => planned.claimed claimedBy
      (createWorkClaimToken texts input.tenantId input.runId claimedBy nonce)
      (createdAt + claimTtlMs input.leaseTtlMs)

def createWorkflowRun (neighbours : σ) (domain : WorkflowsDomain) (input : CreateWorkflowRunInput)
    (nonce : String) (dateNow : Instant) : Outcome (σ × WorkflowsDomain) CloudWorkflowRunRecord :=
  match host.requireTenantUser input.tenantId input.userId with
  | .error thrown => (.error thrown, neighbours, domain)
  | .ok () =>
  match domain.requireWorkflow host input.tenantId input.workflowId with
  | .error thrown => (.error thrown, neighbours, domain)
  | .ok workflow =>
  if workflow.record.userId ≠ input.userId then
    (.error (.error ("Unknown workflow " ++ input.workflowId ++ ".")), neighbours, domain)
  else
  match assertWorkflowRunnable workflow.record with
  | .error thrown => (.error thrown, neighbours, domain)
  | .ok () =>
  match domain.run? (key input.tenantId input.runId) with
  | some existing => (.ok existing, neighbours, domain)
  | none =>
  match host.assertWorkflowRunQuota domain.allRuns input.tenantId input.quota
    (input.createdAt.getD dateNow) with
  | (.error thrown, neighbours) => (.error thrown, neighbours, domain)
  | (.ok (), neighbours) =>
    let createdAt := input.createdAt.getD dateNow
    let run := createdRun texts input workflow.record nonce createdAt
    (.ok run, neighbours,
      (domain.addRun (key input.tenantId input.workflowId) run).updateWorkflow
        (key input.tenantId input.workflowId) (·.follow run createdAt))

def idle (run : CloudWorkflowRunRecord) : Bool :=
  match run.sessionId with
  | none => decide (run.status = .queued)
  | some sessionId => run.live && !host.sessionHasCommands run.tenantId sessionId

def retryable (domain : WorkflowsDomain) (run : CloudWorkflowRunRecord) : Bool :=
  decide ((domain.workflows.get run.workflowKey).map (·.record.status) = some .running) &&
    idle host run && decide (run.claimToken = none)

def retryRun (domain : WorkflowsDomain) : Option CloudWorkflowRunRecord :=
  ((domain.allRuns.filter (retryable host domain)).insertionSort fun left right =>
    retriedBefore env left right = true).head?

def dueWorkflow (domain : WorkflowsDomain) (now : Instant) :
    Option (String × CloudWorkflowRecord × Instant) :=
  (((domain.workflows.map WorkflowState.record).entries.filterMap fun entry =>
      match entry.2.nextRunAt with
      | some nextRunAt =>
        if entry.2.status = .active ∧ nextRunAt ≤ now then some (entry.1, entry.2, nextRunAt)
        else none
      | none => none).insertionSort fun left right => left.2.2 ≤ right.2.2).head?

/-- The run that `claimDueWorkflowRun` adds for a due workflow. -/
def scheduledRun (input : ClaimDueWorkflowRunInput) (workflow : CloudWorkflowRecord)
    (scheduledFor : Instant) (claimedBy nonce : String) (now : Instant) :
    CloudWorkflowRunRecord :=
  let scheduled := texts.isoString scheduledFor
  let sessionId := (optionalTrimmedText input.sessionId).getD
    (workflowRunSessionId texts workflow.tenantId workflow.id input.runId)
  let planned : CloudWorkflowRunRecord :=
    { queuedRun workflow.tenantId workflow.userId input.runId workflow.id workflow
        sessionId now with
      triggerType := .schedule
      triggerPayload := some (.obj
        [("source", .str "schedule"), ("scheduledFor", .str scheduled)])
      idempotencyKey := some ("schedule:" ++ workflow.id ++ ":" ++ scheduled) }
  planned.claimed claimedBy
    (createWorkClaimToken texts workflow.tenantId input.runId claimedBy nonce)
    (now + claimTtlMs input.leaseTtlMs)

def claimDueWorkflowRun (neighbours : σ) (domain : WorkflowsDomain)
    (input : ClaimDueWorkflowRunInput) (nonce : String) (now : Instant) :
    Outcome (σ × WorkflowsDomain) (Option (CloudWorkflowRecord × CloudWorkflowRunRecord)) :=
  let claimedBy := (optionalTrimmedText input.claimedBy).getD "scheduler"
  let expiresAt := now + claimTtlMs input.leaseTtlMs
  match retryRun env host domain with
  | some run =>
    match domain.requireWorkflow host run.tenantId run.workflowId with
    | .error thrown => (.error thrown, neighbours, domain)
    | .ok workflow =>
      let token := createWorkClaimToken texts run.tenantId run.id claimedBy nonce
      let claim (run : CloudWorkflowRunRecord) := run.claimed claimedBy token expiresAt
      (.ok (some (workflow.record.follow run now, claim run)), neighbours,
        (domain.updateRun run.tableKey claim).updateWorkflow run.workflowKey
          (·.follow run now))
  | none =>
    match dueWorkflow domain now with
    | none => (.ok none, neighbours, domain)
    | some (workflowKey, workflow, scheduledFor) =>
      match host.assertWorkflowRunQuota domain.allRuns workflow.tenantId input.quota now with
      | (.error thrown, neighbours) => (.error thrown, neighbours, domain)
      | (.ok (), neighbours) =>
        let run := scheduledRun texts input workflow scheduledFor claimedBy nonce now
        (.ok (some (workflow.follow run now, run)), neighbours,
          (domain.addRun workflowKey run).updateWorkflow workflowKey (·.follow run now))

/-- Earliest expiry first, then by tenant, workflow and run. -/
def reapedBefore (left right : CloudWorkflowRunRecord) : Bool :=
  match left.claimExpiresAt, right.claimExpiresAt with
  | some first, some second =>
    if first ≠ second then decide (first < second)
    else
      match env.localeCompare left.tenantId right.tenantId,
          env.localeCompare left.workflowId right.workflowId with
      | .lt, _ => true
      | .gt, _ => false
      | .eq, .lt => true
      | .eq, .gt => false
      | .eq, .eq => env.localeCompare left.id right.id != .gt
  | _, _ => true

def expiredClaims (domain : WorkflowsDomain) (now : Instant) (limit : Option ℚ) :
    List CloudWorkflowRunRecord :=
  ((domain.allRuns.filter fun run =>
      decide ((presentText run.claimToken).isSome) &&
        (match run.claimExpiresAt with
          | some expiresAt => decide (expiresAt ≤ now)
          | none => false) &&
        idle host run).insertionSort fun left right => reapedBefore env left right = true).take
    (reapLimitOf limit)
where
  /-- `Math.max(1, Math.min(1_000, Math.floor(limit ?? 100)))`. -/
  reapLimitOf (limit : Option ℚ) : Nat := (max 1 (min 1000 (limit.getD 100).floor)).toNat

def reapRun (domain : WorkflowsDomain) (now : Instant) (maxAttempts : Int)
    (run : CloudWorkflowRunRecord) (claimToken : String) :
    ReapedWorkflowClaimRecord × WorkflowsDomain :=
  let action : WorkReaperAction :=
    if maxAttempts ≤ run.attemptCount then .failed else .retried
  let expire (run : CloudWorkflowRunRecord) := run.claimExpired action now
  let update (record : CloudWorkflowRecord) : CloudWorkflowRecord :=
    if action = .failed then
      { record with
        status := .failed
        latestRunStatus := some .failed
        latestRunSummary := (expire run).error
        nextRunAt := none
        latestRunId := some run.id
        updatedAt := now }
    else record.follow run now
  ({ tenantId := run.tenantId
     workflowId := run.workflowId
     runId := run.id
     claimToken := claimToken
     claimedBy := textOr run.claimedBy "unknown"
     action := action
     reapedAt := now },
    (domain.updateRun run.tableKey expire).updateWorkflow run.workflowKey update)

/-- Reap the candidates in order; one whose workflow is gone is left alone. -/
def reapRuns (now : Instant) (maxAttempts : Int) :
    List CloudWorkflowRunRecord → WorkflowsDomain →
      List ReapedWorkflowClaimRecord × WorkflowsDomain
  | [], domain => ([], domain)
  | run :: rest, domain =>
    match domain.workflows.get run.workflowKey, run.claimToken with
    | some _, some claimToken =>
      let reaped := reapRun domain now maxAttempts run claimToken
      let others := reapRuns now maxAttempts rest reaped.2
      (reaped.1 :: others.1, others.2)
    | _, _ => reapRuns now maxAttempts rest domain

def reapExpiredWorkflowClaims (domain : WorkflowsDomain) (now : Instant)
    (maxAttempts limit : Option ℚ) : List ReapedWorkflowClaimRecord × WorkflowsDomain :=
  reapRuns now (attemptLimit maxAttempts) (expiredClaims env host domain now limit) domain

def claimStale : StoreError := .error "Workflow run claim is stale."

def attachable (run : CloudWorkflowRunRecord) (input : AttachWorkflowRunSessionInput)
    (dateNow : Instant) : Except StoreError Unit :=
  if run.live = false then .error (.error "Workflow run is not attachable.")
  else if run.status ≠ .queued ∧
    ¬(run.status = .running ∧ run.sessionId = some input.sessionId) then
    .error (.error "Workflow run is not attachable.")
  else if (presentText run.sessionId).isSome ∧ run.sessionId ≠ some input.sessionId then
    .error (.error "Workflow run is already attached to another session.")
  else
    match presentText run.claimToken with
    | some claimToken =>
      if some claimToken ≠ input.claimToken then .error claimStale
      else
        match run.claimExpiresAt with
        | some expiresAt => if expiresAt ≤ dateNow then .error claimStale else .ok ()
        | none => .ok ()
    | none => if (presentText input.claimToken).isSome then .error claimStale else .ok ()

def attachWorkflowRunSession (domain : WorkflowsDomain) (input : AttachWorkflowRunSessionInput)
    (dateNow : Instant) : Outcome WorkflowsDomain (Option CloudWorkflowRunRecord) :=
  match domain.requireWorkflow host input.tenantId input.workflowId with
  | .error thrown => (.error thrown, domain)
  | .ok _ =>
    match domain.run? (key input.tenantId input.runId) with
    | none => (.ok none, domain)
    | some run =>
      if run.workflowId ≠ input.workflowId then (.ok none, domain)
      else
        match attachable run input dateNow with
        | .error thrown => (.error thrown, domain)
        | .ok () =>
          let startedAt := input.startedAt.getD dateNow
          let attach (run : CloudWorkflowRunRecord) := run.attached input.sessionId startedAt
          (.ok (some (attach run)),
            (domain.updateRun (key input.tenantId input.runId) attach).updateWorkflow
              (key input.tenantId input.workflowId) (·.follow (attach run) startedAt))

/-- A present token must be the current lease token of the run's session. -/
def finishable (run : CloudWorkflowRunRecord) (input : FinishWorkflowRunInput) :
    Except StoreError Unit :=
  match input.leaseToken with
  | none => .ok ()
  | some token =>
    match presentText run.sessionId with
    | none => .error (.error "Workflow run has no execution session to fence.")
    | some sessionId => host.assertSessionLease input.tenantId sessionId (some token)

def finishWorkflowRun (domain : WorkflowsDomain) (input : FinishWorkflowRunInput)
    (dateNow : Instant) : Outcome WorkflowsDomain (Option CloudWorkflowRunRecord) :=
  match domain.requireWorkflow host input.tenantId input.workflowId with
  | .error thrown => (.error thrown, domain)
  | .ok _ =>
    match domain.run? (key input.tenantId input.runId) with
    | none => (.ok none, domain)
    | some run =>
      if run.workflowId ≠ input.workflowId then (.ok none, domain)
      else if run.live = false then (.ok (some run), domain)
      else
        match finishable host run input with
        | .error thrown => (.error thrown, domain)
        | .ok () =>
          let finishedAt := input.finishedAt.getD dateNow
          let finish (run : CloudWorkflowRunRecord) := run.finished input finishedAt
          let update (record : CloudWorkflowRecord) : CloudWorkflowRecord :=
            { record with
              status := input.nextStatus
              latestRunId := some run.id
              latestRunStatus := some input.status
              latestRunSummary := input.summary
              lastRunAt := if input.status = .completed then some finishedAt
                else record.lastRunAt
              nextRunAt := input.nextRunAt
              updatedAt := finishedAt }
          (.ok (some (finish run)),
            (domain.updateRun (key input.tenantId input.runId) finish).updateWorkflow
              (key input.tenantId input.workflowId) update)

def completeWorkflowRun (domain : WorkflowsDomain) (input : CompleteWorkflowRunInput)
    (dateNow : Instant) : Outcome WorkflowsDomain (Option CloudWorkflowRunRecord) :=
  domain.finishWorkflowRun host
    { tenantId := input.tenantId
      workflowId := input.workflowId
      runId := input.runId
      status := .completed
      summary := input.summary
      error := none
      nextStatus := input.nextStatus
      nextRunAt := input.nextRunAt
      leaseToken := input.leaseToken
      finishedAt := input.finishedAt } dateNow

def failWorkflowRun (domain : WorkflowsDomain) (input : FailWorkflowRunInput)
    (dateNow : Instant) : Outcome WorkflowsDomain (Option CloudWorkflowRunRecord) :=
  let safeError := texts.redactSecretText input.error 1000
  domain.finishWorkflowRun host
    { tenantId := input.tenantId
      workflowId := input.workflowId
      runId := input.runId
      status := .failed
      summary := some safeError
      error := some safeError
      nextStatus := input.nextStatus
      nextRunAt := input.nextRunAt
      leaseToken := input.leaseToken
      finishedAt := input.finishedAt } dateNow

def getWorkflow (domain : WorkflowsDomain) (tenantId userId workflowId : String) :
    Except StoreError (Option CloudWorkflowRecord) :=
  match host.requireTenantUser tenantId userId with
  | .error thrown => .error thrown
  | .ok () =>
    .ok ((((domain.workflows.get (key tenantId workflowId)).map WorkflowState.record)).filter
      fun record => decide (record.userId = userId))

def getWorkflowRun (domain : WorkflowsDomain) (tenantId runId : String) :
    Except StoreError (Option CloudWorkflowRunRecord) :=
  match host.requireTenant tenantId with
  | .error thrown => .error thrown
  | .ok () => .ok (domain.run? (key tenantId runId))

def getWorkflowRunBySession (domain : WorkflowsDomain) (tenantId sessionId : String) :
    Except StoreError (Option CloudWorkflowRunRecord) :=
  match host.requireTenant tenantId with
  | .error thrown => .error thrown
  | .ok () =>
    .ok (domain.allRuns.find? fun run =>
      decide (run.tenantId = tenantId) && decide (run.sessionId = some sessionId))

end WorkflowsDomain

end OpenCowork.ControlPlane
