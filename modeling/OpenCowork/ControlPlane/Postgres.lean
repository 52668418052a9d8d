import OpenCowork.ControlPlane.Store

/-! # Projection writes of the Postgres store

The statements of the Postgres sessions domain that append and project events, over
tables with primary keys. A statement reads or writes rows under the documented
semantics of its clauses; what throws inside a transaction leaves no row changed.
-/

namespace OpenCowork.ControlPlane

open Foundation

/-- The columns of `cloud_sessions` that the projection statements read. -/
structure SessionRow where
  record : SessionRecord
  nextEventSequence : Nat
  deriving DecidableEq

def SessionRow.eventOf (row : SessionRow) (input : AppendEventInput) (dateNow : Instant) :
    SessionEventRecord where
  tenantId := input.tenantId
  sessionId := input.sessionId
  eventId := (presentText input.eventId).getD
    (input.sessionId ++ ":" ++ (row.nextEventSequence + 1).repr)
  sequence := row.nextEventSequence + 1
  type := input.type
  payload := input.payload.getD Json.emptyObject
  createdAt := input.createdAt.getD dateNow

/-- A row of `cloud_workspace_events`; the version is an integer column. -/
structure WorkspaceEventRow where
  (tenantId userId eventId : String)
  sequence : Nat
  sessionId : Option String
  (entityType entityId operation : String)
  projectionVersion : Int
  type : String
  payload : Json
  createdAt : Instant
  deriving DecidableEq

structure PostgresAppendResult where
  event : SessionEventRecord
  workspaceEvent : WorkspaceEventRow
  projection : SessionProjectionRecord
  session : SessionRecord
  (sessionEventCreated workspaceEventCreated projectionAdvanced : Bool)

/-- The rows of each table by primary key; `neighbours` holds tenants and users. -/
structure PostgresStore (σ : Type) where
  sessions : OrderedMap (String × String) SessionRow
  workerLeases : OrderedMap (String × String) WorkerLeaseRecord
  sessionEvents : OrderedMap (String × String × String) SessionEventRecord
  sessionProjections : OrderedMap (String × String) SessionProjectionRecord
  workspaceEventCounters : OrderedMap (String × String) Nat
  workspaceEvents : OrderedMap (String × String × String) WorkspaceEventRow
  workflows : OrderedMap (String × String) CloudWorkflowRecord
  workflowRuns : OrderedMap (String × String) CloudWorkflowRunRecord
  neighbours : σ

/-- An insert that a unique constraint refuses. -/
def duplicateKey (constraint : String) : StoreError :=
  .error ("duplicate key value violates unique constraint \"" ++ constraint ++ "\"")

namespace PostgresStore

variable {σ : Type} (context : StoreContext σ)

/-- What the statements of a transaction answer, and the store they leave. -/
abbrev Transaction (σ α : Type) := Except StoreError (α × PostgresStore σ)

/-- Commit what the body did, or roll all of it back. -/
def withTransaction {α : Type} (store : PostgresStore σ) (body : Transaction σ α) :
    Outcome (PostgresStore σ) α :=
  match body with
  | .error thrown => (.error thrown, store)
  | .ok (value, committed) => (.ok value, committed)

section Statements

variable (store : PostgresStore σ) (tenantId sessionId : String)
  (input : AppendProjectedSessionEventInput) (dateNow : Instant) (updatedAt : Instant)

def requireSession : Except StoreError SessionRow :=
  match context.host.requireTenant store.neighbours tenantId with
  | .error thrown => .error thrown
  | .ok () =>
    match store.sessions.get (tenantId, sessionId) with
    | none => .error (.error ("Unknown session " ++ sessionId ++ "."))
    | some row => .ok row

def assertLeaseTokenIfPresent (leaseToken : LeaseTokenArgument)
    (dateNow : Instant) : Except StoreError Unit :=
  match leaseToken with
  | none => .ok ()
  | some token =>
    match store.workerLeases.get (tenantId, sessionId) with
    | none => .error SessionState.staleLease
    | some current =>
      if some current.leaseToken ≠ token ∨ current.leaseExpiresAt ≤ dateNow then
        .error SessionState.staleLease
      else .ok ()

def sessionLog : List SessionEventRecord :=
  (store.sessionEvents.values.filter fun event =>
    decide (event.tenantId = tenantId) && decide (event.sessionId = sessionId)).insertionSort
      fun left right => left.sequence ≤ right.sequence

def updateSession (update : SessionRow → SessionRow) :
    PostgresStore σ :=
  { store with sessions := store.sessions.modify (tenantId, sessionId) update }

/-- `next_event_sequence` counted up, with the session touched. -/
def incrementEventSequence :
    PostgresStore σ :=
  store.updateSession tenantId sessionId fun row =>
    { record := { row.record with updatedAt := updatedAt }
      nextEventSequence := row.nextEventSequence + 1 }

def insertSessionEvent (event : SessionEventRecord) : Except StoreError (PostgresStore σ) :=
  match store.sessionEvents.insertNew (event.tenantId, event.sessionId, event.eventId) event with
  | none => .error (duplicateKey "cloud_session_events_pkey")
  | some sessionEvents =>
    if event.sequence ∈ (store.sessionLog event.tenantId event.sessionId).map (·.sequence) then
      .error (duplicateKey "cloud_session_events_tenant_id_session_id_sequence_key")
    else .ok { store with sessionEvents := sessionEvents }

def recordSessionEvent (row : SessionRow) (input : AppendEventInput) (dateNow : Instant) :
    Transaction σ (SessionEventRecord × Bool) :=
  let payload := input.payload.getD Json.emptyObject
  match (presentText input.eventId).bind fun eventId =>
    store.sessionEvents.get (input.tenantId, input.sessionId, eventId) with
  | some existing =>
    if existing.type ≠ input.type ∨
        context.env.stableJson existing.payload ≠ context.env.stableJson payload then
      .error (SessionState.eventReused existing.eventId)
    else .ok ((existing, false), store)
  | none =>
    let event := row.eventOf input dateNow
    match (store.incrementEventSequence input.tenantId input.sessionId
      event.createdAt).insertSessionEvent event with
    | .error thrown => .error thrown
    | .ok inserted => .ok ((event, true), inserted)

/-- The body of `appendSessionEvent`. -/
def storeSessionEvent (input : AppendEventInput) (dateNow : Instant) :
    Transaction σ SessionEventRecord :=
  match store.requireSession context input.tenantId input.sessionId with
  | .error thrown => .error thrown
  | .ok row =>
  match store.assertLeaseTokenIfPresent input.tenantId input.sessionId input.leaseToken dateNow with
  | .error thrown => .error thrown
  | .ok () =>
  match store.recordSessionEvent context row input dateNow with
  | .error thrown => .error thrown
  | .ok ((event, _), store) => .ok (event, store)

def appendSessionEvent (input : AppendEventInput) (dateNow : Instant) :
    Outcome (PostgresStore σ) SessionEventRecord :=
  store.withTransaction (store.storeSessionEvent context input dateNow)

def integerColumn (value : Option ℚ) : Except StoreError Int :=
  match value.filter fun number => decide (number.den = 1) with
  | none => .error (.error "invalid input syntax for type integer")
  | some number => .ok number.num

/-- Whether a workspace event that exists is the one a projected append describes. -/
def workspaceReplayed (draft : WorkspaceDraft)
    (existing : WorkspaceEventRow) : Bool :=
  decide (existing.type = input.type) &&
    decide (context.env.stableJson existing.payload =
      context.env.stableJson (input.payload.getD Json.emptyObject)) &&
    decide (existing.sessionId = some input.sessionId) &&
    decide (existing.entityType = draft.entityType) &&
    decide (existing.entityId = draft.entityId) &&
    decide (existing.operation = draft.operation) &&
    decide (some (existing.projectionVersion : ℚ) = draft.projectionVersion)

/-- The counter of a user's stream; its row is created at its first event. -/
def workspaceSequence (tenantId userId : String) : Nat :=
  (store.workspaceEventCounters.get (tenantId, userId)).getD 0 + 1

/-- Event ids and event sequences are unique within a user's stream. -/
def insertWorkspaceEvent (row : WorkspaceEventRow) : Except StoreError (PostgresStore σ) :=
  match store.workspaceEvents.insertNew (row.tenantId, row.userId, row.eventId) row with
  | none => .error (duplicateKey "cloud_workspace_events_pkey")
  | some workspaceEvents =>
    if store.workspaceEvents.values.any fun other =>
        decide (other.tenantId = row.tenantId) && decide (other.userId = row.userId) &&
          decide (other.sequence = row.sequence) then
      .error (duplicateKey "cloud_workspace_events_tenant_id_user_id_sequence_key")
    else
      .ok { store with
        workspaceEventCounters :=
          store.workspaceEventCounters.set (row.tenantId, row.userId) row.sequence
        workspaceEvents := workspaceEvents }

def recordWorkspaceEvent (userId : String) (input : AppendProjectedSessionEventInput)
    (event : SessionEventRecord) (draft : WorkspaceDraft) :
    Transaction σ (WorkspaceEventRow × Bool) :=
  match store.workspaceEvents.get (input.tenantId, userId, draft.eventId) with
  | some existing =>
    if workspaceReplayed context input draft existing then .ok ((existing, false), store)
    else
      .error (.error ("Workspace event id " ++ existing.eventId ++
        " was reused with different content."))
  | none =>
    match integerColumn draft.projectionVersion with
    | .error thrown => .error thrown
    | .ok projectionVersion =>
      let row : WorkspaceEventRow :=
        { tenantId := input.tenantId
          userId := userId
          eventId := draft.eventId
          sequence := store.workspaceSequence input.tenantId userId
          sessionId := some input.sessionId
          entityType := draft.entityType
          entityId := draft.entityId
          operation := draft.operation
          projectionVersion := projectionVersion
          type := input.type
          payload := input.payload.getD Json.emptyObject
          createdAt := event.createdAt }
      match store.insertWorkspaceEvent row with
      | .error thrown => .error thrown
      | .ok inserted => .ok ((row, true), inserted)

def upsertProjection (projection : SessionProjectionRecord) : PostgresStore σ :=
  { store with
    sessionProjections := store.sessionProjections.set
      (projection.tenantId, projection.sessionId) projection }

/-- `UPDATE cloud_sessions SET status = COALESCE(status, ..), updated_at = ..`. -/
def touchSession (status : Option SessionStatus)
    (updatedAt : Instant) : PostgresStore σ :=
  store.updateSession tenantId sessionId fun row =>
    { row with
      record :=
        { row.record with status := status.getD row.record.status, updatedAt := updatedAt } }

def requireWorkflow (tenantId workflowId : String) : Except StoreError CloudWorkflowRecord :=
  match context.host.requireTenant store.neighbours tenantId with
  | .error thrown => .error thrown
  | .ok () =>
    match store.workflows.get (tenantId, workflowId) with
    | none => .error (.error ("Unknown workflow " ++ workflowId ++ "."))
    | some workflow => .ok workflow

/-- A present token must be the current lease token of the run's session. -/
def finishable (run : CloudWorkflowRunRecord) (input : FinishWorkflowRunInput)
    (dateNow : Instant) : Except StoreError Unit :=
  match input.leaseToken with
  | none => .ok ()
  | some token =>
    match presentText run.sessionId with
    | none => .error (.error "Workflow run has no execution session to fence.")
    | some sessionId =>
      store.assertLeaseTokenIfPresent input.tenantId sessionId (some token) dateNow

def finishWorkflowRun (input : FinishWorkflowRunInput) (dateNow : Instant) :
    Transaction σ (Option CloudWorkflowRunRecord) :=
  match store.requireWorkflow context input.tenantId input.workflowId with
  | .error thrown => .error thrown
  | .ok _ =>
    match (store.workflowRuns.get (input.tenantId, input.runId)).filter fun run =>
      decide (run.workflowId = input.workflowId) with
    | none => .ok (none, store)
    | some run =>
      if run.live = false then .ok (some run, store)
      else
        match store.finishable run input dateNow with
        | .error thrown => .error thrown
        | .ok () =>
          let finishedAt := input.finishedAt.getD dateNow
          let update (record : CloudWorkflowRecord) : CloudWorkflowRecord :=
            { record with
              status := input.nextStatus
              latestRunId := some input.runId
              latestRunStatus := some input.status
              latestRunSummary := input.summary
              lastRunAt := if input.status = .completed then some finishedAt
                else record.lastRunAt
              nextRunAt := input.nextRunAt
              updatedAt := finishedAt }
          .ok (some (run.finished input finishedAt),
            { store with
              workflowRuns := store.workflowRuns.modify (input.tenantId, input.runId)
                (·.finished input finishedAt)
              workflows := store.workflows.modify (input.tenantId, input.workflowId)
                update })

def completeWorkflowRun (input : CompleteWorkflowRunInput) (dateNow : Instant) :
    Transaction σ (Option CloudWorkflowRunRecord) :=
  store.finishWorkflowRun context
    { tenantId := input.tenantId
      workflowId := input.workflowId
      runId := input.runId
      status := .completed
      summary := input.summary
      error := none
      nextStatus := input.nextStatus
      nextRunAt := input.nextRunAt
      leaseToken := input.leaseToken
      finishedAt := input.finishedAt } dateNow

def failWorkflowRun (input : FailWorkflowRunInput) (dateNow : Instant) :
    Transaction σ (Option CloudWorkflowRunRecord) :=
  let safeError := context.texts.redactSecretText input.error 1000
  store.finishWorkflowRun context
    { tenantId := input.tenantId
      workflowId := input.workflowId
      runId := input.runId
      status := .failed
      summary := some safeError
      error := some safeError
      nextStatus := input.nextStatus
      nextRunAt := input.nextRunAt
      leaseToken := input.leaseToken
      finishedAt := input.finishedAt } dateNow

/-- The workflow effect of a projected event. -/
def applyTerminal (terminal : Option WorkflowTerminal) (dateNow : Instant) :
    Except StoreError (PostgresStore σ) :=
  match terminal with
  | none => .ok store
  | some (.completed input) => (store.completeWorkflowRun context input dateNow).map Prod.snd
  | some (.failed input) => (store.failWorkflowRun context input dateNow).map Prod.snd

/-- `applyPostgresProjectedEventEffects`, where no status was applied yet. -/
def applyProjectedEventEffects
    (dateNow : Instant) : Except StoreError (PostgresStore σ) :=
  let store := match input.sessionStatus with
    | none => store
    | some status => store.touchSession input.tenantId input.sessionId (some status) updatedAt
  store.applyTerminal context input.workflowTerminal dateNow

/-- The body of `writeSessionProjection`. The token is checked as a presented token and
once more against the lease. -/
def storeProjection (input : WriteProjectionInput) (dateNow : Instant) :
    Transaction σ SessionProjectionRecord :=
  match store.requireSession context input.tenantId input.sessionId with
  | .error thrown => .error thrown
  | .ok _ =>
  match store.assertLeaseTokenIfPresent input.tenantId input.sessionId input.leaseToken dateNow with
  | .error thrown => .error thrown
  | .ok () =>
  if ((store.workerLeases.get (input.tenantId, input.sessionId)).filter fun lease =>
      decide (some lease.leaseToken ≠ input.leaseToken.join)).isSome then
    .error (.error "Projection write used a stale worker lease.")
  else
    let current := store.sessionProjections.get (input.tenantId, input.sessionId)
    if input.sequence < (current.map SessionProjectionRecord.sequence).getD 0 then
      .error (.error "Projection sequence must be monotonic.")
    else
      match current.filter fun stored => decide (stored.sequence = input.sequence) with
      | some stored =>
        if context.env.stableJson stored.view ≠ context.env.stableJson input.view then
          .error (.error "Projection sequence was reused with different content.")
        else .ok (stored, store)
      | none =>
        let projection : SessionProjectionRecord :=
          { tenantId := input.tenantId
            sessionId := input.sessionId
            sequence := input.sequence
            view := input.view
            updatedAt := input.updatedAt.getD dateNow }
        .ok (projection, (store.upsertProjection projection).touchSession input.tenantId
          input.sessionId none projection.updatedAt)

/-- The body of `appendProjectedSessionEvent`. The projection is written without a look at
the lease. -/
def projectSessionEvent :
    Transaction σ PostgresAppendResult :=
  match store.requireSession context input.tenantId input.sessionId with
  | .error thrown => .error thrown
  | .ok row =>
  match store.assertLeaseTokenIfPresent input.tenantId input.sessionId input.leaseToken dateNow with
  | .error thrown => .error thrown
  | .ok () =>
  match store.recordSessionEvent context row input.toAppendEventInput dateNow with
  | .error thrown => .error thrown
  | .ok ((event, sessionEventCreated), store) =>
  match context.host.requireTenantUser store.neighbours input.tenantId row.record.userId with
  | .error thrown => .error thrown
  | .ok () =>
  match input.workspace row.record event with
  | .error thrown => .error thrown
  | .ok draft =>
  match store.recordWorkspaceEvent context row.record.userId input event draft with
  | .error thrown => .error thrown
  | .ok ((workspaceEvent, workspaceEventCreated), store) =>
  let current := store.sessionProjections.get (input.tenantId, input.sessionId)
  match current.filter fun stored => decide (event.sequence ≤ stored.sequence) with
  | some stored =>
    match store.applyProjectedEventEffects context input event.createdAt dateNow with
    | .error thrown => .error thrown
    | .ok store =>
      .ok
        ({ event := event
           workspaceEvent := workspaceEvent
           projection := stored
           session := (store.sessions.get (input.tenantId, input.sessionId)).elim row.record
             SessionRow.record
           sessionEventCreated := sessionEventCreated
           workspaceEventCreated := workspaceEventCreated
           projectionAdvanced := false }, store)
  | none =>
  match input.project row.record event current with
  | .error thrown => .error thrown
  | .ok (view, updatedAt) =>
  let projection : SessionProjectionRecord :=
    { tenantId := input.tenantId
      sessionId := input.sessionId
      sequence := event.sequence
      view := view
      updatedAt := updatedAt.getD event.createdAt }
  let projected := (store.upsertProjection projection).touchSession input.tenantId input.sessionId
    input.sessionStatus projection.updatedAt
  match projected.applyTerminal context input.workflowTerminal dateNow with
  | .error thrown => .error thrown
  | .ok store =>
    .ok
      ({ event := event
         workspaceEvent := workspaceEvent
         projection := projection
         session := (store.sessions.get (input.tenantId, input.sessionId)).elim row.record
           SessionRow.record
         sessionEventCreated := sessionEventCreated
         workspaceEventCreated := workspaceEventCreated
         projectionAdvanced := true }, store)

def writeSessionProjection (input : WriteProjectionInput) (dateNow : Instant) :
    Outcome (PostgresStore σ) SessionProjectionRecord :=
  store.withTransaction (store.storeProjection context input dateNow)

def appendProjectedSessionEvent :
    Outcome (PostgresStore σ) PostgresAppendResult :=
  store.withTransaction (store.projectSessionEvent context input dateNow)

end Statements

end PostgresStore

end OpenCowork.ControlPlane
