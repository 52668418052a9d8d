import OpenCowork.ControlPlane.Neighbours
import OpenCowork.ControlPlane.Workflows.Domain

/-! # The in-memory control-plane store

Sessions, workspace events and workflows in one store. A projected append writes to
all three and undoes what it wrote when something on the way throws.
-/

namespace OpenCowork.ControlPlane

open Foundation

structure AppendEventInput where
  (tenantId sessionId : String)
  eventId : Option String
  type : String
  payload : Option Json
  leaseToken : LeaseTokenArgument
  createdAt : Option Instant

structure WriteProjectionInput where
  (tenantId sessionId : String)
  sequence : Nat
  view : Json
  leaseToken : LeaseTokenArgument
  updatedAt : Option Instant

structure WorkspaceDraft where
  (eventId entityType entityId operation : String)
  projectionVersion : Option ℚ

inductive WorkflowTerminal where
  | completed (input : CompleteWorkflowRunInput)
  | failed (input : FailWorkflowRunInput)

/-- A projected append; the callbacks of the caller may throw. -/
structure AppendProjectedSessionEventInput extends AppendEventInput where
  sessionStatus : Option SessionStatus
  workflowTerminal : Option WorkflowTerminal
  workspace : SessionRecord → SessionEventRecord → Except StoreError WorkspaceDraft
  project : SessionRecord → SessionEventRecord → Option SessionProjectionRecord →
    Except StoreError (Json × Option Instant)

structure AppendProjectedSessionEventResult where
  event : SessionEventRecord
  workspaceEvent : WorkspaceEventRecord
  projection : SessionProjectionRecord
  session : SessionRecord
  (sessionEventCreated workspaceEventCreated projectionAdvanced : Bool)

namespace SessionState

variable (env : Environment) (session : SessionState) (eventId : String)
  (leaseToken : LeaseTokenArgument) (input : WriteProjectionInput) (dateNow : Instant)

def assertLeaseTokenIfPresent : Except StoreError Unit :=
  match leaseToken with
  | none => .ok ()
  | some token =>
    match session.lease with
    | none => .error (.error "Worker lease is stale (missing).")
    | some lease =>
      if some lease.leaseToken ≠ token then
        .error (.error "Worker lease is stale (token mismatch).")
      else if lease.leaseExpiresAt ≤ dateNow then
        .error (.error "Worker lease is stale (expired).")
      else .ok ()

def eventOf (input : AppendEventInput) (dateNow : Instant) :
    SessionEventRecord where
  tenantId := input.tenantId
  sessionId := input.sessionId
  eventId := (presentText input.eventId).getD
    (input.sessionId ++ ":" ++ (session.nextEventSequence + 1).repr)
  sequence := session.nextEventSequence + 1
  type := input.type
  payload := input.payload.getD Json.emptyObject
  createdAt := input.createdAt.getD dateNow

def findEvent : Option SessionEventRecord :=
  session.events.find? fun event => decide (event.eventId = eventId)

def pushEvent (event : SessionEventRecord) : SessionState :=
  { session with
    nextEventSequence := session.nextEventSequence + 1
    events := session.events ++ [event]
    record := { session.record with updatedAt := event.createdAt } }

def eventReused : StoreError :=
  .error ("Event id " ++ eventId ++ " was reused with different content.")

def appendSessionEvent (input : AppendEventInput)
    (dateNow : Instant) : Outcome SessionState SessionEventRecord :=
  match session.assertLeaseTokenIfPresent input.leaseToken dateNow with
  | .error thrown => (.error thrown, session)
  | .ok () =>
    let event := session.eventOf input dateNow
    match session.findEvent event.eventId with
    | some existing =>
      if existing.type ≠ event.type ∨
          env.stableJson existing.payload ≠ env.stableJson event.payload then
        (.error (eventReused event.eventId), session)
      else (.ok existing, session)
    | none => (.ok event, session.pushEvent event)

def projectionSequence : Nat := (session.projection.map SessionProjectionRecord.sequence).getD 0

/-- The lease against the token of a projection write: there must be no other lease. -/
def projectionFence :
    Except StoreError Unit :=
  match session.lease with
  | none => .ok ()
  | some lease =>
    if some (some lease.leaseToken) ≠ leaseToken then
      .error (.error "Projection write used a stale worker lease.")
    else .ok ()

def projectionOf : SessionProjectionRecord where
  tenantId := input.tenantId
  sessionId := input.sessionId
  sequence := input.sequence
  view := input.view
  updatedAt := input.updatedAt.getD dateNow

def putProjection (projection : SessionProjectionRecord) : SessionState :=
  { session with
    projection := some projection
    record := { session.record with updatedAt := projection.updatedAt } }

/-- The checks of a projection write after the lease. -/
def storeProjection : Outcome SessionState SessionProjectionRecord :=
  if input.sequence < session.projectionSequence then
    (.error (.error "Projection sequence must be monotonic."), session)
  else
    match session.projection.filter fun stored => decide (stored.sequence = input.sequence) with
    | some stored =>
      if env.stableJson stored.view ≠ env.stableJson input.view then
        (.error (.error "Projection sequence was reused with different content."), session)
      else (.ok stored, session)
    | none => (.ok (projectionOf input dateNow), session.putProjection (projectionOf input dateNow))

def writeSessionProjection :
    Outcome SessionState SessionProjectionRecord :=
  match session.projectionFence input.leaseToken with
  | .error thrown => (.error thrown, session)
  | .ok () => session.storeProjection env input dateNow

/-- The status effect of a projected event. -/
def applyStatus (status : Option SessionStatus) (updatedAt : Instant) :
    SessionState :=
  match status with
  | none => session
  | some status => session.withStatus status updatedAt

end SessionState

/-- The store; `neighbours` is the state of the domains that are not modelled here. -/
structure ControlPlaneStore (σ : Type) extends SessionsDomain σ where
  workspaceEvents : WorkspaceEvents
  workflows : WorkflowsDomain

structure StoreContext (σ : Type) where
  env : Environment
  texts : WorkflowsEnvironment
  host : SessionsHost σ
  assertWorkflowRunQuota : σ → List CloudWorkflowRunRecord → String → Option WorkflowRunQuota →
    Instant → Outcome σ Unit

namespace ControlPlaneStore

variable {σ : Type} (context : StoreContext σ) {α : Type} (store : ControlPlaneStore σ)
  (olderThan : Instant) (tenantId sessionId : String) (session : SessionState)
  (input : AppendProjectedSessionEventInput) (limit : Nat) (event : SessionEventRecord)
  (dateNow : Instant)

def initial (neighbours : σ) : ControlPlaneStore σ where
  toSessionsDomain := SessionsDomain.initial neighbours
  workspaceEvents := OrderedMap.empty
  workflows := WorkflowsDomain.empty

def requireSession :
    Except StoreError SessionState :=
  store.toSessionsDomain.requireSession context.host tenantId sessionId

def putSession : ControlPlaneStore σ :=
  { store with
    toSessionsDomain := store.toSessionsDomain.putSession (key tenantId sessionId) session }

def assertSessionBelongsToUser (tenantId sessionId userId : String) :
    Except StoreError Unit :=
  match store.requireSession context tenantId sessionId with
  | .error thrown => .error thrown
  | .ok session =>
    if session.record.userId ≠ userId then
      .error (.error ("Session " ++ sessionId ++ " does not belong to user " ++ userId ++ "."))
    else .ok ()

/-- The host of the workflows domain in the present state of the store. -/
def workflowsHost : WorkflowsHost σ where
  requireTenant := context.host.requireTenant store.neighbours
  requireTenantUser := context.host.requireTenantUser store.neighbours
  sessionHasCommands := fun tenantId sessionId =>
    match store.sessions.get (key tenantId sessionId) with
    | none => false
    | some session => !session.commands.isEmpty
  assertSessionLease := fun tenantId sessionId leaseToken =>
    match store.requireSession context tenantId sessionId with
    | .error thrown => .error thrown
    | .ok session => session.assertLeaseTokenIfPresent leaseToken dateNow
  assertWorkflowRunQuota := context.assertWorkflowRunQuota store.neighbours

def appendWorkspaceEvent (input : AppendWorkspaceEventInput)
    (dateNow : Instant) : Outcome (ControlPlaneStore σ) WorkspaceEventRecord :=
  match context.host.requireTenantUser store.neighbours input.tenantId input.userId with
  | .error thrown => (.error thrown, store)
  | .ok () =>
    let owned : Except StoreError Unit := match presentText input.sessionId with
      | none => .ok ()
      | some sessionId =>
        store.assertSessionBelongsToUser context input.tenantId sessionId input.userId
    match owned with
    | .error thrown => (.error thrown, store)
    | .ok () =>
      let appended := store.workspaceEvents.append context.env input dateNow
      (appended.1, { store with workspaceEvents := appended.2 })

/-- The workflow effect of a projected event. -/
def applyTerminal (terminal : Option WorkflowTerminal)
    (dateNow : Instant) : Outcome (ControlPlaneStore σ) Unit :=
  let host := store.workflowsHost context dateNow
  match terminal with
  | none => (.ok (), store)
  | some (.completed input) =>
    let finished := store.workflows.completeWorkflowRun host input dateNow
    (finished.1.map fun _ => (), { store with workflows := finished.2 })
  | some (.failed input) =>
    let finished := store.workflows.failWorkflowRun context.texts host input dateNow
    (finished.1.map fun _ => (), { store with workflows := finished.2 })

def applyProjectedEventEffects (updatedAt dateNow : Instant) :
    Outcome (ControlPlaneStore σ) Unit :=
  (store.putSession input.tenantId input.sessionId
    (session.applyStatus input.sessionStatus updatedAt)).applyTerminal context
      input.workflowTerminal dateNow

def workspaceEventOf (draft : WorkspaceDraft) : AppendWorkspaceEventInput where
  tenantId := input.tenantId
  userId := session.record.userId
  sessionId := some input.sessionId
  eventId := some draft.eventId
  entityType := some draft.entityType
  entityId := some draft.entityId
  operation := some draft.operation
  projectionVersion := draft.projectionVersion
  type := input.type
  payload := some (input.payload.getD Json.emptyObject)
  createdAt := some event.createdAt

def appendProjectedWorkspaceEvent :
    Outcome (ControlPlaneStore σ) (WorkspaceEventRecord × Bool) :=
  match input.workspace session.record event with
  | .error thrown => (.error thrown, store)
  | .ok draft =>
    let existed := (store.workspaceEvents.findWorkspaceEvent input.tenantId
      session.record.userId draft.eventId).isSome
    let appended := store.appendWorkspaceEvent context
      (workspaceEventOf session input event draft) dateNow
    (appended.1.map fun record => (record, existed), appended.2)

/-- The result of a projected append, unless an effect throws. -/
def concluding (applied : Outcome (ControlPlaneStore σ) Unit) (result : α) :
    Outcome (ControlPlaneStore σ) α :=
  (applied.1.map fun _ => result, applied.2)

/-- The guarded body of `appendProjectedSessionEvent`: what it leaves behind when it
throws is what the rollback undoes. -/
def projectSessionEvent :
    Outcome (ControlPlaneStore σ) AppendProjectedSessionEventResult :=
  let eventExisted := match presentText input.eventId with
    | none => false
    | some eventId => (session.findEvent eventId).isSome
  match session.appendSessionEvent context.env input.toAppendEventInput dateNow with
  | (.error thrown, _) => (.error thrown, store)
  | (.ok event, appended) =>
  let store := store.putSession input.tenantId input.sessionId appended
  match store.appendProjectedWorkspaceEvent context appended input event dateNow with
  | (.error thrown, store) => (.error thrown, store)
  | (.ok (workspaceEvent, workspaceExisted), store) =>
  match appended.projection.filter fun current => decide (event.sequence ≤ current.sequence) with
  | some current =>
    concluding (store.applyProjectedEventEffects context appended input event.createdAt dateNow)
      { event := event
        workspaceEvent := workspaceEvent
        projection := current
        session := (appended.applyStatus input.sessionStatus event.createdAt).record
        sessionEventCreated := !eventExisted
        workspaceEventCreated := !workspaceExisted
        projectionAdvanced := false }
  | none =>
  match input.project appended.record event appended.projection with
  | .error thrown => (.error thrown, store)
  | .ok (view, updatedAt) =>
  match appended.writeSessionProjection context.env
    { tenantId := input.tenantId
      sessionId := input.sessionId
      sequence := event.sequence
      view := view
      leaseToken := input.leaseToken
      updatedAt := some (updatedAt.getD event.createdAt) } dateNow with
  | (.error thrown, _) => (.error thrown, store)
  | (.ok projection, projected) =>
    concluding
      (store.applyProjectedEventEffects context projected input projection.updatedAt dateNow)
      { event := event
        workspaceEvent := workspaceEvent
        projection := projection
        session := (projected.applyStatus input.sessionStatus projection.updatedAt).record
        sessionEventCreated := !eventExisted
        workspaceEventCreated := !workspaceExisted
        projectionAdvanced := true }

/-- The `catch` block: the session's record is put back, the workspace events and the
workflows are filled from their snapshots. -/
def rollback (before failed : ControlPlaneStore σ) (tenantId sessionId : String)
    (session : SessionState) : ControlPlaneStore σ :=
  { failed.putSession tenantId sessionId session with
    workspaceEvents := before.workspaceEvents
    workflows := failed.workflows.restore before.workflows.snapshot }

def appendProjectedSessionEvent :
    Outcome (ControlPlaneStore σ) AppendProjectedSessionEventResult :=
  match store.requireSession context input.tenantId input.sessionId with
  | .error thrown => (.error thrown, store)
  | .ok session =>
    match store.projectSessionEvent context session input dateNow with
    | (.error thrown, failed) =>
      (.error thrown, store.rollback failed input.tenantId input.sessionId session)
    | (.ok result, next) => (.ok result, next)

def staleSessionEvents :
    List (String × SessionEventRecord) :=
  ((store.sessions.entries.flatMap fun entry =>
      entry.2.events.map fun event => (entry.1, event)).filter
        (fun entry => decide (entry.2.createdAt < olderThan))
    |>.insertionSort fun left right => left.2.createdAt ≤ right.2.createdAt).take
      (max 1 (min 10000 limit))

def pruneExpiredSessionEvents :
    Nat × ControlPlaneStore σ :=
  let stale := store.staleSessionEvents olderThan limit
  (stale.length,
    { store with
      sessions := store.sessions.mapWithKey fun sessionKey session =>
        { session with
          events := session.events.filter fun event =>
            decide (∀ gone ∈ stale, gone.1 = sessionKey → gone.2.eventId ≠ event.eventId) } })

def bindSessionRuntime (tenantId sessionId opencodeSessionId : String)
    (title : Option (Option String)) (leaseToken : LeaseTokenArgument)
    (updatedAt : Option Instant) (dateNow : Instant) :
    Outcome (ControlPlaneStore σ) SessionRecord :=
  match store.requireSession context tenantId sessionId with
  | .error thrown => (.error thrown, store)
  | .ok session =>
    match session.assertLeaseTokenIfPresent leaseToken dateNow with
    | .error thrown => (.error thrown, store)
    | .ok () =>
      let record : SessionRecord :=
        { session.record with
          opencodeSessionId := opencodeSessionId
          title := title.getD session.record.title
          updatedAt := updatedAt.getD dateNow }
      (.ok record, store.putSession tenantId sessionId { session with record })

def updateSessionStatus
    (status : SessionStatus) (title : Option (Option String)) (leaseToken : LeaseTokenArgument)
    (updatedAt : Option Instant) (dateNow : Instant) :
    Outcome (ControlPlaneStore σ) SessionRecord :=
  match store.requireSession context tenantId sessionId with
  | .error thrown => (.error thrown, store)
  | .ok session =>
    match session.assertLeaseTokenIfPresent leaseToken dateNow with
    | .error thrown => (.error thrown, store)
    | .ok () =>
      let record : SessionRecord :=
        { session.record with
          status := status
          title := title.getD session.record.title
          updatedAt := updatedAt.getD dateNow }
      (.ok record, store.putSession tenantId sessionId { session with record })

def onSession
    (operation : SessionState → Outcome SessionState α) : Outcome (ControlPlaneStore σ) α :=
  match store.requireSession context tenantId sessionId with
  | .error thrown => (.error thrown, store)
  | .ok session =>
    ((operation session).1, store.putSession tenantId sessionId (operation session).2)

def appendSessionEvent (input : AppendEventInput)
    (dateNow : Instant) : Outcome (ControlPlaneStore σ) SessionEventRecord :=
  store.onSession context input.tenantId input.sessionId
    (·.appendSessionEvent context.env input dateNow)

def writeSessionProjection (input : WriteProjectionInput)
    (dateNow : Instant) : Outcome (ControlPlaneStore σ) SessionProjectionRecord :=
  store.onSession context input.tenantId input.sessionId
    (·.writeSessionProjection context.env input dateNow)

def getSession (tenantId userId sessionId : String) :
    Except StoreError (Option SessionRecord) :=
  match context.host.requireTenantUser store.neighbours tenantId userId with
  | .error thrown => .error thrown
  | .ok () =>
    .ok (((store.sessions.get (key tenantId sessionId)).map SessionState.record).filter
      fun record => decide (record.userId = userId))

def listSessionEvents
    (afterSequence : Nat) : Except StoreError (List SessionEventRecord) :=
  (store.requireSession context tenantId sessionId).map fun session =>
    session.events.filter fun event => decide (afterSequence < event.sequence)

def getSessionProjection :
    Except StoreError (Option SessionProjectionRecord) :=
  (store.requireSession context tenantId sessionId).map SessionState.projection

def listWorkspaceEvents (tenantId userId : String)
    (afterSequence : Nat) : Except StoreError (List WorkspaceEventRecord) :=
  (context.host.requireTenantUser store.neighbours tenantId userId).map fun _ =>
    store.workspaceEvents.eventsAfter tenantId userId afterSequence none

end ControlPlaneStore

inductive WorkflowOperation where
  | createWorkflow (input : CreateWorkflowInput)
  | updateWorkflowStatus (input : UpdateWorkflowStatusInput)
  | rotateWorkflowWebhookSecret (input : RotateWorkflowWebhookSecretInput)
  | createWorkflowRun (input : CreateWorkflowRunInput)
  | claimDueWorkflowRun (input : ClaimDueWorkflowRunInput)
  | reapExpiredWorkflowClaims (maxAttempts limit : Option ℚ)
  | attachWorkflowRunSession (input : AttachWorkflowRunSessionInput)
  | completeWorkflowRun (input : CompleteWorkflowRunInput)
  | failWorkflowRun (input : FailWorkflowRunInput)
  | getWorkflow (tenantId userId workflowId : String)
  | getWorkflowRun (tenantId runId : String)
  | getWorkflowRunBySession (tenantId sessionId : String)
  | listWorkflowRuns (tenantId workflowId : String) (limit : Int)
  | listWorkflowRunsForWorkflows (tenantId userId : String) (workflowIds : List String)
      (limitPerWorkflow limit : Option ℚ)

inductive StoreOperation where
  | session (operation : SessionOperation)
  | bindSessionRuntime (tenantId sessionId opencodeSessionId : String)
      (title : Option (Option String)) (leaseToken : LeaseTokenArgument)
      (updatedAt : Option Instant)
  | updateSessionStatus (tenantId sessionId : String) (status : SessionStatus)
      (title : Option (Option String)) (leaseToken : LeaseTokenArgument)
      (updatedAt : Option Instant)
  | appendSessionEvent (input : AppendEventInput)
  | writeSessionProjection (input : WriteProjectionInput)
  | appendProjectedSessionEvent (input : AppendProjectedSessionEventInput)
  | appendWorkspaceEvent (input : AppendWorkspaceEventInput)
  | pruneExpiredSessionEvents (olderThan : Instant) (limit : Nat)
  | pruneExpiredWorkspaceEvents (olderThan : Instant) (limit : Nat)
  | getSession (tenantId userId sessionId : String)
  | listSessionEvents (tenantId sessionId : String) (afterSequence : Nat)
  | getSessionProjection (tenantId sessionId : String)
  | listWorkspaceEvents (tenantId userId : String) (afterSequence : Nat)
  | workflow (operation : WorkflowOperation)

/-- An operation, the reading of the clock at which it runs and the random text that
it may draw. -/
structure StoreRequest where
  now : Instant
  nonce : String
  operation : StoreOperation

inductive StoreAnswer where
  | thrown (error : StoreError)
  | session (answer : SessionAnswer)
  | record (record : Option SessionRecord)
  | event (event : SessionEventRecord)
  | events (events : List SessionEventRecord)
  | projection (projection : Option SessionProjectionRecord)
  | projected (result : AppendProjectedSessionEventResult)
  | workspaceEvent (event : WorkspaceEventRecord)
  | workspaceEvents (events : List WorkspaceEventRecord)
  | pruned (count : Nat)
  | workflow (workflow : Option CloudWorkflowRecord)
  | secret (secret : Option CloudWorkflowWebhookSecretRecord)
  | run (run : Option CloudWorkflowRunRecord)
  | runs (runs : List CloudWorkflowRunRecord)
  | claimed (claimed : Option (CloudWorkflowRecord × CloudWorkflowRunRecord))
  | reaped (records : List ReapedWorkflowClaimRecord)

namespace ControlPlaneStore

variable {σ : Type} (context : StoreContext σ) {α : Type} (wrap : α → StoreAnswer)
  (store : ControlPlaneStore σ)

def reply : Except StoreError α → StoreAnswer
  | .error thrown => .thrown thrown
  | .ok value => wrap value

def whole (outcome : Outcome (ControlPlaneStore σ) α) :
    StoreAnswer × ControlPlaneStore σ :=
  (reply wrap outcome.1, outcome.2)

def within
    (outcome : Outcome WorkflowsDomain α) : StoreAnswer × ControlPlaneStore σ :=
  (reply wrap outcome.1, { store with workflows := outcome.2 })

def withinQuota
    (outcome : Outcome (σ × WorkflowsDomain) α) : StoreAnswer × ControlPlaneStore σ :=
  (reply wrap outcome.1,
    { store with neighbours := outcome.2.1, workflows := outcome.2.2 })

def performWorkflow (now : Instant) (nonce : String) :
    WorkflowOperation → StoreAnswer × ControlPlaneStore σ
  | .createWorkflow input =>
    within (.workflow ∘ some) store
      (store.workflows.createWorkflow (store.workflowsHost context now) input now)
  | .updateWorkflowStatus input =>
    within .workflow store
      (store.workflows.updateWorkflowStatus (store.workflowsHost context now) input now)
  | .rotateWorkflowWebhookSecret input =>
    within .secret store
      (store.workflows.rotateWorkflowWebhookSecret (store.workflowsHost context now) input now)
  | .createWorkflowRun input =>
    withinQuota (.run ∘ some) store
      (WorkflowsDomain.createWorkflowRun context.texts (store.workflowsHost context now)
        store.neighbours store.workflows input nonce now)
  | .claimDueWorkflowRun input =>
    withinQuota .claimed store
      (WorkflowsDomain.claimDueWorkflowRun context.env context.texts
        (store.workflowsHost context now) store.neighbours store.workflows input nonce now)
  | .reapExpiredWorkflowClaims maxAttempts limit =>
    let reaped := store.workflows.reapExpiredWorkflowClaims context.env
      (store.workflowsHost context now) now maxAttempts limit
    (.reaped reaped.1, { store with workflows := reaped.2 })
  | .attachWorkflowRunSession input =>
    within .run store
      (store.workflows.attachWorkflowRunSession (store.workflowsHost context now) input now)
  | .completeWorkflowRun input =>
    within .run store
      (store.workflows.completeWorkflowRun (store.workflowsHost context now) input now)
  | .failWorkflowRun input =>
    within .run store
      (store.workflows.failWorkflowRun context.texts (store.workflowsHost context now) input now)
  | .getWorkflow tenantId userId workflowId =>
    (reply .workflow (store.workflows.getWorkflow (store.workflowsHost context now) tenantId
      userId workflowId), store)
  | .getWorkflowRun tenantId runId =>
    (reply .run (store.workflows.getWorkflowRun (store.workflowsHost context now) tenantId
      runId), store)
  | .getWorkflowRunBySession tenantId sessionId =>
    (reply .run (store.workflows.getWorkflowRunBySession (store.workflowsHost context now)
      tenantId sessionId), store)
  | .listWorkflowRuns tenantId workflowId limit =>
    (reply .runs (store.workflows.listWorkflowRuns context.env
      (store.workflowsHost context now) tenantId workflowId limit), store)
  | .listWorkflowRunsForWorkflows tenantId userId workflowIds limitPerWorkflow limit =>
    (reply .runs (store.workflows.listWorkflowRunsForWorkflows context.env
      (store.workflowsHost context now) tenantId userId workflowIds limitPerWorkflow limit),
      store)

def perform (request : StoreRequest) :
    StoreAnswer × ControlPlaneStore σ :=
  let now := request.now
  match request.operation with
  | .session operation =>
    let performed := store.toSessionsDomain.perform context.env context.host ⟨now, operation⟩
    (.session performed.1, { store with toSessionsDomain := performed.2 })
  | .bindSessionRuntime tenantId sessionId opencodeSessionId title leaseToken updatedAt =>
    whole (.record ∘ some) (store.bindSessionRuntime context tenantId sessionId
      opencodeSessionId title leaseToken updatedAt now)
  | .updateSessionStatus tenantId sessionId status title leaseToken updatedAt =>
    whole (.record ∘ some) (store.updateSessionStatus context tenantId sessionId status title
      leaseToken updatedAt now)
  | .appendSessionEvent input => whole .event (store.appendSessionEvent context input now)
  | .writeSessionProjection input =>
    whole (.projection ∘ some) (store.writeSessionProjection context input now)
  | .appendProjectedSessionEvent input =>
    whole .projected (store.appendProjectedSessionEvent context input now)
  | .appendWorkspaceEvent input =>
    whole .workspaceEvent (store.appendWorkspaceEvent context input now)
  | .pruneExpiredSessionEvents olderThan limit =>
    let pruned := store.pruneExpiredSessionEvents olderThan limit
    (.pruned pruned.1, pruned.2)
  | .pruneExpiredWorkspaceEvents olderThan limit =>
    let pruned := store.workspaceEvents.pruneExpiredWorkspaceEvents olderThan limit
    (.pruned pruned.1, { store with workspaceEvents := pruned.2 })
  | .getSession tenantId userId sessionId =>
    (reply .record (store.getSession context tenantId userId sessionId), store)
  | .listSessionEvents tenantId sessionId afterSequence =>
    (reply .events (store.listSessionEvents context tenantId sessionId afterSequence), store)
  | .getSessionProjection tenantId sessionId =>
    (reply .projection (store.getSessionProjection context tenantId sessionId), store)
  | .listWorkspaceEvents tenantId userId afterSequence =>
    (reply .workspaceEvents (store.listWorkspaceEvents context tenantId userId afterSequence),
      store)
  | .workflow operation => store.performWorkflow context now request.nonce operation

def machine : Machine (ControlPlaneStore σ) StoreRequest StoreAnswer where
  step := perform context

end ControlPlaneStore

/-- Ids that spell out their parts, and text that needs no redaction. -/
def plainTexts : WorkflowsEnvironment where
  stableId := plainAudit.stableId
  redactSecretText := fun text _ => text
  isoString := plainAudit.isoString

/-- The store of a deployment without a quota on workflow runs. -/
def plainContext : StoreContext Neighbours where
  env := plainEnvironment
  texts := plainTexts
  host := Neighbours.host plainAudit
  assertWorkflowRunQuota := fun neighbours _ _ _ _ => (.ok (), neighbours)

end OpenCowork.ControlPlane
