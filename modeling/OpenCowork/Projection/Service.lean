import OpenCowork.Foundation.Machine
import OpenCowork.Projection.Reduce

/-! # The projection service on one session

A session of the in-memory store, with what the projection service keeps of it: the view it
projected last. Leases, workspace events and workflow runs can make an append throw and are
not modelled further; a throw puts a copy of the session back. Numbers are exact.
-/

namespace OpenCowork.Projection

open Foundation
open ControlPlane (SessionStatus)

structure SessionEventRecord extends CloudProjectionEventRecord where
  eventId : String

structure SessionProjectionRecord where
  sequence : Nat
  view : CloudSessionProjectionView
  updatedAt : NonBlank

structure CachedView where
  sequence : Nat
  view : CloudSessionProjectionView

structure ProjectedSession where
  record : CloudProjectionSessionRecord
  nextEventSequence : Nat
  events : List SessionEventRecord
  projection : Option SessionProjectionRecord
  viewCache : Option CachedView

structure AppendProjectedEventInput where
  eventId : Option String
  type : String
  payload : Json
  createdAt : NonBlank
  sessionStatus : Option SessionStatus

structure RepairSessionProjectionResult where
  repaired : Bool
  (eventCount workspaceEventCount latestEventSequence priorProjectionSequence : Nat)
  (projectionSequence lag : Nat)
  deriving DecidableEq

structure ProjectionContext where
  env : ProjectionEnvironment
  platform : ControlPlane.Environment

/-! ## The content of a view

What `stableJson` writes of a view object: raw values with their fields sorted, and also the
properties that have no value.
-/

section Stable

variable (platform : ControlPlane.Environment)

def stableFields (fields : List (String × Json)) : List (String × Json) :=
  (platform.stableJsonFields fields).insertionSort platform.fieldBefore

def CloudSessionMessage.stable (message : CloudSessionMessage) : CloudSessionMessage :=
  { message with
    attachments := message.attachments.map platform.stableJsonItems }

def ToolCall.stable (toolCall : ToolCall) : ToolCall :=
  { toolCall with
    input := stableFields platform toolCall.input
    output := toolCall.output.map platform.stableJson }

def TaskRun.stable (taskRun : TaskRun) : TaskRun :=
  { taskRun with
    transcript := platform.stableJsonItems taskRun.transcript
    reasoning := taskRun.reasoning.map platform.stableJsonItems
    toolCalls := taskRun.toolCalls.map (ToolCall.stable platform)
    compactions := platform.stableJsonItems taskRun.compactions }

def PendingApproval.stable (approval : PendingApproval) : PendingApproval :=
  { approval with
    input := stableFields platform approval.input }

def CloudResolvedQuestion.stable (question : CloudResolvedQuestion) : CloudResolvedQuestion :=
  { question with
    answers := platform.stableJsonItems question.answers }

def CloudSessionProjectionOrigin.stable (origin : CloudSessionProjectionOrigin) :
    CloudSessionProjectionOrigin :=
  { origin with
    itemCounts := origin.itemCounts.insertionSort fun left right =>
      platform.localeCompare left.1 right.1 ≠ .gt
    itemsCounted := fun entry hmem =>
      origin.itemsCounted entry ((List.mem_insertionSort _).mp hmem) }

def CloudSessionProjectionView.stable (view : CloudSessionProjectionView) :
    CloudSessionProjectionView :=
  { view with
    messages := view.messages.map (CloudSessionMessage.stable platform)
    toolCalls := view.toolCalls.map (ToolCall.stable platform)
    taskRuns := view.taskRuns.map (TaskRun.stable platform)
    pendingApprovals := view.pendingApprovals.map (PendingApproval.stable platform)
    resolvedQuestions := view.resolvedQuestions.map (CloudResolvedQuestion.stable platform)
    origin := view.origin.map (CloudSessionProjectionOrigin.stable platform) }

end Stable

/-! ## The operations -/

namespace ProjectedSession

variable (context : ProjectionContext) (session : ProjectedSession)
  (input : AppendProjectedEventInput) (now : NonBlank)

/-- A session without events. -/
def new (record : CloudProjectionSessionRecord) : ProjectedSession where
  record := record
  nextEventSequence := 0
  events := []
  projection := none
  viewCache := none

/-- The copy of the session that a throw puts back. -/
def restored : ProjectedSession :=
  { session with
    projection := session.projection.map fun projection =>
      { projection with view := projection.view.clone } }

def withTitle (title : Option (Option String)) : ProjectedSession :=
  { session with
    record := { session.record with title := title.getD session.record.title } }

def withUpdatedAt (updatedAt : NonBlank) : ProjectedSession :=
  { session with
    record := { session.record with updatedAt := updatedAt } }

def withStatus (status : SessionStatus) (updatedAt : NonBlank) :
    ProjectedSession :=
  { session with
    record := { session.record with status := status, updatedAt := updatedAt } }

def applyStatus (status : Option SessionStatus)
    (updatedAt : NonBlank) : ProjectedSession :=
  match status with
  | none => session
  | some status => session.withStatus status updatedAt

/-- The id an event is given or goes without: `session:sequence`. -/
def eventIdOf : String :=
  (input.eventId.filter fun eventId => decide (eventId ≠ "")).getD
    (session.record.sessionId ++ ":" ++ (session.nextEventSequence + 1).repr)

def findEvent (eventId : String) : Option SessionEventRecord :=
  session.events.find? fun event => decide (event.eventId = eventId)

def nextEvent :
    SessionEventRecord where
  eventId := session.eventIdOf input
  sequence := session.nextEventSequence + 1
  type := input.type
  payload := input.payload
  createdAt := input.createdAt

def withEvent (event : SessionEventRecord) : ProjectedSession :=
  { session.withUpdatedAt event.createdAt with
    nextEventSequence := event.sequence
    events := session.events ++ [event] }

def withProjection (projection : SessionProjectionRecord) :
    ProjectedSession :=
  { session.withUpdatedAt projection.updatedAt with
    projection := some projection }

def withCachedView (cached : CachedView) : ProjectedSession :=
  { session with
    viewCache := some cached }

def appendSessionEvent :
    Except String SessionEventRecord × ProjectedSession :=
  match session.findEvent (session.eventIdOf input) with
  | some existing =>
    if existing.type ≠ input.type ∨
        context.platform.stableJson existing.payload ≠
          context.platform.stableJson input.payload then
      (.error ("Event id " ++ session.eventIdOf input ++ " was reused with different content."),
        session)
    else (.ok existing, session)
  | none => (.ok (session.nextEvent input), session.withEvent (session.nextEvent input))

def writeSessionProjection (sequence : Nat)
    (view : CloudSessionProjectionView) (updatedAt : NonBlank) :
    Except String SessionProjectionRecord × ProjectedSession :=
  match session.projection with
  | some current =>
    if sequence < current.sequence then
      (.error "Projection sequence must be monotonic.", session)
    else if sequence = current.sequence then
      if current.view.stable context.platform ≠ view.stable context.platform then
        (.error "Projection sequence was reused with different content.", session)
      else (.ok current, session)
    else (.ok ⟨sequence, view, updatedAt⟩, session.withProjection ⟨sequence, view, updatedAt⟩)
  | none => (.ok ⟨sequence, view, updatedAt⟩, session.withProjection ⟨sequence, view, updatedAt⟩)

/-- The view that an event is reduced onto: the cached one when it was projected at the
stored sequence, else the stored one, normalized. -/
def currentView : CloudSessionProjectionView :=
  match session.projection with
  | none => normalizeCloudSessionProjectionView context.env now none session.record
  | some projection =>
    match session.viewCache.filter fun cached =>
        decide (cached.sequence = projection.sequence) with
    | some cached => cached.view
    | none =>
      normalizeCloudSessionProjectionView context.env now (some projection.view.encode)
        session.record

/-- The append and its projection; `refused` is what the store throws for reasons that are
not modelled. -/
def appendProjectedEvent
    (refused : Option String) (now : NonBlank) :
    Except String SessionEventRecord × ProjectedSession :=
  if CloudProjectedSessionEventType.ofName? input.type = none then
    (.error ("Unsupported cloud projection event type: " ++ input.type), session)
  else
  match session.appendSessionEvent context input, refused with
  | (.error thrown, _), _ => (.error thrown, session.restored)
  | _, some thrown => (.error thrown, session.restored)
  | (.ok event, appended), none =>
  match appended.projection.filter fun current => decide (event.sequence ≤ current.sequence) with
  | some current =>
    -- an event that was projected before: the service caches the stored view, normalized
    let session := appended.applyStatus input.sessionStatus event.createdAt
    let view := normalizeCloudSessionProjectionView context.env now (some current.view.encode)
      session.record
    (.ok event, session.withCachedView ⟨current.sequence, view⟩)
  | none =>
    let view := reduceCloudSessionProjectionEvent context.env appended.record
      (appended.currentView context now) event.toCloudProjectionEventRecord
    match appended.writeSessionProjection context event.sequence view event.createdAt with
    | (.error thrown, _) => (.error thrown, session.restored)
    | (.ok projection, projected) =>
      let session := projected.applyStatus input.sessionStatus projection.updatedAt
      (.ok event, session.withCachedView ⟨projection.sequence, view⟩)

/-- The view that the whole log makes of a new one. -/
def repairedView : CloudSessionProjectionView :=
  session.events.foldl
    (fun view event => reduceCloudSessionProjectionEvent context.env session.record view
      event.toCloudProjectionEventRecord)
    (normalizeCloudSessionProjectionView context.env now none session.record)

/-- The log is read in batches, one after the other. -/
def repairSessionProjection :
    Except String RepairSessionProjectionResult × ProjectedSession :=
  let priorProjectionSequence := (session.projection.map SessionProjectionRecord.sequence).getD 0
  let projected := session.events.filter fun event =>
    (CloudProjectedSessionEventType.ofName? event.type).isSome
  match session.events.getLast? with
  | none =>
    (.ok
      { repaired := false
        eventCount := 0
        workspaceEventCount := 0
        latestEventSequence := 0
        priorProjectionSequence := priorProjectionSequence
        projectionSequence := priorProjectionSequence
        lag := 0 }, session)
  | some latest =>
    match session.writeSessionProjection context latest.sequence
      (session.repairedView context now) latest.createdAt with
    | (.error thrown, session) => (.error thrown, session)
    | (.ok projection, session) =>
      (.ok
        { repaired := decide (priorProjectionSequence < projection.sequence)
          eventCount := session.events.length
          workspaceEventCount := projected.length
          latestEventSequence := latest.sequence
          priorProjectionSequence := priorProjectionSequence
          projectionSequence := projection.sequence
          lag := latest.sequence - projection.sequence }, session)

end ProjectedSession

/-! ## Runs -/

inductive ProjectionRequest where
  | appendProjectedEvent (input : AppendProjectedEventInput) (refused : Option String)
  | bindSessionRuntime (title : Option (Option String)) (updatedAt : NonBlank)
  | updateSessionStatus (status : SessionStatus) (title : Option (Option String))
      (updatedAt : NonBlank)
  | evictCachedView
  | repairSessionProjection

inductive ProjectionAnswer where
  | thrown (message : String)
  | event (event : SessionEventRecord)
  | record (record : CloudProjectionSessionRecord)
  | repaired (result : RepairSessionProjectionResult)
  | evicted

namespace ProjectedSession

def reply {α : Type} (wrap : α → ProjectionAnswer) : Except String α → ProjectionAnswer
  | .error thrown => .thrown thrown
  | .ok value => wrap value

variable (context : ProjectionContext)

/-- A request at the time `now`. -/
def handle (session : ProjectedSession) (now : NonBlank) :
    ProjectionRequest → ProjectionAnswer × ProjectedSession
  | .appendProjectedEvent input refused =>
    let (answer, next) := session.appendProjectedEvent context input refused now
    (reply .event answer, next)
  | .bindSessionRuntime title updatedAt =>
    let next := (session.withTitle title).withUpdatedAt updatedAt
    (.record next.record, next)
  | .updateSessionStatus status title updatedAt =>
    let next := (session.withTitle title).withStatus status updatedAt
    (.record next.record, next)
  | .evictCachedView => (.evicted, { session with viewCache := none })
  | .repairSessionProjection =>
    let (answer, next) := session.repairSessionProjection context now
    (reply .repaired answer, next)

def machine : Machine ProjectedSession (NonBlank × ProjectionRequest) ProjectionAnswer where
  step session request := session.handle context request.1 request.2

end ProjectedSession

end OpenCowork.Projection
