import OpenCowork.Foundation.Json
import OpenCowork.Foundation.Machine

/-! # The ordered writer of an event stream

One client's stream is fed by the replay read, the replay hub and the live event
bus. All of them go through one writer, which keeps the cursor that the client has
reached.
-/

namespace OpenCowork.Streams

open Foundation

def cloudSessionEventTypes : List String :=
  ["session.created", "session.imported", "session.project_source.bound", "prompt.submitted",
    "assistant.message", "tool.call", "task.run", "permission.requested", "permission.resolved",
    "question.asked", "question.resolved", "todos.updated", "cost.updated", "artifact.created",
    "artifact.updated", "session.status", "session.idle", "session.aborted", "runtime.error",
    "snapshot.required", "channel.delivery"]

def isCloudSessionEventType (type : String) : Bool := decide (type ∈ cloudSessionEventTypes)

/-- An event of a stream, durable or live. -/
structure SseEvent where
  sequence : Nat
  (type eventId : String)
  payload : Json

/-- Artifact events leave without the storage key. -/
def publicSsePayload (type : String) (payload : Json) : Json :=
  if type ≠ "artifact.created" ∧ type ≠ "artifact.updated" then payload
  else
    match payload with
    | .obj fields => .obj (fields.filter fun entry => decide (entry.1 ≠ "key"))
    | other => other

/-- The event as it goes out; its `id` is the sequence. -/
def publicEvent (event : SseEvent) : SseEvent :=
  { event with payload := publicSsePayload event.type event.payload }

structure SnapshotNotice where
  (afterSequence earliestSequence latestSequence : Nat)

def snapshotRequiredEvent (notice : SnapshotNotice) : SseEvent where
  sequence := notice.afterSequence
  type := "snapshot.required"
  eventId := "snapshot-required:" ++ toString notice.afterSequence
  payload := .obj
    [("reason", .str "event_retention_gap"),
      ("afterSequence", .num notice.afterSequence),
      ("earliestSequence", .num notice.earliestSequence),
      ("latestSequence", .num notice.latestSequence)]

/-- What the writer did with something above its cursor. -/
inductive Outcome where
  | wrote (event : SseEvent)
  | required (notice : SnapshotNotice)
  | passedOver (event : SseEvent)

/-- What an outcome put on the wire. -/
def Outcome.frame : Outcome → Option SseEvent
  | .wrote event => some (publicEvent event)
  | .required notice => some (snapshotRequiredEvent notice)
  | .passedOver _ => none

/-- The response that a stream writes to. -/
structure StreamOptions where
  sseReplayHub : Bool
  sseReplayBatch : Nat := 1000
  sseMaxBufferedBytes : Nat := 8 * 1024 * 1024
  frameBytes : SseEvent → Nat

structure Writer where
  lastSequence : Nat
  (cleaned destroyed : Bool)
  writableLength : Nat
  log : List Outcome

namespace Writer

variable (options : StreamOptions) (writer : Writer)

/-- Buffer a frame; a response past its limit is destroyed. -/
def writeSseEvent (outcome : Outcome)
    (event : SseEvent) : Writer :=
  let writableLength := writer.writableLength + options.frameBytes event
  { writer with
    log := writer.log ++ [outcome]
    writableLength
    destroyed := writer.destroyed || decide (options.sseMaxBufferedBytes < writableLength) }

def writeGapSnapshot (earliestSequence : Nat)
    (latestSequence : Nat) : Writer :=
  if writer.cleaned || writer.destroyed then writer
  else
    let observedLatestSequence := max earliestSequence latestSequence
    let notice : SnapshotNotice :=
      ⟨writer.lastSequence, earliestSequence, observedLatestSequence⟩
    { writer.writeSseEvent options (.required notice) (snapshotRequiredEvent notice) with
      lastSequence := max writer.lastSequence observedLatestSequence }

def writeIfNew (event : SseEvent) : Writer :=
  if writer.cleaned || writer.destroyed then writer
  else if event.sequence ≤ writer.lastSequence then writer
  else if 0 < writer.lastSequence ∧ writer.lastSequence + 1 < event.sequence then
    -- A gap: the event that shows it is dropped, the snapshot supersedes it.
    writer.writeGapSnapshot options event.sequence event.sequence
  else if isCloudSessionEventType event.type = false then
    { writer with
      lastSequence := event.sequence
      log := writer.log ++ [.passedOver event] }
  else
    { writer.writeSseEvent options (.wrote event) (publicEvent event) with
      lastSequence := event.sequence }

end Writer

/-- Where the handler of a stream has got to. -/
inductive StreamPhase where
  | opening
  | draining (drainAfter : Nat)
  | live (busAfter : Nat)
  | returned

structure SseStream where
  afterSequence : Nat
  phase : StreamPhase
  writer : Writer

/-- What reaches the handler of one stream. -/
inductive StreamInput where
  /-- The answer to the cursor lookup. -/
  | cursor (earliestSequence latestSequence : Option Nat)
  /-- The answer to one page of the backlog read. -/
  | backlog (batch : List SseEvent)
  | bus (event : SseEvent)
  | hub (event : SseEvent)
  /-- The socket took bytes, or a keep-alive comment was buffered. -/
  | socket (writableLength : Nat)
  | cleanup
  | destroyed

namespace SseStream

variable (options : StreamOptions) (stream : SseStream)

/-- Subscribe to the bus and the hub from where the writer is. -/
def subscribe : SseStream :=
  if stream.writer.cleaned then { stream with phase := .returned }
  else { stream with phase := .live stream.writer.lastSequence }

/-- The listener on the event bus, with whether it woke the hub. -/
def hearBus (event : SseEvent) :
    Bool × SseStream :=
  if event.sequence ≤ stream.writer.lastSequence then (false, stream)
  else if !options.sseReplayHub || event.sequence == stream.writer.lastSequence + 1 then
    (false, { stream with writer := stream.writer.writeIfNew options event })
  else (true, stream)

def perform : StreamInput → Bool × SseStream
  | .cursor earliestSequence latestSequence =>
    match stream.phase with
    | .opening =>
      match earliestSequence with
      | some earliest =>
        if 0 < stream.afterSequence ∧ stream.afterSequence + 1 < earliest then
          let latest := match latestSequence with
            | some (latest + 1) => latest + 1
            | _ => stream.afterSequence
          (false, { stream with
            writer := stream.writer.writeGapSnapshot options earliest latest }.subscribe)
        else (false, { stream with phase := .draining stream.afterSequence })
      | none => (false, { stream with phase := .draining stream.afterSequence })
    | _ => (false, stream)
  | .backlog batch =>
    match stream.phase with
    | .draining drainAfter =>
      let writer := batch.foldl (Writer.writeIfNew options) stream.writer
      if writer.cleaned || decide (batch.length < options.sseReplayBatch) then
        (false, { stream with writer }.subscribe)
      else
        (false, { stream with
          writer
          phase := .draining ((batch.getLast?.map SseEvent.sequence).getD drainAfter) })
    | _ => (false, stream)
  | .bus event =>
    match stream.phase with
    | .live busAfter =>
      if stream.writer.cleaned || decide (event.sequence ≤ busAfter) then (false, stream)
      else stream.hearBus options event
    | _ => (false, stream)
  | .hub event =>
    match stream.phase with
    | .live _ =>
      if stream.writer.cleaned || !options.sseReplayHub then (false, stream)
      else (false, { stream with writer := stream.writer.writeIfNew options event })
    | _ => (false, stream)
  | .socket writableLength =>
    (false, { stream with writer := { stream.writer with writableLength } })
  | .cleanup => (false, { stream with writer := { stream.writer with cleaned := true } })
  | .destroyed => (false, { stream with writer := { stream.writer with destroyed := true } })

def machine : Machine SseStream StreamInput Bool where
  step := perform options

/-- The stream of a client that resumes after `afterSequence`. -/
def opened (afterSequence : Nat) : SseStream where
  afterSequence := afterSequence
  phase := .opening
  writer :=
    { lastSequence := afterSequence
      cleaned := false
      destroyed := false
      writableLength := 0
      log := [] }

end SseStream

end OpenCowork.Streams
