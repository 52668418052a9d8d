import OpenCowork.ControlPlane.Sessions.State

/-! # The workspace-event log

One append-only stream of events for each tenant user, projected from the session
events. An event id that is presented again must describe the event that exists.
-/

namespace OpenCowork.ControlPlane

open Foundation

structure WorkspaceEventRecord where
  (tenantId userId : String)
  sessionId : Option String
  eventId : String
  sequence : Nat
  (entityType entityId operation : String)
  projectionVersion : Nat
  type : String
  payload : Json
  createdAt : Instant
  deriving DecidableEq

structure WorkspaceEventState where
  nextSequence : Nat
  events : List WorkspaceEventRecord
  deriving DecidableEq

/-- `projectionVersion` is absent where the number is not finite. -/
structure AppendWorkspaceEventInput where
  (tenantId userId : String)
  (sessionId eventId entityType entityId operation : Option String)
  projectionVersion : Option ℚ
  type : String
  payload : Option Json
  createdAt : Option Instant

/-- A text that is neither absent nor empty. -/
def presentText (value : Option String) : Option String :=
  value.filter fun text => decide (text ≠ "")

theorem presentText_some {text : String} (h : text ≠ "") : presentText (some text) = some text := by
  rw [presentText, Option.filter_some, if_pos (decide_eq_true h)]

def optionalTrimmedText (value : Option String) : Option String := presentText (value.map Text.trim)

def words : List Char → List (List Char)
  | [] => []
  | c :: rest =>
    if c.isAlphanum || c == '_' then
      match rest, words rest with
      | next :: _, word :: others =>
        if next.isAlphanum || next == '_' then (c :: word) :: others
        else [c] :: word :: others
      | _, others => [c] :: others
    else words rest

def workspaceOperationFromType (type : String) : String :=
  let parts := (words type.toList).map String.ofList
  if parts.any fun part => decide (part ∈ ["created", "submitted", "uploaded", "started"]) then
    "create"
  else if parts.any fun part => decide (part ∈ ["deleted", "removed", "archived"]) then "delete"
  else "update"

example : workspaceOperationFromType "artifact.created" = "create" := by decide

/-- The streams by tenant and user. -/
abbrev WorkspaceEvents := OrderedMap String WorkspaceEventState

namespace WorkspaceEvents

variable (env : Environment) (log : WorkspaceEvents) (tenantId userId : String)
  (olderThan : Instant) (input : AppendWorkspaceEventInput) (limit : Nat)

def workspaceKey : String := tenantId ++ ":" ++ userId

def stateOf : WorkspaceEventState := (log.get (workspaceKey tenantId userId)).getD ⟨0, []⟩

def draftOf (state : WorkspaceEventState) (input : AppendWorkspaceEventInput)
    (dateNow : Instant) : WorkspaceEventRecord :=
  let sequence := state.nextSequence + 1
  { tenantId := input.tenantId
    userId := input.userId
    sessionId := presentText input.sessionId
    eventId := (presentText input.eventId).getD (input.userId ++ ":" ++ sequence.repr)
    sequence := sequence
    entityType := (optionalTrimmedText input.entityType).getD
      (if (presentText input.sessionId).isSome then "session" else "workspace")
    entityId := (optionalTrimmedText input.entityId).getD
      ((presentText input.sessionId).getD input.userId)
    operation := (optionalTrimmedText input.operation).getD
      (workspaceOperationFromType input.type)
    projectionVersion := match input.projectionVersion with
      | some version => (max 0 version.floor).toNat
      | none => sequence
    type := input.type
    payload := input.payload.getD Json.emptyObject
    createdAt := input.createdAt.getD dateNow }

def sameContent
    (existing draft : WorkspaceEventRecord) : Bool :=
  decide (existing.type = draft.type) &&
    decide (env.stableJson existing.payload = env.stableJson draft.payload) &&
    decide (presentText existing.sessionId = draft.sessionId) &&
    decide (existing.entityType = draft.entityType) &&
    decide (existing.entityId = draft.entityId) &&
    decide (existing.operation = draft.operation) &&
    decide (existing.projectionVersion =
      if input.projectionVersion.isSome then draft.projectionVersion
      else existing.projectionVersion)

/-- The part of `appendWorkspaceEvent` after its checks on tenant, user and session. -/
def append
    (dateNow : Instant) : Outcome WorkspaceEvents WorkspaceEventRecord :=
  let state := log.stateOf input.tenantId input.userId
  let draft := draftOf state input dateNow
  match state.events.find? (fun event => decide (event.eventId = draft.eventId)) with
  | some existing =>
    if sameContent env input existing draft then (.ok existing, log)
    else
      (.error (.error ("Workspace event id " ++ draft.eventId ++
        " was reused with different content.")), log)
  | none =>
    (.ok draft, log.set (workspaceKey input.tenantId input.userId)
      ⟨draft.sequence, state.events ++ [draft]⟩)

def findWorkspaceEvent (tenantId userId eventId : String) :
    Option WorkspaceEventRecord :=
  (log.get (workspaceKey tenantId userId)).bind fun state =>
    state.events.find? fun event => decide (event.eventId = eventId)

/-- `sliceEventsAfter`: the events after a sequence, at most `limit` of them. -/
def eventsAfter (afterSequence : Nat)
    (limit : Option Nat) : List WorkspaceEventRecord :=
  let matching := (log.stateOf tenantId userId).events.filter fun event =>
    decide (afterSequence < event.sequence)
  match limit with
  | some (limit + 1) => matching.take (limit + 1)
  | _ => matching

/-- The ids, by stream, that a prune removes: the oldest events before the cutoff. -/
def stale :
    List (String × WorkspaceEventRecord) :=
  ((log.entries.flatMap fun entry => entry.2.events.map fun event => (entry.1, event)).filter
      (fun entry => decide (entry.2.createdAt < olderThan))
    |>.insertionSort fun left right => left.2.createdAt ≤ right.2.createdAt).take
      (max 1 (min 10000 limit))

def pruneExpiredWorkspaceEvents :
    Nat × WorkspaceEvents :=
  let stale := log.stale olderThan limit
  (stale.length,
    log.mapWithKey fun workspaceKey state =>
      { state with
        events := state.events.filter fun event =>
          decide (∀ gone ∈ stale, gone.1 = workspaceKey → gone.2.eventId ≠ event.eventId) })

end WorkspaceEvents

end OpenCowork.ControlPlane
