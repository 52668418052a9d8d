import OpenCowork.Foundation.OrderedMap
import OpenCowork.Projection.Attachments
import OpenCowork.Runtime.StoreText

/-! # The session event dispatcher

Runtime events reach the renderer of a window as patches of a message and as full views of a
session. Patches and views are queued, each with its own timer; a session whose patches no longer
fit waits for its next view.
-/

namespace OpenCowork.Runtime

open OpenCowork.Foundation

/-! ## Events -/

structure RuntimeEventData where
  type : Option String := none
  content : Option String := none
  role : Option String := none
  attachments : Option (List Projection.MessageAttachment) := none
  messageId : Option String := none
  partId : Option String := none
  taskRunId : Option String := none
  message : Option String := none
  mode : Option String := none
  synthetic : Bool := false

structure RuntimeSessionEvent where
  type : Option String := none
  sessionId : Option String := none
  workspaceId : Option String := none
  data : Option RuntimeEventData := none

/-- A text that is there and not empty. -/
def present (text : Option String) : Option String := text.filter (· ≠ "")

namespace RuntimeSessionEvent

variable (event : RuntimeSessionEvent)

def eventType : String := orText (event.data.bind RuntimeEventData.type) (orText event.type "")

def field {α : Type} (read : RuntimeEventData → Option α) : Option α := event.data.bind read

end RuntimeSessionEvent

structure SessionFlushIdentity where
  sessionId : String
  workspaceId : Option String

namespace SessionFlushIdentity

variable (identity : SessionFlushIdentity)

def workspace : String := orText identity.workspaceId localWorkspaceId

def session : String × String := (identity.workspace, identity.sessionId)

end SessionFlushIdentity

def sessionFlushKey (identity : SessionFlushIdentity) : String :=
  identity.workspace ++ ":" ++ identity.sessionId

/-- What the views are about: the sessions of this machine. -/
def SessionFlushIdentity.isLocal (identity : SessionFlushIdentity) : Bool :=
  identity.workspace = localWorkspaceId

def shouldPublishSessionView (event : RuntimeSessionEvent) : Bool :=
  (present event.sessionId).isSome &&
    orText event.workspaceId localWorkspaceId = localWorkspaceId &&
    event.eventType ≠ "text" && event.eventType ≠ "reasoning" &&
    event.eventType ≠ "history_refresh"

/-! ## Patches -/

inductive SessionPatchTarget where
  | taskText (taskRunId : String)
  | taskReasoning (taskRunId : String)
  | messageText (messageId role : String)
      (attachments : Option (List Projection.MessageAttachment))
  | messageReasoning (messageId : String)
deriving DecidableEq

structure SessionPatch where
  target : SessionPatchTarget
  sessionId : String
  workspaceId : Option String
  (segmentId content mode : String)
  eventAt : Int
deriving DecidableEq

def SessionPatch.identity (patch : SessionPatch) : SessionFlushIdentity :=
  ⟨patch.sessionId, patch.workspaceId⟩

/-- What the dispatcher reads of the session engine, which has been given some events. -/
structure SessionEngineReads (View : Type) where
  lastEventAt : List RuntimeSessionEvent → String → Int
  getSessionView : List RuntimeSessionEvent → String → View

def getSessionPatch (lastEventAt : String → Int) (event : RuntimeSessionEvent) :
    Option SessionPatch :=
  match present event.sessionId with
  | none => none
  | some sessionId =>
    let isReasoning := event.eventType = "reasoning"
    if event.eventType ≠ "text" ∧ ¬ isReasoning then none
    else
      let messageId := present (event.field RuntimeEventData.messageId)
      let partId := present (event.field RuntimeEventData.partId)
      let patch (target : SessionPatchTarget) (segmentId : String) : SessionPatch := {
        target, sessionId, segmentId
        workspaceId := present event.workspaceId
        content := (event.field RuntimeEventData.content).getD ""
        mode := if event.field RuntimeEventData.mode = some "replace" then "replace" else "append"
        eventAt := lastEventAt sessionId }
      match present (event.field RuntimeEventData.taskRunId) with
      | some taskRunId =>
        some (patch (if isReasoning then .taskReasoning taskRunId else .taskText taskRunId)
          ((partId.orElse fun _ => messageId).getD (taskRunId ++ ":live")))
      | none =>
        let messageId := messageId.getD (sessionId ++ ":assistant:live")
        let segmentId := partId.getD messageId
        if isReasoning then some (patch (.messageReasoning messageId) segmentId)
        else
          let role := if event.field RuntimeEventData.role = some "user" then "user"
            else "assistant"
          some (patch
            (.messageText messageId role (event.field RuntimeEventData.attachments)) segmentId)

inductive RuntimeNotification where
  | done (sessionId workspaceId : Option String) (synthetic : Bool)
  | error (workspaceId : Option String) (message : String)

def getRuntimeNotification (event : RuntimeSessionEvent) : Option RuntimeNotification :=
  if event.eventType = "done" then
    some (.done (present event.sessionId) (present event.workspaceId)
      ((event.data.map RuntimeEventData.synthetic).getD false))
  else if event.eventType = "error" ∧ present event.sessionId = none then
    some (.error (present event.workspaceId)
      ((event.field RuntimeEventData.message).getD "An error occurred"))
  else none

/-! ## The queues of a window -/

def MAX_PENDING_SESSION_PATCHES_PER_WINDOW : Nat := 512

def MAX_SESSION_PATCHES_PER_FLUSH : Nat := 128

structure PatchObject where
  event : Nat
  patch : SessionPatch
deriving DecidableEq

def PatchObject.key (object : PatchObject) : String := sessionFlushKey object.patch.identity

/-- What is sent to the window. A view is the one of an engine that had been given `events`
events. -/
inductive WindowMessage (View : Type) where
  | notification (notification : RuntimeNotification)
  | patch (object : PatchObject)
  | view (identity : SessionFlushIdentity) (events : Nat) (view : View)

structure PendingViewFlush where
  sessions : OrderedMap String SessionFlushIdentity

structure PendingPatchFlush where
  patches : List PatchObject
  overflowSessionIds : OrderedMap String SessionFlushIdentity
  droppedPatches : Nat

/-- One living window: its entries in the three maps, whose timers run as long as they stand, and
what it was sent; and the events that the engine has been given. -/
structure WindowDispatcher (View : Type) where
  pendingView : Option PendingViewFlush
  pendingPatch : Option PendingPatchFlush
  recovery : OrderedMap String SessionFlushIdentity
  sent : List (WindowMessage View)
  applied : List RuntimeSessionEvent

namespace WindowDispatcher

variable {View : Type}

def empty : WindowDispatcher View := ⟨none, none, .empty, [], []⟩

variable (engine : SessionEngineReads View) (window : WindowDispatcher View) (object : PatchObject)
  (key : String)

def send (messages : List (WindowMessage View)) : WindowDispatcher View :=
  { window with sent := window.sent ++ messages }

def publishNotification (notification : Option RuntimeNotification) : WindowDispatcher View :=
  window.send (notification.map .notification).toList

def publishSessionPatch : WindowDispatcher View := window.send [.patch object]

def publishSessionView (identity : SessionFlushIdentity) : WindowDispatcher View :=
  if identity.isLocal then
    window.send [.view identity window.applied.length
      (engine.getSessionView window.applied identity.sessionId)]
  else window

def sessionNeedsPatchViewRecovery : Bool := (window.recovery.get key).isSome

def sessionHasQueuedView : Bool :=
  (window.pendingView.bind fun pending => pending.sessions.get key).isSome

def queuedPatches : List PatchObject := (window.pendingPatch.map PendingPatchFlush.patches).getD []

/-- `pendingPatchFlushByWindowId.get(windowId)`, or a new entry with its timer. -/
def patchFlush : PendingPatchFlush := window.pendingPatch.getD ⟨[], .empty, 0⟩

def flushQueuedSessionPatchesBeforeView : WindowDispatcher View :=
  match window.pendingPatch with
  | none => window
  | some pending =>
    { window with
      pendingPatch := some { pending with
        patches := pending.patches.filter fun object => object.key ≠ key }
      sent := window.sent ++
        (pending.patches.filter fun object => object.key = key).map .patch }

def flushPendingSessionPatches : WindowDispatcher View :=
  match window.pendingPatch with
  | none => window
  | some pending =>
    let rest := pending.patches.drop MAX_SESSION_PATCHES_PER_FLUSH
    { window with
      pendingPatch := if rest = [] then none else some { pending with patches := rest }
      sent := window.sent ++
        (pending.patches.take MAX_SESSION_PATCHES_PER_FLUSH).map .patch }

def flushPendingSessionViews : WindowDispatcher View :=
  match window.pendingView with
  | none => window
  | some pending =>
    pending.sessions.values.foldl
      (fun window entry =>
        { window.publishSessionView engine entry with
          recovery := window.recovery.erase (sessionFlushKey entry) })
      { window with pendingView := none }

def queueSessionViewPublish (identity : SessionFlushIdentity) : WindowDispatcher View :=
  if identity.isLocal then
    let key := sessionFlushKey identity
    let window := if window.sessionNeedsPatchViewRecovery key then window
      else window.flushQueuedSessionPatchesBeforeView key
    let sessions := (window.pendingView.map PendingViewFlush.sessions).getD .empty
    { window with pendingView := some ⟨sessions.set key identity⟩ }
  else window

/-- The overflow branch: the patches of the session give way to its next view. -/
def recoverSessionWithViewOnlyCatchUp (identity : SessionFlushIdentity)
    (pending : PendingPatchFlush) : WindowDispatcher View :=
  let key := sessionFlushKey identity
  let kept := pending.patches.filter fun object => object.key ≠ key
  { window with
    recovery := window.recovery.set key identity
    pendingPatch := some {
      patches := kept
      overflowSessionIds := pending.overflowSessionIds.set key identity
      droppedPatches := pending.droppedPatches + (pending.patches.length - kept.length) + 1 } }

def queueSessionPatchPublish : WindowDispatcher View :=
  let pending := window.patchFlush
  if window.sessionNeedsPatchViewRecovery object.key then
    { window with pendingPatch := some { pending with
        droppedPatches := pending.droppedPatches + 1
        overflowSessionIds := pending.overflowSessionIds.set object.key object.patch.identity } }
  else if window.sessionHasQueuedView object.key then window.publishSessionPatch object
  else if pending.patches.length ≥ MAX_PENDING_SESSION_PATCHES_PER_WINDOW then
    (window.recoverSessionWithViewOnlyCatchUp object.patch.identity pending).queueSessionViewPublish
      object.patch.identity
  else { window with pendingPatch := some { pending with patches := pending.patches ++ [object] } }

/-- The patch of an event that has just been given to the engine. -/
def newPatch (event : RuntimeSessionEvent) : Option PatchObject :=
  (getSessionPatch (engine.lastEventAt window.applied) event).map fun patch =>
    ⟨window.applied.length - 1, patch⟩

def applyStreamEvent (event : RuntimeSessionEvent) : WindowDispatcher View :=
  { window with applied := window.applied ++ [event] }

def dispatchRuntimeSessionEvent (event : RuntimeSessionEvent) : WindowDispatcher View :=
  let window := (window.applyStreamEvent event).publishNotification (getRuntimeNotification event)
  match present event.sessionId with
  | none => window
  | some sessionId =>
    -- the refresh has a queue of its own
    if event.eventType = "history_refresh" then window
    else
      let window := match window.newPatch engine event with
        | none => window
        | some object => window.queueSessionPatchPublish object
      if shouldPublishSessionView event then
        window.queueSessionViewPublish ⟨sessionId, event.workspaceId⟩
      else window

def historyRefreshed (sessionId : String) : WindowDispatcher View :=
  (window.flushQueuedSessionPatchesBeforeView
    (sessionFlushKey ⟨sessionId, none⟩)).publishSessionView engine ⟨sessionId, none⟩

end WindowDispatcher

/-! ## Runs -/

inductive DispatcherTurn where
  | dispatch (event : RuntimeSessionEvent)
  | patchTimer
  | viewTimer
  | historyRefreshed (sessionId : String)

def DispatcherTurn.apply {View : Type} (engine : SessionEngineReads View) :
    DispatcherTurn → WindowDispatcher View → WindowDispatcher View
  | .dispatch event, window => window.dispatchRuntimeSessionEvent engine event
  | .patchTimer, window => window.flushPendingSessionPatches
  | .viewTimer, window => window.flushPendingSessionViews engine
  | .historyRefreshed sessionId, window => window.historyRefreshed engine sessionId

end OpenCowork.Runtime
