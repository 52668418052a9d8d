import OpenCowork.Foundation.FirstMatch
import OpenCowork.Projection.Normalize

/-! # Projecting session events

A projected event changes the view of its session: it adds an entry or merges one into the
entry of the same id, and most events also say whether the session is at work. An entry
keeps the order it was first given.
-/

namespace OpenCowork.Projection

open Foundation
open Json (asRecord findField readArray readBool readRaw readText readTrimmed record trimmed)
open ControlPlane (SessionStatus)

inductive CloudProjectedSessionEventType where
  | sessionCreated | sessionImported | sessionProjectSourceBound | promptSubmitted
  | assistantMessage | toolCall | taskRun | permissionRequested | permissionResolved
  | questionAsked | questionResolved | todosUpdated | costUpdated | artifactCreated
  | artifactUpdated | sessionStatus | sessionIdle | sessionAborted | runtimeError
  deriving DecidableEq

namespace CloudProjectedSessionEventType

def name : CloudProjectedSessionEventType → String
  | sessionCreated => "session.created"
  | sessionImported => "session.imported"
  | sessionProjectSourceBound => "session.project_source.bound"
  | promptSubmitted => "prompt.submitted"
  | assistantMessage => "assistant.message"
  | toolCall => "tool.call"
  | taskRun => "task.run"
  | permissionRequested => "permission.requested"
  | permissionResolved => "permission.resolved"
  | questionAsked => "question.asked"
  | questionResolved => "question.resolved"
  | todosUpdated => "todos.updated"
  | costUpdated => "cost.updated"
  | artifactCreated => "artifact.created"
  | artifactUpdated => "artifact.updated"
  | sessionStatus => "session.status"
  | sessionIdle => "session.idle"
  | sessionAborted => "session.aborted"
  | runtimeError => "runtime.error"

/-- `CLOUD_PROJECTED_SESSION_EVENT_TYPES`. -/
def all : List CloudProjectedSessionEventType :=
  [sessionCreated, sessionImported, sessionProjectSourceBound, promptSubmitted, assistantMessage,
    toolCall, taskRun, permissionRequested, permissionResolved, questionAsked, questionResolved,
    todosUpdated, costUpdated, artifactCreated, artifactUpdated, sessionStatus, sessionIdle,
    sessionAborted, runtimeError]

def ofName? (text : String) : Option CloudProjectedSessionEventType :=
  all.find? fun type => decide (type.name = text)

end CloudProjectedSessionEventType

structure CloudProjectionEventRecord where
  sequence : Nat
  type : String
  payload : Json
  createdAt : NonBlank

/-! ## Entries from payloads -/

/-- The first of the fields that holds text. -/
def readPayloadId (payload : List (String × Json)) (keys : List String) : Option NonBlank :=
  keys.findSome? fun key => readText (findField key payload)

def eventPayloadId (payload : List (String × Json)) (keys : List String) (fallback : NonBlank) :
    NonBlank :=
  (readPayloadId payload keys).getD fallback

theorem isBlank_generated (session kind : String) (rest : String) :
    Text.isBlank (session ++ ":" ++ kind ++ rest) = false := by
  refine Text.isBlank_of_mem (c := ':') ?_ (by decide)
  rw [String.toList_append, String.toList_append, String.toList_append]
  exact List.mem_append_left _ (List.mem_append_left _ (List.mem_append_right _ (by decide)))

/-- The id of an entry whose event brought none: `session:kind:sequence`. -/
def generatedId (session : CloudProjectionSessionRecord) (kind : String)
    (event : CloudProjectionEventRecord) : NonBlank :=
  ⟨session.sessionId ++ ":" ++ kind ++ (":" ++ event.sequence.repr), isBlank_generated _ _ _⟩

/-- The id of a message whose event brought none: `session:sequence:role`. -/
def generatedMessageId (session : CloudProjectionSessionRecord) (role : MessageRole)
    (event : CloudProjectionEventRecord) : NonBlank :=
  ⟨session.sessionId ++ ":" ++ event.sequence.repr ++ (":" ++ role.name), isBlank_generated _ _ _⟩

def addSessionTokens (current delta : SessionTokens) : SessionTokens where
  input := current.input + delta.input
  output := current.output + delta.output
  reasoning := current.reasoning + delta.reasoning
  cacheRead := current.cacheRead + delta.cacheRead
  cacheWrite := current.cacheWrite + delta.cacheWrite

def taskRunFromPayload (session : CloudProjectionSessionRecord) (payload : List (String × Json))
    (event : CloudProjectionEventRecord) : TaskRun where
  id := eventPayloadId payload ["taskRunId", "id"] (generatedId session "task" event)
  title := readString (findField "title" payload)
    (readString (findField "taskTitle" payload) defaultTaskTitle)
  agent := readTrimmed (findField "agent" payload)
  status := normalizeTaskStatus (findField "status" payload)
  sourceSessionId := readTrimmed (findField "sourceSessionId" payload)
  parentSessionId := readTrimmed (findField "parentSessionId" payload)
  content := readText (findField "content" payload)
  transcript := []
  reasoning := .absent
  toolCalls := []
  compactions := []
  todos := []
  error := readTrimmed (findField "error" payload)
  sessionCost := readNumber (findField "sessionCost" payload) 0
  sessionTokens := normalizeSessionTokens (findField "sessionTokens" payload)
  order := event.sequence
  startedAt := readTrimmed (findField "startedAt" payload)
  finishedAt := readTrimmed (findField "finishedAt" payload)

def toolCallFromPayload (env : ProjectionEnvironment) (session : CloudProjectionSessionRecord)
    (payload : List (String × Json)) (event : CloudProjectionEventRecord) : ToolCall where
  id := eventPayloadId payload ["id", "callId", "toolCallId"] (generatedId session "tool" event)
  name := readString (findField "name" payload)
    (readString (findField "tool" payload) defaultToolName)
  input := sanitizeRuntimeEventRecord env (findField "input" payload)
  status := normalizeToolStatus (findField "status" payload)
  output := (findField "output" payload).bind fun output =>
    sanitizeCloudToolOutput env output (findField "outputPaths" payload)
  attachments := ToolAttachments.read (findField "attachments" payload)
  agent := readTrimmed (findField "agent" payload)
  sourceSessionId := readTrimmed (findField "sourceSessionId" payload)
  order := event.sequence

def pendingApprovalFromPayload (session : CloudProjectionSessionRecord)
    (payload : List (String × Json)) (event : CloudProjectionEventRecord) : PendingApproval where
  id := eventPayloadId payload ["permissionId", "id", "requestId", "requestID"]
    (generatedId session "permission" event)
  sessionId := session.sessionId
  sourceSessionId := readTrimmed (findField "sourceSessionId" payload)
  taskRunId := readTrimmed (findField "taskRunId" payload)
  tool := readString (findField "tool" payload) permission
  input := asRecord (findField "input" payload)
  description := readString (findField "description" payload)
    (readString (findField "tool" payload) permissionRequestedText)
  order := event.sequence

/-- The tool a question came from, under either spelling of its fields. -/
def questionToolFromPayload (value : Option Json) : Option QuestionTool :=
  let tool := asRecord value
  if tool = [] then none
  else
    some
      { messageId := (readText (findField "messageId" tool)).or
          (readText (findField "messageID" tool))
        callId := (readText (findField "callId" tool)).or
          (readText (findField "callID" tool)) }

def pendingQuestionFromPayload (session : CloudProjectionSessionRecord)
    (payload : List (String × Json)) (event : CloudProjectionEventRecord) : PendingQuestion where
  id := eventPayloadId payload ["requestId", "requestID", "id"]
    (generatedId session "question" event)
  sessionId := session.sessionId
  sourceSessionId := readTrimmed (findField "sourceSessionId" payload)
  questions := Json.readItems normalizeQuestionPrompt (findField "questions" payload)
  tool := questionToolFromPayload (findField "tool" payload)

/-! ## Merging by id -/

/-- `{ ...entry, ...incoming }` for each kind of entry, which keeps its order. -/
def CloudSessionMessage.merge (entry incoming : CloudSessionMessage) : CloudSessionMessage :=
  { incoming with
    attachments := incoming.attachments.or entry.attachments }

def ToolCall.merge (entry incoming : ToolCall) : ToolCall :=
  { incoming with
    output := incoming.output.or entry.output
    attachments := incoming.attachments.or entry.attachments
    order := entry.order }

def TaskRun.merge (entry incoming : TaskRun) : TaskRun :=
  { incoming with
    reasoning := entry.reasoning.spread incoming.reasoning
    order := entry.order }

def PendingApproval.merge (entry incoming : PendingApproval) : PendingApproval :=
  { incoming with
    order := entry.order }

def PendingQuestion.merge (entry incoming : PendingQuestion) : PendingQuestion :=
  { incoming with
    tool := incoming.tool.or entry.tool }

def CloudResolvedApproval.merge (entry incoming : CloudResolvedApproval) : CloudResolvedApproval :=
  { incoming with
    order := entry.order }

def CloudResolvedQuestion.merge (entry incoming : CloudResolvedQuestion) : CloudResolvedQuestion :=
  { incoming with
    order := entry.order }

def SessionError.merge (entry incoming : SessionError) : SessionError :=
  { incoming with
    order := entry.order }

def SessionArtifact.merge (entry incoming : SessionArtifact) : SessionArtifact :=
  { incoming with
    order := entry.order
    mime := entry.mime.spread incoming.mime
    size := incoming.size.or entry.size
    createdAt := entry.createdAt.spread incoming.createdAt
    updatedAt := entry.updatedAt.spread incoming.updatedAt
    kind := entry.kind.spread incoming.kind
    status := entry.status.spread incoming.status }

/-- `upsertById`: merge into the entry of the same id, or add at the end. -/
def upsertById {α : Type} (id : α → NonBlank) (merge : α → α → α) (entries : List α)
    (incoming : α) : List α :=
  upsertFirst (fun entry => decide (id entry = id incoming)) merge incoming entries

def removeById {α : Type} (id : α → NonBlank) (entries : List α) (removed : NonBlank) : List α :=
  entries.filter fun entry => decide (id entry ≠ removed)

/-! ## One event -/

/-- `resolveAssistantMessageContent`: deltas are appended, anything else replaces. -/
def resolveAssistantMessageContent (mode : Option String) (existingContent : Option String)
    (content : Option Json) : String :=
  let deltaText := (readRaw content).getD ""
  if mode = some "append" then existingContent.getD "" ++ deltaText else deltaText

section Events

variable (env : ProjectionEnvironment) (session : CloudProjectionSessionRecord)
  (current : CloudSessionProjectionView) (payload : List (String × Json))
  (event : CloudProjectionEventRecord)

def reduceSessionCreated : CloudSessionProjectionView :=
  { current with
    title := readStringOr (findField "title" payload) current.title
    status := .idle
    isGenerating := false
    lastError := none
    updatedAt := event.createdAt }

def reduceSessionImported : CloudSessionProjectionView :=
  { current with
    origin := normalizeOrigin (some (record
      [("kind", some (.str "local-session-import")),
        ("sourceFingerprint",
          some (.str (readPlainString (findField "sourceFingerprint" payload)))),
        ("importedAt",
          some (.str (readString (findField "importedAt" payload) event.createdAt).val)),
        ("itemCounts", some (.obj (asRecord (findField "itemCounts" payload))))]))
    status := .idle
    isGenerating := false
    lastError := none
    updatedAt := event.createdAt }

def reduceProjectSourceBound : CloudSessionProjectionView :=
  { current with
    projectSource := normalizeProjectSource (findField "projectSource" payload)
    updatedAt := event.createdAt }

def reducePromptSubmitted : CloudSessionProjectionView :=
  { current with
    status := .running
    isGenerating := true
    lastError := none
    updatedAt := event.createdAt
    messages := upsertById CloudSessionMessage.id CloudSessionMessage.merge current.messages
      { id := readString (findField "messageId" payload)
          (generatedMessageId session .user event)
        role := .user
        content := readPlainString (findField "text" payload)
        createdAt := event.createdAt
        attachments := readArray (findField "attachments" payload) } }

/-- The message that an assistant event leaves: a delta goes behind the text there is. -/
def assistantMessage : CloudSessionMessage :=
  let messageId := readString (findField "messageId" payload)
    (generatedMessageId session .assistant event)
  let mode := readRaw (findField "mode" payload)
  let existing := if mode = some "append" then
    current.messages.find? fun message => decide (message.id = messageId) else none
  { id := messageId
    role := .assistant
    content := resolveAssistantMessageContent mode (existing.map CloudSessionMessage.content)
      (findField "content" payload)
    createdAt := (existing.map CloudSessionMessage.createdAt).getD event.createdAt
    attachments := readArray (findField "attachments" payload) }

def reduceAssistantMessage : CloudSessionProjectionView :=
  { current with
    lastError := none
    updatedAt := event.createdAt
    messages := upsertById CloudSessionMessage.id CloudSessionMessage.merge current.messages
      (assistantMessage session current payload event) }

/-- The tool call of an event over the one there is: a name, an input, an output or
attachments that the event does not bring are kept. -/
def ToolCall.overExisting (projected : ToolCall) (existing : Option ToolCall) : ToolCall :=
  match existing with
  | none => projected
  | some existing =>
    { projected with
      name := ((readText (findField "name" payload)).or
        (readText (findField "tool" payload))).getD existing.name
      input := if projected.input ≠ [] then projected.input else existing.input
      output := if findField "output" payload = none then
          existing.output.or projected.output
        else projected.output
      attachments := if readArray (findField "attachments" payload) = none then
          existing.attachments.or projected.attachments
        else projected.attachments }

def findTaskRunToolCall (taskRunId : Trimmed) (toolCallId : NonBlank) : Option ToolCall :=
  (current.taskRuns.find? fun entry => decide (entry.id.val = taskRunId.val)).bind fun taskRun =>
    taskRun.toolCalls.find? fun entry => decide (entry.id = toolCallId)

def TaskRun.withToolCall (taskRun : TaskRun) (toolCall : ToolCall) : TaskRun :=
  { taskRun with
    status := if taskRun.status = .queued then .running else taskRun.status
    toolCalls := upsertById ToolCall.id ToolCall.merge taskRun.toolCalls toolCall }

/-- The task run that a tool call belongs to, which its event starts when there is none. -/
def withTaskRunToolCall (taskRunId : Trimmed) (toolCall : ToolCall) : List TaskRun :=
  let existing := current.taskRuns.find? fun entry => decide (entry.id.val = taskRunId.val)
  let taskRun := existing.getD (taskRunFromPayload session
    ([("id", .str taskRunId.val), ("status", .str TaskStatus.running.name)] ++ payload) event)
  upsertById TaskRun.id TaskRun.merge current.taskRuns (taskRun.withToolCall toolCall)

def reduceToolCall : CloudSessionProjectionView :=
  let projectedToolCall := toolCallFromPayload env session payload event
  let next :=
    { current with
      status := .running
      isGenerating := true
      lastError := none
      updatedAt := event.createdAt }
  match readTrimmed (findField "taskRunId" payload) with
  | some taskRunId =>
    let existingToolCall := findTaskRunToolCall current taskRunId projectedToolCall.id
    { next with
      taskRuns := withTaskRunToolCall session current payload event taskRunId
        (projectedToolCall.overExisting payload existingToolCall) }
  | none =>
    let existingToolCall :=
      current.toolCalls.find? fun entry => decide (entry.id = projectedToolCall.id)
    { next with
      toolCalls := upsertById ToolCall.id ToolCall.merge current.toolCalls
        (projectedToolCall.overExisting payload existingToolCall) }

def reduceTaskRun : CloudSessionProjectionView :=
  { current with
    taskRuns := upsertById TaskRun.id TaskRun.merge current.taskRuns
      (taskRunFromPayload session payload event)
    updatedAt := event.createdAt }

def reducePermissionRequested : CloudSessionProjectionView :=
  { current with
    status := .running
    isGenerating := false
    pendingApprovals := upsertById PendingApproval.id PendingApproval.merge
      current.pendingApprovals (pendingApprovalFromPayload session payload event)
    updatedAt := event.createdAt }

def resolvedApproval (permissionId : NonBlank) : Option CloudResolvedApproval :=
  let pendingApproval :=
    current.pendingApprovals.find? fun entry => decide (entry.id = permissionId)
  let reply := readStringOr (findField "reply" payload)
    (readPlainString (findField "response" payload))
  normalizeResolvedApproval (record
    [("id", some (.str permissionId.val)), ("sessionId", some (.str session.sessionId)),
      ("taskRunId", some (trimmed ((pendingApproval.bind PendingApproval.taskRunId).or
        (readTrimmed (findField "taskRunId" payload))))),
      ("tool", some (.str ((pendingApproval.map PendingApproval.tool).getD
        (readString (findField "tool" payload) permission)).val)),
      ("description", some (.str ((pendingApproval.map PendingApproval.description).getD
        (readString (findField "description" payload)
          permissionResolvedText)).val)),
      ("allowed", some (.bool
        (readBool (findField "allowed" payload) == some true || reply == "allow" ||
          reply == "once" || reply == "always"))),
      ("order", some (.num event.sequence)), ("resolvedAt", some (.str event.createdAt.val))])

def reducePermissionResolved : CloudSessionProjectionView :=
  let permissionId := readPayloadId payload ["permissionId", "id", "requestId", "requestID"]
  let resolved := permissionId.bind (resolvedApproval session current payload event)
  { current with
    pendingApprovals := match permissionId with
      | some permissionId => removeById PendingApproval.id current.pendingApprovals permissionId
      | none => current.pendingApprovals
    resolvedApprovals := match resolved with
      | some resolved => upsertById CloudResolvedApproval.id CloudResolvedApproval.merge
          current.resolvedApprovals resolved
      | none => current.resolvedApprovals
    isGenerating := false
    updatedAt := event.createdAt }

def reduceQuestionAsked : CloudSessionProjectionView :=
  { current with
    status := .running
    isGenerating := false
    pendingQuestions := upsertById PendingQuestion.id PendingQuestion.merge
      current.pendingQuestions (pendingQuestionFromPayload session payload event)
    updatedAt := event.createdAt }

def resolvedQuestion (questionId : NonBlank) : Option CloudResolvedQuestion :=
  let pendingQuestion :=
    current.pendingQuestions.find? fun entry => decide (entry.id = questionId)
  normalizeResolvedQuestion (record
    [("id", some (.str questionId.val)), ("sessionId", some (.str session.sessionId)),
      ("sourceSessionId", some (trimmed
        ((pendingQuestion.bind PendingQuestion.sourceSessionId).or
          (readTrimmed (findField "sourceSessionId" payload))))),
      ("questions", some (.arr (((pendingQuestion.map PendingQuestion.questions).getD []).map
        QuestionPrompt.encode))),
      ("answers", some (.arr ((readArray (findField "answers" payload)).getD []))),
      ("rejected", some (.bool
        (readBool (findField "rejected" payload) == some true))),
      ("order", some (.num event.sequence)), ("resolvedAt", some (.str event.createdAt.val))])

def reduceQuestionResolved : CloudSessionProjectionView :=
  let questionId := readPayloadId payload ["requestId", "requestID", "id"]
  let resolved := questionId.bind (resolvedQuestion session current payload event)
  { current with
    pendingQuestions := match questionId with
      | some questionId => removeById PendingQuestion.id current.pendingQuestions questionId
      | none => current.pendingQuestions
    resolvedQuestions := match resolved with
      | some resolved => upsertById CloudResolvedQuestion.id CloudResolvedQuestion.merge
          current.resolvedQuestions resolved
      | none => current.resolvedQuestions
    isGenerating := false
    updatedAt := event.createdAt }

def reduceTodosUpdated : CloudSessionProjectionView :=
  { current with
    todos := normalizeTodos (findField "todos" payload)
    updatedAt := event.createdAt }

def reduceCostUpdated : CloudSessionProjectionView :=
  let tokens := normalizeSessionTokens (findField "tokens" payload)
  { current with
    sessionCost := current.sessionCost + readNumber (findField "cost" payload) 0
    sessionTokens := addSessionTokens current.sessionTokens tokens
    lastInputTokens := if 0 < tokens.input then tokens.input else current.lastInputTokens
    updatedAt := event.createdAt }

def reduceArtifact : CloudSessionProjectionView :=
  { current with
    artifacts := match normalizeSessionArtifact (.obj payload) event.sequence with
      | some artifact =>
        upsertById SessionArtifact.id SessionArtifact.merge current.artifacts artifact
      | none => current.artifacts
    updatedAt := event.createdAt }

def reduceSessionAborted : CloudSessionProjectionView :=
  { current with
    status := .idle
    isGenerating := false
    updatedAt := event.createdAt }

/-- Idle, unless the session failed: an error is the stronger state. -/
def settledStatus (status : SessionStatus) : SessionStatus :=
  if status = .errored then .errored else .idle

def reduceSessionIdle : CloudSessionProjectionView :=
  { current with
    status := settledStatus current.status
    isGenerating := false
    updatedAt := event.createdAt }

def reportedStatus (status : SessionStatus) : SessionStatus :=
  let statusType := readPlainString (findField "statusType" payload)
  if statusType = "busy" ∨ statusType = "running" then .running
  else if statusType = "idle" then settledStatus status
  else status

def reduceSessionStatus : CloudSessionProjectionView :=
  { current with
    status := reportedStatus payload current.status
    isGenerating := decide (reportedStatus payload current.status = .running)
    updatedAt := event.createdAt }

def reduceRuntimeError : CloudSessionProjectionView :=
  let message := readString (findField "message" payload)
    ⟨"Runtime command failed.", by decide⟩
  { current with
    status := .errored
    isGenerating := false
    lastError := some message.val
    errors := upsertById SessionError.id SessionError.merge current.errors
      { id := eventPayloadId payload ["id", "commandId"] (generatedId session "error" event)
        sessionId := some session.sessionId
        message := message
        order := event.sequence }
    updatedAt := event.createdAt }

def reduceProjectedEvent : CloudProjectedSessionEventType → CloudSessionProjectionView
  | .sessionCreated => reduceSessionCreated current payload event
  | .sessionImported => reduceSessionImported current payload event
  | .sessionProjectSourceBound => reduceProjectSourceBound current payload event
  | .promptSubmitted => reducePromptSubmitted session current payload event
  | .assistantMessage => reduceAssistantMessage session current payload event
  | .toolCall => reduceToolCall env session current payload event
  | .taskRun => reduceTaskRun session current payload event
  | .permissionRequested => reducePermissionRequested session current payload event
  | .permissionResolved => reducePermissionResolved session current payload event
  | .questionAsked => reduceQuestionAsked session current payload event
  | .questionResolved => reduceQuestionResolved session current payload event
  | .todosUpdated => reduceTodosUpdated current payload event
  | .costUpdated => reduceCostUpdated current payload event
  | .artifactCreated => reduceArtifact current payload event
  | .artifactUpdated => reduceArtifact current payload event
  | .sessionStatus => reduceSessionStatus current payload event
  | .sessionIdle => reduceSessionIdle current event
  | .sessionAborted => reduceSessionAborted current event
  | .runtimeError => reduceRuntimeError session current payload event

def reduceCloudSessionProjectionEvent : CloudSessionProjectionView :=
  match CloudProjectedSessionEventType.ofName? event.type with
  | some type => reduceProjectedEvent env session current (asRecord (some event.payload)) event type
  | none => current

end Events

end OpenCowork.Projection
