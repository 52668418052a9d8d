import OpenCowork.ControlPlane.ProjectSource
import OpenCowork.ControlPlane.Records
import OpenCowork.Projection.Attachments

/-! # Cloud session projection views

The view of a session that its events are projected into, as the objects it is made of and
as the JSON they are stored as. Text that was read is more than white space (`NonBlank`) or
trimmed (`Trimmed`); an `Option NonBlank` is text that may also be empty.
-/

namespace OpenCowork.Projection

open Foundation
open Json (checked nullable record text trimmed)

open ControlPlane (SessionStatus CloudProjectSource)

variable (taskRun : TaskRun) (artifact : SessionArtifact) (view : CloudSessionProjectionView)

inductive MessageRole where
  | user | assistant | system
  deriving DecidableEq

def MessageRole.name : MessageRole → String
  | user => "user"
  | assistant => "assistant"
  | system => "system"

inductive ToolStatus where
  | complete | error | running
  deriving DecidableEq

def ToolStatus.name : ToolStatus → String
  | complete => "complete"
  | error => "error"
  | running => "running"

inductive TaskStatus where
  | queued | running | complete | error
  deriving DecidableEq

def TaskStatus.name : TaskStatus → String
  | queued => "queued"
  | running => "running"
  | complete => "complete"
  | error => "error"

inductive ArtifactKind where
  | document | chart | deck | spreadsheet | draft
  deriving DecidableEq

def ArtifactKind.name : ArtifactKind → String
  | document => "document"
  | chart => "chart"
  | deck => "deck"
  | spreadsheet => "spreadsheet"
  | draft => "draft"

inductive ArtifactStatus where
  | draft | inReview | final
  deriving DecidableEq

def ArtifactStatus.name : ArtifactStatus → String
  | draft => "draft"
  | inReview => "in-review"
  | final => "final"

def statusName : SessionStatus → String
  | .idle => "idle"
  | .running => "running"
  | .closed => "closed"
  | .errored => "errored"

structure CloudSessionMessage where
  id : NonBlank
  role : MessageRole
  content : String
  createdAt : NonBlank
  attachments : Option (List Json)
  deriving DecidableEq

structure SessionTokens where
  (input output reasoning cacheRead cacheWrite : ℚ)
  deriving DecidableEq

structure TodoItem where
  (content status priority : NonBlank)
  id : Option Trimmed
  deriving DecidableEq

structure ToolCall where
  (id name : NonBlank)
  input : List (String × Json)
  status : ToolStatus
  output : Option Json
  attachments : Option ToolAttachments
  (agent sourceSessionId : Option Trimmed)
  order : ℚ
  deriving DecidableEq

structure TaskRun where
  (id title : NonBlank)
  agent : Option Trimmed
  status : TaskStatus
  (sourceSessionId parentSessionId : Option Trimmed)
  content : Option NonBlank
  transcript : List Json
  reasoning : Own (List Json)
  toolCalls : List ToolCall
  compactions : List Json
  todos : List TodoItem
  error : Option Trimmed
  sessionCost : ℚ
  sessionTokens : SessionTokens
  order : ℚ
  (startedAt finishedAt : Option Trimmed)
  deriving DecidableEq

structure QuestionOption where
  (label description : Option NonBlank)
  described : (label.isSome || description.isSome) = true
  deriving DecidableEq

structure QuestionPrompt where
  header : Option NonBlank
  question : NonBlank
  options : List QuestionOption
  (multiple custom : Bool)
  deriving DecidableEq

structure QuestionTool where
  (messageId callId : Option NonBlank)
  deriving DecidableEq

structure PendingQuestion where
  id : NonBlank
  sessionId : String
  sourceSessionId : Option Trimmed
  questions : List QuestionPrompt
  tool : Option QuestionTool
  deriving DecidableEq

structure PendingApproval where
  id : NonBlank
  sessionId : String
  (sourceSessionId taskRunId : Option Trimmed)
  tool : NonBlank
  input : List (String × Json)
  description : NonBlank
  order : ℚ
  deriving DecidableEq

structure CloudResolvedApproval where
  (id sessionId : NonBlank)
  taskRunId : Option Trimmed
  (tool description : NonBlank)
  allowed : Bool
  order : ℚ
  resolvedAt : Option NonBlank
  deriving DecidableEq

structure CloudResolvedQuestion where
  (id sessionId : NonBlank)
  sourceSessionId : Option Trimmed
  questions : List QuestionPrompt
  answers : List Json
  rejected : Bool
  order : ℚ
  resolvedAt : Option NonBlank
  deriving DecidableEq

structure SessionError where
  id : NonBlank
  sessionId : Option String
  message : NonBlank
  order : ℚ
  deriving DecidableEq

structure SessionArtifact where
  (id toolId toolName filePath filename : NonBlank)
  order : ℚ
  taskRunId : Option Trimmed
  mime : Own Trimmed
  size : Option ℚ
  (createdAt updatedAt : Own Trimmed)
  kind : Own ArtifactKind
  status : Own ArtifactStatus
  (authorAgentId projectId taskId statusUpdatedBy statusUpdatedAt : Option Trimmed)
  deriving DecidableEq

/-- Where an imported session came from. -/
structure CloudSessionProjectionOrigin where
  (sourceFingerprint importedAt : NonBlank)
  itemCounts : List (String × ℚ)
  itemsCounted : ∀ entry ∈ itemCounts, entry.1 ≠ "__proto__"
  deriving DecidableEq

def encodeProjectSource : CloudProjectSource → Json
  | .git repositoryUrl ref subdirectory credentialRef =>
    record
      [("kind", some (.str "git")), ("repositoryUrl", some (.str repositoryUrl)),
        ("ref", some (nullable .str ref)),
        ("subdirectory", some (nullable .str subdirectory)),
        ("credentialRef", some (nullable .str credentialRef))]
  | .snapshot snapshotId objectKey fileCount byteCount title =>
    record
      [("kind", some (.str "snapshot")), ("snapshotId", some (.str snapshotId)),
        ("objectKey", some (.str objectKey)), ("fileCount", some (.num fileCount)),
        ("byteCount", some (.num byteCount)), ("title", some (nullable .str title))]

abbrev BoundProjectSource :=
  { source : CloudProjectSource //
    ControlPlane.CloudProjectSource.normalizeCloudProjectSource (encodeProjectSource source) =
      some source }

structure CloudSessionProjectionView where
  (sessionId title : String)
  status : SessionStatus
  profileName : String
  isGenerating : Bool
  messages : List CloudSessionMessage
  toolCalls : List ToolCall
  taskRuns : List TaskRun
  pendingApprovals : List PendingApproval
  pendingQuestions : List PendingQuestion
  resolvedApprovals : List CloudResolvedApproval
  resolvedQuestions : List CloudResolvedQuestion
  artifacts : List SessionArtifact
  todos : List TodoItem
  errors : List SessionError
  sessionCost : ℚ
  sessionTokens : SessionTokens
  lastInputTokens : ℚ
  lastError : Option String
  origin : Option CloudSessionProjectionOrigin
  projectSource : Option BoundProjectSource
  updatedAt : NonBlank
  deriving DecidableEq

/-! ## As JSON -/

namespace CloudSessionMessage

def encode (message : CloudSessionMessage) : Json :=
  record
    [("id", some (.str message.id.val)), ("role", some (.str message.role.name)),
      ("content", some (.str message.content)), ("createdAt", some (.str message.createdAt.val)),
      ("attachments", message.attachments.map .arr)]

end CloudSessionMessage

def SessionTokens.encode (tokens : SessionTokens) : Json :=
  record
    [("input", some (.num tokens.input)), ("output", some (.num tokens.output)),
      ("reasoning", some (.num tokens.reasoning)), ("cacheRead", some (.num tokens.cacheRead)),
      ("cacheWrite", some (.num tokens.cacheWrite))]

def TodoItem.encode (todo : TodoItem) : Json :=
  record
    [("content", some (.str todo.content.val)), ("status", some (.str todo.status.val)),
      ("priority", some (.str todo.priority.val)), ("id", todo.id.map checked)]

def ToolCall.encode (toolCall : ToolCall) : Json :=
  record
    [("id", some (.str toolCall.id.val)), ("name", some (.str toolCall.name.val)),
      ("input", some (.obj toolCall.input)), ("status", some (.str toolCall.status.name)),
      ("output", toolCall.output), ("attachments", toolCall.attachments.map ToolAttachments.encode),
      ("agent", some (trimmed toolCall.agent)),
      ("sourceSessionId", some (trimmed toolCall.sourceSessionId)),
      ("order", some (.num toolCall.order))]

def TaskRun.encode : Json :=
  record
    [("id", some (.str taskRun.id.val)), ("title", some (.str taskRun.title.val)),
      ("agent", some (trimmed taskRun.agent)), ("status", some (.str taskRun.status.name)),
      ("sourceSessionId", some (trimmed taskRun.sourceSessionId)),
      ("parentSessionId", some (trimmed taskRun.parentSessionId)),
      ("content", some (text taskRun.content)),
      ("transcript", some (.arr taskRun.transcript)),
      ("reasoning", taskRun.reasoning.toOption.map .arr),
      ("toolCalls", some (.arr (taskRun.toolCalls.map ToolCall.encode))),
      ("compactions", some (.arr taskRun.compactions)),
      ("todos", some (.arr (taskRun.todos.map TodoItem.encode))),
      ("error", some (trimmed taskRun.error)),
      ("sessionCost", some (.num taskRun.sessionCost)),
      ("sessionTokens", some taskRun.sessionTokens.encode),
      ("order", some (.num taskRun.order)), ("startedAt", some (trimmed taskRun.startedAt)),
      ("finishedAt", some (trimmed taskRun.finishedAt))]

def QuestionOption.encode (option : QuestionOption) : Json :=
  record
    [("label", some (text option.label)), ("description", some (text option.description))]

def QuestionPrompt.encode (prompt : QuestionPrompt) : Json :=
  record
    [("header", some (text prompt.header)), ("question", some (.str prompt.question.val)),
      ("options", some (.arr (prompt.options.map QuestionOption.encode))),
      ("multiple", some (.bool prompt.multiple)), ("custom", some (.bool prompt.custom))]

def QuestionTool.encode (tool : QuestionTool) : Json :=
  record
    [("messageId", some (text tool.messageId)), ("callId", some (text tool.callId))]

def PendingQuestion.encode (question : PendingQuestion) : Json :=
  record
    [("id", some (.str question.id.val)), ("sessionId", some (.str question.sessionId)),
      ("sourceSessionId", some (trimmed question.sourceSessionId)),
      ("questions", some (.arr (question.questions.map QuestionPrompt.encode))),
      ("tool", question.tool.map QuestionTool.encode)]

def PendingApproval.encode (approval : PendingApproval) : Json :=
  record
    [("id", some (.str approval.id.val)), ("sessionId", some (.str approval.sessionId)),
      ("sourceSessionId", some (trimmed approval.sourceSessionId)),
      ("taskRunId", some (trimmed approval.taskRunId)),
      ("tool", some (.str approval.tool.val)), ("input", some (.obj approval.input)),
      ("description", some (.str approval.description.val)),
      ("order", some (.num approval.order))]

def CloudResolvedApproval.encode (approval : CloudResolvedApproval) : Json :=
  record
    [("id", some (.str approval.id.val)), ("sessionId", some (.str approval.sessionId.val)),
      ("taskRunId", some (trimmed approval.taskRunId)),
      ("tool", some (.str approval.tool.val)),
      ("description", some (.str approval.description.val)),
      ("allowed", some (.bool approval.allowed)), ("order", some (.num approval.order)),
      ("resolvedAt", some (text approval.resolvedAt))]

def CloudResolvedQuestion.encode (question : CloudResolvedQuestion) : Json :=
  record
    [("id", some (.str question.id.val)), ("sessionId", some (.str question.sessionId.val)),
      ("sourceSessionId", some (trimmed question.sourceSessionId)),
      ("questions", some (.arr (question.questions.map QuestionPrompt.encode))),
      ("answers", some (.arr question.answers)), ("rejected", some (.bool question.rejected)),
      ("order", some (.num question.order)), ("resolvedAt", some (text question.resolvedAt))]

def SessionError.encode (error : SessionError) : Json :=
  record
    [("id", some (.str error.id.val)), ("sessionId", some (nullable .str error.sessionId)),
      ("message", some (.str error.message.val)), ("order", some (.num error.order))]

def SessionArtifact.encode : Json :=
  record
    [("id", some (.str artifact.id.val)), ("toolId", some (.str artifact.toolId.val)),
      ("toolName", some (.str artifact.toolName.val)),
      ("filePath", some (.str artifact.filePath.val)),
      ("filename", some (.str artifact.filename.val)), ("order", some (.num artifact.order)),
      ("source", some (.str "cloud")), ("cloudArtifactId", some (.str artifact.id.val)),
      ("taskRunId", some (trimmed artifact.taskRunId)),
      ("mime", artifact.mime.toOption.map checked),
      ("size", artifact.size.map .num),
      ("createdAt", artifact.createdAt.toOption.map checked),
      ("updatedAt", artifact.updatedAt.toOption.map checked),
      ("kind", artifact.kind.toOption.map fun kind => .str kind.name),
      ("status", artifact.status.toOption.map fun status => .str status.name),
      ("authorAgentId", some (trimmed artifact.authorAgentId)),
      ("projectId", some (trimmed artifact.projectId)),
      ("taskId", some (trimmed artifact.taskId)),
      ("statusUpdatedBy", some (trimmed artifact.statusUpdatedBy)),
      ("statusUpdatedAt", some (trimmed artifact.statusUpdatedAt))]

def CloudSessionProjectionOrigin.encode (origin : CloudSessionProjectionOrigin) : Json :=
  record
    [("kind", some (.str "local-session-import")),
      ("sourceFingerprint", some (.str origin.sourceFingerprint.val)),
      ("importedAt", some (.str origin.importedAt.val)),
      ("itemCounts", some (.obj (origin.itemCounts.map fun entry => (entry.1, .num entry.2))))]

def CloudSessionProjectionView.encode : Json :=
  record
    [("sessionId", some (.str view.sessionId)), ("title", some (.str view.title)),
      ("status", some (.str (statusName view.status))),
      ("profileName", some (.str view.profileName)),
      ("isGenerating", some (.bool view.isGenerating)),
      ("messages", some (.arr (view.messages.map CloudSessionMessage.encode))),
      ("toolCalls", some (.arr (view.toolCalls.map ToolCall.encode))),
      ("taskRuns", some (.arr (view.taskRuns.map TaskRun.encode))),
      ("pendingApprovals", some (.arr (view.pendingApprovals.map PendingApproval.encode))),
      ("pendingQuestions", some (.arr (view.pendingQuestions.map PendingQuestion.encode))),
      ("resolvedApprovals", some (.arr (view.resolvedApprovals.map CloudResolvedApproval.encode))),
      ("resolvedQuestions", some (.arr (view.resolvedQuestions.map CloudResolvedQuestion.encode))),
      ("artifacts", some (.arr (view.artifacts.map SessionArtifact.encode))),
      ("todos", some (.arr (view.todos.map TodoItem.encode))),
      ("errors", some (.arr (view.errors.map SessionError.encode))),
      ("sessionCost", some (.num view.sessionCost)),
      ("sessionTokens", some view.sessionTokens.encode),
      ("lastInputTokens", some (.num view.lastInputTokens)),
      ("lastError", some (nullable .str view.lastError)),
      ("origin", some (nullable CloudSessionProjectionOrigin.encode view.origin)),
      ("projectSource", some (nullable (fun source => encodeProjectSource source.val)
        view.projectSource)),
      ("updatedAt", some (.str view.updatedAt.val))]

/-! ## Copied through their text -/

def TaskRun.clone : TaskRun :=
  { taskRun with
    reasoning := taskRun.reasoning.clone }

def SessionArtifact.clone : SessionArtifact :=
  { artifact with
    mime := artifact.mime.clone
    createdAt := artifact.createdAt.clone
    updatedAt := artifact.updatedAt.clone
    kind := artifact.kind.clone
    status := artifact.status.clone }

/-- The copy of a view, in which properties without a value are gone. -/
def CloudSessionProjectionView.clone :
    CloudSessionProjectionView :=
  { view with
    taskRuns := view.taskRuns.map TaskRun.clone
    artifacts := view.artifacts.map SessionArtifact.clone }

end OpenCowork.Projection
