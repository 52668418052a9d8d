import OpenCowork.Projection.View

/-! # Normalizing a stored view

A stored view is JSON that may come from anywhere, so each entry is read again under its own
rules: fields that are no text get defaults, entries without an id are dropped. A view that
was projected comes back as it was, but for text that is white space and nothing else and
for tool values that sanitizing changes once more.
-/

namespace OpenCowork.Projection

open Foundation
open Json (asRecord findField readArray readBool readItems readOneOf readText readTrimmed)
open ControlPlane (SessionStatus CloudProjectSource)

variable (value : Option Json) (session : CloudProjectionSessionRecord)

def RUNTIME_EVENT_TRUNCATED : String := "[TRUNCATED_RUNTIME_VALUE]"

/-- The sanitizer of runtime values: a value and managed paths, to what may be kept. -/
structure ProjectionEnvironment where
  sanitizeRuntimeEventValue : Json → Option Json → Option Json

/-- `readString(value, fallback)`. -/
def readString (fallback : NonBlank) : NonBlank := (readText value).getD fallback

/-- `readString(value)`, which is empty where there is nothing to read. -/
def readPlainString : String := ((readText value).map Subtype.val).getD ""

def readNumber (fallback : ℚ) : ℚ := (Json.readNumber value).getD fallback

def readStatus : Option Json → Option SessionStatus :=
  readOneOf [.idle, .running, .closed, .errored] statusName

def readRole : Option Json → Option MessageRole :=
  readOneOf [.user, .assistant, .system] MessageRole.name

/-- `dateNow` stands in for a creation time that cannot be read. -/
def toCloudSessionMessage (dateNow : NonBlank) (value : Json) : Option CloudSessionMessage := do
  let record := asRecord (some value)
  let role ← readRole (findField "role" record)
  let id ← readText (findField "id" record)
  some
    { id := id
      role := role
      content := readPlainString (findField "content" record)
      createdAt := readString (findField "createdAt" record) dateNow
      attachments := readArray (findField "attachments" record) }

def normalizeSessionTokens : SessionTokens :=
  let record := asRecord value
  let cache := asRecord (findField "cache" record)
  { input := readNumber (findField "input" record) 0
    output := readNumber (findField "output" record) 0
    reasoning := readNumber (findField "reasoning" record) 0
    cacheRead := readNumber (findField "cacheRead" record)
      (readNumber (findField "read" cache) 0)
    cacheWrite := readNumber (findField "cacheWrite" record)
      (readNumber (findField "write" cache) 0) }

def normalizeToolStatus : ToolStatus :=
  (readOneOf [.complete, .error, .running] ToolStatus.name value).getD .running

def normalizeTaskStatus : TaskStatus :=
  (readOneOf [.queued, .running, .complete, .error] TaskStatus.name value).getD .queued

def normalizeTodoItem (value : Json) : Option TodoItem := do
  let record := asRecord (some value)
  let content ← readText (findField "content" record)
  some
    { content := content
      status := readString (findField "status" record) ⟨"pending", by decide⟩
      priority := readString (findField "priority" record) ⟨"medium", by decide⟩
      id := readTrimmed (findField "id" record) }

def normalizeTodos : List TodoItem := readItems normalizeTodoItem value

section Sanitizer

variable (env : ProjectionEnvironment)

def sanitizeRuntimeEventRecord (value : Option Json) : List (String × Json) :=
  match value.bind fun value => env.sanitizeRuntimeEventValue value none with
  | some (.obj fields) => fields
  | some (.str text) =>
    if text = RUNTIME_EVENT_TRUNCATED then [("truncated", .str RUNTIME_EVENT_TRUNCATED)] else []
  | _ => []

/-- What may be kept of a tool's output: no file, and nothing that is left empty. -/
def sanitizeCloudToolOutput (value : Json) (managedOutputPaths : Option Json) : Option Json :=
  if readPlainString (value.field? "type") = "file" then none
  else
    match value, env.sanitizeRuntimeEventValue value managedOutputPaths with
    | .arr _, some (.arr []) => none
    | .obj _, some (.obj []) => none
    | _, sanitized => sanitized

def defaultToolName : NonBlank := ⟨"tool", by decide⟩

def normalizeToolCall (value : Json) : Option ToolCall := do
  let record := asRecord (some value)
  let id ← readText (findField "id" record)
  some
    { id := id
      name := readString (findField "name" record) defaultToolName
      input := sanitizeRuntimeEventRecord env (findField "input" record)
      status := normalizeToolStatus (findField "status" record)
      output := (findField "output" record).bind fun output =>
        sanitizeCloudToolOutput env output (findField "outputPaths" record)
      attachments := ToolAttachments.read (findField "attachments" record)
      agent := readTrimmed (findField "agent" record)
      sourceSessionId := readTrimmed (findField "sourceSessionId" record)
      order := readNumber (findField "order" record) 0 }

def defaultTaskTitle : NonBlank := ⟨"Task", by decide⟩

def normalizeTaskRun (value : Json) : Option TaskRun := do
  let record := asRecord (some value)
  let id ← readText (findField "id" record)
  some
    { id := id
      title := readString (findField "title" record) defaultTaskTitle
      agent := readTrimmed (findField "agent" record)
      status := normalizeTaskStatus (findField "status" record)
      sourceSessionId := readTrimmed (findField "sourceSessionId" record)
      parentSessionId := readTrimmed (findField "parentSessionId" record)
      content := readText (findField "content" record)
      transcript := (readArray (findField "transcript" record)).getD []
      reasoning := .ofOption (readArray (findField "reasoning" record))
      toolCalls := readItems (normalizeToolCall env) (findField "toolCalls" record)
      compactions := (readArray (findField "compactions" record)).getD []
      todos := normalizeTodos (findField "todos" record)
      error := readTrimmed (findField "error" record)
      sessionCost := readNumber (findField "sessionCost" record) 0
      sessionTokens := normalizeSessionTokens (findField "sessionTokens" record)
      order := readNumber (findField "order" record) 0
      startedAt := readTrimmed (findField "startedAt" record)
      finishedAt := readTrimmed (findField "finishedAt" record) }

end Sanitizer

/-- An option that has a label or a description. -/
def readQuestionOption (value : Json) : Option QuestionOption :=
  let record := asRecord (some value)
  let label := readText (findField "label" record)
  let description := readText (findField "description" record)
  if h : (label.isSome || description.isSome) = true then
    some
      { label := label
        description := description
        described := h }
  else none

def normalizeQuestionPrompt (value : Json) : Option QuestionPrompt := do
  let record := asRecord (some value)
  let question ← readText (findField "question" record)
  some
    { header := readText (findField "header" record)
      question := question
      options := readItems readQuestionOption (findField "options" record)
      multiple := (readBool (findField "multiple" record)).getD false
      custom := (readBool (findField "custom" record)).getD true }

/-- The tool a question came from, where anything is said about it. -/
def normalizeQuestionTool : Option QuestionTool :=
  let tool := asRecord value
  if tool = [] then none
  else
    some
      { messageId := readText (findField "messageId" tool)
        callId := readText (findField "callId" tool) }

def normalizePendingQuestion (value : Json) : Option PendingQuestion := do
  let record := asRecord (some value)
  let id ← readText (findField "id" record)
  let sessionId ← readText (findField "sessionId" record)
  some
    { id := id
      sessionId := sessionId.val
      sourceSessionId := readTrimmed (findField "sourceSessionId" record)
      questions := readItems normalizeQuestionPrompt (findField "questions" record)
      tool := normalizeQuestionTool (findField "tool" record) }

def permission : NonBlank := ⟨"permission", by decide⟩

def permissionRequestedText : NonBlank := ⟨"Permission requested", by decide⟩

def permissionResolvedText : NonBlank := ⟨"Permission resolved", by decide⟩

def normalizePendingApproval (value : Json) : Option PendingApproval := do
  let record := asRecord (some value)
  let id ← readText (findField "id" record)
  let sessionId ← readText (findField "sessionId" record)
  some
    { id := id
      sessionId := sessionId.val
      sourceSessionId := readTrimmed (findField "sourceSessionId" record)
      taskRunId := readTrimmed (findField "taskRunId" record)
      tool := readString (findField "tool" record) permission
      input := asRecord (findField "input" record)
      description := readString (findField "description" record)
        permissionRequestedText
      order := readNumber (findField "order" record) 0 }

def normalizeResolvedApproval (value : Json) : Option CloudResolvedApproval := do
  let record := asRecord (some value)
  let id ← readText (findField "id" record)
  let sessionId ← readText (findField "sessionId" record)
  some
    { id := id
      sessionId := sessionId
      taskRunId := readTrimmed (findField "taskRunId" record)
      tool := readString (findField "tool" record) permission
      description := readString (findField "description" record)
        permissionResolvedText
      allowed := (readBool (findField "allowed" record)).getD false
      order := readNumber (findField "order" record) 0
      resolvedAt := readText (findField "resolvedAt" record) }

def normalizeResolvedQuestion (value : Json) : Option CloudResolvedQuestion := do
  let record := asRecord (some value)
  let id ← readText (findField "id" record)
  let sessionId ← readText (findField "sessionId" record)
  some
    { id := id
      sessionId := sessionId
      sourceSessionId := readTrimmed (findField "sourceSessionId" record)
      questions := readItems normalizeQuestionPrompt (findField "questions" record)
      answers := (readArray (findField "answers" record)).getD []
      rejected := (readBool (findField "rejected" record)).getD false
      order := readNumber (findField "order" record) 0
      resolvedAt := readText (findField "resolvedAt" record) }

def normalizeSessionError (value : Json) : Option SessionError := do
  let record := asRecord (some value)
  let id ← readText (findField "id" record)
  let message ← readText (findField "message" record)
  some
    { id := id
      sessionId := (readTrimmed (findField "sessionId" record)).map Subtype.val
      message := message
      order := readNumber (findField "order" record) 0 }

def CLOUD_ARTIFACT_FILE_PATH_PREFIX : String := "cloud-artifact://"

theorem isBlank_filePath (rest : String) :
    Text.isBlank (CLOUD_ARTIFACT_FILE_PATH_PREFIX ++ rest) = false := by
  refine Text.isBlank_of_mem (c := 'c') ?_ (by decide)
  rw [String.toList_append]
  exact List.mem_append_left _ (by decide)

def cloudArtifactFilePath (artifactId filename : String) : NonBlank :=
  let safeFilename := if Text.trim filename = "" then "artifact" else Text.trim filename
  ⟨CLOUD_ARTIFACT_FILE_PATH_PREFIX ++
      (Text.encodeURIComponent artifactId ++ "/" ++ Text.encodeURIComponent safeFilename),
    isBlank_filePath _⟩

def readArtifactKind : Option Json → Option ArtifactKind :=
  readOneOf [.document, .chart, .deck, .spreadsheet, .draft] ArtifactKind.name

def readArtifactStatus : Option Json → Option ArtifactStatus :=
  readOneOf [.draft, .inReview, .final] ArtifactStatus.name

def normalizeSessionArtifact (value : Json) (fallbackOrder : ℚ) : Option SessionArtifact := do
  let record := asRecord (some value)
  let artifactId ← ((readText (findField "artifactId" record)).or
    (readText (findField "cloudArtifactId" record))).or
      (readText (findField "id" record))
  let filename := readString (findField "filename" record) ⟨"artifact", by decide⟩
  some
    { id := artifactId
      toolId := readString (findField "toolId" record) ⟨"cloud-artifact", by decide⟩
      toolName := readString (findField "toolName" record) ⟨"cloud.artifact", by decide⟩
      filePath := readString (findField "filePath" record)
        (cloudArtifactFilePath artifactId.val filename.val)
      filename := filename
      order := readNumber (findField "order" record) fallbackOrder
      taskRunId := readTrimmed (findField "taskRunId" record)
      mime := .ofOption ((readTrimmed (findField "mime" record)).or
        (readTrimmed (findField "contentType" record)))
      size := Json.readNumber (findField "size" record)
      createdAt := .ofOption (readTrimmed (findField "createdAt" record))
      updatedAt := .ofOption (readTrimmed (findField "updatedAt" record))
      kind := .ofOption (readArtifactKind (findField "kind" record))
      status := .ofOption (readArtifactStatus (findField "status" record))
      authorAgentId := readTrimmed (findField "authorAgentId" record)
      projectId := readTrimmed (findField "projectId" record)
      taskId := readTrimmed (findField "taskId" record)
      statusUpdatedBy := readTrimmed (findField "statusUpdatedBy" record)
      statusUpdatedAt := readTrimmed (findField "statusUpdatedAt" record) }

/-- The entries of a record that are numbers; writing to `__proto__` adds no property. -/
def readItemCounts (fields : List (String × Json)) : List (String × ℚ) :=
  fields.filterMap fun entry =>
    if entry.1 = "__proto__" then none
    else (Json.readNumber (some entry.2)).map fun count => (entry.1, count)

theorem mem_readItemCounts {fields : List (String × Json)} {entry : String × ℚ}
    (hmem : entry ∈ readItemCounts fields) : entry.1 ≠ "__proto__" := by
  obtain ⟨_, -, hread⟩ := List.mem_filterMap.mp hmem
  split at hread
  · simp at hread
  next hkey =>
    obtain ⟨_, -, rfl⟩ := Option.map_eq_some_iff.mp hread
    exact hkey

def normalizeOrigin : Option CloudSessionProjectionOrigin := do
  let record := asRecord value
  if findField "kind" record ≠ some (.str "local-session-import") then none
  else
    let sourceFingerprint ← readText (findField "sourceFingerprint" record)
    let importedAt ← readText (findField "importedAt" record)
    some
      { sourceFingerprint := sourceFingerprint
        importedAt := importedAt
        itemCounts := readItemCounts (asRecord (findField "itemCounts" record))
        itemsCounted := fun _ => mem_readItemCounts }

theorem readSourceString_again {value : Option Json} {text : String}
    (hread : ControlPlane.CloudProjectSource.readString value = some text) :
    ControlPlane.CloudProjectSource.readString (some (.str text)) = some text := by
  unfold ControlPlane.CloudProjectSource.readString at hread
  split at hread
  next _ =>
    split at hread
    · simp at hread
    next htrimmed =>
      obtain rfl := Option.some.inj hread
      rw [ControlPlane.CloudProjectSource.readString, Text.trim_trim, if_neg htrimmed]
  · simp at hread

theorem readSourceString_nullable {value : Option Json} {text : Option String}
    (hread : ControlPlane.CloudProjectSource.readString value = text) :
    ControlPlane.CloudProjectSource.readString (some (Json.nullable .str text)) = text := by
  cases text with
  | none => rfl
  | some => exact readSourceString_again hread

theorem readSourceNumber_again :
    ControlPlane.CloudProjectSource.readNumber
      (some (.num (ControlPlane.CloudProjectSource.readNumber value))) =
        ControlPlane.CloudProjectSource.readNumber value := by
  generalize hread : ControlPlane.CloudProjectSource.readNumber value = number
  refine if_pos ?_
  unfold ControlPlane.CloudProjectSource.readNumber at hread
  split at hread
  · split at hread
    next h => exact hread ▸ h
    · exact hread ▸ Rat.le_refl
  · exact hread ▸ Rat.le_refl

theorem normalizeCloudProjectSource_again {value : Json} {source : CloudProjectSource}
    (hsource : ControlPlane.CloudProjectSource.normalizeCloudProjectSource value = some source) :
    ControlPlane.CloudProjectSource.normalizeCloudProjectSource (encodeProjectSource source) =
      some source := by
  unfold ControlPlane.CloudProjectSource.normalizeCloudProjectSource at hsource
  split at hsource
  · obtain ⟨_, hurl, rfl⟩ := Option.map_eq_some_iff.mp hsource
    simp [ControlPlane.CloudProjectSource.normalizeCloudProjectSource, encodeProjectSource,
      Json.findEntry, readSourceString_again hurl, readSourceString_nullable rfl]
  · split at hsource
    next hid hkey =>
      obtain rfl := Option.some.inj hsource
      simp [ControlPlane.CloudProjectSource.normalizeCloudProjectSource, encodeProjectSource,
        Json.findEntry, readSourceString_again hid, readSourceString_again hkey,
        readSourceString_nullable rfl, readSourceNumber_again]
    · simp at hsource
  · simp at hsource

def normalizeProjectSource : Option BoundProjectSource :=
  match h : value.bind ControlPlane.CloudProjectSource.normalizeCloudProjectSource with
  | none => none
  | some source =>
    some ⟨source, by
      obtain ⟨_, -, hsource⟩ := Option.bind_eq_some_iff.mp h
      exact normalizeCloudProjectSource_again hsource⟩

/-! ## Sessions and their views -/

structure CloudProjectionSessionRecord where
  (sessionId profileName : String)
  status : SessionStatus
  title : Option String
  updatedAt : NonBlank
  deriving DecidableEq

/-- `session.title || 'New session'`. -/
def CloudProjectionSessionRecord.shownTitle : String :=
  match session.title with
  | some title => if title = "" then "New session" else title
  | none => "New session"

def createCloudSessionProjectionView :
    CloudSessionProjectionView where
  sessionId := session.sessionId
  title := session.shownTitle
  status := session.status
  profileName := session.profileName
  isGenerating := decide (session.status = .running)
  messages := []
  toolCalls := []
  taskRuns := []
  pendingApprovals := []
  pendingQuestions := []
  resolvedApprovals := []
  resolvedQuestions := []
  artifacts := []
  todos := []
  errors := []
  sessionCost := 0
  sessionTokens := ⟨0, 0, 0, 0, 0⟩
  lastInputTokens := 0
  lastError := none
  origin := none
  projectSource := none
  updatedAt := session.updatedAt

/-- `readString(value, fallback)` for a fallback that is any text. -/
def readStringOr (fallback : String) : String := ((readText value).map Subtype.val).getD fallback

/-- The entries of an array in order, each with its index. -/
def readIndexedItems {α : Type} (read : Json → ℚ → Option α) (value : Option Json) : List α :=
  (((readArray value).getD []).mapIdx fun index item => read item (index : ℚ)).filterMap id

def normalizeCloudSessionProjectionView (env : ProjectionEnvironment) (dateNow : NonBlank)
    (value : Option Json) (session : CloudProjectionSessionRecord) : CloudSessionProjectionView :=
  let record := asRecord value
  { sessionId := readStringOr (findField "sessionId" record) session.sessionId
    title := readStringOr (findField "title" record) session.shownTitle
    status := (readStatus (findField "status" record)).getD session.status
    profileName := readStringOr (findField "profileName" record) session.profileName
    isGenerating := (readBool (findField "isGenerating" record)).getD
      (decide (session.status = .running))
    messages := readItems (toCloudSessionMessage dateNow) (findField "messages" record)
    toolCalls := readItems (normalizeToolCall env) (findField "toolCalls" record)
    taskRuns := readItems (normalizeTaskRun env) (findField "taskRuns" record)
    pendingApprovals := readItems normalizePendingApproval
      (findField "pendingApprovals" record)
    pendingQuestions := readItems normalizePendingQuestion
      (findField "pendingQuestions" record)
    resolvedApprovals := readItems normalizeResolvedApproval
      (findField "resolvedApprovals" record)
    resolvedQuestions := readItems normalizeResolvedQuestion
      (findField "resolvedQuestions" record)
    artifacts := readIndexedItems normalizeSessionArtifact (findField "artifacts" record)
    todos := normalizeTodos (findField "todos" record)
    errors := readItems normalizeSessionError (findField "errors" record)
    sessionCost := readNumber (findField "sessionCost" record) 0
    sessionTokens := normalizeSessionTokens (findField "sessionTokens" record)
    lastInputTokens := readNumber (findField "lastInputTokens" record) 0
    lastError := Json.readRaw (findField "lastError" record)
    origin := normalizeOrigin (findField "origin" record)
    projectSource := normalizeProjectSource (findField "projectSource" record)
    updatedAt := readString (findField "updatedAt" record) session.updatedAt }

theorem normalize_none (env : ProjectionEnvironment) (dateNow : NonBlank)
    (session : CloudProjectionSessionRecord) :
    normalizeCloudSessionProjectionView env dateNow none session =
      createCloudSessionProjectionView session := rfl

end OpenCowork.Projection
