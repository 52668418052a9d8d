import OpenCowork.Projection.Normalize

/-! # Views that normalizing keeps

What a stored view is normalized to, entry by entry: the entries of a projected view come
back as they were, except for the few kinds of values named here.
-/

namespace OpenCowork.Projection

open Foundation
open Json (findEntry findField_record nullable readItems readItems_encoded readItems_encoded_iff
  readText_eq readText_str readTrimmed)
open ControlPlane (SessionStatus CloudProjectSource)

variable (artifact : SessionArtifact)

section Readers

@[simp] theorem readString_str (text fallback : NonBlank) :
    readString (some (.str text.val)) fallback = text := by
  rw [readString, readText_str, Option.getD_some]

@[simp] theorem readNumber_num (value fallback : ℚ) :
    readNumber (some (.num value)) fallback = value := rfl

@[simp] theorem readRole_name (role : MessageRole) :
    readRole (some (.str role.name)) = some role := by
  cases role <;> rfl

@[simp] theorem normalizeToolStatus_name (status : ToolStatus) :
    normalizeToolStatus (some (.str status.name)) = status := by
  cases status <;> rfl

@[simp] theorem normalizeTaskStatus_name (status : TaskStatus) :
    normalizeTaskStatus (some (.str status.name)) = status := by
  cases status <;> rfl

@[simp] theorem readStatus_name (status : SessionStatus) :
    readStatus (some (.str (statusName status))) = some status := by
  cases status <;> rfl

@[simp] theorem readArtifactKind_map (kind : Option ArtifactKind) :
    readArtifactKind (kind.map fun kind => .str kind.name) = kind := by
  rcases kind with - | kind
  · rfl
  · cases kind <;> rfl

@[simp] theorem readArtifactStatus_map (status : Option ArtifactStatus) :
    readArtifactStatus (status.map fun status => .str status.name) = status := by
  rcases status with - | status
  · rfl
  · cases status <;> rfl

theorem readPlainString_str (text : String) :
    readPlainString (some (.str text)) = if Text.isBlank text = true then "" else text := by
  rw [readPlainString, readText_eq]
  by_cases hblank : Text.isBlank text = true
  · rw [if_pos hblank, NonBlank.check_eq_none hblank]
    rfl
  · rw [if_neg hblank, NonBlank.check, dif_pos (by simpa using hblank)]
    rfl

theorem readStringOr_str (text fallback : String) :
    readStringOr (some (.str text)) fallback =
      if Text.isBlank text = true then fallback else text := by
  rw [readStringOr, readText_eq]
  by_cases hblank : Text.isBlank text = true
  · rw [if_pos hblank, NonBlank.check_eq_none hblank]
    rfl
  · rw [if_neg hblank, NonBlank.check, dif_pos (by simpa using hblank)]
    rfl

end Readers

theorem SessionTokens.normalize_encode (tokens : SessionTokens) :
    normalizeSessionTokens (some tokens.encode) = tokens := by
  simp [normalizeSessionTokens, SessionTokens.encode, findEntry]

theorem TodoItem.normalize_encode (todo : TodoItem) : normalizeTodoItem todo.encode =
    some todo := by
  simp [normalizeTodoItem, TodoItem.encode, findEntry]

theorem QuestionOption.read_encode (option : QuestionOption) :
    readQuestionOption option.encode = some option := by
  obtain ⟨_, _, hdescribed⟩ := option
  unfold readQuestionOption
  simp only [QuestionOption.encode, findField_record, findEntry, String.reduceEq, if_true,
    if_false, Option.some_or, Json.readText_text]
  exact dif_pos hdescribed

theorem QuestionPrompt.normalize_encode (prompt : QuestionPrompt) :
    normalizeQuestionPrompt prompt.encode = some prompt := by
  simp [normalizeQuestionPrompt, QuestionPrompt.encode, findEntry,
    readItems_encoded QuestionOption.read_encode]

theorem QuestionTool.normalize_encode (tool : Option QuestionTool) :
    normalizeQuestionTool (tool.map QuestionTool.encode) = tool := by
  cases tool with
  | none => rfl
  | some tool =>
    have hfields : Json.asRecord (some tool.encode) ≠ [] := by
      simp [QuestionTool.encode, Json.record, Json.presentEntries]
    unfold normalizeQuestionTool
    rw [Option.map_some, if_neg hfields]
    simp [QuestionTool.encode, findEntry]

theorem PendingQuestion.normalize_encode (question : PendingQuestion) :
    normalizePendingQuestion question.encode =
      if Text.isBlank question.sessionId = true then none else some question := by
  simp only [normalizePendingQuestion, PendingQuestion.encode, findField_record,
    findEntry, String.reduceEq, if_true, if_false, Option.some_or, Option.or_none,
    readText_str, Json.readTrimmed_trimmed, QuestionTool.normalize_encode,
    readItems_encoded QuestionPrompt.normalize_encode, readText_eq question.sessionId]
  by_cases hblank : Text.isBlank question.sessionId = true
  · rw [if_pos hblank, NonBlank.check_eq_none hblank]
    rfl
  · rw [if_neg hblank, NonBlank.check, dif_pos (by simpa using hblank)]
    rfl

theorem PendingApproval.normalize_encode (approval : PendingApproval) :
    normalizePendingApproval approval.encode =
      if Text.isBlank approval.sessionId = true then none else some approval := by
  simp only [normalizePendingApproval, PendingApproval.encode, findField_record,
    findEntry, String.reduceEq, if_true, if_false, Option.some_or, readText_str,
    Json.readTrimmed_trimmed, readString_str, readNumber_num, Json.asRecord_obj,
    readText_eq approval.sessionId]
  by_cases hblank : Text.isBlank approval.sessionId = true
  · rw [if_pos hblank, NonBlank.check_eq_none hblank]
    rfl
  · rw [if_neg hblank, NonBlank.check, dif_pos (by simpa using hblank)]
    rfl

theorem CloudResolvedApproval.normalize_encode (approval : CloudResolvedApproval) :
    normalizeResolvedApproval approval.encode = some approval := by
  simp [normalizeResolvedApproval, CloudResolvedApproval.encode, findEntry]

theorem CloudResolvedQuestion.normalize_encode (question : CloudResolvedQuestion) :
    normalizeResolvedQuestion question.encode = some question := by
  simp [normalizeResolvedQuestion, CloudResolvedQuestion.encode, findEntry,
    readItems_encoded QuestionPrompt.normalize_encode]

theorem SessionError.normalize_encode_iff (error : SessionError) :
    normalizeSessionError error.encode = some error ↔
      ∀ sessionId, error.sessionId = some sessionId →
        Text.isBlank sessionId = false ∧ Text.trim sessionId = sessionId := by
  obtain ⟨id, sessionId, message, order⟩ := error
  have hread : normalizeSessionError (SessionError.encode ⟨id, sessionId, message, order⟩) =
      some ⟨id, (readTrimmed (some (nullable .str sessionId))).map Subtype.val, message,
        order⟩ := by
    simp [normalizeSessionError, SessionError.encode, findEntry]
  rw [hread, Option.some.injEq, SessionError.mk.injEq]
  cases sessionId with
  | none => simp [nullable, readTrimmed]
  | some sessionId =>
    have hcheck : readTrimmed (some (nullable .str (some sessionId))) =
        Trimmed.check sessionId := rfl
    rw [hcheck]
    constructor
    · rintro ⟨-, hsame, -⟩ _ hother
      obtain rfl := Option.some.inj hother
      obtain ⟨found, hfound, hval⟩ := Option.map_eq_some_iff.mp hsame
      obtain ⟨hblank, htrim⟩ := (Trimmed.check_eq_some_iff found).mp hfound
      exact ⟨hblank, htrim.trans hval⟩
    · intro hgood
      obtain ⟨hblank, htrim⟩ := hgood sessionId rfl
      refine ⟨rfl, ?_, rfl, rfl⟩
      rw [Trimmed.check, dif_pos hblank]
      exact congrArg some htrim

theorem CloudSessionMessage.normalize_encode (dateNow : NonBlank) (message : CloudSessionMessage) :
    toCloudSessionMessage dateNow message.encode =
      some { message with
        content := if Text.isBlank message.content = true then "" else message.content } := by
  simp [toCloudSessionMessage, CloudSessionMessage.encode, findEntry, readPlainString_str]

theorem SessionArtifact.normalize_encode (fallbackOrder : ℚ) :
    normalizeSessionArtifact artifact.encode fallbackOrder =
      some { artifact with
        mime := .ofOption artifact.mime.toOption
        createdAt := .ofOption artifact.createdAt.toOption
        updatedAt := .ofOption artifact.updatedAt.toOption
        kind := .ofOption artifact.kind.toOption
        status := .ofOption artifact.status.toOption } := by
  simp [normalizeSessionArtifact, SessionArtifact.encode, findEntry]

structure ToolCall.Settled (env : ProjectionEnvironment) (toolCall : ToolCall) : Prop where
  input : sanitizeRuntimeEventRecord env (some (.obj toolCall.input)) = toolCall.input
  output : ∀ output, toolCall.output = some output →
    sanitizeCloudToolOutput env output none = some output

section Sanitizer

variable (env : ProjectionEnvironment)

theorem ToolCall.normalize_encode (toolCall : ToolCall) :
    normalizeToolCall env toolCall.encode =
      some { toolCall with
        input := sanitizeRuntimeEventRecord env (some (.obj toolCall.input))
        output := toolCall.output.bind fun output => sanitizeCloudToolOutput env output none } := by
  simp [normalizeToolCall, ToolCall.encode, findEntry]

theorem ToolCall.normalize_encode_iff (toolCall : ToolCall) :
    normalizeToolCall env toolCall.encode = some toolCall ↔ toolCall.Settled env := by
  rw [ToolCall.normalize_encode, Option.some.injEq, ToolCall.mk.injEq]
  constructor
  · rintro ⟨-, -, hinput, -, houtput, -⟩
    refine ⟨hinput, fun output houtput' => ?_⟩
    rw [houtput', Option.bind_some] at houtput
    exact houtput
  · rintro ⟨hinput, houtput⟩
    refine ⟨rfl, rfl, hinput, rfl, ?_, rfl, rfl, rfl, rfl⟩
    cases hfound : toolCall.output with
    | none => rfl
    | some output => exact houtput output hfound

theorem TaskRun.normalize_encode (taskRun : TaskRun) :
    normalizeTaskRun env taskRun.encode =
      some { taskRun with
        reasoning := .ofOption taskRun.reasoning.toOption
        toolCalls := readItems (normalizeToolCall env)
          (some (.arr (taskRun.toolCalls.map ToolCall.encode))) } := by
  have htodos : normalizeTodos (some (.arr (taskRun.todos.map TodoItem.encode))) = taskRun.todos :=
    readItems_encoded TodoItem.normalize_encode taskRun.todos
  simp [normalizeTaskRun, TaskRun.encode, findEntry, htodos, SessionTokens.normalize_encode]

theorem TaskRun.clone_normalize_iff (taskRun : TaskRun) :
    (normalizeTaskRun env taskRun.encode).map TaskRun.clone = some taskRun.clone ↔
      ∀ toolCall ∈ taskRun.toolCalls, toolCall.Settled env := by
  have htoolCalls : readItems (normalizeToolCall env)
      (some (.arr (taskRun.toolCalls.map ToolCall.encode))) = taskRun.toolCalls ↔
        ∀ toolCall ∈ taskRun.toolCalls, toolCall.Settled env := by
    rw [readItems_encoded_iff]
    exact forall₂_congr fun toolCall _ => toolCall.normalize_encode_iff env
  rw [TaskRun.normalize_encode, Option.map_some, Option.some.injEq, TaskRun.clone, TaskRun.clone,
    TaskRun.mk.injEq, Own.clone_ofOption_toOption, htoolCalls]
  simp only [true_and, and_true]

end Sanitizer

theorem CloudSessionProjectionOrigin.normalize_encode (origin : CloudSessionProjectionOrigin) :
    normalizeOrigin (some origin.encode) = some origin := by
  obtain ⟨_, _, itemCounts, hcounted⟩ := origin
  have hcounts : readItemCounts (itemCounts.map fun entry => (entry.1, .num entry.2)) =
      itemCounts := by
    unfold readItemCounts
    rw [List.filterMap_map]
    refine (List.filterMap_congr fun entry hentry => ?_).trans List.filterMap_some
    exact if_neg (hcounted entry hentry)
  simp [normalizeOrigin, CloudSessionProjectionOrigin.encode, findEntry, hcounts]

theorem BoundProjectSource.normalize_encode (source : BoundProjectSource) :
    normalizeProjectSource (some (encodeProjectSource source.val)) = some source := by
  have hsource := source.property
  unfold normalizeProjectSource
  split
  next hnone =>
    rw [Option.bind_some, hsource] at hnone
    simp at hnone
  next hfound =>
    rw [Option.bind_some, hsource] at hfound
    exact congrArg some (Subtype.ext (Option.some.inj hfound).symm)

theorem readIndexedItems_encoded {α : Type} {read : Json → ℚ → Option α} {encode : α → Json}
    {kept : α → α} (hread : ∀ item order, read (encode item) order = some (kept item))
    (items : List α) : readIndexedItems read (some (.arr (items.map encode))) = items.map kept := by
  have hitems : (items.map encode).mapIdx (fun index item => read item (index : ℚ)) =
      items.map fun item => some (kept item) := by
    apply List.ext_getElem
    · simp
    · intro index _ _
      simp [hread]
  unfold readIndexedItems
  rw [Json.readArray_arr, Option.getD_some, hitems, List.filterMap_map]
  exact (List.filterMap_eq_map (f := kept) ▸ rfl)

/-! ## The whole view -/

/-- What normalizing keeps of an artifact: every property is there. -/
def SessionArtifact.owned : SessionArtifact :=
  { artifact with
    mime := .ofOption artifact.mime.toOption
    createdAt := .ofOption artifact.createdAt.toOption
    updatedAt := .ofOption artifact.updatedAt.toOption
    kind := .ofOption artifact.kind.toOption
    status := .ofOption artifact.status.toOption }

theorem SessionArtifact.clone_owned : artifact.owned.clone = artifact.clone := by
  simp only [SessionArtifact.owned, SessionArtifact.clone, Own.clone_ofOption_toOption]

namespace CloudSessionProjectionView

/-- The kinds of values that normalizing changes do not occur in the view. -/
structure Settled (env : ProjectionEnvironment) (session : CloudProjectionSessionRecord)
    (view : CloudSessionProjectionView) : Prop where
  messages : ∀ message ∈ view.messages,
    Text.isBlank message.content = true → message.content = ""
  toolCalls : ∀ toolCall ∈ view.toolCalls, toolCall.Settled env
  taskToolCalls : ∀ taskRun ∈ view.taskRuns, ∀ toolCall ∈ taskRun.toolCalls, toolCall.Settled env
  pendingApprovals : ∀ approval ∈ view.pendingApprovals, Text.isBlank approval.sessionId = false
  pendingQuestions : ∀ question ∈ view.pendingQuestions, Text.isBlank question.sessionId = false
  errors : ∀ error ∈ view.errors, ∀ sessionId, error.sessionId = some sessionId →
    Text.isBlank sessionId = false ∧ Text.trim sessionId = sessionId
  sessionId : Text.isBlank view.sessionId = true → view.sessionId = session.sessionId
  title : Text.isBlank view.title = true → view.title = session.shownTitle
  profileName : Text.isBlank view.profileName = true → view.profileName = session.profileName

theorem settled_of_messages {env : ProjectionEnvironment} {session : CloudProjectionSessionRecord}
    {view : CloudSessionProjectionView}
    (hrest : (view.toolCalls.isEmpty && view.taskRuns.isEmpty && view.pendingApprovals.isEmpty &&
      view.pendingQuestions.isEmpty && view.errors.isEmpty) = true)
    (hmessages : ∀ message ∈ view.messages,
      Text.isBlank message.content = true → message.content = "")
    (hsession : Text.isBlank view.sessionId = false) (htitle : Text.isBlank view.title = false)
    (hprofile : Text.isBlank view.profileName = false) : view.Settled env session := by
  simp only [Bool.and_eq_true, List.isEmpty_iff] at hrest
  obtain ⟨⟨⟨⟨htoolCalls, htaskRuns⟩, happrovals⟩, hquestions⟩, herrors⟩ := hrest
  refine ⟨hmessages, ?_, ?_, ?_, ?_, ?_, ?_, ?_, ?_⟩
  · simp [htoolCalls]
  · simp [htaskRuns]
  · simp [happrovals]
  · simp [hquestions]
  · simp [herrors]
  · simp [hsession]
  · simp [htitle]
  · simp [hprofile]

variable (env : ProjectionEnvironment) (dateNow : NonBlank)
  (session : CloudProjectionSessionRecord) (view : CloudSessionProjectionView)

theorem normalize_encode :
    normalizeCloudSessionProjectionView env dateNow (some view.encode) session =
      { view with
        sessionId := if Text.isBlank view.sessionId = true then session.sessionId
          else view.sessionId
        title := if Text.isBlank view.title = true then session.shownTitle else view.title
        profileName := if Text.isBlank view.profileName = true then session.profileName
          else view.profileName
        messages := readItems (toCloudSessionMessage dateNow)
          (some (.arr (view.messages.map CloudSessionMessage.encode)))
        toolCalls := readItems (normalizeToolCall env)
          (some (.arr (view.toolCalls.map ToolCall.encode)))
        taskRuns := readItems (normalizeTaskRun env)
          (some (.arr (view.taskRuns.map TaskRun.encode)))
        pendingApprovals := readItems normalizePendingApproval
          (some (.arr (view.pendingApprovals.map PendingApproval.encode)))
        pendingQuestions := readItems normalizePendingQuestion
          (some (.arr (view.pendingQuestions.map PendingQuestion.encode)))
        artifacts := view.artifacts.map SessionArtifact.owned
        errors := readItems normalizeSessionError
          (some (.arr (view.errors.map SessionError.encode))) } := by
  have htodos : normalizeTodos (some (.arr (view.todos.map TodoItem.encode))) = view.todos :=
    readItems_encoded TodoItem.normalize_encode view.todos
  have hartifacts : readIndexedItems normalizeSessionArtifact
      (some (.arr (view.artifacts.map SessionArtifact.encode))) =
        view.artifacts.map SessionArtifact.owned :=
    readIndexedItems_encoded SessionArtifact.normalize_encode view.artifacts
  have horigin : normalizeOrigin
      (some (nullable CloudSessionProjectionOrigin.encode view.origin)) = view.origin := by
    cases view.origin with
    | none => rfl
    | some origin => exact origin.normalize_encode
  have hsource : normalizeProjectSource (some (nullable
      (fun source : BoundProjectSource => encodeProjectSource source.val) view.projectSource)) =
        view.projectSource := by
    cases view.projectSource with
    | none => rfl
    | some source => exact BoundProjectSource.normalize_encode source
  have hlast : Json.readRaw (some (nullable .str view.lastError)) = view.lastError := by
    cases view.lastError <;> rfl
  unfold normalizeCloudSessionProjectionView encode
  simp only [findField_record, findEntry, String.reduceEq, if_true, if_false,
    Option.some_or, readStringOr_str, readStatus_name, Option.getD_some, Json.readBool_bool,
    readItems_encoded CloudResolvedApproval.normalize_encode,
    readItems_encoded CloudResolvedQuestion.normalize_encode, htodos, hartifacts, horigin,
    hsource, hlast, readNumber_num, SessionTokens.normalize_encode, readString_str]

/-- Normalizing a stored view keeps it exactly when it is settled. -/
theorem clone_normalize_iff :
    (normalizeCloudSessionProjectionView env dateNow (some view.encode) session).clone =
        view.clone ↔
      view.Settled env session := by
  have hif : ∀ text fallback : String,
      (if Text.isBlank text = true then fallback else text) = text ↔
        (Text.isBlank text = true → text = fallback) := by
    intro text fallback
    by_cases hblank : Text.isBlank text = true
    · simp [hblank, eq_comm]
    · simp [hblank]
  have hmessages : readItems (toCloudSessionMessage dateNow)
      (some (.arr (view.messages.map CloudSessionMessage.encode))) = view.messages ↔
        ∀ message ∈ view.messages, Text.isBlank message.content = true → message.content = "" := by
    rw [readItems_encoded_iff]
    refine forall₂_congr fun _ _ => ?_
    rw [CloudSessionMessage.normalize_encode, Option.some.injEq, CloudSessionMessage.mk.injEq]
    simp [hif]
  have htoolCalls : readItems (normalizeToolCall env)
      (some (.arr (view.toolCalls.map ToolCall.encode))) = view.toolCalls ↔
        ∀ toolCall ∈ view.toolCalls, toolCall.Settled env := by
    rw [readItems_encoded_iff]
    exact forall₂_congr fun toolCall _ => toolCall.normalize_encode_iff env
  have htaskRuns : (readItems (normalizeTaskRun env)
      (some (.arr (view.taskRuns.map TaskRun.encode)))).map TaskRun.clone =
        view.taskRuns.map TaskRun.clone ↔
        ∀ taskRun ∈ view.taskRuns, ∀ toolCall ∈ taskRun.toolCalls, toolCall.Settled env := by
    rw [Json.readItems_encoded_map_iff]
    exact forall₂_congr fun taskRun _ => taskRun.clone_normalize_iff env
  have hartifacts : (view.artifacts.map SessionArtifact.owned).map SessionArtifact.clone =
      view.artifacts.map SessionArtifact.clone := by
    rw [List.map_map]
    exact List.map_congr_left fun artifact _ => artifact.clone_owned
  have happrovals : readItems normalizePendingApproval
      (some (.arr (view.pendingApprovals.map PendingApproval.encode))) = view.pendingApprovals ↔
        ∀ approval ∈ view.pendingApprovals, Text.isBlank approval.sessionId = false := by
    rw [readItems_encoded_iff]
    refine forall₂_congr fun _ _ => ?_
    rw [PendingApproval.normalize_encode]
    simp
  have hquestions : readItems normalizePendingQuestion
      (some (.arr (view.pendingQuestions.map PendingQuestion.encode))) = view.pendingQuestions ↔
        ∀ question ∈ view.pendingQuestions, Text.isBlank question.sessionId = false := by
    rw [readItems_encoded_iff]
    refine forall₂_congr fun _ _ => ?_
    rw [PendingQuestion.normalize_encode]
    simp
  have herrors : readItems normalizeSessionError
      (some (.arr (view.errors.map SessionError.encode))) = view.errors ↔
        ∀ error ∈ view.errors, ∀ sessionId, error.sessionId = some sessionId →
          Text.isBlank sessionId = false ∧ Text.trim sessionId = sessionId := by
    rw [readItems_encoded_iff]
    exact forall₂_congr fun error _ => error.normalize_encode_iff
  rw [normalize_encode, clone, clone, mk.injEq]
  simp only [hif, hmessages, htoolCalls, htaskRuns, hartifacts, happrovals, hquestions, herrors,
    true_and, and_true]
  constructor
  · rintro ⟨hsession, htitle, hprofile, hm, ht, hr, ha, hq, he⟩
    exact ⟨hm, ht, hr, ha, hq, he, hsession, htitle, hprofile⟩
  · rintro ⟨hm, ht, hr, ha, hq, he, hsession, htitle, hprofile⟩
    exact ⟨hsession, htitle, hprofile, hm, ht, hr, ha, hq, he⟩

end CloudSessionProjectionView

end OpenCowork.Projection
