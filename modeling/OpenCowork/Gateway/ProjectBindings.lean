import OpenCowork.Gateway.WorkStore

/-! # Project bindings

A project is a roadmap with a supervisor. A binding says in which chat a project is spoken of. A
channel binding, which is what an incoming message is routed by, mirrors it.
-/

namespace OpenCowork.Gateway

open Foundation

inductive ProjectBindingScope where
  | global | opencode | telegram | whatsapp | discord
  deriving DecidableEq

inductive RoadmapSupervisorStatus where
  | active | paused | blocked | completed | archived
  deriving DecidableEq

inductive ChannelBindingMode where
  | chat | task | roadmap
  deriving DecidableEq

/-- `aliasName` is the alias. -/
structure ProjectBindingRecord where
  (aliasName roadmapId sessionId : String)
  scope : ProjectBindingScope
  (provider chatId threadId title : Option String)
  deriving DecidableEq

/-- The key of a channel binding: a thread of a chat, `""` being the chat itself. -/
structure ChannelTarget where
  (provider chatId threadId : String)
  deriving DecidableEq

structure ChannelBindingRecord where
  sessionId : String
  mode : ChannelBindingMode
  (roadmapId taskId title : Option String)
  deriving DecidableEq

structure RoadmapSupervisorRecord where
  (roadmapId sessionId profile : String)
  status : RoadmapSupervisorStatus
  isDefault : Bool
  createdAt : Int
  deriving DecidableEq

/-- What a call made, under its idempotency key. -/
structure DelegatedWorkReceipt where
  targetType : String
  taskIds : List String
  (roadmapId supervisorId projectBindingId parentSessionId : Option String)
  links : List (String × String)
  nextSchedulerAction : String
  deriving DecidableEq

/-- The store with the tables that concern projects. -/
structure ProjectState where
  work : WorkState
  supervisors : OrderedMap String RoadmapSupervisorRecord
  projectBindings : OrderedMap String ProjectBindingRecord
  channelBindings : OrderedMap ChannelTarget ChannelBindingRecord
  delegationReceipts : OrderedMap String DelegatedWorkReceipt

/-- The store before its first operation. -/
def ProjectState.empty : ProjectState where
  work := .empty
  supervisors := .empty
  projectBindings := .empty
  channelBindings := .empty
  delegationReceipts := .empty

/-- What the operations on projects take from their surroundings besides: the lower case of a
text, the order of texts in the locale and the profiles of the configuration. -/
structure ProjectPlatform extends WorkPlatform where
  toLowerCase : String → String
  localeCompare : String → String → Ordering
  hasProfile : String → Bool

/-- The word that stands for a scope. -/
def ProjectBindingScope.text : ProjectBindingScope → String
  | global => "global"
  | opencode => "opencode"
  | telegram => "telegram"
  | whatsapp => "whatsapp"
  | discord => "discord"

/-- `scope === 'telegram' || scope === 'whatsapp' || scope === 'discord'`. -/
def ProjectBindingScope.isChannel : ProjectBindingScope → Bool
  | telegram | whatsapp | discord => true
  | global | opencode => false

/-- The thread of a chat that a binding speaks in: `binding.provider && binding.chatId`. -/
def ProjectBindingRecord.channelTarget (binding : ProjectBindingRecord) : Option ChannelTarget :=
  match Text.truthy binding.provider, Text.truthy binding.chatId with
  | some provider, some chatId => some { provider, chatId, threadId := binding.threadId.getD "" }
  | _, _ => none

/-- A text as its column gives it back: `node:sqlite` reads it up to its first NUL. -/
def columnText (text : String) : String :=
  String.ofList (text.toList.takeWhile fun c => c.toNat ≠ 0)

/-- `rowToProjectBinding` of the row that a binding is written as. What else a binding holds is
drawn, checked or, as its title, compared nowhere. -/
def ProjectBindingRecord.readBack (binding : ProjectBindingRecord) : ProjectBindingRecord :=
  { binding with
    sessionId := columnText binding.sessionId
    chatId := Text.truthy (binding.chatId.map columnText)
    threadId := Text.truthy (binding.threadId.map columnText) }

/-- What the next call finds: `readWorkState` reads the bindings afresh. -/
def ProjectState.reloaded (state : ProjectState) : ProjectState :=
  { state with projectBindings := state.projectBindings.map ProjectBindingRecord.readBack }

/-! ## Checks of inputs -/

/-- `text.replace(/[…]+/g, new)` for the characters of a class. -/
def replaceRuns (inClass : Char → Bool) (new : Char) : List Char → List Char
  | [] => []
  | c :: rest =>
    if inClass c then
      if rest.head?.any inClass then replaceRuns inClass new rest
      else new :: replaceRuns inClass new rest
    else c :: replaceRuns inClass new rest

/-- `text.replace(/^-|-$/g, '')`. -/
def stripDashes (chars : List Char) : List Char :=
  let chars := if chars.head? = some '-' then chars.tail else chars
  if chars.getLast? = some '-' then chars.dropLast else chars

def isAliasChar (c : Char) : Bool := c.isLower || c.isDigit || c = '-'

variable (platform : ProjectPlatform) (value : Option String) (input : ProjectBindingInput)
  (binding : ProjectBindingRecord) (id : String) (scope : ProjectBindingScope)

def normalizeProjectAlias (value : String) : Except String String := do
  let lowered := (platform.toLowerCase (Text.trim value)).toList
  let dashed := replaceRuns (fun c => c = '_' || Text.isWhiteSpace c) '-' lowered
  let kept := replaceRuns (· = '-') '-' (dashed.filter isAliasChar)
  let aliasName := String.ofList ((stripDashes kept).take 80)
  refuseIf (aliasName = "") "project alias is required"
  return aliasName

def channelScope (provider : Option String) : Option ProjectBindingScope :=
  if provider = some "telegram" then some .telegram
  else if provider = some "whatsapp" then some .whatsapp
  else if provider = some "discord" then some .discord
  else none

def normalizeProjectBindingScope (value : Option ProjectBindingScope) (provider : Option String) :
    ProjectBindingScope :=
  value.getD ((channelScope provider).getD .global)

def normalizeProjectBindingProvider :
    Except String (Option String) :=
  if scope.isChannel then do
    let provider ← normalizeRequiredString ((Text.truthy value).getD scope.text) "provider" 40
    refuseIf (provider ≠ scope.text) ("provider must match project binding scope: " ++ scope.text)
    return some provider
  else do
    refuseIf ((Text.truthy value).isSome = true)
      "provider is only valid for channel project bindings"
    return none

def normalizeProjectBindingChatId :
    Except String (Option String) :=
  if scope.isChannel then do
    let given ← orThrow value "chatId must be a string"
    let chatId ← normalizeRequiredString given "chatId" 200
    return some chatId
  else do
    refuseIf ((Text.truthy value).isSome = true) "chatId is only valid for channel project bindings"
    return none

/-- `rejection` is what the checks of the notification settings throw. -/
structure ProjectBindingInput where
  (aliasName roadmapId sessionId : String)
  scope : Option ProjectBindingScope := none
  provider : Option String := none
  chatId : Option String := none
  threadId : Option String := none
  title : Option String := none
  allowRebind : Bool := false
  rejection : Option String := none

def normalizeProjectBinding :
    Except String ProjectBindingRecord := do
  let aliasName ← normalizeProjectAlias platform input.aliasName
  let scope := normalizeProjectBindingScope input.scope input.provider
  let provider ← normalizeProjectBindingProvider input.provider scope
  let chatId ← normalizeProjectBindingChatId input.chatId scope
  let roadmapId ← normalizeRequiredString input.roadmapId "roadmapId" 120
  let sessionId ← normalizeRequiredString input.sessionId "sessionId" 200
  return {
    aliasName, roadmapId, sessionId, scope, provider, chatId
    threadId := Text.truthy input.threadId
    title := normalizeOptionalString input.title 200 }

/-! ## Conflicts -/

def projectBindingSurfaceKey : String :=
  if binding.scope.isChannel then
    binding.scope.text ++ ":" ++ binding.provider.getD "" ++ ":" ++ binding.chatId.getD "" ++ ":" ++
      binding.threadId.getD ""
  else if binding.scope = .opencode then "opencode:" ++ binding.sessionId
  else "global:" ++ binding.scope.text

def sameProjectBindingTarget (binding target : ProjectBindingRecord) : Bool :=
  binding.aliasName = target.aliasName && binding.roadmapId = target.roadmapId &&
    binding.sessionId = target.sessionId && binding.scope = target.scope &&
    binding.provider.getD "" = target.provider.getD "" &&
    binding.chatId.getD "" = target.chatId.getD "" &&
    binding.threadId.getD "" = target.threadId.getD ""

namespace ProjectState

variable (state : ProjectState) (bindingId : Option String) (target : ProjectBindingRecord)

def aliasConflict : Option (String × ProjectBindingRecord) :=
  state.projectBindings.entries.find? fun (id, binding) =>
    some id ≠ bindingId && binding.aliasName = target.aliasName && binding.scope = target.scope

def surfaceConflict : Option (String × ProjectBindingRecord) :=
  if target.scope = .global then none
  else state.projectBindings.entries.find? fun (id, binding) =>
    some id ≠ bindingId && projectBindingSurfaceKey binding = projectBindingSurfaceKey target

def reusableBinding (allowRebind : Bool) : Option String :=
  (bindingId.filter fun id => (state.projectBindings.get id).isSome).or
    ((if allowRebind then
        (state.aliasConflict bindingId target).or (state.surfaceConflict bindingId target)
      else state.aliasConflict bindingId target).map Prod.fst)

/-- The ids of the bindings that make way. -/
def displacedBindings (allowRebind : Bool) : List String :=
  ([state.aliasConflict bindingId target, state.surfaceConflict bindingId target].filterMap
    fun conflict => conflict.map Prod.fst).filter fun id =>
      some id ≠ state.reusableBinding bindingId target allowRebind

end ProjectState

/-- `if (!allowRebind && !sameProjectBindingTarget(conflict, …)) throw`. -/
def checkConflict (allowRebind : Bool) (target : ProjectBindingRecord) (error : String)
    (conflict : Option (String × ProjectBindingRecord)) : Except String Unit :=
  refuseIf (allowRebind = false ∧
    (conflict.any fun (_, binding) => !sameProjectBindingTarget binding target) = true) error

def upsertProjectBindingInState (bindingId : Option String)
    (state : ProjectState) : Except String (String × ProjectBindingRecord × ProjectState) := do
  let target ← normalizeProjectBinding platform input
  let roadmap ← orThrow (state.work.roadmaps.get target.roadmapId)
    ("roadmap not found: " ++ target.roadmapId)
  refuseIf (roadmap.status = .archived) ("roadmap is archived: " ++ target.roadmapId)
  checkConflict input.allowRebind target
    ("project alias already bound for " ++ target.scope.text ++ ": " ++ target.aliasName)
    (state.aliasConflict bindingId target)
  checkConflict input.allowRebind target
    ("project surface already bound: " ++ projectBindingSurfaceKey target)
    (state.surfaceConflict bindingId target)
  refuseIf ((bindingId.any fun id => (state.projectBindings.get id).isNone) = true)
    ("project binding not found: " ++ bindingId.getD "")
  rejectUnread input.rejection
  let reusable := state.reusableBinding bindingId target input.allowRebind
  let displaced := state.displacedBindings bindingId target input.allowRebind
  let (id, work) := match reusable with
    | some id => (id, state.work)
    | none => platform.drawId "project_binding_" state.work
  let record := { target with title := target.title.or (some roadmap.title) }
  let kept := state.projectBindings.filter fun other _ => other ∉ displaced
  return (id, record, { state with work, projectBindings := kept.set id record })

/-! ## Rows of channel bindings -/

def ProjectBindingRecord.channelRow : ChannelBindingRecord where
  sessionId := binding.sessionId
  mode := .roadmap
  roadmapId := some binding.roadmapId
  taskId := none
  title := Text.truthy (some ((Text.truthy binding.title).getD binding.aliasName))

/-- `if (binding.provider && binding.chatId) upsertChannelBindingRow(db, …)`. -/
def upsertChannelBindingRow (state : ProjectState) :
    ProjectState :=
  match binding.channelTarget with
  | none => state
  | some target =>
    { state with channelBindings := state.channelBindings.set target binding.channelRow }

def deleteProjectBindingChannelRow (state : ProjectState) :
    ProjectState :=
  match binding.channelTarget with
  | none => state
  | some target =>
    { state with channelBindings := state.channelBindings.filter fun other row =>
        !(other = target && row.mode = .roadmap && row.roadmapId = some binding.roadmapId &&
          row.sessionId = binding.sessionId) }

def projectBindingChannelChanged (previous next : ProjectBindingRecord) : Bool :=
  (Text.truthy previous.provider).isSome && (Text.truthy previous.chatId).isSome &&
    (previous.provider.getD "" ≠ next.provider.getD "" ||
      previous.chatId.getD "" ≠ next.chatId.getD "" ||
      previous.threadId.getD "" ≠ next.threadId.getD "")

def deleteProjectBindingChannelRows (bindings : List ProjectBindingRecord) (state : ProjectState) :
    ProjectState :=
  bindings.foldl (fun state binding => deleteProjectBindingChannelRow binding state) state

/-- `previous.filter(row => row.id !== binding.id && !state.projectBindings.some(…))`. -/
def staleBindings (previous : OrderedMap String ProjectBindingRecord) (id : String)
    (state : ProjectState) : List ProjectBindingRecord :=
  (previous.entries.filter fun entry =>
    entry.1 ≠ id && (state.projectBindings.get entry.1).isNone).map Prod.snd

/-- What `upsertProjectBinding` and `createSupervisedProject` do alike. -/
def bindProjectInState (state : ProjectState) :
    Except String (String × ProjectBindingRecord × ProjectState) := do
  let (id, binding, next) ← upsertProjectBindingInState platform input none state
  return (id, binding,
    upsertChannelBindingRow binding
      (deleteProjectBindingChannelRows (staleBindings state.projectBindings id next) next))

/-! ## Operations -/

inductive ProjectAnswer where
  | nothing
  | work (answer : WorkAnswer)
  | binding (id : String)
  | supervisor (id : String)
  | project (roadmapId : String) (taskIds : List String) (supervisorId bindingId : String)
      (replayed : Bool)
  | delegated (receipt : DelegatedWorkReceipt) (replayed : Bool)
  | refused (error : String)

def upsertProjectBinding (state : ProjectState) :
    Except String (ProjectAnswer × ProjectState) := do
  let (id, _, state) ← bindProjectInState platform input state
  return (.binding id, state)

/-- `some none` stands for `null`. -/
structure ProjectBindingUpdateInput where
  aliasName : Option String := none
  roadmapId : Option String := none
  sessionId : Option String := none
  scope : Option ProjectBindingScope := none
  provider : Option (Option String) := none
  chatId : Option (Option String) := none
  threadId : Option (Option String) := none
  title : Option (Option String) := none
  allowRebind : Option Bool := none
  rejection : Option String := none

def ProjectBindingUpdateInput.applied (input : ProjectBindingUpdateInput)
    (existing : ProjectBindingRecord) : ProjectBindingInput :=
  let scope := input.scope.getD existing.scope
  { aliasName := input.aliasName.getD existing.aliasName
    roadmapId := input.roadmapId.getD existing.roadmapId
    sessionId := input.sessionId.getD existing.sessionId
    scope := some scope
    provider := if scope.isChannel then input.provider.getD existing.provider else none
    chatId := if scope.isChannel then input.chatId.getD existing.chatId else none
    threadId := if scope.isChannel then input.threadId.getD existing.threadId else none
    title := input.title.getD existing.title
    allowRebind := input.allowRebind.getD true
    rejection := input.rejection }

def updateProjectBinding (input : ProjectBindingUpdateInput) (state : ProjectState) :
    Except String (ProjectAnswer × ProjectState) :=
  match state.projectBindings.get id with
  | none => .ok (.nothing, state)
  | some existing => do
      let (bindingId, binding, next) ←
        upsertProjectBindingInState platform (input.applied existing) (some id) state
      return (.binding bindingId, upsertChannelBindingRow binding
        (if projectBindingChannelChanged existing binding
          then deleteProjectBindingChannelRow existing next else next))

def deleteProjectBinding (state : ProjectState) : ProjectAnswer × ProjectState :=
  match state.projectBindings.get id with
  | none => (.nothing, state)
  | some existing =>
    (.binding id, deleteProjectBindingChannelRow existing
      { state with projectBindings := state.projectBindings.erase id })

end OpenCowork.Gateway
