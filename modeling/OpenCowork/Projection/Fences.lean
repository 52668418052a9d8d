import Mathlib.Algebra.Order.Ring.Rat
import OpenCowork.Foundation.CheckedText
import OpenCowork.Foundation.Checks
import OpenCowork.Foundation.JoinedParts

/-! # Projection fences

A client that wrote something waits until a checkpoint of the projection has come as far as
its fence. Fence and checkpoint are matched by a key that is made of the ids of what is
projected. Numbers are rational, dates are the instants they name, and a text that names
none is no date.
-/

namespace OpenCowork.Projection

open Foundation

inductive CloudProjectionFenceScope where
  | session
  | workspace
  | workflowRun
  | client
  deriving DecidableEq

structure CloudProjectionIdentity where
  scope : CloudProjectionFenceScope
  tenantId : String
  (workspaceId sessionId workflowId runId clientId : Option String)
  deriving DecidableEq

structure CloudProjectionFenceToken extends CloudProjectionIdentity where
  commandId : Option String
  (sequence projectionVersion checkpointVersion : Option Rat)
  expiresAt : Option Int
  deriving DecidableEq

structure CloudProjectionCheckpoint extends CloudProjectionIdentity where
  (sequence projectionVersion : Rat)
  checkpointVersion : Option Rat
  deriving DecidableEq

/-! ## Identities -/

def isIdStart (c : Char) : Bool := c.isAlphanum

def isIdChar (c : Char) : Bool := c.isAlphanum || c == '.' || c == '_' || c == ':' || c == '-'

/-- `EXACT_ID_PATTERN`. -/
def isExactId (text : String) : Bool := text.toList.head?.any isIdStart && text.toList.all isIdChar

def assertExactCloudIdentity (value : Option String) (label : String) : Except String String := do
  let text ← orThrow value (label ++ " is required.")
  refuseIf (Text.isBlank text = true) (label ++ " is required.")
  let normalized := Text.trim text
  refuseIf (isExactId normalized = false) (label ++ " must be an exact canonical identifier.")
  return normalized

def assertNonNegativeInteger (value : Option Rat) (label : String) :
    Except String (Option Rat) := do
  refuseIf (value.any fun number => number.den ≠ 1 || number < 0)
    (label ++ " must be a non-negative integer.")
  return value

def assertRequiredNonNegativeInteger (value : Option Rat) (label : String) :
    Except String Rat := do
  let normalized ← assertNonNegativeInteger value label
  orThrow normalized (label ++ " is required.")

/-- The ids of the other scopes are passed on as they are. -/
def assertProjectionIdentity (input : CloudProjectionIdentity) :
    Except String CloudProjectionIdentity := do
  let tenantId ← assertExactCloudIdentity (some input.tenantId) "tenantId"
  let identity := { input with tenantId }
  match input.scope with
  | .session =>
    let sessionId ← assertExactCloudIdentity input.sessionId "sessionId"
    return { identity with sessionId := some sessionId }
  | .workspace =>
    let workspaceId ← assertExactCloudIdentity input.workspaceId "workspaceId"
    return { identity with workspaceId := some workspaceId }
  | .workflowRun =>
    let workflowId ← assertExactCloudIdentity input.workflowId "workflowId"
    let runId ← assertExactCloudIdentity input.runId "runId"
    return { identity with workflowId := some workflowId, runId := some runId }
  | .client =>
    let clientId ← assertExactCloudIdentity input.clientId "clientId"
    return { identity with clientId := some clientId }

def templateText (value : Option String) : String := value.getD "undefined"

def cloudProjectionFenceIdentityKey (input : CloudProjectionIdentity) : Except String String := do
  let identity ← assertProjectionIdentity input
  match identity.scope with
  | .session => return "session:" ++ identity.tenantId ++ ":" ++ templateText identity.sessionId
  | .workspace =>
    return "workspace:" ++ identity.tenantId ++ ":" ++ templateText identity.workspaceId
  | .workflowRun =>
    return "workflow-run:" ++ identity.tenantId ++ ":" ++ templateText identity.workflowId ++
      ":" ++ templateText identity.runId
  | .client => return "client:" ++ identity.tenantId ++ ":" ++ templateText identity.clientId

/-- `{...(id ? { id } : {})}`. -/
def presentId (value : Option String) : Option String := value.filter fun id => id ≠ ""

def CloudProjectionIdentity.present (identity : CloudProjectionIdentity) :
    CloudProjectionIdentity :=
  { identity with
    workspaceId := presentId identity.workspaceId
    sessionId := presentId identity.sessionId
    workflowId := presentId identity.workflowId
    runId := presentId identity.runId
    clientId := presentId identity.clientId }

def createCloudProjectionFenceToken (input : CloudProjectionFenceToken) :
    Except String CloudProjectionFenceToken := do
  let identity ← assertProjectionIdentity input.toCloudProjectionIdentity
  let sequence ← assertNonNegativeInteger input.sequence "sequence"
  let projectionVersion ← assertNonNegativeInteger input.projectionVersion "projectionVersion"
  let checkpointVersion ← assertNonNegativeInteger input.checkpointVersion "checkpointVersion"
  refuseIf (sequence = none ∧ projectionVersion = none ∧ checkpointVersion = none)
    "A projection fence requires sequence, projectionVersion, or checkpointVersion."
  let commandId ← (presentId input.commandId).mapM fun commandId =>
    assertExactCloudIdentity (some commandId) "commandId"
  return { identity.present with
    commandId, sequence, projectionVersion, checkpointVersion, expiresAt := input.expiresAt }

def createCloudProjectionCheckpoint (input : CloudProjectionCheckpoint) :
    Except String CloudProjectionCheckpoint := do
  let identity ← assertProjectionIdentity input.toCloudProjectionIdentity
  let sequence ← assertRequiredNonNegativeInteger (some input.sequence) "sequence"
  let projectionVersion ←
    assertRequiredNonNegativeInteger (some input.projectionVersion) "projectionVersion"
  let checkpointVersion ← assertNonNegativeInteger input.checkpointVersion "checkpointVersion"
  return { identity.present with sequence, projectionVersion, checkpointVersion }

/-! ## Observation -/

def cloudProjectionFenceObserved (fence : CloudProjectionFenceToken)
    (checkpoint : CloudProjectionCheckpoint) : Except String Bool := do
  let fenceKey ← cloudProjectionFenceIdentityKey fence.toCloudProjectionIdentity
  let checkpointKey ← cloudProjectionFenceIdentityKey checkpoint.toCloudProjectionIdentity
  if fenceKey ≠ checkpointKey then return false
  if fence.sequence.any fun target => checkpoint.sequence < target then return false
  if fence.projectionVersion.any fun target => checkpoint.projectionVersion < target then
    return false
  if fence.checkpointVersion.any fun target => checkpoint.checkpointVersion.getD (-1) < target then
    return false
  return true

inductive CloudProjectionFenceWaitCode where
  | observed
  | checkpointMissing
  | identityMismatch
  | expired
  | stale
  | timeout
  deriving DecidableEq

/-- The error of a wait; its kind is `projection`. -/
structure CloudProjectionSyncError where
  code : CloudProjectionFenceWaitCode
  message : String
  retryable : Bool
  deriving DecidableEq

structure CloudProjectionFenceWaitResult where
  ok : Bool
  code : CloudProjectionFenceWaitCode
  fence : CloudProjectionFenceToken
  checkpoint : Option CloudProjectionCheckpoint
  error : Option CloudProjectionSyncError
  waitedMs : Int
  deriving DecidableEq

def projectionSyncError (code : CloudProjectionFenceWaitCode) (message : String)
    (retryable : Bool) : CloudProjectionSyncError :=
  { code, message, retryable }

def fenceFailure (fence : CloudProjectionFenceToken) (checkpoint : Option CloudProjectionCheckpoint)
    (waitedMs : Int) (error : CloudProjectionSyncError) : CloudProjectionFenceWaitResult :=
  { ok := false, code := error.code, fence, checkpoint, error := some error, waitedMs }

def fenceExpired (fence : CloudProjectionFenceToken) (nowMs : Int) : Bool :=
  fence.expiresAt.any fun expiresAt => expiresAt ≤ nowMs

def evaluateCloudProjectionFenceCheckpoint (fence : CloudProjectionFenceToken)
    (found : Option CloudProjectionCheckpoint) (nowMs waitedMs : Int) :
    Except String CloudProjectionFenceWaitResult := do
  if fenceExpired fence nowMs then
    return fenceFailure fence found waitedMs (projectionSyncError .expired
      "Projection fence expired before the checkpoint was observed." false)
  match found with
  | none =>
    return fenceFailure fence none waitedMs (projectionSyncError .checkpointMissing
      "No projection checkpoint is available for this fence identity." true)
  | some checkpoint =>
    let fenceKey ← cloudProjectionFenceIdentityKey fence.toCloudProjectionIdentity
    let checkpointKey ← cloudProjectionFenceIdentityKey checkpoint.toCloudProjectionIdentity
    if fenceKey ≠ checkpointKey then
      return fenceFailure fence checkpoint waitedMs (projectionSyncError .identityMismatch
        "Projection checkpoint identity does not match the fence identity." false)
    let observed ← cloudProjectionFenceObserved fence checkpoint
    if observed then
      return { ok := true, code := .observed, fence, checkpoint, error := none, waitedMs }
    return fenceFailure fence checkpoint waitedMs (projectionSyncError .stale
      "Projection checkpoint is behind the fence target." true)

/-- One round of a wait: the checkpoint it reads, and each reading of the clock. -/
structure FencePoll where
  checkpoint : Option CloudProjectionCheckpoint
  (elapsedAt evaluatedAt comparedAt returnedAt : Int)

/-- The wait as far as it was polled; it has no result while it still sleeps. -/
def pollFence (fence : CloudProjectionFenceToken) (timeoutMs startedAt : Int) :
    List FencePoll → Except String (Option CloudProjectionFenceWaitResult)
  | [] => return none
  | poll :: polls => do
      let result ← evaluateCloudProjectionFenceCheckpoint fence poll.checkpoint poll.evaluatedAt
        (max 0 (poll.elapsedAt - startedAt))
      if result.ok || !result.error.any CloudProjectionSyncError.retryable then
        return some result
      let remainingMs := timeoutMs - max 0 (poll.comparedAt - startedAt)
      if remainingMs ≤ 0 then
        return some (fenceFailure fence result.checkpoint (max 0 (poll.returnedAt - startedAt))
          (projectionSyncError .timeout
            "Timed out waiting for projection checkpoint to observe the fence." true))
      pollFence fence timeoutMs startedAt polls

def waitForCloudProjectionFence (fence : CloudProjectionFenceToken) (timeoutMs startedAt : Int)
    (polls : List FencePoll) : Except String (Option CloudProjectionFenceWaitResult) := do
  refuseIf (timeoutMs < 0) "Projection fence wait timeoutMs must be a non-negative number."
  pollFence fence timeoutMs startedAt polls

/-! ## Components

What a fence is for: one session, workspace, run or client of a tenant.
-/

def CloudProjectionFenceScope.text : CloudProjectionFenceScope → String
  | .session => "session"
  | .workspace => "workspace"
  | .workflowRun => "workflow-run"
  | .client => "client"

def CloudProjectionFenceScope.idCount : CloudProjectionFenceScope → Nat
  | .session => 2
  | .workspace => 2
  | .workflowRun => 3
  | .client => 2

structure FenceComponent where
  scope : CloudProjectionFenceScope
  ids : List String
  deriving DecidableEq

def CloudProjectionIdentity.ids (identity : CloudProjectionIdentity) : List String :=
  match identity.scope with
  | .session => [identity.tenantId, templateText identity.sessionId]
  | .workspace => [identity.tenantId, templateText identity.workspaceId]
  | .workflowRun =>
    [identity.tenantId, templateText identity.workflowId, templateText identity.runId]
  | .client => [identity.tenantId, templateText identity.clientId]

def CloudProjectionIdentity.component (identity : CloudProjectionIdentity) : FenceComponent :=
  { scope := identity.scope, ids := identity.ids }

def componentOf (input : CloudProjectionIdentity) : Except String FenceComponent := do
  let identity ← assertProjectionIdentity input
  return identity.component

/-- How exact ids are spelt, and what joins them. -/
def idAlphabet : PartAlphabet Char where
  begins := isIdStart
  allowed := isIdChar
  separator := ':'
  separator_allowed := by decide
  not_begins_separator := by decide

/-- No colon of the id is followed by a letter or a digit. -/
def isUnbroken (id : String) : Bool := idAlphabet.breaks id.toList = 0

theorem isExactId_iff {text : String} : isExactId text = true ↔ idAlphabet.IsPart text.toList := by
  rw [isExactId, Bool.and_eq_true, List.all_eq_true]
  constructor
  · rintro ⟨hhead, hall⟩
    refine ⟨?_, hall⟩
    cases hchars : text.toList with
    | nil =>
      rw [hchars] at hhead
      exact Bool.noConfusion hhead
    | cons first rest =>
      rw [hchars] at hhead
      exact ⟨first, rest, rfl, hhead⟩
  · rintro ⟨⟨_, _, hchars, hfirst⟩, hall⟩
    refine ⟨?_, hall⟩
    rw [hchars]
    exact hfirst

theorem isIdChar_bounds {c : Char} (hc : isIdChar c = true) : 45 ≤ c.toNat ∧ c.toNat ≤ 122 := by
  have hval : c.toNat = c.val.toNat := rfl
  have hspelt : isIdChar c = (decide (c.val ≥ 65 ∧ c.val ≤ 90) || (c.val ≥ 97 && c.val ≤ 122) ||
      (c.val ≥ 48 && c.val ≤ 57) || c == '.' || c == '_' || c == ':' || c == '-') := rfl
  simp only [hspelt, Bool.or_eq_true, Bool.and_eq_true, decide_eq_true_eq, ge_iff_le,
    UInt32.le_iff_toNat_le, beq_iff_eq] at hc
  rw [hval]
  rcases hc with (((((⟨h, h'⟩ | ⟨h, h'⟩) | ⟨h, h'⟩) | rfl) | rfl) | rfl) | rfl
  · exact ⟨Nat.le_trans (by decide) h, Nat.le_trans h' (by decide)⟩
  · exact ⟨Nat.le_trans (by decide) h, h'⟩
  · exact ⟨Nat.le_trans (by decide) h, Nat.le_trans h' (by decide)⟩
  · decide
  · decide
  · decide
  · decide

theorem trim_of_isPart {text : String} (htext : idAlphabet.IsPart text.toList) :
    Text.isBlank text = false ∧ Text.trim text = text := by
  have hspaces : ∀ c ∈ text.toList, Text.isWhiteSpace c = false :=
    fun c hc => Text.not_isWhiteSpace (isIdChar_bounds (htext.allowed c hc))
  obtain ⟨first, _, hchars, _⟩ := htext.begins
  constructor
  · exact Text.isBlank_of_mem (hchars ▸ List.mem_cons_self)
      (hspaces first (hchars ▸ List.mem_cons_self))
  · have hfront : text.toList.dropWhile Text.isWhiteSpace = text.toList := by
      rw [List.dropWhile_eq_self_iff]
      intro hlength
      rw [hspaces _ (List.getElem_mem hlength)]
      exact Bool.false_ne_true
    have hback : text.toList.rdropWhile Text.isWhiteSpace = text.toList := by
      rw [List.rdropWhile_eq_self_iff]
      intro hne
      rw [hspaces _ (List.getLast_mem hne)]
      exact Bool.false_ne_true
    rw [Text.trim, Text.trimChars_eq, hfront, hback, String.ofList_toList]

theorem assertExactCloudIdentity_of_isPart {id : String} (hid : idAlphabet.IsPart id.toList)
    (label : String) : assertExactCloudIdentity (some id) label = .ok id := by
  obtain ⟨hblank, htrim⟩ := trim_of_isPart hid
  have hexact : isExactId id = true := isExactId_iff.mpr hid
  simp only [assertExactCloudIdentity, orThrow_some, ok_bind, hblank, htrim, hexact]
  rfl

theorem isPart_of_assertExactCloudIdentity {value : Option String} {label id : String}
    (h : assertExactCloudIdentity value label = .ok id) : idAlphabet.IsPart id.toList := by
  obtain ⟨_, _, h⟩ := bind_eq_ok h
  obtain ⟨_, _, h⟩ := bind_eq_ok h
  obtain ⟨_, hexact, h⟩ := bind_eq_ok h
  rw [refuseIf_eq_ok, Bool.not_eq_false] at hexact
  cases h
  exact isExactId_iff.mp hexact

variable {input : CloudProjectionIdentity} {component : FenceComponent}
  {fence : CloudProjectionFenceToken} {result : CloudProjectionFenceWaitResult} {key : String}

theorem assertProjectionIdentity_spec {identity : CloudProjectionIdentity}
    (h : assertProjectionIdentity input = .ok identity) :
    identity.scope = input.scope ∧ identity.ids.length = input.scope.idCount ∧
      ∀ id ∈ identity.ids, idAlphabet.IsPart id.toList := by
  obtain ⟨_, htenant, h⟩ := bind_eq_ok h
  have htenant := isPart_of_assertExactCloudIdentity htenant
  cases hscope : input.scope with
  | workflowRun =>
    rw [hscope] at h
    obtain ⟨_, hworkflow, h⟩ := bind_eq_ok h
    obtain ⟨_, hrun, h⟩ := bind_eq_ok h
    have hworkflow := isPart_of_assertExactCloudIdentity hworkflow
    have hrun := isPart_of_assertExactCloudIdentity hrun
    cases h
    simp [CloudProjectionIdentity.ids, templateText, htenant, hworkflow, hrun,
      CloudProjectionFenceScope.idCount]
  | session | workspace =>
    rw [hscope] at h
    obtain ⟨id, hid, h⟩ := bind_eq_ok h
    have hid := isPart_of_assertExactCloudIdentity hid
    cases h
    simp [CloudProjectionIdentity.ids, templateText, htenant, hid,
      CloudProjectionFenceScope.idCount]
  | client =>
    rw [hscope] at h
    obtain ⟨_, hid, h⟩ := bind_eq_ok h
    have hid := isPart_of_assertExactCloudIdentity hid
    cases h
    simp [CloudProjectionIdentity.ids, templateText, htenant, hid,
      CloudProjectionFenceScope.idCount]

theorem exists_componentOf (hcount : component.ids.length = component.scope.idCount)
    (hids : ∀ id ∈ component.ids, idAlphabet.IsPart id.toList) :
    ∃ input, componentOf input = .ok component := by
  obtain ⟨scope, ids⟩ := component
  have hexact : ∀ id ∈ ids, ∀ label, assertExactCloudIdentity (some id) label = .ok id :=
    fun id hid => assertExactCloudIdentity_of_isPart (hids id hid)
  have htwo : ids.length = 2 → ∃ tenantId id, ids = [tenantId, id] :=
    fun hlength => List.length_eq_two.mp hlength
  cases scope with
  | session =>
    obtain ⟨tenantId, sessionId, rfl⟩ := htwo hcount
    simp only [List.forall_mem_cons] at hexact
    refine ⟨⟨.session, tenantId, none, some sessionId, none, none, none⟩, ?_⟩
    simp only [componentOf, assertProjectionIdentity, hexact, ok_bind]
    rfl
  | workspace =>
    obtain ⟨tenantId, workspaceId, rfl⟩ := htwo hcount
    simp only [List.forall_mem_cons] at hexact
    refine ⟨⟨.workspace, tenantId, some workspaceId, none, none, none, none⟩, ?_⟩
    simp only [componentOf, assertProjectionIdentity, hexact, ok_bind]
    rfl
  | workflowRun =>
    obtain ⟨tenantId, workflowId, runId, rfl⟩ := List.length_eq_three.mp hcount
    simp only [List.forall_mem_cons] at hexact
    refine ⟨⟨.workflowRun, tenantId, none, none, some workflowId, some runId, none⟩, ?_⟩
    simp only [componentOf, assertProjectionIdentity, hexact, ok_bind]
    rfl
  | client =>
    obtain ⟨tenantId, clientId, rfl⟩ := htwo hcount
    simp only [List.forall_mem_cons] at hexact
    refine ⟨⟨.client, tenantId, none, none, none, none, some clientId⟩, ?_⟩
    simp only [componentOf, assertProjectionIdentity, hexact, ok_bind]
    rfl

/-! ## Keys -/

def FenceComponent.keyChars (component : FenceComponent) : List Char :=
  component.scope.text.toList ++ ':' :: idAlphabet.joined (component.ids.map String.toList)

variable (h : componentOf input = .ok component)
include h

theorem identityKey_toList :
    ∃ key, cloudProjectionFenceIdentityKey input = .ok key ∧
      key.toList = component.keyChars := by
  obtain ⟨identity, hidentity, h⟩ := bind_eq_ok h
  cases h
  simp only [cloudProjectionFenceIdentityKey, hidentity, ok_bind]
  cases hscope : identity.scope with
  | session | workspace | workflowRun | client =>
    refine ⟨_, rfl, ?_⟩
    simp [FenceComponent.keyChars, CloudProjectionIdentity.component,
      CloudProjectionIdentity.ids, hscope, CloudProjectionFenceScope.text,
      PartAlphabet.joined_cons_cons, idAlphabet]

omit h in
theorem componentOf_of_identityKey (h : cloudProjectionFenceIdentityKey input = .ok key) :
    ∃ component, componentOf input = .ok component ∧ key.toList = component.keyChars := by
  obtain ⟨identity, hidentity, _⟩ := bind_eq_ok h
  have hcomponent : componentOf input = .ok identity.component := by
    rw [componentOf, hidentity]
    rfl
  obtain ⟨key', hkey', hspelt⟩ := identityKey_toList hcomponent
  obtain rfl : key' = key := Except.ok.inj (hkey'.symm.trans h)
  exact ⟨_, hcomponent, hspelt⟩

theorem componentOf_spec :
    component.ids.length = component.scope.idCount ∧
      ∀ id ∈ component.ids, idAlphabet.IsPart id.toList := by
  obtain ⟨_, hidentity, h⟩ := bind_eq_ok h
  cases h
  obtain ⟨hscope, hcount, hids⟩ := assertProjectionIdentity_spec hidentity
  exact ⟨by rw [CloudProjectionIdentity.component, hcount, hscope], hids⟩

omit h in
theorem keyChars_eq_iff {other : FenceComponent} :
    other.keyChars = component.keyChars ↔
      other.scope = component.scope ∧
        idAlphabet.joined (other.ids.map String.toList) =
          idAlphabet.joined (component.ids.map String.toList) := by
  constructor
  · intro h
    have hcolon : ∀ scope : CloudProjectionFenceScope, ':' ∉ scope.text.toList := by
      intro scope
      cases scope <;> decide
    obtain ⟨hscope, hjoined⟩ := Text.append_separator_inj (hcolon _) (hcolon _) h
    refine ⟨?_, hjoined⟩
    revert hscope
    cases other.scope <;> cases component.scope <;> decide
  · rintro ⟨hscope, hjoined⟩
    rw [FenceComponent.keyChars, FenceComponent.keyChars, hscope, hjoined]

/-- A component shares its key with no other one exactly if no id of it is broken. -/
theorem key_unique_iff :
    (∀ other otherComponent, componentOf other = .ok otherComponent →
        cloudProjectionFenceIdentityKey other = cloudProjectionFenceIdentityKey input →
        otherComponent = component) ↔
      ∀ id ∈ component.ids, isUnbroken id = true := by
  obtain ⟨hcount, hids⟩ := componentOf_spec h
  obtain ⟨key, hkey, hspelt⟩ := identityKey_toList h
  have htwo : 2 ≤ (component.ids.map String.toList).length := by
    rw [List.length_map, hcount]
    cases component.scope <;> decide
  have hparts : ∀ part ∈ component.ids.map String.toList, idAlphabet.IsPart part := by
    intro part hpart
    obtain ⟨id, hid, rfl⟩ := List.mem_map.mp hpart
    exact hids id hid
  have hreadings := PartAlphabet.readings_unique_iff htwo hparts
  constructor
  · intro hunique id hid
    refine decide_eq_true (hreadings.mp ?_ id.toList (List.mem_map_of_mem hid))
    intro others hlength hothers hjoined
    -- another reading of the joined ids is another component of the same scope
    have hback : (others.map String.ofList).map String.toList = others := by
      simp [Function.comp_def]
    have hother : ∃ other,
        componentOf other = .ok ⟨component.scope, others.map String.ofList⟩ := by
      apply exists_componentOf
      · rw [List.length_map, hlength, List.length_map, hcount]
      · intro id hid
        obtain ⟨part, hpart, rfl⟩ := List.mem_map.mp hid
        rw [String.toList_ofList]
        exact hothers part hpart
    obtain ⟨other, hother⟩ := hother
    obtain ⟨key', hkey', hspelt'⟩ := identityKey_toList hother
    have hsame : key' = key := by
      apply String.toList_inj.mp
      rw [hspelt', hspelt, keyChars_eq_iff]
      exact ⟨rfl, by rw [hback, hjoined]⟩
    have heq := hunique other _ hother (by rw [hkey', hkey, hsame])
    rw [← heq, hback]
  · intro hplain other otherComponent hother hsame
    obtain ⟨hcount', hids'⟩ := componentOf_spec hother
    obtain ⟨key', hkey', hspelt'⟩ := identityKey_toList hother
    obtain rfl : key' = key := Except.ok.inj (hkey'.symm.trans (hsame.trans hkey))
    obtain ⟨hscope, hjoined⟩ := keyChars_eq_iff.mp (hspelt'.symm.trans hspelt)
    have hparts' := hreadings.mpr (by
        intro part hpart
        obtain ⟨id, hid, rfl⟩ := List.mem_map.mp hpart
        exact of_decide_eq_true (hplain id hid))
      (otherComponent.ids.map String.toList)
      (by rw [List.length_map, List.length_map, hcount', hcount, hscope])
      (by
        intro part hpart
        obtain ⟨id, hid, rfl⟩ := List.mem_map.mp hpart
        exact hids' id hid)
      hjoined
    have hsameIds := List.map_injective_iff.mpr (fun _ _ => String.toList_injective) hparts'
    cases component
    cases otherComponent
    simp only at hscope hsameIds
    rw [hscope, hsameIds]

omit h

/-! ## Fences -/

/-- A checkpoint that moved on: it is of the same component, and no figure of it went back. -/
structure CloudProjectionCheckpoint.Advances (earlier later : CloudProjectionCheckpoint) :
    Prop where
  component : componentOf later.toCloudProjectionIdentity =
    componentOf earlier.toCloudProjectionIdentity
  sequence : earlier.sequence ≤ later.sequence
  projectionVersion : earlier.projectionVersion ≤ later.projectionVersion
  checkpointVersion : earlier.checkpointVersion.getD (-1) ≤ later.checkpointVersion.getD (-1)

/-- A fence that is met only by what it is for, and stays met. -/
structure CloudProjectionFenceToken.IsExact (fence : CloudProjectionFenceToken) : Prop where
  keys : ∀ component other otherComponent,
    componentOf fence.toCloudProjectionIdentity = .ok component →
    componentOf other = .ok otherComponent →
    cloudProjectionFenceIdentityKey other =
      cloudProjectionFenceIdentityKey fence.toCloudProjectionIdentity →
    otherComponent = component
  observed : ∀ checkpoint, cloudProjectionFenceObserved fence checkpoint = .ok true →
    componentOf checkpoint.toCloudProjectionIdentity =
      componentOf fence.toCloudProjectionIdentity
  awaited : ∀ timeoutMs startedAt polls result,
    waitForCloudProjectionFence fence timeoutMs startedAt polls = .ok (some result) →
    result.ok = true → ∃ checkpoint, result.checkpoint = some checkpoint ∧
      componentOf checkpoint.toCloudProjectionIdentity =
        componentOf fence.toCloudProjectionIdentity
  stays : ∀ earlier later, cloudProjectionFenceObserved fence earlier = .ok true →
    Relation.ReflTransGen CloudProjectionCheckpoint.Advances earlier later →
    cloudProjectionFenceObserved fence later = .ok true

theorem any_lt_eq_false {target : Option Rat} {reached : Rat} :
    (target.any fun number => decide (reached < number)) = false ↔
      ∀ number ∈ target, number ≤ reached := by
  cases target with
  | none | some => simp

theorem cloudProjectionFenceObserved_iff {checkpoint : CloudProjectionCheckpoint} :
    cloudProjectionFenceObserved fence checkpoint = .ok true ↔
      (∃ key, cloudProjectionFenceIdentityKey fence.toCloudProjectionIdentity = .ok key ∧
        cloudProjectionFenceIdentityKey checkpoint.toCloudProjectionIdentity = .ok key) ∧
      (∀ target ∈ fence.sequence, target ≤ checkpoint.sequence) ∧
      (∀ target ∈ fence.projectionVersion, target ≤ checkpoint.projectionVersion) ∧
      ∀ target ∈ fence.checkpointVersion, target ≤ checkpoint.checkpointVersion.getD (-1) := by
  rw [← any_lt_eq_false, ← any_lt_eq_false, ← any_lt_eq_false]
  constructor
  · intro h
    obtain ⟨key, hkey, h⟩ := bind_eq_ok h
    obtain ⟨_, hkey', h⟩ := bind_eq_ok h
    split at h
    · cases h
    next hsame =>
      split at h
      · cases h
      next hsequence =>
        split at h
        · cases h
        next hprojection =>
          split at h
          · cases h
          next hcheckpoint =>
            rw [ne_eq, not_not] at hsame
            exact ⟨⟨key, hkey, hsame ▸ hkey'⟩, Bool.eq_false_iff.mpr hsequence,
              Bool.eq_false_iff.mpr hprojection, Bool.eq_false_iff.mpr hcheckpoint⟩
  · rintro ⟨⟨_, hkey, hkey'⟩, hsequence, hprojection, hcheckpoint⟩
    simp only [cloudProjectionFenceObserved, hkey, hkey', ok_bind, hsequence, hprojection,
      hcheckpoint]
    simp
    rfl

theorem identityKey_congr {other : CloudProjectionIdentity}
    (h : componentOf other = componentOf input)
    (hkey : cloudProjectionFenceIdentityKey input = .ok key) :
    cloudProjectionFenceIdentityKey other = .ok key := by
  obtain ⟨_, hcomponent, hspelt⟩ := componentOf_of_identityKey hkey
  obtain ⟨_, hkey', hspelt'⟩ := identityKey_toList (h.trans hcomponent)
  rw [hkey', String.toList_inj.mp (hspelt'.trans hspelt.symm)]

theorem observed_of_advances {earlier later : CloudProjectionCheckpoint}
    (hadvances : earlier.Advances later)
    (h : cloudProjectionFenceObserved fence earlier = .ok true) :
    cloudProjectionFenceObserved fence later = .ok true := by
  rw [cloudProjectionFenceObserved_iff] at h ⊢
  obtain ⟨⟨key, hkey, hkey'⟩, hsequence, hprojection, hcheckpoint⟩ := h
  refine ⟨⟨key, hkey, identityKey_congr hadvances.component hkey'⟩, ?_, ?_, ?_⟩
  · exact fun target htarget => (hsequence target htarget).trans hadvances.sequence
  · exact fun target htarget => (hprojection target htarget).trans hadvances.projectionVersion
  · exact fun target htarget => (hcheckpoint target htarget).trans hadvances.checkpointVersion

theorem evaluate_ok {found : Option CloudProjectionCheckpoint} {nowMs waitedMs : Int}
    (h : evaluateCloudProjectionFenceCheckpoint fence found nowMs waitedMs = .ok result)
    (hok : result.ok = true) :
    ∃ checkpoint, result.checkpoint = some checkpoint ∧
      cloudProjectionFenceObserved fence checkpoint = .ok true := by
  unfold evaluateCloudProjectionFenceCheckpoint at h
  split at h
  · cases h
    exact Bool.noConfusion hok
  next =>
    cases found with
    | none =>
      cases h
      exact Bool.noConfusion hok
    | some checkpoint =>
      obtain ⟨_, _, h⟩ := bind_eq_ok h
      obtain ⟨_, _, h⟩ := bind_eq_ok h
      split at h
      · cases h
        exact Bool.noConfusion hok
      next =>
        obtain ⟨observed, hobserved, h⟩ := bind_eq_ok h
        cases observed with
        | false =>
          cases h
          exact Bool.noConfusion hok
        | true =>
          cases h
          exact ⟨checkpoint, rfl, hobserved⟩

theorem pollFence_ok {timeoutMs startedAt : Int} {polls : List FencePoll}
    (h : pollFence fence timeoutMs startedAt polls = .ok (some result)) (hok : result.ok = true) :
    ∃ checkpoint, result.checkpoint = some checkpoint ∧
      cloudProjectionFenceObserved fence checkpoint = .ok true := by
  induction polls with
  | nil => cases h
  | cons _ _ ih =>
    obtain ⟨_, hanswer, h⟩ := bind_eq_ok h
    split at h
    · cases h
      exact evaluate_ok hanswer hok
    next =>
      dsimp only at h
      split at h
      · cases h
        exact Bool.noConfusion hok
      next => exact ih h

/-- A fence is exact exactly if no id that names what it is for is broken. -/
theorem fence_isExact_iff (fence : CloudProjectionFenceToken) :
    fence.IsExact ↔
      ∀ component, componentOf fence.toCloudProjectionIdentity = .ok component →
        ∀ id ∈ component.ids, isUnbroken id = true := by
  constructor
  · intro hexact component hcomponent
    apply (key_unique_iff hcomponent).mp
    exact fun other otherComponent => hexact.keys component other otherComponent hcomponent
  · intro hunbroken
    have hobserved : ∀ checkpoint, cloudProjectionFenceObserved fence checkpoint = .ok true →
        componentOf checkpoint.toCloudProjectionIdentity =
          componentOf fence.toCloudProjectionIdentity := by
      intro checkpoint h
      obtain ⟨⟨_, hkey, hkey'⟩, _⟩ := cloudProjectionFenceObserved_iff.mp h
      obtain ⟨component, hcomponent, _⟩ := componentOf_of_identityKey hkey
      obtain ⟨other, hother, _⟩ := componentOf_of_identityKey hkey'
      have hsame := (key_unique_iff hcomponent).mpr (hunbroken component hcomponent) _ other
        hother (hkey'.trans hkey.symm)
      rw [hother, hcomponent, hsame]
    refine ⟨?_, hobserved, ?_, ?_⟩
    · intro component other otherComponent hcomponent
      exact (key_unique_iff hcomponent).mpr (hunbroken component hcomponent) other otherComponent
    · intro timeoutMs startedAt polls result h hok
      obtain ⟨_, _, h⟩ := bind_eq_ok h
      obtain ⟨checkpoint, hcheckpoint, h⟩ := pollFence_ok h hok
      exact ⟨checkpoint, hcheckpoint, hobserved checkpoint h⟩
    · intro earlier later h hadvances
      induction hadvances with
      | refl => exact h
      | tail _ hstep ih => exact observed_of_advances hstep ih

/-- The session `b:c` of tenant `a` meets the fence of session `c` of tenant `a:b`. -/
theorem colliding_fence_observed :
    ∃ fence checkpoint,
      createCloudProjectionFenceToken
        { scope := .session, tenantId := "a:b", workspaceId := none, sessionId := some "c",
          workflowId := none, runId := none, clientId := none, commandId := none,
          sequence := some 1, projectionVersion := none, checkpointVersion := none,
          expiresAt := none } = .ok fence ∧
      createCloudProjectionCheckpoint
        { scope := .session, tenantId := "a", workspaceId := none, sessionId := some "b:c",
          workflowId := none, runId := none, clientId := none, sequence := 1,
          projectionVersion := 1, checkpointVersion := none } = .ok checkpoint ∧
      cloudProjectionFenceIdentityKey fence.toCloudProjectionIdentity =
        cloudProjectionFenceIdentityKey checkpoint.toCloudProjectionIdentity ∧
      componentOf fence.toCloudProjectionIdentity ≠
        componentOf checkpoint.toCloudProjectionIdentity ∧
      cloudProjectionFenceObserved fence checkpoint = .ok true := by
  refine ⟨_, _, rfl, rfl, ?_, ?_, ?_⟩
  · decide +kernel
  · decide +kernel
  · decide +kernel

end OpenCowork.Projection
