import Mathlib.Algebra.Order.Ring.Rat
import OpenCowork.ControlPlane.Sessions.Domain

/-! # The neighbours of the sessions domain

Identity lookups, the command-queue quota, the usage counters and the audit log,
as the in-memory store wires them into the sessions domain.
-/

namespace OpenCowork.ControlPlane

open Foundation

structure UsageCounter where
  windowStartedAtMs : Int
  quantity : ℚ

structure AuditEventRecord where
  eventId : String
  input : RecordAuditEventInput
  metadata : Json

/-- The state behind the host of the sessions domain. Tenants, users and
organisations are known by their map keys. -/
structure Neighbours where
  (tenants users orgs : List String)
  orgsByTenant : OrderedMap String String
  usageCounters : OrderedMap String UsageCounter
  auditEvents : OrderedMap String AuditEventRecord

/-- Formatting, hashing and metadata redaction that the audit log relies on. -/
structure AuditEnvironment where
  isoString : Instant → String
  stableId : String → List String → String
  redactAuditMetadata : Json → Json

/-- Code-point order for the collation; short text without secrets is stored as is. -/
def plainEnvironment : Environment where
  localeCompare := fun left right => compareOfLessAndEq left right
  scrubOperationalText := fun text _ => Text.trim text

/-- Ids that spell out their parts, for text that needs no redaction. -/
def plainAudit : AuditEnvironment where
  isoString := fun instant => toString instant
  stableId := fun kind parts => kind ++ "_" ++ String.intercalate "\x00" parts
  redactAuditMetadata := id

namespace Neighbours

variable (audit : AuditEnvironment) (state : Neighbours) (sessions : List SessionState)
  (tenantId : String) (orgId : String)

def requireTenant : Except StoreError Unit :=
  if tenantId ∈ state.tenants then .ok ()
  else .error (.error ("Unknown tenant " ++ tenantId ++ "."))

def requireTenantUser (tenantId userId : String) : Except StoreError Unit :=
  match state.requireTenant tenantId with
  | .error thrown => .error thrown
  | .ok () =>
    if key tenantId userId ∈ state.users then .ok ()
    else .error (.error ("User " ++ userId ++ " does not belong to tenant " ++ tenantId ++ "."))

def orgIdForTenant : String := textOr (state.orgsByTenant.get tenantId) tenantId

def orgExists : Bool := decide (orgId ∈ state.orgs)

def resolveOrgIdOrNull : Option String :=
  match state.orgsByTenant.get tenantId with
  | some orgId => if orgId ≠ "" then some orgId
      else if state.orgExists tenantId then some tenantId else none
  | none => if state.orgExists tenantId then some tenantId else none

def queuedCommands : List SessionCommandRecord :=
  (sessions.filter fun session =>
      decide (state.orgIdForTenant session.record.tenantId = orgId)).flatMap fun session =>
    session.commands.filter fun command =>
      decide (command.status = .pending) || decide (command.status = .running)

def oldestCreatedAt : List SessionCommandRecord → Option Instant
  | [] => none
  | command :: rest =>
    match oldestCreatedAt rest with
    | none => some command.createdAt
    | some oldest => some (min command.createdAt oldest)

/-- The number of queued commands and the age of the oldest are both bounded. -/
def assertCommandQueueQuota
    (quota : Option CommandQueueQuota) (now : Instant) : Except StoreError Unit :=
  match quota with
  | none => .ok ()
  | some quota =>
    let queued := state.queuedCommands sessions
      (textOr quota.orgId (state.orgIdForTenant tenantId))
    let maxQueued := quota.maxQueuedCommandsPerOrg.getD 0
    let maxAge := quota.maxQueueAgeMs.getD 0
    if 0 < maxQueued ∧ maxQueued ≤ (queued.length : ℚ) then
      .error (.quotaExceeded "Cloud command queue is full."
        (textOr quota.policyCode "quota.queued_commands_exceeded") 60000 maxQueued queued.length
        (now + 60000))
    else
      match oldestCreatedAt queued with
      | none => .ok ()
      | some oldest =>
        let age : Int := max 0 (now - oldest)
        let retryAfterMs : ℚ := max 1000 (min 60000 maxAge)
        if 0 < maxAge ∧ maxAge ≤ (age : ℚ) then
          .error (.quotaExceeded "Cloud command queue is too old to accept more work."
            (textOr quota.queueAgePolicyCode "quota.queue_age_exceeded") retryAfterMs maxAge age
            (now + retryAfterMs.floor))
        else .ok ()

def normalizePositiveInteger (value : ℚ) (label : String) : Except StoreError ℚ :=
  if value.den = 1 ∧ 0 < value then .ok value
  else .error (.error (label ++ " must be a positive integer."))

def quotaWindowStart (nowMs : Int) (windowMs : ℚ) : Int := (nowMs / windowMs.num) * windowMs.num

/-- `quantity || 1`. -/
def quantityOrOne (quantity : Option ℚ) : ℚ :=
  match quantity with
  | none => 1
  | some quantity => if quantity = 0 then 1 else quantity

def consumeUsageQuota (dateNow : Instant) (input : ConsumeUsageQuotaInput) :
    Outcome Neighbours QuotaConsumptionRecord :=
  if state.orgExists input.orgId = false then
    (.error (.error ("Unknown org " ++ input.orgId ++ ".")), state)
  else
  match normalizePositiveInteger input.limit "Quota limit" with
  | .error thrown => (.error thrown, state)
  | .ok limit =>
  match normalizePositiveInteger (quantityOrOne input.quantity) "Quota quantity" with
  | .error thrown => (.error thrown, state)
  | .ok quantity =>
  match normalizePositiveInteger input.windowMs "Quota window" with
  | .error thrown => (.error thrown, state)
  | .ok windowMs =>
  let nowMs := input.now.getD dateNow
  let startedAtMs := quotaWindowStart nowMs windowMs
  let counterKey := key input.orgId input.quotaKey
  let current : ℚ := match state.usageCounters.get counterKey with
    | none => 0
    | some counter => if counter.windowStartedAtMs = startedAtMs then counter.quantity else 0
  let next := current + quantity
  let retryAfterMs : Int := max 1 (startedAtMs + windowMs.num - nowMs)
  let record (allowed : Bool) (used : ℚ) : QuotaConsumptionRecord :=
    { allowed := allowed
      orgId := input.orgId
      quotaKey := input.quotaKey
      limit := limit
      used := used
      remaining := max 0 (limit - used)
      resetAt := nowMs + retryAfterMs
      retryAfterMs := retryAfterMs
      policyCode := input.policyCode }
  if limit < next then (.ok (record false current), state)
  else
    (.ok (record true next),
      { state with usageCounters := state.usageCounters.set counterKey ⟨startedAtMs, next⟩ })

def adjustUsageQuota (orgId quotaKey : String) (windowStartedAtMs : Int) (quantityDelta : ℚ) :
    Outcome Neighbours Unit :=
  if state.orgExists orgId = false then
    (.error (.error ("Unknown org " ++ orgId ++ ".")), state)
  else if quantityDelta.den ≠ 1 ∨ quantityDelta = 0 then (.ok (), state)
  else
    match state.usageCounters.get (key orgId quotaKey) with
    | none => (.ok (), state)
    | some counter =>
      if counter.windowStartedAtMs ≠ windowStartedAtMs then (.ok (), state)
      else
        (.ok (), { state with
          usageCounters := state.usageCounters.set (key orgId quotaKey)
            ⟨counter.windowStartedAtMs, max 0 (counter.quantity + quantityDelta)⟩ })

def recordAuditEvent (input : RecordAuditEventInput) : Outcome Neighbours Unit :=
  if state.orgExists input.orgId = false then
    (.error (.error ("Unknown org " ++ input.orgId ++ ".")), state)
  else
    let eventId := audit.stableId "audit" [input.orgId, input.eventType,
      (state.auditEvents.entries.length + 1).repr, audit.isoString input.createdAt]
    match state.auditEvents.get eventId with
    | some _ => (.ok (), state)
    | none =>
      (.ok (), { state with
        auditEvents := state.auditEvents.set eventId
          ⟨eventId, input, audit.redactAuditMetadata input.metadata⟩ })

/-- The host that the in-memory store hands to the sessions domain. -/
def host : SessionsHost Neighbours where
  requireTenant := requireTenant
  requireTenantUser := requireTenantUser
  resolveOrgId := orgIdForTenant
  resolveOrgIdOrNull := resolveOrgIdOrNull
  assertCommandQueueQuota := assertCommandQueueQuota
  consumeUsageQuota := fun state dateNow input => consumeUsageQuota state dateNow input
  adjustUsageQuota := adjustUsageQuota
  restoreUsageQuotaCounters := fun state earlier =>
    { state with usageCounters := earlier.usageCounters }
  recordAuditEvent := recordAuditEvent audit

def single (tenantId userId : String) : Neighbours where
  tenants := [tenantId]
  users := [key tenantId userId]
  orgs := [tenantId]
  orgsByTenant := OrderedMap.empty
  usageCounters := OrderedMap.empty
  auditEvents := OrderedMap.empty

end Neighbours

def openSession (tenantId userId sessionId : String) : SessionOperation :=
  .createSession
    { tenantId := tenantId
      userId := userId
      sessionId := sessionId
      opencodeSessionId := ""
      profileName := "default"
      title := none
      createdAt := none
      quota := none }

def enqueuePrompt (tenantId userId sessionId commandId : String) : SessionOperation :=
  .enqueueSessionCommand
    { commandId := commandId
      tenantId := tenantId
      userId := userId
      sessionId := sessionId
      kind := .prompt
      payload := none
      targetLeaseToken := none
      createdAt := none
      quota := none
      usageQuotas := [] }

def heldLease (tenantId sessionId workerId : String) (attempt : Nat) (expiresAt : Instant)
    (checkpointVersion : Nat) : WorkerLeaseRecord where
  tenantId := tenantId
  sessionId := sessionId
  leasedBy := workerId
  leaseToken := leaseToken tenantId sessionId attempt workerId
  leaseExpiresAt := expiresAt
  checkpointVersion := checkpointVersion

end OpenCowork.ControlPlane
