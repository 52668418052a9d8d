import OpenCowork.ControlPlane.Sessions.State
import OpenCowork.Foundation.Machine

/-! # The in-memory sessions domain

The session operations over the whole session table. The neighbouring domains
(identity, quotas, usage counters, audit) are reached through a host, as in the
store; nothing here depends on what they do.
-/

namespace OpenCowork.ControlPlane

open Foundation

structure SessionQuota where
  orgId : Option String
  maxConcurrentSessionsPerOrg : Option ℚ
  policyCode : Option String

structure CreateSessionInput where
  (tenantId userId sessionId opencodeSessionId profileName : String)
  title : Option String
  createdAt : Option Instant
  quota : Option SessionQuota

structure WorkerQuota where
  orgId : Option String
  maxActiveWorkersPerOrg : Option ℚ

structure CommandQueueQuota where
  orgId : Option String
  (maxQueuedCommandsPerOrg maxQueueAgeMs : Option ℚ)
  (policyCode queueAgePolicyCode : Option String)

structure ConsumeUsageQuotaInput where
  (orgId quotaKey : String)
  limit : ℚ
  quantity : Option ℚ
  windowMs : ℚ
  now : Option Instant
  policyCode : Option String

structure QuotaConsumptionRecord where
  allowed : Bool
  (orgId quotaKey : String)
  (limit used remaining : ℚ)
  resetAt : Instant
  retryAfterMs : ℚ
  policyCode : Option String

structure UsageQuotaReservation where
  quotaKey : String
  windowStartedAtMs : Int
  quantity : ℚ

structure EnqueueCommandInput where
  (commandId tenantId userId sessionId : String)
  kind : CommandKind
  payload : Option Json
  targetLeaseToken : Option String
  createdAt : Option Instant
  quota : Option CommandQueueQuota
  usageQuotas : List ConsumeUsageQuotaInput

/-- `retryAfterMs` is absent where the number is not finite. -/
structure DeferSessionCommandInput where
  retryAfterMs : Option ℚ
  (errorCode errorSummary : String)
  quotaReservation : Option UsageQuotaReservation

structure RecordAuditEventInput where
  (orgId actorType actorId eventType targetType targetId : String)
  metadata : Json
  createdAt : Instant

/-- What the sessions domain asks of its neighbours, over their joint state. The
usage counters are restored from an earlier state of the neighbours. -/
structure SessionsHost (σ : Type) where
  requireTenant : σ → String → Except StoreError Unit
  requireTenantUser : σ → String → String → Except StoreError Unit
  resolveOrgId : σ → String → String
  resolveOrgIdOrNull : σ → String → Option String
  assertCommandQueueQuota : σ → List SessionState → String → Option CommandQueueQuota →
    Instant → Except StoreError Unit
  consumeUsageQuota : σ → Instant → ConsumeUsageQuotaInput → Outcome σ QuotaConsumptionRecord
  adjustUsageQuota : σ → String → String → Int → ℚ → Outcome σ Unit
  restoreUsageQuotaCounters : σ → σ → σ
  recordAuditEvent : σ → RecordAuditEventInput → Outcome σ Unit

/-- `value || fallback` on optional text. -/
def textOr (value : Option String) (fallback : String) : String :=
  match value with
  | none => fallback
  | some text => if text = "" then fallback else text

def publicQuotaMessage (policyCode : Option String) : String :=
  match policyCode with
  | some "quota.prompts_per_hour_exceeded" => "Cloud prompt quota exceeded."
  | some "quota.gateway_prompts_per_hour_exceeded" => "Gateway prompt quota exceeded."
  | some "quota.workflow_runs_per_hour_exceeded" => "Cloud workflow run quota exceeded."
  | some "quota.worker_minutes_per_hour_exceeded" => "Cloud worker minute quota exceeded."
  | some "quota.queued_commands_exceeded" => "Cloud command queue is full."
  | some "quota.queue_age_exceeded" => "Cloud command queue is too old to accept more work."
  | _ => "Cloud usage quota exceeded."

structure SessionsDomain (σ : Type) where
  sessions : OrderedMap String SessionState
  neighbours : σ

namespace SessionsDomain

variable {σ : Type} (env : Environment) (host : SessionsHost σ)

def requireSession (domain : SessionsDomain σ) (tenantId sessionId : String) :
    Except StoreError SessionState :=
  match host.requireTenant domain.neighbours tenantId with
  | .error thrown => .error thrown
  | .ok () =>
    match domain.sessions.get (key tenantId sessionId) with
    | none => .error (.error ("Unknown session " ++ sessionId ++ "."))
    | some session => .ok session

def putSession (domain : SessionsDomain σ) (sessionKey : String) (session : SessionState) :
    SessionsDomain σ :=
  { domain with sessions := domain.sessions.set sessionKey session }

def withSession {α : Type} (domain : SessionsDomain σ) (tenantId sessionId : String)
    (operation : SessionState → Outcome SessionState α) : Outcome (SessionsDomain σ) α :=
  match domain.requireSession host tenantId sessionId with
  | .error thrown => (.error thrown, domain)
  | .ok session =>
    ((operation session).1,
      domain.putSession (key tenantId sessionId) (operation session).2)

/-- A fresh session has no lease, no events and no commands. -/
def newSession (input : CreateSessionInput) (createdAt : Instant) : SessionState where
  record :=
    { tenantId := input.tenantId
      userId := input.userId
      sessionId := input.sessionId
      opencodeSessionId := input.opencodeSessionId
      profileName := input.profileName
      status := .idle
      title := if input.title = some "" then none else input.title
      createdAt := createdAt
      updatedAt := createdAt }
  nextEventSequence := 0
  nextCommandSequence := 0
  nextLeaseAttempt := 0
  lease := none
  events := []
  projection := none
  commands := []

def activeSessions (domain : SessionsDomain σ) (orgId : String) : Nat :=
  (domain.sessions.values.filter fun session =>
    decide (host.resolveOrgId domain.neighbours session.record.tenantId = orgId) &&
      decide (session.record.status ≠ .closed)).length

/-- The concurrent-session quota of `createSession`. -/
def assertSessionQuota (domain : SessionsDomain σ) (input : CreateSessionInput)
    (dateNow : Instant) : Except StoreError Unit :=
  match input.quota with
  | none => .ok ()
  | some quota =>
    match quota.maxConcurrentSessionsPerOrg with
    | none => .ok ()
    | some limit =>
      let used := domain.activeSessions host
        (textOr quota.orgId (host.resolveOrgId domain.neighbours input.tenantId))
      if 0 < limit ∧ limit ≤ used then
        .error (.quotaExceeded "Concurrent cloud session quota exceeded."
          (textOr quota.policyCode "quota.concurrent_sessions_exceeded") 60000 limit used
          (dateNow + 60000))
      else .ok ()

def createSession (domain : SessionsDomain σ) (input : CreateSessionInput) (dateNow : Instant) :
    Outcome (SessionsDomain σ) SessionRecord :=
  match host.requireTenantUser domain.neighbours input.tenantId input.userId with
  | .error thrown => (.error thrown, domain)
  | .ok () =>
    match domain.sessions.get (key input.tenantId input.sessionId) with
    | some existing => (.ok existing.record, domain)
    | none =>
      match domain.assertSessionQuota host input dateNow with
      | .error thrown => (.error thrown, domain)
      | .ok () =>
        let session := newSession input (input.createdAt.getD dateNow)
        (.ok session.record,
          domain.putSession (key input.tenantId input.sessionId) session)

def activeLeases (domain : SessionsDomain σ) (orgId : String) (nowMs : Instant) : Nat :=
  (domain.sessions.values.filter fun session =>
    decide (host.resolveOrgId domain.neighbours session.record.tenantId = orgId) &&
      !session.leaseFree nowMs).length

/-- Whether the worker quota leaves room for one more lease. -/
def workerQuotaAllows (domain : SessionsDomain σ) (tenantId : String) (nowMs : Instant)
    (quota : Option WorkerQuota) : Bool :=
  match quota with
  | none => true
  | some quota =>
    match quota.maxActiveWorkersPerOrg with
    | none => true
    | some limit =>
      let used := domain.activeLeases host
        (textOr quota.orgId (host.resolveOrgId domain.neighbours tenantId)) nowMs
      !(decide (0 < limit) && decide (limit ≤ (used : ℚ)))

def claimSessionLease (domain : SessionsDomain σ) (tenantId sessionId workerId : String)
    (now ttlMs : Int) (quota : Option WorkerQuota) :
    Outcome (SessionsDomain σ) (Option WorkerLeaseRecord) :=
  match domain.requireSession host tenantId sessionId with
  | .error thrown => (.error thrown, domain)
  | .ok session =>
    if session.leaseFree now && domain.workerQuotaAllows host tenantId now quota then
      (.ok (some (session.nextLease tenantId sessionId workerId now ttlMs)),
        domain.putSession (key tenantId sessionId)
          (session.grantLease tenantId sessionId workerId now ttlMs))
    else (.ok none, domain)

def releaseSessionLease (domain : SessionsDomain σ) (lease : WorkerLeaseRecord)
    (now : Instant) : Outcome (SessionsDomain σ) Bool :=
  domain.withSession host lease.tenantId lease.sessionId (·.releaseSessionLease lease now)

def renewSessionLease (domain : SessionsDomain σ) (lease : WorkerLeaseRecord)
    (dateNow now ttlMs : Int) : Outcome (SessionsDomain σ) WorkerLeaseRecord :=
  domain.withSession host lease.tenantId lease.sessionId
    (·.renewSessionLease lease dateNow now ttlMs)

def checkpointSession (domain : SessionsDomain σ) (lease : WorkerLeaseRecord)
    (dateNow : Instant) : Outcome (SessionsDomain σ) WorkerLeaseRecord :=
  domain.withSession host lease.tenantId lease.sessionId (·.checkpointSession lease dateNow)

def leaseReapedAudit (orgId : String) (record : ReapedSessionLeaseRecord) (now : Instant) :
    RecordAuditEventInput where
  orgId := orgId
  actorType := "system"
  actorId := "managed-work-reaper"
  eventType := "managed_work.session_lease_reaped"
  targetType := "session"
  targetId := record.sessionId
  metadata := .obj
    [("action", .str (match record.action with
      | .retried => "retried" | .failed => "failed" | .released => "released")),
     ("leasedBy", .str record.leasedBy),
     ("retriedCommandIds", .arr (record.retriedCommandIds.map .str)),
     ("failedCommandIds", .arr (record.failedCommandIds.map .str))]
  createdAt := now

/-- Recovery of one session's lease, then its audit record. A refused audit
record throws after the session was changed. -/
def recoverSessionLeaseRecord (domain : SessionsDomain σ) (sessionKey : String)
    (session : SessionState) (lease : WorkerLeaseRecord) (now : Instant) (maxAttempts : Int) :
    Outcome (SessionsDomain σ) ReapedSessionLeaseRecord :=
  let recovered := domain.putSession sessionKey (session.afterRecovery lease now maxAttempts)
  let record := session.reapedRecord lease now maxAttempts
  match host.resolveOrgIdOrNull domain.neighbours lease.tenantId with
  | none => (.ok record, recovered)
  | some orgId =>
    if orgId = "" then (.ok record, recovered)
    else
      match host.recordAuditEvent domain.neighbours (leaseReapedAudit orgId record now) with
      | (.error thrown, neighbours) => (.error thrown, { recovered with neighbours })
      | (.ok (), neighbours) => (.ok record, { recovered with neighbours })

def recoverSessionLease (domain : SessionsDomain σ) (lease : WorkerLeaseRecord) (now : Instant)
    (maxCommandAttempts : Option ℚ) :
    Outcome (SessionsDomain σ) (Option ReapedSessionLeaseRecord) :=
  match domain.requireSession host lease.tenantId lease.sessionId with
  | .error thrown => (.error thrown, domain)
  | .ok session =>
    match session.lease with
    | none => (.ok none, domain)
    | some current =>
      if current.leaseToken ≠ lease.leaseToken then (.ok none, domain)
      else
        match domain.recoverSessionLeaseRecord host (key lease.tenantId lease.sessionId)
          session current now (attemptLimit maxCommandAttempts) with
        | (.error thrown, next) => (.error thrown, next)
        | (.ok record, next) => (.ok (some record), next)

/-- Earliest expiry first, then by tenant and session. -/
def reapedBefore (left right : String × SessionState) : Bool :=
  match left.2.lease, right.2.lease with
  | some first, some second =>
    if first.leaseExpiresAt ≠ second.leaseExpiresAt then
      decide (first.leaseExpiresAt < second.leaseExpiresAt)
    else
      match env.localeCompare left.2.record.tenantId right.2.record.tenantId with
      | .lt => true
      | .gt => false
      | .eq => env.localeCompare left.2.record.sessionId right.2.record.sessionId != .gt
  | _, _ => true

/-- The keys of the sessions whose lease expired, in the order they are reaped. -/
def expiredSessions (domain : SessionsDomain σ) (nowMs : Instant) (limit : Nat) : List String :=
  (((domain.sessions.entries.filter fun entry =>
      entry.2.lease.isSome && entry.2.leaseFree nowMs).insertionSort
        (fun left right => reapedBefore env left right = true)).take limit).map Prod.fst

def reapSessions (now : Instant) (maxAttempts : Int) :
    List String → SessionsDomain σ → Outcome (SessionsDomain σ) (List ReapedSessionLeaseRecord)
  | [], domain => (.ok [], domain)
  | sessionKey :: rest, domain =>
    match domain.sessions.get sessionKey with
    | none => reapSessions now maxAttempts rest domain
    | some session =>
      match session.lease with
      | none => reapSessions now maxAttempts rest domain
      | some lease =>
        match domain.recoverSessionLeaseRecord host sessionKey session lease now
          maxAttempts with
        | (.error thrown, next) => (.error thrown, next)
        | (.ok record, next) =>
          match reapSessions now maxAttempts rest next with
          | (.error thrown, final) => (.error thrown, final)
          | (.ok records, final) => (.ok (record :: records), final)

/-- `Math.max(1, Math.min(1_000, Math.floor(limit ?? 100)))`. -/
def reapLimit (limit : Option ℚ) : Nat := (max 1 (min 1000 (limit.getD 100).floor)).toNat

def reapExpiredSessionLeases (domain : SessionsDomain σ) (now : Instant)
    (maxCommandAttempts limit : Option ℚ) :
    Outcome (SessionsDomain σ) (List ReapedSessionLeaseRecord) :=
  reapSessions host now (attemptLimit maxCommandAttempts)
    (domain.expiredSessions env now (reapLimit limit)) domain

def findSessionCommandById (domain : SessionsDomain σ) (commandId : String) :
    Option SessionCommandRecord :=
  domain.sessions.values.findSome? fun session =>
    session.commands.find? fun entry => decide (entry.commandId = commandId)

def sameCommand (existing : SessionCommandRecord) (input : EnqueueCommandInput) : Bool :=
  decide (existing.tenantId = input.tenantId) && decide (existing.userId = input.userId) &&
    decide (existing.sessionId = input.sessionId) && decide (existing.kind = input.kind) &&
    decide (existing.targetLeaseToken = input.targetLeaseToken) &&
    decide (env.stableJson existing.payload =
      env.stableJson (input.payload.getD Json.emptyObject))

def consumeUsageQuotas (dateNow : Instant) : List ConsumeUsageQuotaInput → σ → Outcome σ Unit
  | [], neighbours => (.ok (), neighbours)
  | quota :: rest, neighbours =>
    match host.consumeUsageQuota neighbours dateNow quota with
    | (.error thrown, next) => (.error thrown, next)
    | (.ok result, next) =>
      if result.allowed then consumeUsageQuotas dateNow rest next
      else
        (.error (.quotaExceeded (publicQuotaMessage result.policyCode)
          (textOr result.policyCode "quota.prompts_per_hour_exceeded") result.retryAfterMs
          result.limit result.used result.resetAt), next)

def newCommand (input : EnqueueCommandInput) (createdSequence : Nat) (createdAt : Instant) :
    SessionCommandRecord where
  commandId := input.commandId
  tenantId := input.tenantId
  userId := input.userId
  sessionId := input.sessionId
  kind := input.kind
  payload := input.payload.getD Json.emptyObject
  targetLeaseToken := input.targetLeaseToken
  createdSequence := createdSequence
  createdAt := createdAt
  status := .pending
  claimedBy := none
  claimedLeaseToken := none
  attemptCount := 0
  availableAt := none
  lastErrorCode := none
  lastErrorSummary := none
  ackedAt := none
  error := none

def afterEnqueue (session : SessionState) (input : EnqueueCommandInput) (createdAt : Instant) :
    SessionState :=
  { session with
    nextCommandSequence := session.nextCommandSequence + 1
    commands := session.commands ++ [newCommand input (session.nextCommandSequence + 1) createdAt] }

def enqueueSessionCommand (domain : SessionsDomain σ) (input : EnqueueCommandInput)
    (dateNow : Instant) : Outcome (SessionsDomain σ) SessionCommandRecord :=
  match host.requireTenantUser domain.neighbours input.tenantId input.userId with
  | .error thrown => (.error thrown, domain)
  | .ok () =>
  match domain.requireSession host input.tenantId input.sessionId with
  | .error thrown => (.error thrown, domain)
  | .ok session =>
  match domain.findSessionCommandById input.commandId with
  | some existing =>
    if sameCommand env existing input then (.ok existing, domain)
    else
      (.error (.error ("Command id " ++ input.commandId ++
        " was reused with different content.")), domain)
  | none =>
  match host.assertCommandQueueQuota domain.neighbours domain.sessions.values input.tenantId
    input.quota (input.createdAt.getD dateNow) with
  | .error thrown => (.error thrown, domain)
  | .ok () =>
  match consumeUsageQuotas host dateNow input.usageQuotas domain.neighbours with
  | (.error thrown, neighbours) =>
    (.error thrown, { domain with
      neighbours := host.restoreUsageQuotaCounters neighbours domain.neighbours })
  | (.ok (), neighbours) =>
    (.ok (newCommand input (session.nextCommandSequence + 1) (input.createdAt.getD dateNow)),
      { domain with neighbours }.putSession (key input.tenantId input.sessionId)
        (afterEnqueue session input (input.createdAt.getD dateNow)))

def claimNextSessionCommand (domain : SessionsDomain σ) (lease : WorkerLeaseRecord)
    (now : Instant) : Outcome (SessionsDomain σ) (Option SessionCommandRecord) :=
  domain.withSession host lease.tenantId lease.sessionId (·.claimNextSessionCommand lease now)

def ackSessionCommand (domain : SessionsDomain σ) (lease : WorkerLeaseRecord)
    (commandId : String) (dateNow now : Instant) :
    Outcome (SessionsDomain σ) SessionCommandRecord :=
  domain.withSession host lease.tenantId lease.sessionId
    (·.ackSessionCommand lease commandId dateNow now)

def checkpointAndAckSessionCommand (domain : SessionsDomain σ) (lease : WorkerLeaseRecord)
    (commandId : String) (dateNow now : Instant) :
    Outcome (SessionsDomain σ) CheckpointAndAckSessionCommandResult :=
  domain.withSession host lease.tenantId lease.sessionId
    (·.checkpointAndAckSessionCommand lease commandId dateNow now)

/-- The quota reservation of a deferred command is handed back first. -/
def returnReservation (domain : SessionsDomain σ) (tenantId : String)
    (reservation : Option UsageQuotaReservation) : Outcome σ Unit :=
  match reservation with
  | none => (.ok (), domain.neighbours)
  | some reservation =>
    host.adjustUsageQuota domain.neighbours (host.resolveOrgId domain.neighbours tenantId)
      reservation.quotaKey reservation.windowStartedAtMs (-reservation.quantity)

def deferSessionCommand (domain : SessionsDomain σ) (lease : WorkerLeaseRecord)
    (commandId : String) (input : DeferSessionCommandInput) (now : Instant) :
    Outcome (SessionsDomain σ) SessionCommandRecord :=
  match input.retryAfterMs.filter (fun delay => decide (0 < delay)) with
  | none =>
    (.error (.error "Deferred command retryAfterMs must be a positive finite number."), domain)
  | some delay =>
  match domain.requireSession host lease.tenantId lease.sessionId with
  | .error thrown => (.error thrown, domain)
  | .ok session =>
  match session.deferrable lease commandId now with
  | .error thrown => (.error thrown, domain)
  | .ok command =>
  match env.redactOperationalText input.errorSummary 512 "Command deferred" with
  | .error thrown => (.error thrown, domain)
  | .ok errorSummary =>
  match domain.returnReservation host lease.tenantId input.quotaReservation with
  | (.error thrown, neighbours) => (.error thrown, { domain with neighbours })
  | (.ok (), neighbours) =>
    (.ok (command.deferred (now + delay.floor) input.errorCode errorSummary),
      { domain with neighbours }.putSession (key lease.tenantId lease.sessionId)
        (session.afterDeferral commandId (now + delay.floor) now input.errorCode errorSummary))

def failSessionCommand (domain : SessionsDomain σ) (lease : WorkerLeaseRecord)
    (commandId error : String) (dateNow : Instant) :
    Outcome (SessionsDomain σ) SessionCommandRecord :=
  domain.withSession host lease.tenantId lease.sessionId
    (·.failSessionCommand env lease commandId error dateNow)

end SessionsDomain

inductive SessionOperation where
  | createSession (input : CreateSessionInput)
  | claimSessionLease (tenantId sessionId workerId : String) (ttlMs : Int)
      (quota : Option WorkerQuota)
  | releaseSessionLease (lease : WorkerLeaseRecord)
  | renewSessionLease (lease : WorkerLeaseRecord) (ttlMs : Int)
  | checkpointSession (lease : WorkerLeaseRecord)
  | reapExpiredSessionLeases (maxCommandAttempts limit : Option ℚ)
  | recoverSessionLease (lease : WorkerLeaseRecord) (maxCommandAttempts : Option ℚ)
  | enqueueSessionCommand (input : EnqueueCommandInput)
  | claimNextSessionCommand (lease : WorkerLeaseRecord)
  | ackSessionCommand (lease : WorkerLeaseRecord) (commandId : String)
  | checkpointAndAckSessionCommand (lease : WorkerLeaseRecord) (commandId : String)
  | deferSessionCommand (lease : WorkerLeaseRecord) (commandId : String)
      (input : DeferSessionCommandInput)
  | failSessionCommand (lease : WorkerLeaseRecord) (commandId error : String)

/-- An operation and the reading of the one clock at which it runs. -/
structure SessionRequest where
  now : Instant
  operation : SessionOperation

inductive SessionAnswer where
  | thrown (error : StoreError)
  | session (record : SessionRecord)
  | claimed (lease : Option WorkerLeaseRecord)
  | released (done : Bool)
  | lease (lease : WorkerLeaseRecord)
  | reaped (records : List ReapedSessionLeaseRecord)
  | recovered (record : Option ReapedSessionLeaseRecord)
  | command (command : SessionCommandRecord)
  | handed (command : Option SessionCommandRecord)
  | settled (result : CheckpointAndAckSessionCommandResult)

namespace SessionsDomain

variable {σ : Type} (env : Environment) (host : SessionsHost σ)

/-- A result as an answer of the machine. -/
def reply {α : Type} (wrap : α → SessionAnswer) : Except StoreError α → SessionAnswer
  | .error thrown => .thrown thrown
  | .ok value => wrap value

def answer {α : Type} (wrap : α → SessionAnswer) (outcome : Outcome (SessionsDomain σ) α) :
    SessionAnswer × SessionsDomain σ :=
  (reply wrap outcome.1, outcome.2)

/-- One operation. `Date.now()` and the `now` argument read the same clock. -/
def perform (domain : SessionsDomain σ) (request : SessionRequest) :
    SessionAnswer × SessionsDomain σ :=
  let now := request.now
  match request.operation with
  | .createSession input => answer .session (domain.createSession host input now)
  | .claimSessionLease tenantId sessionId workerId ttlMs quota =>
    answer .claimed (domain.claimSessionLease host tenantId sessionId workerId now ttlMs quota)
  | .releaseSessionLease lease => answer .released (domain.releaseSessionLease host lease now)
  | .renewSessionLease lease ttlMs =>
    answer .lease (domain.renewSessionLease host lease now now ttlMs)
  | .checkpointSession lease => answer .lease (domain.checkpointSession host lease now)
  | .reapExpiredSessionLeases maxCommandAttempts limit =>
    answer .reaped (domain.reapExpiredSessionLeases env host now maxCommandAttempts limit)
  | .recoverSessionLease lease maxCommandAttempts =>
    answer .recovered (domain.recoverSessionLease host lease now maxCommandAttempts)
  | .enqueueSessionCommand input =>
    answer .command (domain.enqueueSessionCommand env host input now)
  | .claimNextSessionCommand lease => answer .handed (domain.claimNextSessionCommand host lease now)
  | .ackSessionCommand lease commandId =>
    answer .command (domain.ackSessionCommand host lease commandId now now)
  | .checkpointAndAckSessionCommand lease commandId =>
    answer .settled (domain.checkpointAndAckSessionCommand host lease commandId now now)
  | .deferSessionCommand lease commandId input =>
    answer .command (domain.deferSessionCommand env host lease commandId input now)
  | .failSessionCommand lease commandId error =>
    answer .command (domain.failSessionCommand env host lease commandId error now)

def machine : Machine (SessionsDomain σ) SessionRequest SessionAnswer where
  step := perform env host

/-- A store without sessions. -/
def initial (neighbours : σ) : SessionsDomain σ := ⟨OrderedMap.empty, neighbours⟩

end SessionsDomain

end OpenCowork.ControlPlane
