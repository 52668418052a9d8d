import OpenCowork.ControlPlane.Records
import OpenCowork.Foundation.FirstMatch

/-! # Leases and commands of one session

The part of each in-memory session operation that reads and writes a single
session. An operation answers with a result and the session it leaves behind,
also when it throws: a mutation made before the throw stays.
-/

namespace OpenCowork.ControlPlane

open Foundation

/-- The answer of an operation and the state after it. -/
abbrev Outcome (σ α : Type) := Except StoreError α × σ

/-- A lease token names the session, the attempt under which it was claimed and
the worker. -/
def leaseToken (tenantId sessionId : String) (attempt : Nat) (workerId : String) : String :=
  tenantId ++ ":" ++ sessionId ++ ":" ++ attempt.repr ++ ":" ++ workerId

/-- `Math.max(1, Math.floor(maxCommandAttempts ?? 3))`. -/
def attemptLimit (maxCommandAttempts : Option ℚ) : Int := max 1 (maxCommandAttempts.getD 3).floor

structure CheckpointAndAckSessionCommandResult where
  lease : WorkerLeaseRecord
  command : SessionCommandRecord
  (checkpointAdvanced commandAcked : Bool)

namespace SessionCommandRecord

variable (command : SessionCommandRecord) (lease : WorkerLeaseRecord) (now : Instant)
  (maxAttempts : Int)

/-- Whether `claimNextSessionCommand` may hand the command to the lease. -/
def claimable (token : String) : Bool :=
  (command.status == .pending &&
      (command.targetLeaseToken == none || command.targetLeaseToken == some token)) ||
    (command.status == .running && command.claimedLeaseToken != some token &&
      command.targetLeaseToken == none)

def claimedUnder :
    SessionCommandRecord :=
  { command with
    status := .running
    claimedBy := some lease.leasedBy
    claimedLeaseToken := some lease.leaseToken
    attemptCount := command.attemptCount + 1
    availableAt := none
    lastErrorCode := none
    lastErrorSummary := none }

/-- Running under the lease that is being recovered. -/
def strandedBy : Bool :=
  command.status == .running && command.claimedLeaseToken == some lease.leaseToken

def exhausted : Bool := decide (maxAttempts ≤ command.attemptCount)

/-- What recovery makes of a command that was running under the lost lease. -/
def recovered :
    SessionCommandRecord :=
  if command.exhausted maxAttempts then
    { command with
      status := .failed
      error := some "Worker lease expired after the maximum retry attempts."
      lastErrorCode := some "lease_expired_max_attempts"
      lastErrorSummary := some "Worker lease expired after the maximum retry attempts." }
  else
    { command with
      status := .pending
      claimedBy := none
      claimedLeaseToken := none
      availableAt := some now
      error := none
      lastErrorCode := some "lease_expired"
      lastErrorSummary := some "Worker lease expired before command completion." }

def acked : SessionCommandRecord :=
  { command with status := .acked, ackedAt := some now, error := none }

def deferred (availableAt : Instant)
    (errorCode errorSummary : String) : SessionCommandRecord :=
  { command with
    status := .pending
    claimedBy := none
    claimedLeaseToken := none
    availableAt := some availableAt
    ackedAt := none
    error := none
    lastErrorCode := some errorCode
    lastErrorSummary := some errorSummary }

end SessionCommandRecord

namespace SessionState

variable (command : SessionCommandRecord) (session : SessionState)
  (tenantId sessionId workerId : String) (lease : WorkerLeaseRecord) (nowMs : Instant)
  (commandId : String) (now : Instant) (maxAttempts : Int)

def staleLease : StoreError := .error "Worker lease is stale."

def notOwned : StoreError := .error ("Command " ++ commandId ++ " is not owned by this worker.")

/-- The presented lease must carry the session's current token, unexpired at
`nowMs`. Answers the current lease. -/
def assertCurrentLease :
    Except StoreError WorkerLeaseRecord :=
  match session.lease with
  | none => .error staleLease
  | some current =>
    if current.leaseToken ≠ lease.leaseToken ∨ current.leaseExpiresAt ≤ nowMs then
      .error staleLease
    else .ok current

def requireCommand :
    Except StoreError SessionCommandRecord :=
  match session.commands.find? (fun entry => decide (entry.commandId = commandId)) with
  | none => .error (.error ("Unknown command " ++ commandId ++ "."))
  | some command => .ok command

/-- The command must be running under the presented lease. -/
def assertOwned :
    Except StoreError Unit :=
  if command.status ≠ .running ∨ command.claimedLeaseToken ≠ some lease.leaseToken then
    .error (notOwned command.commandId)
  else .ok ()

def updateCommand
    (update : SessionCommandRecord → SessionCommandRecord) : SessionState :=
  { session with
    commands := modifyFirst (fun entry => decide (entry.commandId = commandId)) update
      session.commands }

def withStatus (status : SessionStatus) (updatedAt : Instant) :
    SessionState :=
  { session with record := { session.record with status := status, updatedAt := updatedAt } }

/-- The lease is absent or past its expiry, so a new claim may replace it. -/
def leaseFree : Bool :=
  match session.lease with
  | none => true
  | some lease => decide (lease.leaseExpiresAt ≤ nowMs)

/-- The lease that a successful claim installs. -/
def nextLease (now ttlMs : Int) :
    WorkerLeaseRecord where
  tenantId := tenantId
  sessionId := sessionId
  leasedBy := workerId
  leaseToken := leaseToken tenantId sessionId (session.nextLeaseAttempt + 1) workerId
  leaseExpiresAt := now + ttlMs
  checkpointVersion := (session.lease.map WorkerLeaseRecord.checkpointVersion).getD 0

/-- The tail of `claimSessionLease`, once the expiry and quota checks passed. -/
def grantLease
    (now ttlMs : Int) : SessionState :=
  { session with
    nextLeaseAttempt := session.nextLeaseAttempt + 1
    lease := some (session.nextLease tenantId sessionId workerId now ttlMs)
    record := { session.record with status := .running, updatedAt := now } }

def releaseSessionLease :
    Outcome SessionState Bool :=
  match session.lease with
  | none => (.ok false, session)
  | some current =>
    if current.leaseToken ≠ lease.leaseToken then (.ok false, session)
    else (.ok true, { session with lease := none }.withStatus .idle now)

def renewSessionLease
    (dateNow now ttlMs : Int) : Outcome SessionState WorkerLeaseRecord :=
  match session.assertCurrentLease lease dateNow with
  | .error thrown => (.error thrown, session)
  | .ok current =>
    let renewed := { current with leaseExpiresAt := now + ttlMs }
    (.ok renewed, { session with lease := some renewed })

/-- The current lease with its version counted up; the presented record must
carry the current version. -/
def advanceCheckpoint (current lease : WorkerLeaseRecord) : Except StoreError WorkerLeaseRecord :=
  if lease.checkpointVersion ≠ current.checkpointVersion then
    .error (.error "Checkpoint version is stale.")
  else .ok { current with checkpointVersion := current.checkpointVersion + 1 }

def checkpointSession (dateNow : Instant) :
    Outcome SessionState WorkerLeaseRecord :=
  match session.assertCurrentLease lease dateNow with
  | .error thrown => (.error thrown, session)
  | .ok current =>
    match advanceCheckpoint current lease with
    | .error thrown => (.error thrown, session)
    | .ok advanced => (.ok advanced, { session with lease := some advanced })

/-- The commands whose worker lost the lease, by what becomes of them. -/
def strandedIds
    (exhausted : Bool) : List String :=
  (session.commands.filter fun command =>
    command.strandedBy lease && command.exhausted maxAttempts == exhausted).map
      SessionCommandRecord.commandId

def recoveryAction (retried failed : List String) : WorkReaperAction :=
  if failed ≠ [] ∧ retried = [] then .failed
  else if retried ≠ [] then .retried
  else .released

/-- The session after its lease was taken away: every stranded command is retried
or, at the attempt limit, failed. -/
def afterRecovery : SessionState :=
  let retried := session.strandedIds lease maxAttempts false
  let failed := session.strandedIds lease maxAttempts true
  { session with
    commands := session.commands.map fun (command : SessionCommandRecord) =>
      if command.strandedBy lease then command.recovered now maxAttempts else command
    lease := none }.withStatus (if failed ≠ [] ∧ retried = [] then .errored else .idle) now

def reapedRecord : ReapedSessionLeaseRecord :=
  let retried := session.strandedIds lease maxAttempts false
  let failed := session.strandedIds lease maxAttempts true
  { tenantId := lease.tenantId
    sessionId := lease.sessionId
    leaseToken := lease.leaseToken
    leasedBy := lease.leasedBy
    action := recoveryAction retried failed
    retriedCommandIds := retried
    failedCommandIds := failed
    reapedAt := now }

/-- A pending command whose retry delay has not passed yet. -/
def delayed : Bool :=
  command.status == .pending &&
    match command.availableAt with
    | none => false
    | some availableAt => decide (nowMs < availableAt)

def claimNextSessionCommand : Outcome SessionState (Option SessionCommandRecord) :=
  match session.assertCurrentLease lease now with
  | .error thrown => (.error thrown, session)
  | .ok _ =>
    match session.commands.find? (·.claimable lease.leaseToken) with
    | none => (.ok none, session)
    | some command =>
      if delayed command now then (.ok none, session)
      else
        (.ok (some (command.claimedUnder lease)),
          { session with
            commands := modifyFirst (·.claimable lease.leaseToken) (·.claimedUnder lease)
              session.commands })

def ackSessionCommand
    (dateNow now : Instant) : Outcome SessionState SessionCommandRecord :=
  match session.assertCurrentLease lease dateNow with
  | .error thrown => (.error thrown, session)
  | .ok _ =>
    match session.requireCommand commandId with
    | .error thrown => (.error thrown, session)
    | .ok command =>
      if command.status = .acked then (.ok command, session)
      else
        match assertOwned command lease with
        | .error thrown => (.error thrown, session)
        | .ok () => (.ok (command.acked now), session.updateCommand commandId (·.acked now))

def checkpointAndAckSessionCommand (dateNow now : Instant) :
    Outcome SessionState CheckpointAndAckSessionCommandResult :=
  match session.assertCurrentLease lease dateNow with
  | .error thrown => (.error thrown, session)
  | .ok current =>
    match session.requireCommand commandId with
    | .error thrown => (.error thrown, session)
    | .ok command =>
      if command.status = .acked then
        (.ok ⟨current, command, false, false⟩, session)
      else
        match assertOwned command lease with
        | .error thrown => (.error thrown, session)
        | .ok () =>
          match advanceCheckpoint current lease with
          | .error thrown => (.error thrown, session)
          | .ok advanced =>
            let settle (entry : SessionCommandRecord) : SessionCommandRecord :=
              { entry.acked now with lastErrorCode := none, lastErrorSummary := none }
            (.ok ⟨advanced, settle command, true, true⟩,
              { session.updateCommand commandId settle with lease := some advanced })

/-- What `deferSessionCommand` checks before it touches anything. -/
def deferrable : Except StoreError SessionCommandRecord :=
  match session.assertCurrentLease lease now with
  | .error thrown => .error thrown
  | .ok _ =>
    match session.requireCommand commandId with
    | .error thrown => .error thrown
    | .ok command =>
      match assertOwned command lease with
      | .error thrown => .error thrown
      | .ok () => .ok command

/-- A deferral returns the command to the queue and gives up the lease. -/
def afterDeferral (availableAt now : Instant)
    (errorCode errorSummary : String) : SessionState :=
  { session.updateCommand commandId (·.deferred availableAt errorCode errorSummary) with
    lease := none }.withStatus .idle now

/-- The command is marked failed before its error text is validated, so a blank
text throws with the mark in place. -/
def failSessionCommand (env : Environment) (session : SessionState) (lease : WorkerLeaseRecord)
    (commandId : String) (error : String) (dateNow : Instant) :
    Outcome SessionState SessionCommandRecord :=
  match session.assertCurrentLease lease dateNow with
  | .error thrown => (.error thrown, session)
  | .ok _ =>
    match session.requireCommand commandId with
    | .error thrown => (.error thrown, session)
    | .ok command =>
      match assertOwned command lease with
      | .error thrown => (.error thrown, session)
      | .ok () =>
        let fail (entry : SessionCommandRecord) : SessionCommandRecord :=
          { entry with
            status := .failed
            error := some error
            lastErrorCode := some "execution_failed" }
        match env.redactOperationalText error 512 "Command error" with
        | .error thrown => (.error thrown, session.updateCommand commandId fail)
        | .ok summary =>
          let record (entry : SessionCommandRecord) : SessionCommandRecord :=
            { fail entry with lastErrorSummary := some summary }
          (.ok (record command), session.updateCommand commandId record)

end SessionState

end OpenCowork.ControlPlane
