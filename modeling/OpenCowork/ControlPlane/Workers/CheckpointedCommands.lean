import OpenCowork.ControlPlane.Sessions.Domain

/-! # Workers that checkpoint a session

Workers drain the commands of one session. Each executes a command, saves the workspace
and acknowledges under its lease; runtime events are appended, checkpointed and saved
beside it. Every await of a worker is a step of its own, and between any two of them
other workers and callers may use the store.
-/

namespace OpenCowork.ControlPlane

open Foundation

/-- What the manifest under the latest key stands for: the saved tree and its labels. -/
structure WorkspaceCheckpoint (Tree : Type) where
  checkpointId : String
  checkpointVersion : Nat
  tree : Tree
  deriving DecidableEq, Repr

/-- Where `processSessionCommands` stands. -/
inductive CommandPhase (Tree : Type) where
  | idle
  | polling (lease : WorkerLeaseRecord)
  | claimed (lease : WorkerLeaseRecord) (command : SessionCommandRecord)
  | executing (lease : WorkerLeaseRecord) (command : SessionCommandRecord)
  | executed (lease : WorkerLeaseRecord) (command : SessionCommandRecord) (attempt : Nat)
  | saving (lease : WorkerLeaseRecord) (command : SessionCommandRecord) (attempt : Nat)
      (checkpoint : WorkspaceCheckpoint Tree)
  | saved (lease : WorkerLeaseRecord) (command : SessionCommandRecord) (attempt : Nat)
      (checkpoint : WorkspaceCheckpoint Tree)
  | stale (lease : WorkerLeaseRecord) (command : SessionCommandRecord) (attempt : Nat)

/-- Where `appendRuntimeEvent` stands. -/
inductive EventPhase (Tree : Type) where
  | idle
  | appended (lease : WorkerLeaseRecord) (attempt : Nat)
  | stale (lease : WorkerLeaseRecord) (attempt : Nat)
  | checkpointed (lease : WorkerLeaseRecord)
  | saving (lease : WorkerLeaseRecord) (checkpoint : WorkspaceCheckpoint Tree)

/-- A worker's share in the session: the lease it has cached, its copy of the workspace,
and what it is doing. -/
structure SessionWorker (Tree : Type) where
  lease : Option WorkerLeaseRecord
  workspace : Tree
  command : CommandPhase Tree
  event : EventPhase Tree

/-- The control plane, the workers by their ids, and the latest manifest of the session. -/
structure CheckpointedSession (σ Tree : Type) where
  store : SessionsDomain σ
  workers : String → SessionWorker Tree
  latest : Option (WorkspaceCheckpoint Tree)

inductive WorkerAction (Tree : Type) where
  | renewCachedLease
  | claimSessionLease (quota : Option WorkerQuota)
  | claimNextSessionCommand
  | restoreBeforeCommand
  | keepWorkspace
  | work (workspace : Tree)
  | renewLease
  | finishExecution
  | captureCheckpoint (checkpointId : String)
  | saveCheckpoint
  | checkpointAndAck
  | renewStaleLease
  | abandonCommand (forgetLease : Bool)
  | appendRuntimeEvent
  | checkpointLease
  | renewStaleEventLease
  | captureEventCheckpoint (checkpointId : String)
  | saveEventCheckpoint
  | abandonEvent (forgetLease : Bool)

/-- A step of a worker, or a call of anybody else to the store. -/
inductive CheckpointRequest (Tree : Type) where
  | worker (workerId : String) (now : Instant) (action : WorkerAction Tree)
  | store (request : SessionRequest)

inductive CheckpointAnswer (Tree : Type) where
  | silent
  | restored (checkpoint : Option (WorkspaceCheckpoint Tree))
  | saved (workerId : String) (checkpoint : WorkspaceCheckpoint Tree)
  | acknowledged (workerId : String) (checkpoint : WorkspaceCheckpoint Tree)
  | rejected (workerId : String) (checkpoint : WorkspaceCheckpoint Tree)
  deriving DecidableEq

def maxStaleCheckpointRetries : Nat := 3

def StoreError.message : StoreError → String
  | .error message => message
  | .quotaExceeded message .. => message

def isStaleCheckpointError (error : StoreError) : Bool :=
  Text.includes error.message.toLower "checkpoint version is stale"

def isStaleWorkerLeaseError (error : StoreError) : Bool :=
  Text.includes error.message.toLower "worker lease is stale" ||
    Text.includes error.message.toLower "stale worker lease"

/-- What a step of a worker comes to. -/
structure WorkerTurn (σ Tree : Type) where
  answer : CheckpointAnswer Tree
  store : SessionsDomain σ
  latest : Option (WorkspaceCheckpoint Tree)
  worker : SessionWorker Tree

namespace SessionWorker

variable {σ Tree : Type} (host : SessionsHost σ) (tenantId sessionId workerId : String)
  (leaseTtlMs : Int) (store : SessionsDomain σ)
  (latest : Option (WorkspaceCheckpoint Tree)) (worker : SessionWorker Tree) (now : Instant)
  (action : WorkerAction Tree)

/-- A step that only the worker notices. -/
def quiet (next : SessionWorker Tree) : WorkerTurn σ Tree := ⟨.silent, store, latest, next⟩

def renew (lease : WorkerLeaseRecord) (renewed : WorkerLeaseRecord → SessionWorker Tree)
    (lost : StoreError → SessionWorker Tree) : WorkerTurn σ Tree :=
  match store.renewSessionLease host lease now now leaseTtlMs with
  | (.ok lease, store) => quiet store latest (renewed lease)
  | (.error thrown, store) => quiet store latest (lost thrown)

/-- How `appendRuntimeEvent` ends with an error: a stale lease is forgotten. -/
def eventFailed (thrown : StoreError) : SessionWorker Tree :=
  { worker with
    lease := if isStaleWorkerLeaseError thrown then none else worker.lease
    event := .idle }

/-- The steps of `processSessionCommands`, with `getOrClaimLease`,
`executeWithLeaseRenewal` and `checkpointAndAckCommand`. -/
def commandStep : WorkerTurn σ Tree :=
  match action, worker.command with
  | .renewCachedLease, .idle =>
    match worker.lease with
    | none => quiet store latest worker
    | some lease =>
      renew host leaseTtlMs store latest now lease
        (fun lease => { worker with lease := some lease, command := .polling lease })
        (fun _ => { worker with lease := none })
  | .claimSessionLease quota, .idle =>
    match worker.lease with
    | some _ => quiet store latest worker
    | none =>
      match store.claimSessionLease host tenantId sessionId workerId now leaseTtlMs quota with
      | (.ok (some lease), store) =>
        quiet store latest { worker with lease := some lease, command := .polling lease }
      | (_, store) => quiet store latest worker
  | .claimNextSessionCommand, .polling lease =>
    match store.claimNextSessionCommand host lease now with
    | (.ok (some command), store) =>
      quiet store latest { worker with command := .claimed lease command }
    | (_, store) => quiet store latest { worker with command := .idle }
  | .restoreBeforeCommand, .claimed lease command =>
    { answer := .restored latest
      store := store
      latest := latest
      worker :=
        { worker with
          workspace := (latest.map WorkspaceCheckpoint.tree).getD worker.workspace
          command := .executing lease command } }
  -- the runtime of the session is still warm
  | .keepWorkspace, .claimed lease command =>
    quiet store latest { worker with command := .executing lease command }
  | .work workspace, .executing _ _ => quiet store latest { worker with workspace := workspace }
  | .renewLease, .executing lease command =>
    renew host leaseTtlMs store latest now lease
      (fun lease => { worker with lease := some lease, command := .executing lease command })
      (fun _ => { worker with lease := none, command := .idle })
  | .finishExecution, .executing lease command =>
    quiet store latest { worker with command := .executed lease command 0 }
  | .captureCheckpoint checkpointId, .executed lease command attempt =>
    quiet store latest
      { worker with
        command := .saving lease command attempt
          ⟨checkpointId, lease.checkpointVersion + 1, worker.workspace⟩ }
  | .saveCheckpoint, .saving lease command attempt checkpoint =>
    { answer := .saved workerId checkpoint
      store := store
      latest := some checkpoint
      worker := { worker with command := .saved lease command attempt checkpoint } }
  | .checkpointAndAck, .saved lease command attempt checkpoint =>
    match store.checkpointAndAckSessionCommand host lease command.commandId now now with
    | (.ok result, store) =>
      { answer := .acknowledged workerId checkpoint
        store := store
        latest := latest
        worker := { worker with lease := some result.lease, command := .polling result.lease } }
    | (.error thrown, store) =>
      { answer := .rejected workerId checkpoint
        store := store
        latest := latest
        worker :=
          { worker with
            command :=
              if isStaleCheckpointError thrown && attempt != maxStaleCheckpointRetries - 1 then
                .stale lease command attempt
              else .idle } }
  | .renewStaleLease, .stale lease command attempt =>
    renew host leaseTtlMs store latest now lease
      (fun lease => { worker with command := .executed lease command (attempt + 1) })
      (fun _ => { worker with command := .idle })
  | .abandonCommand forgetLease, _ =>
    quiet store latest
      { worker with lease := if forgetLease then none else worker.lease, command := .idle }
  | _, _ => quiet store latest worker

/-- The steps of `appendRuntimeEvent`, with `checkpointLease`. -/
def eventStep : WorkerTurn σ Tree :=
  match action, worker.event with
  | .appendRuntimeEvent, .idle =>
    match worker.lease with
    | none => quiet store latest worker
    | some lease =>
      renew host leaseTtlMs store latest now lease
        (fun lease => { worker with event := .appended lease 0 }) worker.eventFailed
  | .checkpointLease, .appended lease attempt =>
    match store.checkpointSession host lease now with
    | (.ok lease, store) => quiet store latest { worker with event := .checkpointed lease }
    | (.error thrown, store) =>
      quiet store latest
        (if isStaleCheckpointError thrown && attempt != maxStaleCheckpointRetries - 1 then
          { worker with event := .stale lease attempt }
        else worker.eventFailed thrown)
  | .renewStaleEventLease, .stale lease attempt =>
    renew host leaseTtlMs store latest now lease
      (fun lease => { worker with event := .appended lease (attempt + 1) }) worker.eventFailed
  | .captureEventCheckpoint checkpointId, .checkpointed lease =>
    quiet store latest
      { worker with
        event := .saving lease ⟨checkpointId, lease.checkpointVersion, worker.workspace⟩ }
  | .saveEventCheckpoint, .saving lease checkpoint =>
    { answer := .saved workerId checkpoint
      store := store
      latest := some checkpoint
      worker := { worker with lease := some lease, event := .idle } }
  | .abandonEvent forgetLease, _ =>
    quiet store latest
      { worker with lease := if forgetLease then none else worker.lease, event := .idle }
  | _, _ => quiet store latest worker

def step : WorkerTurn σ Tree :=
  match action with
  | .appendRuntimeEvent | .checkpointLease | .renewStaleEventLease | .captureEventCheckpoint _
  | .saveEventCheckpoint | .abandonEvent _ =>
    eventStep host workerId leaseTtlMs store latest worker now action
  | _ => commandStep host tenantId sessionId workerId leaseTtlMs store latest worker now action

end SessionWorker

/-- Everything that a session is worked on with: the store's surroundings, the session,
and the time to live of the workers' leases. -/
structure CheckpointSetting (σ : Type) where
  env : Environment
  host : SessionsHost σ
  (tenantId sessionId : String)
  leaseTtlMs : Int

namespace CheckpointedSession

variable {σ Tree : Type} (setting : CheckpointSetting σ)

def perform (session : CheckpointedSession σ Tree) (request : CheckpointRequest Tree) :
    CheckpointAnswer Tree × CheckpointedSession σ Tree :=
  match request with
  | .store request =>
    (.silent,
      { session with store := (session.store.perform setting.env setting.host request).2 })
  | .worker workerId now action =>
    let turn := (session.workers workerId).step setting.host setting.tenantId setting.sessionId
      workerId setting.leaseTtlMs session.store session.latest now action
    (turn.answer,
      { store := turn.store
        workers := Function.update session.workers workerId turn.worker
        latest := turn.latest })

def machine : Machine (CheckpointedSession σ Tree) (CheckpointRequest Tree)
    (CheckpointAnswer Tree) where
  step := perform setting

/-- Idle workers before an untouched store, with what an earlier deployment may have saved. -/
def initial (neighbours : σ) (workspace : Tree) (stored : Option (WorkspaceCheckpoint Tree)) :
    CheckpointedSession σ Tree where
  store := SessionsDomain.initial neighbours
  workers := fun _ => ⟨none, workspace, .idle, .idle⟩
  latest := stored

end CheckpointedSession

end OpenCowork.ControlPlane
