import OpenCowork.Foundation.FirstMatch
import OpenCowork.Gateway.HumanGates

/-! # Dispatch receipts

A receipt reserves the start of a task's next run for one owner until its lease is over. Its
journal names what was acquired for the run from outside.
-/

namespace OpenCowork.Gateway

open Foundation

/-- `upsertTaskDispatchAcquisitionRow`: the journal after an acquisition was noted. -/
def upsertTaskDispatchAcquisition (kind : TaskDispatchAcquisitionKind)
    (status : TaskDispatchAcquisitionStatus) (resourceId : Option String)
    (journal : List StoredTaskDispatchAcquisition) : List StoredTaskDispatchAcquisition :=
  match journal.find? fun row => row.kind = kind with
  | none => journal ++ [{ kind, status, resourceId }]
  | some _ => modifyFirst (fun row => row.kind = kind) (fun previous =>
    if status = .intent ∧ previous.status ≠ .failed ∧ previous.status ≠ .released then previous
    else { kind, status, resourceId := (Text.truthy resourceId).or previous.resourceId }) journal

def TaskDispatchReceiptRecord.note (receipt : TaskDispatchReceiptRecord)
    (kind : TaskDispatchAcquisitionKind) (status : TaskDispatchAcquisitionStatus)
    (resourceId : Option String := none) : TaskDispatchReceiptRecord :=
  { receipt with journal := upsertTaskDispatchAcquisition kind status resourceId receipt.journal }

/-- Whether something acquired for the receipt has been neither released nor given up. -/
def TaskDispatchReceiptRecord.isUnsettled (receipt : TaskDispatchReceiptRecord) : Bool :=
  receipt.status ≠ .started &&
    receipt.journal.any fun acquisition =>
      acquisition.status = .intent || acquisition.status = .acquired

def assertNoUnsettledTaskDispatchAcquisitions (state : WorkState) (taskIds : List String) :
    Except String Unit :=
  let unsettled := taskIds.filter fun taskId => state.receipts.values.any fun receipt =>
    receipt.taskId = taskId && receipt.isUnsettled
  refuseIf (unsettled ≠ [])
    ("task deletion refused while external acquisitions remain unsettled: " ++
      ", ".intercalate unsettled)

/-- Whether a receipt still reserves its start. -/
def TaskDispatchReceiptRecord.isLive (receipt : TaskDispatchReceiptRecord) (now : Int) : Bool :=
  receipt.status = .starting && decide (now < receipt.leaseExpiresAt)

structure ReserveTaskDispatchInput where
  (taskId stage : String)
  profile : Option String := none
  leaseOwner : Option String := none
  leaseMs : Option Int := none
  idempotencyKey : Option String := none

def dispatchLeaseMs (leaseMs : Option Int) : Int :=
  max (60 * 1000) (min (RunLease.duration { leaseMs := leaseMs }) (24 * 60 * 60 * 1000))

variable (platform : WorkPlatform) (input : ReserveTaskDispatchInput) (dispatchId : String)
  (receipt : TaskDispatchReceiptRecord) (kind : TaskDispatchAcquisitionKind)

/-- The receipt that a reservation writes; `stamp` is the text of its time. -/
def newTaskDispatchReceipt (stage stamp : String) (now : Int) :
    TaskDispatchReceiptRecord where
  taskId := input.taskId
  stage := stage
  profile := normalizeOptionalString input.profile 120
  idempotencyKey := (normalizeOptionalString input.idempotencyKey 240).getD
    ("dispatch:" ++ input.taskId ++ ":" ++ stage ++ ":" ++
      (Text.truthy input.leaseOwner).getD "scheduler" ++ ":" ++ stamp)
  leaseOwner := (normalizeOptionalString input.leaseOwner 200).getD
    ("scheduler-" ++ toString platform.processId)
  leaseExpiresAt := now + dispatchLeaseMs input.leaseMs
  status := .starting
  runId := none
  sessionId := none
  environment := none
  journal := []
  createdAt := now

def reserveTaskDispatchStart (now : Int) (state : WorkState) :
    Except String (WorkAnswer × WorkState) := do
  let stage ← normalizeStage input.stage "stage"
  let idempotencyKey := normalizeOptionalString input.idempotencyKey 240
  match state.receipts.entries.find? fun (_, receipt) =>
      idempotencyKey = some receipt.idempotencyKey with
  | some (id, _) => return (.receipt id, state)
  | none =>
    match state.tasks.get input.taskId with
    | none => return (.nothing, state)
    | some task =>
      if task.status ≠ .pending ∨ task.currentRunId ≠ none ∨ task.stage ≠ stage then
        return (.nothing, state)
      if state.receipts.values.any fun receipt =>
          receipt.taskId = input.taskId && receipt.stage = stage && receipt.isLive now then
        return (.nothing, state)
      let receipt := newTaskDispatchReceipt platform input stage (platform.isoString now) now
      -- the column is unique, also for the keys that the store makes itself
      refuseIf ((state.receipts.values.any fun other =>
        other.idempotencyKey = receipt.idempotencyKey) = true)
        "UNIQUE constraint failed: task_dispatch_receipts.idempotency_key"
      let (id, state) := platform.drawId "dispatch_" state
      return (.receipt id, { state with receipts := state.receipts.set id receipt })

/-- `updateTaskDispatchReceipt`: a change of a receipt that can be withheld. -/
def updateTaskDispatchReceipt
    (change : TaskDispatchReceiptRecord → Option TaskDispatchReceiptRecord) (state : WorkState) :
    WorkAnswer × WorkState :=
  match (state.receipts.get dispatchId).bind change with
  | none => (.nothing, state)
  | some receipt =>
    (.receipt dispatchId, { state with receipts := state.receipts.set dispatchId receipt })

def whileStarting (change : TaskDispatchReceiptRecord → TaskDispatchReceiptRecord)
    (receipt : TaskDispatchReceiptRecord) : Option TaskDispatchReceiptRecord :=
  if receipt.status = .starting then some (change receipt) else none

def journalTaskDispatchAcquisitionIntent : WorkState → WorkAnswer × WorkState :=
  updateTaskDispatchReceipt dispatchId (whileStarting fun receipt => receipt.note kind .intent)

def attachTaskDispatchEnvironment (environment : DispatchEnvironment) :
    WorkState → WorkAnswer × WorkState :=
  updateTaskDispatchReceipt dispatchId (whileStarting fun receipt =>
    { receipt.note .environment .acquired (some environment.resourceId) with
      environment := some environment })

def attachTaskDispatchSession (dispatchId sessionId : String) (state : WorkState) :
    Except String (WorkAnswer × WorkState) := do
  match (state.receipts.get dispatchId).bind (whileStarting id) with
  | none => return (.nothing, state)
  | some _ =>
    let sessionId ← normalizeRequiredString sessionId "sessionId" 200
    return updateTaskDispatchReceipt dispatchId (whileStarting fun receipt =>
      { receipt.note .session .acquired (some sessionId) with sessionId := some sessionId }) state

/-- `failed` tells that the settlement is a failure and no release. -/
def markTaskDispatchAcquisitionSettled
    (failed : Bool) : WorkState → WorkAnswer × WorkState :=
  updateTaskDispatchReceipt dispatchId fun receipt =>
    some (receipt.note kind (if failed then .failed else .released))

def TaskDispatchReceiptRecord.startedAs
    (runId sessionId : String) : TaskDispatchReceiptRecord :=
  { receipt with status := .started, runId := some runId, sessionId := some sessionId }

def markTaskDispatchStarted (dispatchId runId sessionId : String) :
    WorkState → WorkAnswer × WorkState :=
  updateTaskDispatchReceipt dispatchId (whileStarting fun receipt =>
    receipt.startedAs runId sessionId)

def markTaskDispatchFailed : WorkState → WorkAnswer × WorkState :=
  updateTaskDispatchReceipt dispatchId (whileStarting fun receipt =>
    { receipt with status := .failed })

/-- The receipt of a start that never came; `releases` tells whether its environment lets
itself be released. -/
def TaskDispatchReceiptRecord.expired (releases : Bool) :
    TaskDispatchReceiptRecord :=
  match receipt.environment with
  | some environment =>
    if environment.released = true then { receipt with status := .failed } else
      let outcome := if releases then TaskDispatchAcquisitionStatus.released else .failed
      { receipt.note .environment outcome (some environment.resourceId) with
        environment := some { environment with released := releases }
        status := .failed }
  | none => { receipt with status := .failed }

def recoverExpiredTaskDispatchStarts (releases : String → Bool) (now : Int) (state : WorkState) :
    WorkAnswer × WorkState :=
  let expired := (state.receipts.entries.filter fun (_, receipt) =>
    receipt.status = .starting ∧ receipt.leaseExpiresAt ≤ now).map Prod.fst
  let receipts := state.receipts.mapWithKey fun id receipt =>
    if receipt.status = .starting ∧ receipt.leaseExpiresAt ≤ now then
      receipt.expired (releases id)
    else receipt
  (.recovered expired, { state with receipts })

end OpenCowork.Gateway
