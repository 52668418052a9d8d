import OpenCowork.Gateway.Linked

/-! # What dispatches acquire

The scheduler looks for acquisitions of dispatches that were abandoned, and releases them. Receipts
that have become old are deleted in batches.
-/

namespace OpenCowork.Gateway

open Foundation

variable (pass : Reconciliation) (cutoff : Int) (now : Int) (chunkRows : Nat) (state : WorkState)

/-- A row of a journal with what the scheduler needs of its receipt. -/
structure TaskDispatchAcquisitionRecord where
  (dispatchId leaseOwner : String)
  kind : TaskDispatchAcquisitionKind
  status : TaskDispatchAcquisitionStatus
  resourceId : Option String
  leaseExpiresAt : Int
  dispatchStatus : TaskDispatchReceiptStatus
  deriving DecidableEq

def taskDispatchAcquisitionRecord (dispatchId : String) (receipt : TaskDispatchReceiptRecord)
    (acquisition : StoredTaskDispatchAcquisition) : TaskDispatchAcquisitionRecord where
  dispatchId := dispatchId
  leaseOwner := receipt.leaseOwner
  kind := acquisition.kind
  status := acquisition.status
  resourceId := acquisition.resourceId
  leaseExpiresAt := receipt.leaseExpiresAt
  dispatchStatus := receipt.status

def listTaskDispatchAcquisitions : List TaskDispatchAcquisitionRecord :=
  state.receipts.entries.flatMap fun (dispatchId, receipt) =>
    receipt.journal.map (taskDispatchAcquisitionRecord dispatchId receipt)

/-- One pass over the abandoned acquisitions: its owner, which epochs are not its own, and for
which acquisitions the release succeeds or the resource is found to be gone. -/
structure Reconciliation where
  leaseOwner : String
  (foreignEpoch cleanupProven : TaskDispatchAcquisitionRecord → Bool)

/-- Whether the pass tries to release the acquisition. -/
def Reconciliation.isPending
    (acquisition : TaskDispatchAcquisitionRecord) : Bool :=
  acquisition.dispatchStatus ≠ .started && acquisition.status ≠ .released &&
    acquisition.status ≠ .failed &&
    (acquisition.dispatchStatus = .failed || acquisition.leaseExpiresAt ≤ now ||
      (acquisition.leaseOwner ≠ "" && acquisition.leaseOwner ≠ pass.leaseOwner) ||
      pass.foreignEpoch acquisition)

def Reconciliation.pending :
    List TaskDispatchAcquisitionRecord :=
  (listTaskDispatchAcquisitions state).filter (pass.isPending now)

/-- A whole pass. Sessions come before environments; what it writes is also written by single
operations, between which others may come. -/
def reconcileAbandonedDispatchAcquisitions : WorkAnswer × WorkState :=
  let pending := pass.pending now state
  let sorted := (pending.filter fun acquisition => acquisition.kind = .session) ++
    pending.filter fun acquisition => acquisition.kind ≠ .session
  let proven := sorted.filter pass.cleanupProven
  let settled := proven.foldl (fun state acquisition =>
    (markTaskDispatchAcquisitionSettled acquisition.dispatchId acquisition.kind false state).2)
    state
  let failedDispatches := (proven.map TaskDispatchAcquisitionRecord.dispatchId).eraseDups
  (.recovered failedDispatches, failedDispatches.foldl (fun state dispatchId =>
    (markTaskDispatchFailed dispatchId state).2) settled)

/-- The receipts that one transaction of `enforceReceiptRetention` deletes. -/
def receiptBatch : List String :=
  ((state.receipts.entries.filter fun (_, receipt) =>
    receipt.createdAt < cutoff && receipt.status ≠ .starting).map Prod.fst).take chunkRows

/-- One transaction of `enforceReceiptRetention`. -/
def deleteReceiptBatch : WorkState :=
  let batch := receiptBatch cutoff chunkRows state
  { state with receipts := state.receipts.filter fun dispatchId _ => dispatchId ∉ batch }

/-- What happens to the store while the scheduler runs. -/
inductive DispatchInput where
  | work (input : WorkInput)
  | reconcile (now : Int) (pass : Reconciliation)
  | deleteReceipts (cutoff : Int) (chunkRows : Nat)

/-- The store with the scheduler's passes over it. -/
def dispatchStore (platform : WorkPlatform) : Machine WorkState DispatchInput WorkAnswer where
  step state
    | .work input => perform platform state input
    | .reconcile now pass => reconcileAbandonedDispatchAcquisitions pass now state
    | .deleteReceipts cutoff chunkRows => (.nothing, deleteReceiptBatch cutoff chunkRows state)

/-! ## One acquisition -/

/-- The row of the journal for a kind of resource. -/
def TaskDispatchReceiptRecord.acquisition (receipt : TaskDispatchReceiptRecord)
    (kind : TaskDispatchAcquisitionKind) : Option StoredTaskDispatchAcquisition :=
  receipt.journal.find? fun row => row.kind = kind

/-- An acquisition that is neither settled nor that of a started run, and what was acquired. -/
structure Unsettled (receipt : TaskDispatchReceiptRecord) (kind : TaskDispatchAcquisitionKind)
    (resourceId : Option String) (row : StoredTaskDispatchAcquisition) : Prop where
  dispatch : receipt.status ≠ .started
  held : receipt.acquisition kind = some row
  isOpen : row.status = .intent ∨ row.status = .acquired
  resource : ∀ id ∈ resourceId, row.status = .acquired ∧ row.resourceId = some id

def WorkState.Holds (dispatchId : String) (kind : TaskDispatchAcquisitionKind)
    (resourceId : Option String) : Prop :=
  ∃ receipt row, state.receipts.get dispatchId = some receipt ∧
    Unsettled receipt kind resourceId row

def notedAcquisition (kind : TaskDispatchAcquisitionKind) (status : TaskDispatchAcquisitionStatus)
    (resourceId : Option String) :
    Option StoredTaskDispatchAcquisition → StoredTaskDispatchAcquisition
  | none => { kind, status, resourceId }
  | some previous =>
    if status = .intent ∧ previous.status ≠ .failed ∧ previous.status ≠ .released then previous
    else { kind, status, resourceId := (Text.truthy resourceId).or previous.resourceId }

section Journal

variable {kind other : TaskDispatchAcquisitionKind} {status : TaskDispatchAcquisitionStatus}
  {resourceId : Option String}

theorem notedAcquisition_kind {previous : Option StoredTaskDispatchAcquisition}
    (hprevious : ∀ row ∈ previous, row.kind = kind) :
    (notedAcquisition kind status resourceId previous).kind = kind := by
  cases previous with
  | none => rfl
  | some row =>
    unfold notedAcquisition
    dsimp only
    split
    · exact hprevious row rfl
    · rfl

theorem acquisition_note (receipt : TaskDispatchReceiptRecord) :
    (receipt.note kind status resourceId).acquisition other =
      if kind = other then some (notedAcquisition kind status resourceId (receipt.acquisition kind))
      else receipt.acquisition other := by
  unfold TaskDispatchReceiptRecord.acquisition TaskDispatchReceiptRecord.note
  unfold upsertTaskDispatchAcquisition
  cases hfound : receipt.journal.find? fun row => row.kind = kind with
  | none =>
    rw [List.find?_append]
    split
    next heq =>
      subst heq
      rw [hfound]
      simp [notedAcquisition]
    next hne => simp [hne]
  | some previous =>
    dsimp only
    split
    next heq =>
      subst heq
      rw [find?_modifyFirst_self hfound]
      · rfl
      · have hkept : (notedAcquisition kind status resourceId (some previous)).kind = kind := by
          have hkind := List.find?_some hfound
          refine notedAcquisition_kind ?_
          rintro row ⟨⟩
          exact of_decide_eq_true hkind
        exact decide_eq_true hkept
    next hne =>
      refine find?_modifyFirst_of_ne ?_ ?_
      · intro row hrow
        simpa [of_decide_eq_true hrow] using hne
      · intro row hrow
        have hkind : (notedAcquisition kind status resourceId (some row)).kind = kind := by
          refine notedAcquisition_kind ?_
          rintro _ ⟨⟩
          exact of_decide_eq_true hrow
        exact decide_eq_false fun heq => hne (hkind.symm.trans heq)

end Journal

end OpenCowork.Gateway
