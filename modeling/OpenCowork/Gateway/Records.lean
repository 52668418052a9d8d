import Mathlib.Algebra.Order.Ring.Int
import OpenCowork.Foundation.OrderedMap
import OpenCowork.Foundation.Text

/-! # Records of the work store

Roadmaps, tasks, runs, human gates and dispatch receipts, as far as the life of a task reads
them. Times are milliseconds. A table keeps its rows in the order in which they were added.
-/

namespace OpenCowork.Gateway

open Foundation

inductive WorkStatus where
  | pending | running | done | blocked | paused | cancelled | archived
  deriving DecidableEq

inductive RunStatus where
  | running | passed | failed | blocked | errored
  deriving DecidableEq

inductive RoadmapStatus where
  | active | done | blocked | archived
  deriving DecidableEq

inductive ManualGate where
  | approvalRequired | credentialsRequired | externalDependency | waitingForUser
  deriving DecidableEq

inductive HumanGateType where
  | taskStart | stageTransition | externalSideEffect | budgetException | destructiveAction
  | credentialUse | manual
  deriving DecidableEq

inductive HumanGateStatus where
  | pending | approved | rejected | timedOut | escalated | consumed
  deriving DecidableEq

inductive HumanGateScope where
  | once | always
  deriving DecidableEq

inductive WorkDependencyType where
  | blocks | blockedBy | parent | child | related | duplicate
  deriving DecidableEq

inductive TaskDispatchReceiptStatus where
  | starting | started | failed
  deriving DecidableEq

inductive TaskDispatchAcquisitionKind where
  | environment | session
  deriving DecidableEq

inductive TaskDispatchAcquisitionStatus where
  | intent | acquired | released | failed
  deriving DecidableEq

/-- What a task asks of the result that completes it. -/
structure TaskQualitySpec where
  (constraints acceptanceCriteria definitionOfDone verificationCommands : List String)
  (evidenceRequirements requiredArtifacts : List String)
  deriving DecidableEq

/-- `/^[a-zA-Z0-9_-]{1,64}$/.test(stage)`. -/
def isStage (stage : String) : Bool :=
  (stage.toList.all fun c => c.isAlphanum || c == '_' || c == '-') &&
    decide (1 ≤ stage.toList.length) && decide (stage.toList.length ≤ 64)

/-- The stages that a task goes through: at least one, and none of them twice. -/
structure Pipeline where
  stages : List String
  nonempty : stages ≠ []
  nodup : stages.Nodup
  valid : ∀ stage ∈ stages, isStage stage = true
  deriving DecidableEq

structure RoadmapRecord where
  title : String
  status : RoadmapStatus
  deriving DecidableEq

structure WorkTaskRecord where
  (roadmapId title description : String)
  status : WorkStatus
  pipeline : Pipeline
  (currentStage currentRunId : Option String)
  attempts : OrderedMap String Nat
  note : Option String
  earliestStartAt : Option Int
  manualGate : Option ManualGate
  qualitySpec : Option TaskQualitySpec
  sourceType : String
  sourceKey : Option String

/-- `environment` is the id of the run's environment. -/
structure RunRecord where
  (taskId stage sessionId profile : String)
  environment : Option String
  status : RunStatus
  attempt : Nat
  startedAt : Int
  completedAt : Option Int
  leaseOwner : Option String
  leaseExpiresAt : Option Int
  schedulerGeneration : Option String
  deriving DecidableEq

structure WorkDependencyRecord where
  (taskId dependsOnTaskId : String)
  type : WorkDependencyType
  deriving DecidableEq

structure HumanGateRecord where
  type : HumanGateType
  status : HumanGateStatus
  (roadmapId taskId runId stage : Option String)
  reason : String
  scope : Option HumanGateScope
  scopeKey : Option String
  deriving DecidableEq

structure StoredTaskDispatchAcquisition where
  kind : TaskDispatchAcquisitionKind
  status : TaskDispatchAcquisitionStatus
  resourceId : Option String
  deriving DecidableEq

/-- An environment that a dispatch holds, as far as its release is concerned. -/
structure DispatchEnvironment where
  resourceId : String
  released : Bool
  deriving DecidableEq

/-- `journal` is the acquisition journal. -/
structure TaskDispatchReceiptRecord where
  (taskId stage : String)
  profile : Option String
  (idempotencyKey leaseOwner : String)
  leaseExpiresAt : Int
  status : TaskDispatchReceiptStatus
  (runId sessionId : Option String)
  environment : Option DispatchEnvironment
  journal : List StoredTaskDispatchAcquisition
  createdAt : Int
  deriving DecidableEq

/-- The tables, by id. `drawn` counts the ids drawn so far. -/
structure WorkState where
  roadmaps : OrderedMap String RoadmapRecord
  tasks : OrderedMap String WorkTaskRecord
  runs : OrderedMap String RunRecord
  dependencies : List WorkDependencyRecord
  gates : OrderedMap String HumanGateRecord
  receipts : OrderedMap String TaskDispatchReceiptRecord
  drawn : Nat

namespace WorkState

/-- The store before its first operation. -/
def empty : WorkState where
  roadmaps := .empty
  tasks := .empty
  runs := .empty
  dependencies := []
  gates := .empty
  receipts := .empty
  drawn := 0

end WorkState

/-- What the store takes from its surroundings: ids, the process that it runs in,
the upper case of a text and the text of a time. -/
structure WorkPlatform where
  randomUUID : Nat → String
  randomUUID_injective : Function.Injective randomUUID
  randomUUID_ne_inbox : ∀ n, randomUUID n ≠ "inbox"
  processId : Nat
  toUpperCase : String → String
  isoString : Int → String

def inboxRoadmapId : String := "roadmap_inbox"

def isActiveRunStatus (status : RunStatus) : Bool := status = .running

def isTaskActiveStatus (status : WorkStatus) : Bool := status = .running

def isTaskRunOwnershipTerminalStatus (status : WorkStatus) : Bool :=
  status = .done || status = .blocked || status = .cancelled || status = .archived

def shouldAbortActiveRunForTaskStatus (status : WorkStatus) : Bool := !isTaskActiveStatus status

/-- `OPEN_HUMAN_GATE_STATUSES.includes(status)`. -/
def isOpenHumanGateStatus (status : HumanGateStatus) : Bool :=
  status = .pending || status = .escalated

@[simp] theorem isActiveRunStatus_iff {status : RunStatus} :
    isActiveRunStatus status = true ↔ status = .running := by
  simp [isActiveRunStatus]

end OpenCowork.Gateway
