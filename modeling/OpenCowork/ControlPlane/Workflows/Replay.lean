import OpenCowork.ControlPlane.Postgres

/-! # Creating a workflow run again

Both stores answer the run that exists. The in-memory store asks first whether the workflow
may run, and the run that exists is what keeps it from that.
-/

namespace OpenCowork.ControlPlane

open Foundation

namespace PostgresStore

variable {σ : Type} (context : StoreContext σ) (store : PostgresStore σ)

/-- The body of `createWorkflowRun`, from the checks on the quota on. -/
def insertWorkflowRun (workflow : CloudWorkflowRecord) (input : CreateWorkflowRunInput)
    (nonce : String) (dateNow : Instant) : Transaction σ CloudWorkflowRunRecord :=
  match WorkflowsDomain.assertWorkflowRunnable workflow with
  | .error thrown => .error thrown
  | .ok () =>
  match context.assertWorkflowRunQuota store.neighbours store.workflowRuns.values input.tenantId
    input.quota (input.createdAt.getD dateNow) with
  | (.error thrown, _) => .error thrown
  | (.ok (), neighbours) =>
  let createdAt := input.createdAt.getD dateNow
  let run := WorkflowsDomain.createdRun context.texts input workflow nonce createdAt
  match store.workflowRuns.insertNew (input.tenantId, input.runId) run with
  | none => .error (duplicateKey "cloud_workflow_runs_pkey")
  | some workflowRuns =>
    .ok (run,
      { store with
        neighbours := neighbours
        workflowRuns := workflowRuns
        workflows := store.workflows.modify (input.tenantId, input.workflowId)
          (·.follow run createdAt) })

def createWorkflowRun (input : CreateWorkflowRunInput) (nonce : String) (dateNow : Instant) :
    Outcome (PostgresStore σ) CloudWorkflowRunRecord :=
  store.withTransaction <|
    match context.host.requireTenantUser store.neighbours input.tenantId input.userId with
    | .error thrown => .error thrown
    | .ok () =>
    match store.requireWorkflow context input.tenantId input.workflowId with
    | .error thrown => .error thrown
    | .ok workflow =>
    if workflow.userId ≠ input.userId then
      .error (.error ("Unknown workflow " ++ input.workflowId ++ "."))
    else
    match store.workflowRuns.get (input.tenantId, input.runId) with
    | some existing => .ok (existing, store)
    | none => store.insertWorkflowRun context workflow input nonce dateNow

structure HoldsRun (store : PostgresStore σ) (memory : ControlPlaneStore σ)
    (input : CreateWorkflowRunInput) : Prop where
  workflow : store.workflows.get (input.tenantId, input.workflowId) =
    (memory.workflows.workflows.get (key input.tenantId input.workflowId)).map
      WorkflowState.record
  run : store.workflowRuns.get (input.tenantId, input.runId) =
    memory.workflows.run? (key input.tenantId input.runId)
  neighbours : store.neighbours = memory.neighbours

end PostgresStore

/-- The call is made by a known user on their own workflow. -/
def CreateWorkflowRunInput.Permitted {σ : Type} (context : StoreContext σ)
    (store : ControlPlaneStore σ) (input : CreateWorkflowRunInput)
    (workflow : CloudWorkflowRecord) : Prop :=
  context.host.requireTenantUser store.neighbours input.tenantId input.userId = .ok () ∧
    context.host.requireTenant store.neighbours input.tenantId = .ok () ∧
    (store.workflows.workflows.get (key input.tenantId input.workflowId)).map
      WorkflowState.record = some workflow ∧
    workflow.userId = input.userId

/-- The statuses in which a workflow may start a run. -/
def CloudWorkflowRecord.runnable (workflow : CloudWorkflowRecord) : Prop :=
  workflow.status = .active ∨ workflow.status = .failed

namespace CloudWorkflowRecord

theorem runnable_iff (workflow : CloudWorkflowRecord) :
    WorkflowsDomain.assertWorkflowRunnable workflow = .ok () ↔ workflow.runnable := by
  unfold WorkflowsDomain.assertWorkflowRunnable runnable
  cases workflow.status <;> simp

end CloudWorkflowRecord

section Replay

variable {σ : Type} (context : StoreContext σ) {memory : ControlPlaneStore σ}
  {tables : PostgresStore σ} {input : CreateWorkflowRunInput} {existing : CloudWorkflowRunRecord}
  (nonce : String) (now : Instant)

theorem createWorkflowRun_replays_iff
    (hexisting : memory.workflows.run? (key input.tenantId input.runId) = some existing) :
    WorkflowsDomain.createWorkflowRun context.texts (memory.workflowsHost context now)
        memory.neighbours memory.workflows input nonce now =
          (.ok existing, memory.neighbours, memory.workflows) ↔
      ∃ workflow, input.Permitted context memory workflow ∧ workflow.runnable := by
  unfold WorkflowsDomain.createWorkflowRun
  simp only [ControlPlaneStore.workflowsHost, WorkflowsDomain.requireWorkflow, hexisting]
  rcases huser : context.host.requireTenantUser memory.neighbours input.tenantId input.userId
    with thrown | ⟨⟨⟩⟩
  · simp [CreateWorkflowRunInput.Permitted, huser]
  rcases htenant : context.host.requireTenant memory.neighbours input.tenantId with _ | ⟨⟨⟩⟩
  · simp [CreateWorkflowRunInput.Permitted, htenant]
  cases hget : memory.workflows.workflows.get (key input.tenantId input.workflowId) with
  | none => simp [CreateWorkflowRunInput.Permitted, hget]
  | some workflow =>
    by_cases howner : workflow.record.userId = input.userId
    · cases hrunnable : WorkflowsDomain.assertWorkflowRunnable workflow.record with
      | error =>
        have hnot : ¬ workflow.record.runnable := by
          rw [← CloudWorkflowRecord.runnable_iff, hrunnable]
          exact nofun
        simp [CreateWorkflowRunInput.Permitted, huser, htenant, hget, howner, hrunnable, hnot]
      | ok =>
        have hyes := (CloudWorkflowRecord.runnable_iff _).mp hrunnable
        simp [CreateWorkflowRunInput.Permitted, huser, htenant, hget, howner, hrunnable, hyes]
    · simp [CreateWorkflowRunInput.Permitted, hget, howner]

theorem postgres_createWorkflowRun_replays_iff (hholds : tables.HoldsRun memory input)
    (hexisting : memory.workflows.run? (key input.tenantId input.runId) = some existing) :
    tables.createWorkflowRun context input nonce now = (.ok existing, tables) ↔
      ∃ workflow, input.Permitted context memory workflow := by
  unfold PostgresStore.createWorkflowRun
  simp only [PostgresStore.requireWorkflow, hholds.neighbours, hholds.workflow, hholds.run,
    hexisting]
  rcases huser : context.host.requireTenantUser memory.neighbours input.tenantId input.userId
    with thrown | ⟨⟨⟩⟩
  · simp [CreateWorkflowRunInput.Permitted, PostgresStore.withTransaction, huser]
  rcases htenant : context.host.requireTenant memory.neighbours input.tenantId with _ | ⟨⟨⟩⟩
  · simp [CreateWorkflowRunInput.Permitted, PostgresStore.withTransaction, htenant]
  cases hget : memory.workflows.workflows.get (key input.tenantId input.workflowId) with
  | none => simp [CreateWorkflowRunInput.Permitted, PostgresStore.withTransaction, hget]
  | some workflow =>
    by_cases howner : workflow.record.userId = input.userId
    · simp [CreateWorkflowRunInput.Permitted, PostgresStore.withTransaction, huser, htenant,
        hget, howner]
    · simp [CreateWorkflowRunInput.Permitted, PostgresStore.withTransaction, hget, howner]

/-- Both stores answer an existing run and change nothing exactly if the user may start runs
of the workflow and its status lets it start one. -/
theorem run_creation_replays_iff (hholds : tables.HoldsRun memory input)
    (hexisting : memory.workflows.run? (key input.tenantId input.runId) = some existing) :
    (WorkflowsDomain.createWorkflowRun context.texts (memory.workflowsHost context now)
          memory.neighbours memory.workflows input nonce now =
            (.ok existing, memory.neighbours, memory.workflows) ∧
        tables.createWorkflowRun context input nonce now = (.ok existing, tables)) ↔
      ∃ workflow, input.Permitted context memory workflow ∧ workflow.runnable := by
  rw [createWorkflowRun_replays_iff context nonce now hexisting,
    postgres_createWorkflowRun_replays_iff context nonce now hholds hexisting]
  apply and_iff_left_of_imp
  rintro ⟨workflow, hpermitted, _⟩
  exact ⟨workflow, hpermitted⟩

end Replay

/-- A call that creates run `r` of workflow `w`. -/
def createRun : CreateWorkflowRunInput where
  tenantId := "t"
  userId := "u"
  workflowId := "w"
  runId := "r"
  sessionId := some "s"
  triggerType := .manual
  triggerPayload := none
  claimedBy := none
  leaseTtlMs := none
  createdAt := none
  quota := none

/-- The run of `createRun`. -/
def createdRunRecord : CloudWorkflowRunRecord where
  tenantId := "t"
  userId := "u"
  id := "r"
  workflowId := "w"
  sessionId := some "s"
  triggerType := .manual
  triggerPayload := none
  status := .queued
  title := "Run Daily"
  summary := none
  error := none
  createdAt := 0
  startedAt := none
  finishedAt := none
  claimedBy := none
  claimToken := none
  claimExpiresAt := none
  attemptCount := 0
  idempotencyKey := none
  checkpointVersion := 0
  lastErrorCode := none
  lastErrorSummary := none

/-- The workflow `w` in some status, with the run of `createRun` in memory. -/
def memoryWithRun (status : WorkflowStatus) : ControlPlaneStore Neighbours :=
  (ControlPlaneStore.machine plainContext).run
    (ControlPlaneStore.initial (Neighbours.single "t" "u"))
    [⟨0, "", .workflow (.createWorkflow
        { tenantId := "t"
          userId := "u"
          workflowId := "w"
          title := "Daily"
          authored := .null
          triggers := []
          webhookSecrets := []
          nextRunAt := none
          createdAt := none })⟩,
      ⟨0, "", .workflow (.createWorkflowRun createRun)⟩,
      ⟨1, "", .workflow (.updateWorkflowStatus
        { tenantId := "t"
          userId := "u"
          workflowId := "w"
          status := status
          nextRunAt := none
          updatedAt := none })⟩]

def tablesWithRun (status : WorkflowStatus) : PostgresStore Neighbours where
  sessions := OrderedMap.empty
  workerLeases := OrderedMap.empty
  sessionEvents := OrderedMap.empty
  sessionProjections := OrderedMap.empty
  workspaceEventCounters := OrderedMap.empty
  workspaceEvents := OrderedMap.empty
  workflows := OrderedMap.empty.set ("t", "w")
    { tenantId := "t"
      userId := "u"
      id := "w"
      title := "Daily"
      authored := .null
      triggers := []
      status := status
      createdAt := 0
      updatedAt := 1
      nextRunAt := none
      lastRunAt := none
      latestRunId := some "r"
      latestRunStatus := some .queued
      latestRunSessionId := some "s"
      latestRunSummary := none }
  workflowRuns := OrderedMap.empty.set ("t", "r") createdRunRecord
  neighbours := Neighbours.single "t" "u"

/-- A second call with the same content, while the workflow runs because of the first, and
after a pause: the in-memory store throws. -/
theorem created_run_not_replayed :
    (tablesWithRun .running).createWorkflowRun plainContext createRun "" 2 =
        (.ok createdRunRecord, tablesWithRun .running) ∧
      (WorkflowsDomain.createWorkflowRun plainContext.texts
        ((memoryWithRun .running).workflowsHost plainContext 2) (memoryWithRun .running).neighbours
        (memoryWithRun .running).workflows createRun "" 2).1 =
          .error (.error "Workflow is already running.") ∧
      (memoryWithRun .running).workflows.run? (key "t" "r") = some createdRunRecord ∧
      (WorkflowsDomain.createWorkflowRun plainContext.texts
        ((memoryWithRun .paused).workflowsHost plainContext 2) (memoryWithRun .paused).neighbours
        (memoryWithRun .paused).workflows createRun "" 2).1 =
          .error (.error "Paused workflows cannot run.") ∧
      (memoryWithRun .paused).workflows.run? (key "t" "r") = some createdRunRecord := by
  refine ⟨rfl, rfl, rfl, rfl, rfl⟩

/-- Once the workflow is active again, both stores answer the run. -/
theorem active_run_replayed :
    WorkflowsDomain.createWorkflowRun plainContext.texts
        ((memoryWithRun .active).workflowsHost plainContext 2) (memoryWithRun .active).neighbours
        (memoryWithRun .active).workflows createRun "" 2 =
          (.ok createdRunRecord, (memoryWithRun .active).neighbours,
            (memoryWithRun .active).workflows) ∧
      (tablesWithRun .active).createWorkflowRun plainContext createRun "" 2 =
        (.ok createdRunRecord, tablesWithRun .active) :=
  (run_creation_replays_iff plainContext "" 2 ⟨rfl, rfl, rfl⟩ rfl).mpr
    ⟨_, ⟨rfl, rfl, rfl, rfl⟩, .inl rfl⟩

end OpenCowork.ControlPlane
