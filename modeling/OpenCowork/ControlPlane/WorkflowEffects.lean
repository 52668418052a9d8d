import OpenCowork.ControlPlane.Rollback

/-! # What an operation of the store does to workflows and runs

Seen without the objects that hold the runs, an operation leaves the workflows and runs
alone or does one thing to them: it begins a workflow, records a decision about it,
rotates a secret, adds a run, takes one up again, attaches it, finishes it, or expires a
list of claims.
-/

namespace OpenCowork.ControlPlane

open Foundation WorkflowsDomain OrderedMap

/-- The workflows and the runs by their keys. -/
structure WorkflowsView where
  workflow : String → Option CloudWorkflowRecord
  run : String → Option CloudWorkflowRunRecord

namespace WorkflowsView

def putWorkflow (view : WorkflowsView) (workflowKey : String) (record : CloudWorkflowRecord) :
    WorkflowsView :=
  { view with workflow := Function.update view.workflow workflowKey (some record) }

def putRun (view : WorkflowsView) (runKey : String) (run : CloudWorkflowRunRecord) :
    WorkflowsView :=
  { view with run := Function.update view.run runKey (some run) }

variable (view : WorkflowsView)

@[simp] theorem run_putWorkflow (workflowKey : String) (record : CloudWorkflowRecord) :
    (view.putWorkflow workflowKey record).run = view.run := rfl

@[simp] theorem workflow_putWorkflow (workflowKey other : String) (record : CloudWorkflowRecord) :
    (view.putWorkflow workflowKey record).workflow other =
      if other = workflowKey then some record else view.workflow other :=
  Function.update_apply view.workflow workflowKey (some record) other

@[simp] theorem run_putRun (runKey other : String) (run : CloudWorkflowRunRecord) :
    (view.putRun runKey run).run other = if other = runKey then some run else view.run other :=
  Function.update_apply view.run runKey (some run) other

end WorkflowsView

namespace WorkflowsDomain

variable (domain : WorkflowsDomain) {workflowKey : String} {record : CloudWorkflowRecord}

def view : WorkflowsView where
  workflow := fun workflowKey => (domain.workflows.get workflowKey).map WorkflowState.record
  run := domain.run?

variable {domain} in
theorem view_workflow {workflowKey : String} {workflow : Option WorkflowState}
    (hget : domain.workflows.get workflowKey = workflow) :
    domain.view.workflow workflowKey = workflow.map WorkflowState.record :=
  congrArg (Option.map WorkflowState.record) hget

theorem view_setWorkflow (workflowKey : String) (record : CloudWorkflowRecord)
    (runs : List RunObject) (secrets : OrderedMap String CloudWorkflowWebhookSecretRecord) :
    view { domain with
      workflows := domain.workflows.set workflowKey ⟨record, runs⟩
      workflowWebhookSecrets := secrets } = domain.view.putWorkflow workflowKey record := by
  refine congrArg₂ WorkflowsView.mk ?_ rfl
  ext1 other
  rw [get_set, Function.update_apply]
  by_cases h : other = workflowKey
  · rw [if_pos h.symm, if_pos h]
    rfl
  · rw [if_neg (Ne.symm h), if_neg h]
    rfl

theorem view_updateWorkflow (hrecord : domain.view.workflow workflowKey = some record)
    (update : CloudWorkflowRecord → CloudWorkflowRecord)
    (secrets : OrderedMap String CloudWorkflowWebhookSecretRecord) :
    view { domain.updateWorkflow workflowKey update with workflowWebhookSecrets := secrets } =
      domain.view.putWorkflow workflowKey (update record) := by
  obtain ⟨workflow, hget, rfl⟩ := Option.map_eq_some_iff.mp hrecord
  unfold updateWorkflow
  rw [hget]
  exact domain.view_setWorkflow workflowKey (update workflow.record) workflow.runs secrets

theorem Tidy.view_updateRun {domain : WorkflowsDomain} (htidy : Tidy domain) {runKey : String}
    {run : CloudWorkflowRunRecord} (hrun : domain.run? runKey = some run)
    (update : CloudWorkflowRunRecord → CloudWorkflowRunRecord) :
    (domain.updateRun runKey update).view = domain.view.putRun runKey (update run) := by
  obtain ⟨_, hheld, hcontents⟩ := Option.bind_eq_some_iff.mp hrun
  have hworkflows : (domain.updateRun runKey update).workflows = domain.workflows := by
    unfold WorkflowsDomain.updateRun
    rw [hheld]
  refine congrArg₂ WorkflowsView.mk (by rw [hworkflows]; rfl) ?_
  ext1 other
  rw [Function.update_apply]
  by_cases h : other = runKey
  · subst h
    rw [if_pos rfl]
    unfold run? WorkflowsDomain.updateRun
    rw [hheld]
    dsimp only
    rw [hheld, Option.bind_some, if_pos rfl, hcontents, Option.map_some]
  · rw [if_neg h]
    exact htidy.run?_updateRun_of_ne h update

theorem Tidy.view_addRun {domain : WorkflowsDomain} (htidy : Tidy domain)
    (hrecord : domain.view.workflow workflowKey = some record) (run : CloudWorkflowRunRecord) :
    (domain.addRun workflowKey run).view = domain.view.putRun run.tableKey run := by
  obtain ⟨_, hget, rfl⟩ := Option.map_eq_some_iff.mp hrecord
  unfold WorkflowsDomain.addRun
  rw [hget]
  refine congrArg₂ WorkflowsView.mk ?_ ?_
  · ext1 other
    rw [get_set]
    split
    next h => rw [← h, hrecord, Option.map_some]
    · rfl
  · ext1 other
    rw [Function.update_apply]
    unfold run?
    dsimp only
    rw [get_set]
    by_cases h : other = run.tableKey
    · rw [if_pos h, if_pos h.symm, Option.bind_some, if_pos rfl]
    · rw [if_neg h, if_neg (Ne.symm h)]
      cases hheld : domain.workflowRuns.get other with
      | none => simp [view, run?, hheld]
      | some held =>
        have hne : held ≠ .created domain.nextObject := by
          rintro rfl
          exact Nat.lt_irrefl _ (htidy.tableBelow other _ hheld)
        simp [view, run?, hheld, hne]

theorem view_restore (failed : WorkflowsDomain) :
    (failed.restore domain.snapshot).view = domain.view := by
  refine congrArg₂ WorkflowsView.mk ?_ ?_
  · ext1 workflowKey
    simp only [restore, snapshot, mapWithKey_map, get_mapWithKey]
    cases domain.workflows.get workflowKey <;> rfl
  · ext1 runKey
    unfold run?
    simp only [restore, snapshot, mapWithKey_map, get_mapWithKey]
    cases hheld : domain.workflowRuns.get runKey with
    | none => rfl
    | some => simp [get_map, hheld]

end WorkflowsDomain

namespace CloudWorkflowRecord

def afterFinish (workflow : CloudWorkflowRecord) (input : FinishWorkflowRunInput) (runId : String)
    (finishedAt : Instant) : CloudWorkflowRecord :=
  { workflow with
    status := input.nextStatus
    latestRunId := some runId
    latestRunStatus := some input.status
    latestRunSummary := input.summary
    lastRunAt := if input.status = .completed then some finishedAt else workflow.lastRunAt
    nextRunAt := input.nextRunAt
    updatedAt := finishedAt }

def afterExpiry (workflow : CloudWorkflowRecord) (run : CloudWorkflowRunRecord)
    (action : WorkReaperAction) (now : Instant) : CloudWorkflowRecord :=
  if action = .failed then
    { workflow with
      status := .failed
      latestRunStatus := some .failed
      latestRunSummary := (run.claimExpired action now).error
      nextRunAt := none
      latestRunId := some run.id
      updatedAt := now }
  else workflow.follow run now

end CloudWorkflowRecord

def reapAction (maxAttempts : Int) (run : CloudWorkflowRunRecord) : WorkReaperAction :=
  if maxAttempts ≤ run.attemptCount then .failed else .retried

def CompleteWorkflowRunInput.finish (input : CompleteWorkflowRunInput) :
    FinishWorkflowRunInput where
  tenantId := input.tenantId
  workflowId := input.workflowId
  runId := input.runId
  status := .completed
  summary := input.summary
  error := none
  nextStatus := input.nextStatus
  nextRunAt := input.nextRunAt
  leaseToken := input.leaseToken
  finishedAt := input.finishedAt

def FailWorkflowRunInput.finish (texts : WorkflowsEnvironment) (input : FailWorkflowRunInput) :
    FinishWorkflowRunInput where
  tenantId := input.tenantId
  workflowId := input.workflowId
  runId := input.runId
  status := .failed
  summary := some (texts.redactSecretText input.error 1000)
  error := some (texts.redactSecretText input.error 1000)
  nextStatus := input.nextStatus
  nextRunAt := input.nextRunAt
  leaseToken := input.leaseToken
  finishedAt := input.finishedAt

namespace WorkflowTerminal

def finish (texts : WorkflowsEnvironment) : WorkflowTerminal → FinishWorkflowRunInput
  | .completed input => input.finish
  | .failed input => input.finish texts

end WorkflowTerminal

namespace StoreOperation

def finish (texts : WorkflowsEnvironment) : StoreOperation → Option FinishWorkflowRunInput
  | .workflow (.completeWorkflowRun input) => some input.finish
  | .workflow (.failWorkflowRun input) => some (input.finish texts)
  | .appendProjectedSessionEvent input => input.workflowTerminal.map (·.finish texts)
  | _ => none

/-- The keys of the runs that an answered operation claimed for execution. A run that
there was before is answered by `createWorkflowRun` without a claim. -/
def claims (before : WorkflowsView) : StoreOperation → StoreAnswer → List String
  | .workflow (.claimDueWorkflowRun _), .claimed (some (_, run)) => [run.tableKey]
  | .workflow (.createWorkflowRun input), .run (some run) =>
    if before.run (key input.tenantId input.runId) = none ∧ run.claimToken.isSome then
      [run.tableKey]
    else []
  | _, _ => []

end StoreOperation

namespace WorkflowsView

def expire (view : WorkflowsView) (record : CloudWorkflowRecord) (run : CloudWorkflowRunRecord)
    (maxAttempts : Int) (now : Instant) : WorkflowsView :=
  (view.putRun run.tableKey (run.claimExpired (reapAction maxAttempts run) now)).putWorkflow
    run.workflowKey (record.afterExpiry run (reapAction maxAttempts run) now)

/-- The loop of the reaper over its candidates. -/
inductive Reaped (maxAttempts : Int) (now : Instant) :
    List CloudWorkflowRunRecord → WorkflowsView → WorkflowsView → Prop where
  | done (view : WorkflowsView) : Reaped maxAttempts now [] view view
  | passed {run : CloudWorkflowRunRecord} {rest : List CloudWorkflowRunRecord}
      {view after : WorkflowsView} (hrest : Reaped maxAttempts now rest view after) :
      Reaped maxAttempts now (run :: rest) view after
  | expired {run : CloudWorkflowRunRecord} {rest : List CloudWorkflowRunRecord}
      {view after : WorkflowsView} {record : CloudWorkflowRecord}
      (hrecord : view.workflow run.workflowKey = some record)
      (hrun : view.run run.tableKey = some run) (hlive : run.live = true)
      (hrest : Reaped maxAttempts now rest (view.expire record run maxAttempts now) after) :
      Reaped maxAttempts now (run :: rest) view after

end WorkflowsView

/-- What an operation answers and leaves of the workflows and runs, with the guards under
which it does. -/
inductive WorkflowEffect {σ : Type} (context : StoreContext σ) (store : ControlPlaneStore σ)
    (now : Instant) : StoreOperation → StoreAnswer → WorkflowsView → Prop where
  | unchanged {operation : StoreOperation} {answer : StoreAnswer}
      (hclaims : operation.claims store.workflows.view answer = [])
      (hundecided : ∀ input record, operation = .workflow (.updateWorkflowStatus input) →
        answer ≠ .workflow (some record)) :
      WorkflowEffect context store now operation answer store.workflows.view
  | begun {input : CreateWorkflowInput} {answer : StoreAnswer} (createdAt : Instant)
      (hnew : store.workflows.view.workflow (key input.tenantId input.workflowId) = none) :
      WorkflowEffect context store now (.workflow (.createWorkflow input)) answer
        (store.workflows.view.putWorkflow (key input.tenantId input.workflowId)
          (WorkflowsDomain.createdWorkflow input createdAt))
  | decided {input : UpdateWorkflowStatusInput} {answer : StoreAnswer}
      {record : CloudWorkflowRecord} (updatedAt : Instant)
      (hrecord : store.workflows.view.workflow (key input.tenantId input.workflowId) =
        some record) :
      WorkflowEffect context store now (.workflow (.updateWorkflowStatus input)) answer
        (store.workflows.view.putWorkflow (key input.tenantId input.workflowId)
          { record with
            status := input.status
            nextRunAt := input.nextRunAt
            updatedAt := updatedAt })
  | rotated {input : RotateWorkflowWebhookSecretInput} {answer : StoreAnswer}
      {record : CloudWorkflowRecord} (updatedAt : Instant)
      (hrecord : store.workflows.view.workflow (key input.tenantId input.workflowId) =
        some record) :
      WorkflowEffect context store now (.workflow (.rotateWorkflowWebhookSecret input)) answer
        (store.workflows.view.putWorkflow (key input.tenantId input.workflowId)
          { record with updatedAt := updatedAt })
  | created {input : CreateWorkflowRunInput} {record : CloudWorkflowRecord}
      {run : CloudWorkflowRunRecord} (nonce : String) (createdAt : Instant)
      (hrecord : store.workflows.view.workflow (key input.tenantId input.workflowId) =
        some record)
      (hrunnable : WorkflowsDomain.assertWorkflowRunnable record = .ok ())
      (hfree : store.workflows.view.run (key input.tenantId input.runId) = none)
      (hrun : run = WorkflowsDomain.createdRun context.texts input record nonce createdAt) :
      WorkflowEffect context store now (.workflow (.createWorkflowRun input)) (.run (some run))
        ((store.workflows.view.putRun run.tableKey run).putWorkflow
          (key input.tenantId input.workflowId) (record.follow run createdAt))
  | retried {input : ClaimDueWorkflowRunInput} {run : CloudWorkflowRunRecord}
      {record : CloudWorkflowRecord} (claimedBy claimToken : String) (expiresAt : Instant)
      (hretry : store.workflows.retryRun context.env (store.workflowsHost context now) = some run)
      (hrun : store.workflows.view.run run.tableKey = some run) (hlive : run.live = true)
      (hrecord : store.workflows.view.workflow run.workflowKey = some record)
      (hrunning : record.status = .running) :
      WorkflowEffect context store now (.workflow (.claimDueWorkflowRun input))
        (.claimed (some (record.follow run now, run.claimed claimedBy claimToken expiresAt)))
        ((store.workflows.view.putRun run.tableKey
          (run.claimed claimedBy claimToken expiresAt)).putWorkflow run.workflowKey
            (record.follow run now))
  | scheduled {input : ClaimDueWorkflowRunInput} {record : CloudWorkflowRecord}
      {run : CloudWorkflowRunRecord} (scheduledFor : Instant) (claimedBy nonce : String)
      (hretry : store.workflows.retryRun context.env (store.workflowsHost context now) = none)
      (hdue : store.workflows.dueWorkflow now = some (record.key, record, scheduledFor))
      (hrecord : store.workflows.view.workflow record.key = some record)
      (hactive : record.status = .active)
      (hrun : run = WorkflowsDomain.scheduledRun context.texts input record scheduledFor claimedBy
        nonce now) :
      WorkflowEffect context store now (.workflow (.claimDueWorkflowRun input))
        (.claimed (some (record.follow run now, run)))
        ((store.workflows.view.putRun run.tableKey run).putWorkflow record.key
          (record.follow run now))
  | reaped {maxAttempts limit : Option ℚ} {answer : StoreAnswer} {after : WorkflowsView}
      (hreaped : WorkflowsView.Reaped (attemptLimit maxAttempts) now
        (store.workflows.expiredClaims context.env (store.workflowsHost context now) now limit)
        store.workflows.view after) :
      WorkflowEffect context store now (.workflow (.reapExpiredWorkflowClaims maxAttempts limit))
        answer after
  | attached {input : AttachWorkflowRunSessionInput} {answer : StoreAnswer}
      {run : CloudWorkflowRunRecord} {record : CloudWorkflowRecord} (startedAt : Instant)
      (hrun : store.workflows.view.run (key input.tenantId input.runId) = some run)
      (hworkflow : run.workflowId = input.workflowId)
      (hattachable : WorkflowsDomain.attachable run input now = .ok ())
      (hrecord : store.workflows.view.workflow (key input.tenantId input.workflowId) =
        some record) :
      WorkflowEffect context store now (.workflow (.attachWorkflowRunSession input)) answer
        ((store.workflows.view.putRun (key input.tenantId input.runId)
          (run.attached input.sessionId startedAt)).putWorkflow
            (key input.tenantId input.workflowId)
            (record.follow (run.attached input.sessionId startedAt) startedAt))
  | finished {operation : StoreOperation} {answer : StoreAnswer} {input : FinishWorkflowRunInput}
      {run : CloudWorkflowRunRecord} {record : CloudWorkflowRecord} (finishedAt : Instant)
      (hfinish : operation.finish context.texts = some input)
      (hrun : store.workflows.view.run (key input.tenantId input.runId) = some run)
      (hworkflow : run.workflowId = input.workflowId) (hlive : run.live = true)
      (hadmitted : ∀ workflowOperation, operation = .workflow workflowOperation →
        WorkflowsDomain.finishable (store.workflowsHost context now) run input = .ok ())
      (hrecord : store.workflows.view.workflow (key input.tenantId input.workflowId) =
        some record) :
      WorkflowEffect context store now operation answer
        ((store.workflows.view.putRun (key input.tenantId input.runId)
          (run.finished input finishedAt)).putWorkflow (key input.tenantId input.workflowId)
            (record.afterFinish input run.id finishedAt))

namespace ControlPlaneStore

variable {σ : Type} (context : StoreContext σ) {store : ControlPlaneStore σ} (now : Instant)
  {domain : WorkflowsDomain} {record : CloudWorkflowRecord} {operation : StoreOperation}
  {run : CloudWorkflowRunRecord}

theorem WorkflowEffect.thrown (error : StoreError) :
    WorkflowEffect context store now operation (.thrown error) store.workflows.view := by
  apply WorkflowEffect.unchanged
  · cases operation with
    | workflow operation => cases operation <;> rfl
    | _ => rfl
  · intro _ _ _
    exact StoreAnswer.noConfusion

theorem requireWorkflow_view {host : WorkflowsHost σ}
    {tenantId workflowId : String} {workflow : WorkflowState}
    (hrequire : domain.requireWorkflow host tenantId workflowId = .ok workflow) :
    domain.view.workflow (key tenantId workflowId) = some workflow.record := by
  unfold WorkflowsDomain.requireWorkflow at hrequire
  split at hrequire
  · simp at hrequire
  · split at hrequire
    · simp at hrequire
    next hget =>
      obtain rfl := Except.ok.inj hrequire
      exact view_workflow hget

/-- The answer to a workflow operation tells what it did to the tables. -/
def Effected (store : ControlPlaneStore σ) (nonce : String) (operation : WorkflowOperation) :
    Prop :=
  WorkflowEffect context store now (.workflow operation)
    (store.performWorkflow context now nonce operation).1
    (store.performWorkflow context now nonce operation).2.workflows.view

theorem createWorkflow_effect (input : CreateWorkflowInput) (nonce : String) :
    Effected context now store nonce (.createWorkflow input) := by
  dsimp only [Effected, performWorkflow, within]
  unfold WorkflowsDomain.createWorkflow
  split
  · exact WorkflowEffect.thrown context now _
  · split
    next _ _ =>
      split
      · exact WorkflowEffect.thrown context now _
      · exact .unchanged rfl (by simp)
    next hnone =>
      rw [view_setWorkflow]
      exact .begun _ (view_workflow hnone)

theorem updateWorkflowStatus_effect (input : UpdateWorkflowStatusInput) (nonce : String) :
    Effected context now store nonce (.updateWorkflowStatus input) := by
  dsimp only [Effected, performWorkflow, within]
  unfold WorkflowsDomain.updateWorkflowStatus
  split
  · exact WorkflowEffect.thrown context now _
  · split
    · exact .unchanged rfl (by simp [reply])
    next hget =>
      have hrecord := view_workflow hget
      split
      · exact .unchanged rfl (by simp [reply])
      · split
        · exact .unchanged rfl (by simp [reply])
        · dsimp only
          rw [store.workflows.view_updateWorkflow hrecord]
          exact .decided _ hrecord

theorem rotateWorkflowWebhookSecret_effect (input : RotateWorkflowWebhookSecretInput)
    (nonce : String) :
    Effected context now store nonce (.rotateWorkflowWebhookSecret input) := by
  dsimp only [Effected, performWorkflow, within]
  unfold WorkflowsDomain.rotateWorkflowWebhookSecret
  split
  · exact WorkflowEffect.thrown context now _
  · split
    · exact .unchanged rfl (by simp)
    next hget =>
      have hrecord := view_workflow hget
      split
      · exact .unchanged rfl (by simp)
      · dsimp only
        rw [store.workflows.view_updateWorkflow hrecord]
        exact .rotated _ hrecord

theorem createWorkflowRun_effect (htidy : store.workflows.Tidy) (input : CreateWorkflowRunInput)
    (nonce : String) :
    Effected context now store nonce (.createWorkflowRun input) := by
  dsimp only [Effected, performWorkflow, withinQuota]
  unfold WorkflowsDomain.createWorkflowRun
  split
  · exact WorkflowEffect.thrown context now _
  split
  · exact WorkflowEffect.thrown context now _
  next hrequire =>
  have hrecord := requireWorkflow_view hrequire
  split
  · exact WorkflowEffect.thrown context now _
  split
  · exact WorkflowEffect.thrown context now _
  next hrunnable =>
  split
  next hexisting =>
    refine .unchanged (if_neg ?_) (by simp)
    rintro ⟨hnone, -⟩
    exact absurd (hexisting.symm.trans hnone) (by simp)
  next hfree =>
    split
    · exact WorkflowEffect.thrown context now _
    · dsimp only
      rw [view_updateWorkflow _
        (by rw [htidy.view_addRun hrecord]; exact hrecord),
        htidy.view_addRun hrecord]
      exact .created nonce _ hrecord hrunnable hfree rfl

theorem retryRun_running
    (hretry : store.workflows.retryRun context.env (store.workflowsHost context now) = some run)
    (hrecord : store.workflows.view.workflow run.workflowKey = some record) :
    record.status = .running := by
  have hmem := List.mem_of_mem_head? hretry
  rw [List.mem_insertionSort, List.mem_filter] at hmem
  simp only [WorkflowsDomain.retryable, Bool.and_eq_true, decide_eq_true_eq] at hmem
  obtain ⟨_, hget, rfl⟩ := Option.map_eq_some_iff.mp hrecord
  have hstatus := hmem.2.1.1
  rw [hget] at hstatus
  exact Option.some.inj hstatus

theorem dueWorkflow_active {workflowKey : String} {scheduledFor : Instant}
    (hdue : store.workflows.dueWorkflow now = some (workflowKey, record, scheduledFor)) :
    store.workflows.view.workflow workflowKey = some record ∧ record.status = .active := by
  have hmem := List.mem_of_mem_head? hdue
  rw [List.mem_insertionSort, List.mem_filterMap] at hmem
  obtain ⟨⟨otherKey, other⟩, hentry, hchosen⟩ := hmem
  have hget := (get_eq_some_iff _ otherKey other).mpr hentry
  rw [get_map] at hget
  dsimp only at hchosen
  split at hchosen
  · split at hchosen
    next hactive =>
      obtain ⟨rfl, rfl, -⟩ := Prod.mk.injEq _ _ _ _ ▸ Option.some.inj hchosen
      exact ⟨hget, hactive.1⟩
    · simp at hchosen
  · simp at hchosen

theorem claimDueWorkflowRun_effect (htidy : store.workflows.Tidy)
    (input : ClaimDueWorkflowRunInput) (nonce : String) :
    Effected context now store nonce (.claimDueWorkflowRun input) := by
  dsimp only [Effected, performWorkflow, withinQuota]
  unfold WorkflowsDomain.claimDueWorkflowRun
  split
  next run hretry =>
    obtain ⟨hrun, hlive⟩ := htidy.retryRun hretry
    split
    · exact WorkflowEffect.thrown context now _
    next workflow hrequire =>
      have hrecord : store.workflows.view.workflow run.workflowKey = some workflow.record :=
        requireWorkflow_view hrequire
      rw [view_updateWorkflow _
        (by rw [htidy.view_updateRun hrun]; exact hrecord), htidy.view_updateRun hrun]
      exact .retried _ _ _ hretry hrun hlive hrecord (retryRun_running context now hretry hrecord)
  next hretry =>
    split
    · exact .unchanged rfl (by simp)
    next workflowKey workflow scheduledFor hdue =>
      split
      · exact WorkflowEffect.thrown context now _
      · obtain rfl : workflow.key = workflowKey := htidy.dueWorkflow hdue
        obtain ⟨hrecord, hactive⟩ := dueWorkflow_active now hdue
        rw [view_updateWorkflow _
          (by rw [htidy.view_addRun hrecord]; exact hrecord), htidy.view_addRun hrecord]
        exact .scheduled scheduledFor _ nonce hretry hdue hrecord hactive rfl

theorem reapRun_view (htidy : domain.Tidy) (maxAttempts : Int) (claimToken : String)
    (hrun : domain.run? run.tableKey = some run)
    (hrecord : domain.view.workflow run.workflowKey = some record) :
    (WorkflowsDomain.reapRun domain now maxAttempts run claimToken).2.view =
      domain.view.expire record run maxAttempts now := by
  unfold WorkflowsDomain.reapRun
  rw [view_updateWorkflow _ (by rw [htidy.view_updateRun hrun]; exact hrecord),
    htidy.view_updateRun hrun]
  rfl

theorem reapRuns_reaped (htidy : domain.Tidy) (maxAttempts : Int)
    (runs : List CloudWorkflowRunRecord)
    (hkeys : runs.Pairwise fun run other => run.tableKey ≠ other.tableKey)
    (hruns : ∀ run ∈ runs, domain.run? run.tableKey = some run ∧ run.live = true) :
    WorkflowsView.Reaped maxAttempts now runs domain.view
      (WorkflowsDomain.reapRuns now maxAttempts runs domain).2.view := by
  induction runs generalizing domain with
  | nil => exact .done _
  | cons run rest ih =>
    obtain ⟨hothers, hrest⟩ := List.pairwise_cons.mp hkeys
    have hlater : ∀ other ∈ rest, domain.run? other.tableKey = some other ∧ other.live = true :=
      fun other hmem => hruns other (.tail _ hmem)
    obtain ⟨hrun, hlive⟩ := hruns run (.head _)
    unfold WorkflowsDomain.reapRuns
    split
    next claimToken hget _ =>
      have hrecord := view_workflow hget
      have hview := reapRun_view now htidy maxAttempts claimToken hrun hrecord
      have hedits := reapRun_lockstep True now maxAttempts claimToken domain hrun hlive
      have hafter := ih (hedits.twins (.refl htidy)).tidy hrest fun other hmem => by
        obtain ⟨hother, hotherLive⟩ := hlater other hmem
        refine ⟨?_, hotherLive⟩
        rw [WorkflowsDomain.reapRun, WorkflowsDomain.run?_updateWorkflow,
          htidy.run?_updateRun_of_ne (hothers other hmem).symm, hother]
      rw [hview] at hafter
      exact .expired hrecord hrun hlive hafter
    · exact .passed (ih htidy hrest hlater)

variable (htidy : store.workflows.Tidy)
include htidy

theorem reapExpiredWorkflowClaims_effect (maxAttempts limit : Option ℚ) (nonce : String) :
    Effected context now store nonce (.reapExpiredWorkflowClaims maxAttempts limit) := by
  apply WorkflowEffect.reaped
  apply reapRuns_reaped now htidy (attemptLimit maxAttempts)
  · refine List.Pairwise.take ?_
    refine (List.perm_insertionSort _ _).symm.pairwise ?_ fun h => h.symm
    exact htidy.pairwise_allRuns.filter _
  · intro run hmem
    have hchosen := List.mem_of_mem_take hmem
    rw [List.mem_insertionSort, List.mem_filter, Bool.and_eq_true] at hchosen
    exact ⟨(htidy.mem_allRuns run).mp hchosen.1, live_of_idle hchosen.2.2⟩

theorem attachWorkflowRunSession_effect (input : AttachWorkflowRunSessionInput) (nonce : String) :
    Effected context now store nonce (.attachWorkflowRunSession input) := by
  dsimp only [Effected, performWorkflow, within]
  unfold WorkflowsDomain.attachWorkflowRunSession
  split
  · exact WorkflowEffect.thrown context now _
  next hrequire =>
  have hrecord := requireWorkflow_view hrequire
  split
  · exact .unchanged rfl (by simp)
  next hrun =>
  split
  · exact .unchanged rfl (by simp)
  next hworkflow =>
  split
  · exact WorkflowEffect.thrown context now _
  next hattachable =>
  rw [view_updateWorkflow _ (by rw [htidy.view_updateRun hrun]; exact hrecord),
    htidy.view_updateRun hrun]
  exact .attached _ hrun (not_not.mp hworkflow) hattachable hrecord

theorem finishWorkflowRun_effect (host : WorkflowsHost σ) {input : FinishWorkflowRunInput}
    {answer : StoreAnswer} (hfinish : operation.finish context.texts = some input)
    (hhost : ∀ workflowOperation, operation = .workflow workflowOperation →
      host = store.workflowsHost context now)
    (hclaims : operation.claims store.workflows.view answer = [])
    (hundecided : ∀ input record, operation = .workflow (.updateWorkflowStatus input) →
      answer ≠ .workflow (some record)) :
    WorkflowEffect context store now operation answer
      (store.workflows.finishWorkflowRun host input now).2.view := by
  unfold WorkflowsDomain.finishWorkflowRun
  split
  · exact .unchanged hclaims hundecided
  next hrequire =>
  have hrecord := requireWorkflow_view hrequire
  split
  · exact .unchanged hclaims hundecided
  next hrun =>
  split
  · exact .unchanged hclaims hundecided
  next hworkflow =>
  split
  · exact .unchanged hclaims hundecided
  next hlive =>
  split
  · exact .unchanged hclaims hundecided
  next hfinishable =>
  rw [view_updateWorkflow _ (by rw [htidy.view_updateRun hrun]; exact hrecord),
    htidy.view_updateRun hrun]
  refine .finished _ hfinish hrun (not_not.mp hworkflow) (by simpa using hlive) ?_ hrecord
  intro workflowOperation hoperation
  rw [← hhost workflowOperation hoperation]
  exact hfinishable

theorem performWorkflow_effect (nonce : String) (operation : WorkflowOperation) :
    Effected context now store nonce operation := by
  cases operation with
  | createWorkflow input => exact createWorkflow_effect context now input nonce
  | updateWorkflowStatus input => exact updateWorkflowStatus_effect context now input nonce
  | rotateWorkflowWebhookSecret input =>
    exact rotateWorkflowWebhookSecret_effect context now input nonce
  | createWorkflowRun input => exact createWorkflowRun_effect context now htidy input nonce
  | claimDueWorkflowRun input => exact claimDueWorkflowRun_effect context now htidy input nonce
  | reapExpiredWorkflowClaims =>
    exact reapExpiredWorkflowClaims_effect context now htidy _ _ nonce
  | attachWorkflowRunSession input =>
    exact attachWorkflowRunSession_effect context now htidy input nonce
  | completeWorkflowRun | failWorkflowRun =>
    exact finishWorkflowRun_effect context now htidy _ rfl (fun _ _ => rfl) rfl (by simp)
  | getWorkflow | getWorkflowRun | getWorkflowRunBySession | listWorkflowRuns =>
    exact .unchanged rfl (by simp)
  | listWorkflowRunsForWorkflows =>
    exact .unchanged rfl (by simp)

omit htidy

theorem appendProjectedWorkspaceEvent_workflows (store : ControlPlaneStore σ)
    (session : SessionState) (input : AppendProjectedSessionEventInput)
    (event : SessionEventRecord) :
    (store.appendProjectedWorkspaceEvent context session input event now).2.workflows =
      store.workflows :=
  (store.appendProjectedWorkspaceEvent_spares context session input event now).kept

variable (htidy : store.workflows.Tidy)
include htidy

theorem applyProjectedEventEffects_effect {written : ControlPlaneStore σ}
    (hwritten : written.workflows = store.workflows) (input : AppendProjectedSessionEventInput)
    (session : SessionState) (updatedAt : Instant) (answer : StoreAnswer) :
    WorkflowEffect context store now (.appendProjectedSessionEvent input) answer
      (written.applyProjectedEventEffects context session input updatedAt
        now).2.workflows.view := by
  unfold applyProjectedEventEffects
  generalize hput : written.putSession input.tenantId input.sessionId
    (session.applyStatus input.sessionStatus updatedAt) = put
  have hworkflows : put.workflows = store.workflows := by
    rw [← hput]
    exact hwritten
  unfold applyTerminal
  cases hterminal : input.workflowTerminal with
  | none =>
    rw [hworkflows]
    exact .unchanged rfl (by simp)
  | some terminal =>
    have hfinish : (StoreOperation.appendProjectedSessionEvent input).finish context.texts =
        some (terminal.finish context.texts) := by
      rw [StoreOperation.finish, hterminal, Option.map_some]
    cases terminal with
    | completed completion =>
      change WorkflowEffect context store now _ _ (put.workflows.finishWorkflowRun
        (put.workflowsHost context now) completion.finish now).2.view
      rw [hworkflows]
      exact finishWorkflowRun_effect context now htidy _ hfinish (by simp) rfl (by simp)
    | failed failure =>
      change WorkflowEffect context store now _ _ (put.workflows.finishWorkflowRun
        (put.workflowsHost context now) (failure.finish context.texts) now).2.view
      rw [hworkflows]
      exact finishWorkflowRun_effect context now htidy _ hfinish (by simp) rfl (by simp)

theorem appendProjectedSessionEvent_effect (input : AppendProjectedSessionEventInput) :
    WorkflowEffect context store now (.appendProjectedSessionEvent input)
      (reply .projected (store.appendProjectedSessionEvent context input now).1)
      (store.appendProjectedSessionEvent context input now).2.workflows.view := by
  unfold appendProjectedSessionEvent
  cases store.requireSession context input.tenantId input.sessionId with
  | error thrown => exact WorkflowEffect.thrown context now thrown
  | ok session =>
    have hprojecting := store.projectSessionEvent_projecting context session input now
    dsimp only
    generalize store.projectSessionEvent context session input now = guarded at hprojecting
    obtain ⟨thrown | result, after⟩ := guarded
    · have hview : (store.rollback after input.tenantId input.sessionId session).workflows.view =
          store.workflows.view := store.workflows.view_restore after.workflows
      dsimp only
      rw [hview]
      exact WorkflowEffect.thrown context now thrown
    · dsimp only
      generalize hanswered : Except.ok result = answered at hprojecting
      cases hprojecting with
      | refused | stopped => simp at hanswered
      | @finished event appended projected workspaceEvent existed written _ hevent hworkspace
          hprojects _ updatedAt =>
          have hwritten : written.workflows = store.workflows := by
            have hframe := appendProjectedWorkspaceEvent_workflows context now
              (store.putSession input.tenantId input.sessionId appended) appended input event
            rw [hworkspace] at hframe
            exact hframe
          exact applyProjectedEventEffects_effect context now htidy hwritten input projected
            updatedAt _

/-- What an operation of the store does to the workflows. -/
theorem perform_effect (request : StoreRequest) :
    WorkflowEffect context store request.now request.operation (store.perform context request).1
      (store.perform context request).2.workflows.view := by
  obtain ⟨now, nonce, operation⟩ := request
  have hsame : ∀ {answer : StoreAnswer} {after : ControlPlaneStore σ},
      (∀ workflowOperation, operation ≠ .workflow workflowOperation) →
        after.workflows = store.workflows →
          WorkflowEffect context store now operation answer after.workflows.view := by
    intro answer after hother hworkflows
    rw [hworkflows]
    refine .unchanged ?_ fun input _ hoperation => absurd hoperation (hother _)
    cases operation with
    | workflow => exact absurd rfl (hother _)
    | _ => rfl
  cases operation with
  | workflow => exact performWorkflow_effect context now htidy nonce _
  | appendProjectedSessionEvent input =>
    exact appendProjectedSessionEvent_effect context now htidy input
  | session => exact hsame (by simp) rfl
  | bindSessionRuntime =>
    exact hsame (by simp) (store.bindSessionRuntime_spares context _ _ _ _ _ now _).kept
  | updateSessionStatus =>
    exact hsame (by simp) (store.updateSessionStatus_spares context _ _ _ _ _ now _).kept
  | appendSessionEvent | writeSessionProjection =>
    exact hsame (by simp) (store.onSession_spares context _ _ _).kept
  | appendWorkspaceEvent input =>
    exact hsame (by simp) (store.appendWorkspaceEvent_spares context input now).kept
  | pruneExpiredSessionEvents | pruneExpiredWorkspaceEvents | getSession | listSessionEvents
  | getSessionProjection | listWorkspaceEvents => exact hsame (by simp) rfl

theorem perform_tidy (request : StoreRequest) : (store.perform context request).2.workflows.Tidy :=
  (perform_twins context (Twins.refl htidy) request).2.workflows.tidy

end ControlPlaneStore

end OpenCowork.ControlPlane
