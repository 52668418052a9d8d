import OpenCowork.ControlPlane.RunAttempts

/-! # The live run of a workflow

Whether a run may start is read from the workflow's status. As long as nobody activates a
workflow in the middle of a run, the status and the live runs stay tied: there is at most
one live run, a running workflow has it, and its workflow is running or was paused or
archived under it.
-/

namespace OpenCowork.ControlPlane

open Foundation

variable {σ : Type} {context : StoreContext σ} (now : Instant) {store : ControlPlaneStore σ}
  {request : StoreRequest}

def WorkflowStatus.mayRun (status : WorkflowStatus) : Prop :=
  status = .running ∨ status = .paused ∨ status = .archived

namespace StoreOperation

def addressedRun (texts : WorkflowsEnvironment) (operation : StoreOperation) :
    Option (String × String) :=
  match operation with
  | .workflow (.attachWorkflowRunSession input) => some (input.tenantId, input.runId)
  | operation => (operation.finish texts).map fun input => (input.tenantId, input.runId)

end StoreOperation

namespace WorkflowsView

def statusOf (view : WorkflowsView) (workflowKey : String) : Option WorkflowStatus :=
  (view.workflow workflowKey).map CloudWorkflowRecord.status

/-- A run of the table that is queued or running. -/
def LiveRun (view : WorkflowsView) (run : CloudWorkflowRunRecord) : Prop :=
  view.run run.tableKey = some run ∧ run.live = true

structure LiveRunsTied (view : WorkflowsView) : Prop where
  keyed : ∀ runKey run, view.run runKey = some run → run.tableKey = runKey
  single : ∀ run other, view.LiveRun run → view.LiveRun other →
    run.workflowKey = other.workflowKey → run = other
  running : ∀ workflowKey record, view.workflow workflowKey = some record →
    record.status = .running → ∃ run, view.LiveRun run ∧ run.workflowKey = workflowKey
  tied : ∀ run, view.LiveRun run →
    ∃ record, view.workflow run.workflowKey = some record ∧ record.status.mayRun

namespace LiveRunsTied

variable {view : WorkflowsView} {record : CloudWorkflowRecord} {run : CloudWorkflowRunRecord}
  (htied : view.LiveRunsTied)
include htied

theorem putWorkflow {workflowKey : String}
    (hrunning : record.status = .running → ∃ run, view.LiveRun run ∧ run.workflowKey = workflowKey)
    (hmay : ∀ run, view.LiveRun run → run.workflowKey = workflowKey → record.status.mayRun) :
    (view.putWorkflow workflowKey record).LiveRunsTied := by
  refine ⟨htied.keyed, htied.single, ?_, ?_⟩
  · intro other found hfound hstatus
    rw [workflow_putWorkflow] at hfound
    split at hfound
    next h =>
      obtain rfl := Option.some.inj hfound
      subst h
      exact hrunning hstatus
    · exact htied.running other found hfound hstatus
  · intro run hrun
    rw [workflow_putWorkflow]
    split
    next h => exact ⟨record, rfl, hmay run hrun h⟩
    · exact htied.tied run hrun

/-- A run is entered, in its own place or in a new one, with its workflow, which has no
live run elsewhere. -/
theorem place
    (hown : ∀ found, view.run run.tableKey = some found → found.workflowKey = run.workflowKey)
    (halone : ∀ other, view.LiveRun other → other.tableKey ≠ run.tableKey →
      other.workflowKey ≠ run.workflowKey) (hmay : run.live = true → record.status.mayRun)
    (hstopped : run.live = false → record.status ≠ .running) :
    ((view.putRun run.tableKey run).putWorkflow run.workflowKey record).LiveRunsTied := by
  -- a live run afterwards is the entered one or an old one of another workflow
  have hothers : ∀ other, (view.putRun run.tableKey run).LiveRun other →
      other = run ∨ (view.LiveRun other ∧ other.workflowKey ≠ run.workflowKey) := by
    rintro other ⟨hother, hotherLive⟩
    rw [run_putRun] at hother
    split at hother
    · exact .inl (Option.some.inj hother).symm
    next hne => exact .inr ⟨⟨hother, hotherLive⟩, halone other ⟨hother, hotherLive⟩ hne⟩
  have hkept : ∀ other, view.LiveRun other → other.workflowKey ≠ run.workflowKey →
      (view.putRun run.tableKey run).LiveRun other := by
    rintro other ⟨hother, hotherLive⟩ hne
    refine ⟨?_, hotherLive⟩
    rw [run_putRun, if_neg]
    · exact hother
    · intro hsame
      rw [hsame] at hother
      exact hne (hown other hother)
  constructor
  · intro runKey found hfound
    rw [run_putWorkflow, run_putRun] at hfound
    split at hfound
    next h => rw [← Option.some.inj hfound, h]
    · exact htied.keyed runKey found hfound
  · intro first second hfirst hsecond hsame
    rcases hothers first hfirst with rfl | ⟨hfirst', hne⟩
    · rcases hothers second hsecond with rfl | ⟨-, hne⟩
      · rfl
      · exact absurd hsame.symm hne
    · rcases hothers second hsecond with rfl | ⟨hsecond', -⟩
      · exact absurd hsame hne
      · exact htied.single first second hfirst' hsecond' hsame
  · intro workflowKey found hfound hstatus
    rw [workflow_putWorkflow] at hfound
    split at hfound
    next h =>
      obtain rfl := Option.some.inj hfound
      have hlive : run.live = true := by
        by_contra hnot
        exact hstopped (by simpa using hnot) hstatus
      refine ⟨run, ⟨?_, hlive⟩, h.symm⟩
      rw [run_putWorkflow, run_putRun, if_pos rfl]
    next h =>
      obtain ⟨other, hother, rfl⟩ := htied.running workflowKey found hfound hstatus
      exact ⟨other, hkept other hother h, rfl⟩
  · intro other hother
    rcases hothers other hother with rfl | ⟨hother', hne⟩
    · exact ⟨record, by rw [workflow_putWorkflow, if_pos rfl], hmay hother.2⟩
    · rw [workflow_putWorkflow, if_neg hne]
      exact htied.tied other hother'

theorem mutate {updated : CloudWorkflowRunRecord} (hlive : view.LiveRun run)
    (htable : updated.tableKey = run.tableKey) (hworkflow : updated.workflowKey = run.workflowKey)
    (hmay : updated.live = true → record.status.mayRun)
    (hstopped : updated.live = false → record.status ≠ .running) :
    ((view.putRun run.tableKey updated).putWorkflow run.workflowKey record).LiveRunsTied := by
  rw [← htable, ← hworkflow]
  apply htied.place _ _ hmay hstopped
  · intro _ hfound
    rw [htable, hlive.1] at hfound
    rw [hworkflow, Option.some.inj hfound]
  · intro other hother hne hsame
    exact hne (htable ▸ congrArg _ (htied.single other run hother hlive (hsame.trans hworkflow)))

theorem start (hfree : view.run run.tableKey = none) {before : CloudWorkflowRecord}
    (hbefore : view.workflow run.workflowKey = some before) (hrested : ¬ before.status.mayRun)
    (hlive : run.live = true) (hrunning : record.status = .running) :
    ((view.putRun run.tableKey run).putWorkflow run.workflowKey record).LiveRunsTied := by
  apply htied.place
  · intro _ hfound
    exact absurd (hfree.symm.trans hfound) (by simp)
  · intro other hother _ hsame
    obtain ⟨_, hfound, hmay⟩ := htied.tied other hother
    rw [hsame, hbefore] at hfound
    exact hrested (Option.some.inj hfound ▸ hmay)
  · exact fun _ => .inl hrunning
  · intro hfinished
    exact absurd (hlive.symm.trans hfinished) (by simp)

omit htied

theorem reaped {maxAttempts : Int} {now : Instant} {runs : List CloudWorkflowRunRecord}
    {after : WorkflowsView} (hreaped : Reaped maxAttempts now runs view after)
    (htied : view.LiveRunsTied) : after.LiveRunsTied := by
  induction hreaped with
  | done => exact htied
  | passed _ ih => exact ih htied
  | @expired run rest view after record hrecord hrun hlive _ ih =>
    apply ih
    apply htied.mutate ⟨hrun, hlive⟩
    · unfold CloudWorkflowRunRecord.claimExpired
      split <;> rfl
    · unfold CloudWorkflowRunRecord.claimExpired
      split <;> rfl
    · intro hstill
      unfold CloudWorkflowRunRecord.claimExpired at hstill
      unfold CloudWorkflowRecord.afterExpiry
      split at hstill
      · simp [CloudWorkflowRunRecord.live] at hstill
      next h =>
        rw [if_neg h]
        exact .inl rfl
    · intro hfailed
      unfold CloudWorkflowRunRecord.claimExpired at hfailed
      unfold CloudWorkflowRecord.afterExpiry
      split at hfailed
      next h =>
        rw [if_pos h]
        exact WorkflowStatus.noConfusion
      · exact absurd (hlive.symm.trans hfailed) (by simp)

end LiveRunsTied

end WorkflowsView

/-- How the store is called: a scheduled run gets an id that no run has, users make a
workflow active, paused or archived, a finish names no running workflow, and what
addresses a run names its tenant. And the condition on one step: no workflow is activated
in the middle of a run. -/
structure KeepsLiveRuns (context : StoreContext σ) (store : ControlPlaneStore σ)
    (request : StoreRequest) : Prop where
  fresh : ∀ input, request.operation = .workflow (.claimDueWorkflowRun input) →
    WorkflowsDomain.RunIdFree context.env (store.workflowsHost context request.now)
      store.workflows input request.now
  decision : ∀ input, request.operation = .workflow (.updateWorkflowStatus input) →
    input.status = .active ∨ input.status = .paused ∨ input.status = .archived
  finish : ∀ input, request.operation.finish context.texts = some input →
    input.nextStatus ≠ .running
  tenant : ∀ tenantId runId run, request.operation.addressedRun context.texts =
    some (tenantId, runId) → store.workflows.run? (key tenantId runId) = some run →
      run.tenantId = tenantId
  restful : ∀ input, request.operation = .workflow (.updateWorkflowStatus input) →
    input.status = .active → ∀ run, store.workflows.view.LiveRun run →
      run.workflowKey ≠ key input.tenantId input.workflowId

theorem StoreOperation.addressedRun_of_finish {texts : WorkflowsEnvironment}
    {operation : StoreOperation} {input : FinishWorkflowRunInput}
    (hfinish : operation.finish texts = some input) :
    operation.addressedRun texts = some (input.tenantId, input.runId) := by
  unfold addressedRun
  split
  · simp [finish] at hfinish
  · rw [hfinish, Option.map_some]

theorem createdRun_live (texts : WorkflowsEnvironment) (input : CreateWorkflowRunInput)
    (workflow : CloudWorkflowRecord) (nonce : String) (createdAt : Instant) :
    (WorkflowsDomain.createdRun texts input workflow nonce createdAt).live = true := by
  unfold WorkflowsDomain.createdRun
  cases optionalTrimmedText input.claimedBy <;> rfl

theorem not_mayRun_of_runnable {record : CloudWorkflowRecord}
    (hrunnable : WorkflowsDomain.assertWorkflowRunnable record = .ok ()) :
    ¬ record.status.mayRun := by
  unfold WorkflowsDomain.assertWorkflowRunnable at hrunnable
  rintro (h | h | h) <;> rw [h] at hrunnable <;> simp at hrunnable

theorem live_of_attachable {run : CloudWorkflowRunRecord} {input : AttachWorkflowRunSessionInput}
    {now : Instant} (hattachable : WorkflowsDomain.attachable run input now = .ok ()) :
    run.live = true := by
  by_contra hfinished
  rw [WorkflowsDomain.attachable, if_pos (by simpa using hfinished)] at hattachable
  simp at hattachable

/-- One step keeps the status of the workflows and their live runs tied. -/
theorem WorkflowEffect.liveRunsTied {answer : StoreAnswer} {after : WorkflowsView}
    (heffect : WorkflowEffect context store request.now request.operation answer after)
    (hkeeps : KeepsLiveRuns context store request)
    (htied : store.workflows.view.LiveRunsTied) : after.LiveRunsTied := by
  obtain ⟨_, nonce, operation⟩ := request
  -- the run and the workflow that a call addresses are stored under the run's own keys
  have haddressed : ∀ tenantId workflowId runId run,
      operation.addressedRun context.texts = some (tenantId, runId) →
        store.workflows.view.run (key tenantId runId) = some run → run.workflowId = workflowId →
          run.tableKey = key tenantId runId ∧ run.workflowKey = key tenantId workflowId := by
    intro tenantId workflowId runId run haddress hrun hworkflow
    refine ⟨htied.keyed _ run hrun, ?_⟩
    rw [CloudWorkflowRunRecord.workflowKey, hkeeps.tenant tenantId runId run haddress hrun,
      hworkflow]
  cases heffect with
  | unchanged => exact htied
  | begun _ hnew =>
    apply htied.putWorkflow
    · intro hrunning
      simp [WorkflowsDomain.createdWorkflow] at hrunning
    · intro run hrun hkey
      obtain ⟨found, hfound, -⟩ := htied.tied run hrun
      rw [hkey, hnew] at hfound
      simp at hfound
  | @decided input _ record updatedAt hrecord =>
    apply htied.putWorkflow
    · intro hrunning
      have hstatus := hkeeps.decision input rfl
      rw [show input.status = .running from hrunning] at hstatus
      simp at hstatus
    · intro run hrun hkey
      rcases hkeeps.decision input rfl with hactive | hpaused | harchived
      · exact absurd hkey (hkeeps.restful input rfl hactive run hrun)
      · exact .inr (.inl hpaused)
      · exact .inr (.inr harchived)
  | @rotated input _ record updatedAt hrecord =>
    apply htied.putWorkflow
    · intro hrunning
      exact htied.running _ record hrecord hrunning
    · intro run hrun hkey
      obtain ⟨_, hfound, hmay⟩ := htied.tied run hrun
      rw [hkey, hrecord] at hfound
      exact Option.some.inj hfound ▸ hmay
  | @created input record run nonce createdAt hrecord hrunnable hfree hrun =>
    obtain ⟨htable, hworkflow⟩ :=
      WorkflowsDomain.createdRun_keys context.texts input record nonce createdAt
    have hlive := createdRun_live context.texts input record nonce createdAt
    rw [← hrun] at htable hworkflow hlive
    rw [← hworkflow] at hrecord ⊢
    exact htied.start (htable ▸ hfree) hrecord (not_mayRun_of_runnable hrunnable) hlive rfl
  | @retried input run record claimedBy claimToken expiresAt hretry hrun hlive =>
    have htable : (run.claimed claimedBy claimToken expiresAt).tableKey = run.tableKey := rfl
    have hworkflow :
        (run.claimed claimedBy claimToken expiresAt).workflowKey = run.workflowKey := rfl
    apply htied.mutate ⟨hrun, hlive⟩ htable hworkflow
    · exact fun _ => .inl rfl
    · intro hfinished
      exact absurd (hlive.symm.trans hfinished) (by simp)
  | @scheduled input record run scheduledFor claimedBy nonce hretry hdue hrecord hactive hrun =>
    have hfree : store.workflows.view.run run.tableKey = none := by
      subst hrun
      exact hkeeps.fresh input rfl hretry _ hdue
    have hworkflow : run.workflowKey = record.key := by
      subst hrun
      rfl
    have hlive : run.live = true := by
      subst hrun
      rfl
    rw [← hworkflow] at hrecord ⊢
    apply htied.start hfree hrecord _ hlive rfl
    rw [hactive]
    rintro (h | h | h) <;> simp at h
  | reaped hreaped => exact .reaped hreaped htied
  | @attached input _ run record startedAt hrun hworkflow hattachable hrecord =>
    obtain ⟨htable, hkey⟩ := haddressed _ input.workflowId _ run rfl hrun hworkflow
    rw [← htable] at hrun
    rw [← htable, ← hkey]
    have hkept : (run.attached input.sessionId startedAt).tableKey = run.tableKey := rfl
    have hkeptWorkflow :
        (run.attached input.sessionId startedAt).workflowKey = run.workflowKey := rfl
    apply htied.mutate ⟨hrun, live_of_attachable hattachable⟩ hkept hkeptWorkflow
    · exact fun _ => .inl rfl
    · intro hfinished
      exact absurd hfinished (by simp [CloudWorkflowRunRecord.attached,
        CloudWorkflowRunRecord.live])
  | @finished _ _ input run record finishedAt hfinish hrun hworkflow hlive _ hrecord =>
    obtain ⟨htable, hkey⟩ := haddressed _ input.workflowId _ run
      (StoreOperation.addressedRun_of_finish hfinish) hrun hworkflow
    rw [← htable] at hrun
    rw [← htable, ← hkey]
    have hkept : (run.finished input finishedAt).tableKey = run.tableKey := rfl
    have hkeptWorkflow :
        (run.finished input finishedAt).workflowKey = run.workflowKey := rfl
    apply htied.mutate ⟨hrun, hlive⟩ hkept hkeptWorkflow
    · intro hstill
      rcases StoreOperation.finish_status hfinish with h | h <;>
        exact absurd hstill (by simp [CloudWorkflowRunRecord.finished,
          CloudWorkflowRunRecord.live, h])
    · exact fun _ => hkeeps.finish input hfinish

/-- At most one live run for each workflow, one for each running workflow, and none for a
workflow that is active or failed. -/
structure LiveRunsFollow (domain : WorkflowsDomain) : Prop where
  single : ∀ run ∈ domain.allRuns, ∀ other ∈ domain.allRuns, run.live = true →
    other.live = true → run.workflowKey = other.workflowKey → run = other
  running : ∀ workflowKey workflow, domain.workflows.get workflowKey = some workflow →
    workflow.record.status = .running →
      ∃ run ∈ domain.allRuns, run.live = true ∧ run.workflowKey = workflowKey
  tied : ∀ run ∈ domain.allRuns, run.live = true →
    ∃ workflow, domain.workflows.get run.workflowKey = some workflow ∧
      workflow.record.status.mayRun

theorem WorkflowsView.LiveRunsTied.follow {domain : WorkflowsDomain} (htidy : domain.Tidy)
    (htied : domain.view.LiveRunsTied) : LiveRunsFollow domain := by
  have hlive : ∀ run, (run ∈ domain.allRuns ∧ run.live = true) ↔ domain.view.LiveRun run :=
    fun run => and_congr_left' (htidy.mem_allRuns run)
  constructor
  · intro run hrun other hother hrunLive hotherLive hsame
    exact htied.single run other ((hlive run).mp ⟨hrun, hrunLive⟩)
      ((hlive other).mp ⟨hother, hotherLive⟩) hsame
  · intro workflowKey workflow hget hrunning
    obtain ⟨run, hrun, hkey⟩ :=
      htied.running workflowKey workflow.record (WorkflowsDomain.view_workflow hget) hrunning
    obtain ⟨hmem, hrunLive⟩ := (hlive run).mpr hrun
    exact ⟨run, hmem, hrunLive, hkey⟩
  · intro run hrun hrunLive
    obtain ⟨_, hrecord, hmay⟩ := htied.tied run ((hlive run).mp ⟨hrun, hrunLive⟩)
    obtain ⟨workflow, hget, rfl⟩ := Option.map_eq_some_iff.mp hrecord
    exact ⟨workflow, hget, hmay⟩

/-- In every state that is reached without activating a workflow in the middle of a run,
each workflow has at most one live run, it has one when it is running, and a workflow with
a live run is running, paused or archived. -/
theorem run_liveRuns_follow (context : StoreContext σ) (neighbours : σ)
    (requests : List StoreRequest)
    (hsteps : ∀ moment ∈ (ControlPlaneStore.machine context).history (.initial neighbours) requests,
      KeepsLiveRuns context moment.before moment.input) :
    LiveRunsFollow ((ControlPlaneStore.machine context).run (.initial neighbours)
      requests).workflows := by
  have hreached := (ControlPlaneStore.machine context).history_invariant_of
    (fun moment => KeepsLiveRuns context moment.before moment.input)
    (fun _ store => store.workflows.Tidy ∧ store.workflows.view.LiveRunsTied)
    (fun _ store request hstore hkeeps =>
      ⟨ControlPlaneStore.perform_tidy context hstore.1 request,
        (ControlPlaneStore.perform_effect context hstore.1 request).liveRunsTied hkeeps hstore.2⟩)
    (.initial neighbours) ⟨WorkflowsDomain.empty_tidy, ?_⟩ requests hsteps
  · exact hreached.2.follow hreached.1
  · have hrun : ∀ runKey, (WorkflowsDomain.view .empty).run runKey = none := fun _ => rfl
    constructor
    · intro runKey run h
      exact absurd ((hrun runKey).symm.trans h) (by simp)
    · intro run other h
      exact absurd ((hrun _).symm.trans h.1) (by simp)
    · intro workflowKey record h
      exact absurd h (by simp [ControlPlaneStore.initial, WorkflowsDomain.view,
        WorkflowsDomain.empty])
    · intro run h
      exact absurd ((hrun _).symm.trans h.1) (by simp)

/-- The user decides on the workflow `w`. -/
def decideStatus (status : WorkflowStatus) : StoreRequest :=
  ⟨now, "", .workflow (.updateWorkflowStatus
    { tenantId := "t"
      userId := "u"
      workflowId := "w"
      status := status
      nextRunAt := none
      updatedAt := none })⟩

def completeRun (runId : String) (nextStatus : WorkflowStatus) : StoreRequest :=
  ⟨now, "", .workflow (.completeWorkflowRun
    { tenantId := "t"
      workflowId := "w"
      runId := runId
      summary := none
      nextStatus := nextStatus
      nextRunAt := none
      leaseToken := none
      finishedAt := none })⟩

def liveRunIds (domain : WorkflowsDomain) : List String :=
  (domain.allRuns.filter CloudWorkflowRunRecord.live).map CloudWorkflowRunRecord.id

def workflowsAfter (requests : List StoreRequest) : WorkflowsDomain :=
  ((ControlPlaneStore.machine plainContext).run (.initial (Neighbours.single "t" "u"))
    requests).workflows

/-- A pause leaves the live run of the workflow going, and after an activation a second run
starts beside it. -/
theorem paused_run_joined :
    (let paused := workflowsAfter [beginWorkflow, startRun 1 "r" none, decideStatus 2 .paused]
     liveRunIds paused = ["r"] ∧ paused.view.statusOf (key "t" "w") = some .paused) ∧
      liveRunIds (workflowsAfter [beginWorkflow, startRun 1 "r" none, decideStatus 2 .paused,
        decideStatus 3 .active, startRun 4 "q" none]) = ["r", "q"] := by
  decide +kernel

theorem KeepsLiveRuns.of_other
    (hclaim : ∀ input, request.operation ≠ .workflow (.claimDueWorkflowRun input))
    (hdecide : ∀ input, request.operation ≠ .workflow (.updateWorkflowStatus input))
    (haddress : request.operation.addressedRun context.texts = none) :
    KeepsLiveRuns context store request := by
  refine ⟨fun _ h => absurd h (hclaim _), fun _ h => absurd h (hdecide _), ?_, ?_,
    fun _ h => absurd h (hdecide _)⟩
  · intro _ hfinish
    rw [StoreOperation.addressedRun_of_finish hfinish] at haddress
    simp at haddress
  · intro _ _ _ h
    rw [haddress] at h
    simp at h

theorem KeepsLiveRuns.of_pause (context : StoreContext σ) (store : ControlPlaneStore σ)
    (now : Instant) : KeepsLiveRuns context store (decideStatus now .paused) := by
  constructor
  · simp [decideStatus]
  · intro input hoperation
    obtain rfl :=
      WorkflowOperation.updateWorkflowStatus.inj (StoreOperation.workflow.inj hoperation)
    exact .inr (.inl rfl)
  · intro input hfinish
    simp [decideStatus, StoreOperation.finish] at hfinish
  · intro _ _ _ h
    simp [decideStatus, StoreOperation.addressedRun, StoreOperation.finish] at h
  · intro input hoperation hactive
    obtain rfl :=
      WorkflowOperation.updateWorkflowStatus.inj (StoreOperation.workflow.inj hoperation)
    simp at hactive

theorem KeepsLiveRuns.of_completion {now : Instant} {runId : String}
    (htenant : (store.workflows.run? (key "t" runId)).all fun run => run.tenantId = "t") :
    KeepsLiveRuns context store (completeRun now runId .paused) := by
  constructor
  · simp [completeRun]
  · simp [completeRun]
  · intro _ hfinish
    obtain rfl := Option.some.inj hfinish
    exact WorkflowStatus.noConfusion
  · intro _ _ run haddress hrun
    obtain ⟨rfl, rfl⟩ := Prod.mk.inj (Option.some.inj haddress)
    rw [show store.workflows.run? (key "t" runId) = some run from hrun, Option.all_some] at htenant
    exact of_decide_eq_true htenant
  · simp [completeRun]

theorem paused_run_followed :
    LiveRunsFollow (workflowsAfter [beginWorkflow, startRun 1 "r" none, decideStatus 2 .paused,
      completeRun 3 "r" .paused]) := by
  have hbegin : ∀ store, KeepsLiveRuns plainContext store beginWorkflow :=
    fun store => .of_other (by simp [beginWorkflow]) (by simp [beginWorkflow]) rfl
  have hstart : ∀ store, KeepsLiveRuns plainContext store (startRun 1 "r" none) :=
    fun store => .of_other (by simp [startRun]) (by simp [startRun]) rfl
  apply run_liveRuns_follow plainContext (Neighbours.single "t" "u")
  refine List.forall_mem_cons.mpr ⟨hbegin _, List.forall_mem_cons.mpr ⟨hstart _,
    List.forall_mem_cons.mpr ⟨.of_pause plainContext _ 2,
      List.forall_mem_cons.mpr ⟨?_, List.forall_mem_nil _⟩⟩⟩⟩
  exact .of_completion (by decide +kernel)

end OpenCowork.ControlPlane
