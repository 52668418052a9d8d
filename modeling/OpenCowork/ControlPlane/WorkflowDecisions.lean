import OpenCowork.ControlPlane.LiveRuns

/-! # What becomes of a user's decision about a workflow

A user pauses or archives a workflow while its runs go on. The service that finishes a run
reads the workflow first and names the status to leave it in, the reaper and the
attachment of a session write a status of their own. The decision lasts as long as none of
them overrules it.
-/

namespace OpenCowork.ControlPlane

open Foundation WorkflowsView ControlPlaneStore

variable {σ : Type} {context : StoreContext σ} {store : ControlPlaneStore σ}
  {request : StoreRequest} {now : Instant} {workflowKey : String} {after : WorkflowsView}
  {status : WorkflowStatus} {record : CloudWorkflowRecord} {nonce : String}

/-! ## How the service finishes the run of a session -/

def workflowRunTerminal (status : WorkflowRunStatus) : Bool :=
  status == .completed || status == .failed || status == .cancelled

def nextWorkflowStatusAfterRun (workflow : CloudWorkflowRecord) : WorkflowStatus :=
  if workflow.status = .paused ∨ workflow.status = .archived then workflow.status else .active

structure PreparedFinish where
  run : CloudWorkflowRunRecord
  workflow : CloudWorkflowRecord
  nextStatus : WorkflowStatus
  nextRunAt : Option Instant
  finishedAt : Instant

section Service

variable (computeNextWorkflowRunAt : CloudWorkflowRecord → Instant → Option Instant)

/-- The run is read by its session and its workflow in a second read; a run that came to
another end is left alone. -/
def prepareFinish (status : WorkflowRunStatus)
    (getWorkflowRunBySession : Option CloudWorkflowRunRecord)
    (getWorkflowForTenant : String → Option CloudWorkflowRecord) (dateNow : Instant) :
    Option PreparedFinish :=
  match getWorkflowRunBySession with
  | none => none
  | some run =>
    if workflowRunTerminal run.status ∧ run.status ≠ status then none
    else
      match getWorkflowForTenant run.workflowId with
      | none => none
      | some workflow =>
        let now := if run.status = status then run.finishedAt.getD dateNow else dateNow
        let nextStatus := nextWorkflowStatusAfterRun workflow
        some
          { run := run
            workflow := workflow
            nextStatus := nextStatus
            nextRunAt :=
              if nextStatus = .active then computeNextWorkflowRunAt workflow now else none
            finishedAt := now }

def prepareWorkflowRunCompletion (tenantId : String) (summary : Option String)
    (leaseToken : LeaseTokenArgument) (getWorkflowRunBySession : Option CloudWorkflowRunRecord)
    (getWorkflowForTenant : String → Option CloudWorkflowRecord) (dateNow : Instant) :
    Option CompleteWorkflowRunInput :=
  (prepareFinish computeNextWorkflowRunAt .completed getWorkflowRunBySession getWorkflowForTenant
    dateNow).map fun prepared =>
      { tenantId := tenantId
        workflowId := prepared.workflow.id
        runId := prepared.run.id
        summary := if prepared.run.status = .completed then prepared.run.summary else summary
        nextStatus := prepared.nextStatus
        nextRunAt := prepared.nextRunAt
        leaseToken := leaseToken
        finishedAt := some prepared.finishedAt }

theorem nextWorkflowStatusAfterRun_of_decided {workflow : CloudWorkflowRecord}
    (hdecided : workflow.status = .paused ∨ workflow.status = .archived) :
    nextWorkflowStatusAfterRun workflow = workflow.status :=
  if_pos hdecided

end Service

/-! ## Steps that respect a decision -/

namespace WorkflowsView

theorem statusOf_putWorkflow (view : WorkflowsView) (workflowKey other : String)
    (record : CloudWorkflowRecord) :
    (view.putWorkflow workflowKey record).statusOf other =
      if other = workflowKey then some record.status else view.statusOf other := by
  rw [statusOf, workflow_putWorkflow]
  split <;> rfl

theorem statusOf_some {view : WorkflowsView} {workflowKey : String} {record : CloudWorkflowRecord}
    (hrecord : view.workflow workflowKey = some record) :
    view.statusOf workflowKey = some record.status := by
  rw [statusOf, hrecord, Option.map_some]

/-- No run of the workflow is new. -/
def StartsNone (workflowKey : String) (before after : WorkflowsView) : Prop :=
  ∀ runKey run, after.run runKey = some run → run.workflowKey = workflowKey →
    ∃ old, before.run runKey = some old ∧ old.workflowKey = workflowKey

namespace StartsNone

variable {workflowKey : String} {before view : WorkflowsView}

theorem refl (view : WorkflowsView) : StartsNone workflowKey view view :=
  fun _ run hrun hkey => ⟨run, hrun, hkey⟩

theorem putWorkflow (hnone : StartsNone workflowKey before view) (other : String)
    (record : CloudWorkflowRecord) : StartsNone workflowKey before
    (view.putWorkflow other record) :=
  hnone

theorem putRun (hnone : StartsNone workflowKey before view) {runKey : String}
    {run : CloudWorkflowRunRecord}
    (hknown : run.workflowKey = workflowKey →
      ∃ old, view.run runKey = some old ∧ old.workflowKey = workflowKey) :
    StartsNone workflowKey before (view.putRun runKey run) := by
  intro other found hfound hkey
  rw [run_putRun] at hfound
  split at hfound
  next h =>
    obtain rfl := Option.some.inj hfound
    obtain ⟨old, hold, holdKey⟩ := hknown hkey
    exact hnone other old (h ▸ hold) holdKey
  · exact hnone other found hfound hkey

end StartsNone

/-- A workflow keeps its status and gets no new run. -/
structure Respects (workflowKey : String) (before after : WorkflowsView) : Prop where
  status : after.statusOf workflowKey = before.statusOf workflowKey
  startsNone : StartsNone workflowKey before after

namespace Respects

variable {workflowKey : String} {before view : WorkflowsView}

theorem refl (view : WorkflowsView) : Respects workflowKey view view := ⟨rfl, .refl view⟩

theorem putWorkflow (hrespects : Respects workflowKey before view) {other : String}
    {record : CloudWorkflowRecord}
    (hsame : other = workflowKey → before.statusOf workflowKey = some record.status) :
    Respects workflowKey before (view.putWorkflow other record) := by
  refine ⟨?_, hrespects.startsNone.putWorkflow other record⟩
  rw [statusOf_putWorkflow]
  split
  next h => exact (hsame h.symm).symm
  · exact hrespects.status

theorem putRun (hrespects : Respects workflowKey before view) {runKey : String}
    {run : CloudWorkflowRunRecord}
    (hknown : run.workflowKey = workflowKey →
      ∃ old, view.run runKey = some old ∧ old.workflowKey = workflowKey) :
    Respects workflowKey before (view.putRun runKey run) :=
  ⟨hrespects.status, hrespects.startsNone.putRun hknown⟩

theorem reaped {maxAttempts : Int} {now : Instant} {runs : List CloudWorkflowRunRecord}
    {after : WorkflowsView} (hreaped : Reaped maxAttempts now runs view after)
    (hothers : ∀ run ∈ runs, run.workflowKey ≠ workflowKey)
    (hrespects : Respects workflowKey before view) : Respects workflowKey before after := by
  induction hreaped with
  | done => exact hrespects
  | passed _ ih => exact ih (List.forall_mem_cons.mp hothers).2 hrespects
  | @expired run rest view after record hrecord hrun hlive _ ih =>
    obtain ⟨hother, hrest⟩ := List.forall_mem_cons.mp hothers
    have hkey : (run.claimExpired (reapAction maxAttempts run) now).workflowKey =
        run.workflowKey := by
      unfold CloudWorkflowRunRecord.claimExpired
      split <;> rfl
    apply ih hrest
    exact (hrespects.putRun fun h => ⟨run, hrun, hkey ▸ h⟩).putWorkflow fun h => absurd h hother

end Respects

end WorkflowsView

/-- The condition on one step: the user decides nothing else about the workflow, no
session is attached to a run of it, a finish of its live run names the status that follows
from the workflow as it stands, and none of its claims is reaped. -/
structure KeepsDecision (context : StoreContext σ) (workflowKey : String)
    (store : ControlPlaneStore σ) (request : StoreRequest) : Prop where
  undecided : ∀ input, request.operation = .workflow (.updateWorkflowStatus input) →
    key input.tenantId input.workflowId ≠ workflowKey
  unattached : ∀ input run, request.operation = .workflow (.attachWorkflowRunSession input) →
    key input.tenantId input.workflowId = workflowKey →
      store.workflows.run? (key input.tenantId input.runId) = some run →
        run.workflowId = input.workflowId →
          WorkflowsDomain.attachable run input request.now ≠ .ok ()
  finish : ∀ input run record, request.operation.finish context.texts = some input →
    key input.tenantId input.workflowId = workflowKey →
      store.workflows.run? (key input.tenantId input.runId) = some run →
        run.workflowId = input.workflowId → run.live = true →
          (∀ operation, request.operation = .workflow operation →
            WorkflowsDomain.finishable (store.workflowsHost context request.now) run input =
              .ok ()) →
            store.workflows.view.workflow workflowKey = some record →
              input.nextStatus = nextWorkflowStatusAfterRun record
  unexpired : ∀ maxAttempts limit,
    request.operation = .workflow (.reapExpiredWorkflowClaims maxAttempts limit) →
      ∀ run ∈ store.workflows.expiredClaims context.env (store.workflowsHost context request.now)
        request.now limit, run.workflowKey ≠ workflowKey

/-- One step leaves a paused or archived workflow as it is, starts no run of it and hands
none out. -/
theorem WorkflowEffect.respects {answer : StoreAnswer}
    (heffect : WorkflowEffect context store request.now request.operation answer after)
    (hkeeps : KeepsDecision context workflowKey store request)
    (hheld : store.workflows.view.statusOf workflowKey = some status)
    (hstatus : status = .paused ∨ status = .archived) :
    store.workflows.view.Respects workflowKey after := by
  obtain ⟨_, nonce, _⟩ := request
  -- the record of the workflow carries the decision
  have hrecorded : ∀ {record}, store.workflows.view.workflow workflowKey = some record →
      record.status = .paused ∨ record.status = .archived := by
    intro record hrecord
    rw [statusOf_some hrecord] at hheld
    rwa [Option.some.inj hheld]
  -- so a workflow that is active or running is another one
  have hother : ∀ {other record}, store.workflows.view.workflow other = some record →
      record.status ≠ .paused → record.status ≠ .archived → other ≠ workflowKey := by
    rintro _ record hrecord hpaused harchived rfl
    exact (hrecorded hrecord).elim hpaused harchived
  cases heffect with
  | unchanged => exact .refl _
  | begun _ hnew =>
    apply WorkflowsView.Respects.putWorkflow (.refl _)
    intro h
    rw [WorkflowsView.statusOf, ← h, hnew] at hheld
    simp at hheld
  | @decided input =>
    apply WorkflowsView.Respects.putWorkflow (.refl _)
    exact fun h => absurd h (hkeeps.undecided input rfl)
  | @rotated input _ record updatedAt hrecord =>
    apply WorkflowsView.Respects.putWorkflow (.refl _)
    intro h
    rw [h] at hrecord
    have hsame := statusOf_some hrecord
    exact hsame
  | @created input record run nonce createdAt hrecord hrunnable hfree hrun =>
    have hworkflow : key input.tenantId input.workflowId ≠ workflowKey := by
      have hrested := not_mayRun_of_runnable hrunnable
      exact hother hrecord (fun h => hrested (.inr (.inl h))) fun h => hrested (.inr (.inr h))
    have hkey := (WorkflowsDomain.createdRun_keys context.texts input record nonce createdAt).2
    rw [← hrun] at hkey
    apply WorkflowsView.Respects.putWorkflow _ fun h => absurd h hworkflow
    exact .putRun (.refl _) fun h => absurd (hkey.symm.trans h) hworkflow
  | @retried input run record claimedBy claimToken expiresAt hretry hrun hlive hrecord hrunning =>
    have hworkflow : run.workflowKey ≠ workflowKey :=
      hother hrecord (by simp [hrunning]) (by simp [hrunning])
    apply WorkflowsView.Respects.putWorkflow _ fun h => absurd h hworkflow
    exact .putRun (.refl _) fun h => ⟨run, hrun, h⟩
  | @scheduled input record run scheduledFor claimedBy nonce hretry hdue hrecord hactive hrun =>
    have hworkflow : record.key ≠ workflowKey :=
      hother hrecord (by simp [hactive]) (by simp [hactive])
    have hkey : run.workflowKey = record.key := by
      rw [hrun]
      rfl
    apply WorkflowsView.Respects.putWorkflow _ fun h => absurd h hworkflow
    exact .putRun (.refl _) fun h => absurd (hkey.symm.trans h) hworkflow
  | reaped hreaped => exact .reaped hreaped (hkeeps.unexpired _ _ rfl) (.refl _)
  | @attached input _ run record startedAt hrun hworkflow hattachable hrecord =>
    apply WorkflowsView.Respects.putWorkflow
    · exact .putRun (.refl _) fun h => ⟨run, hrun, h⟩
    · exact fun h => absurd hattachable (hkeeps.unattached input run rfl h hrun hworkflow)
  | @finished _ _ input run record finishedAt hfinish hrun hworkflow hlive hadmitted hrecord =>
    apply WorkflowsView.Respects.putWorkflow
    · exact .putRun (.refl _) fun h => ⟨run, hrun, h⟩
    · intro h
      rw [h] at hrecord
      rw [statusOf_some hrecord]
      have hnext := hkeeps.finish input run record hfinish h hrun hworkflow hlive hadmitted hrecord
      rw [nextWorkflowStatusAfterRun_of_decided (hrecorded hrecord)] at hnext
      exact congrArg some hnext.symm

theorem WorkflowEffect.claimed_status {input : ClaimDueWorkflowRunInput}
    {run : CloudWorkflowRunRecord}
    (heffect : WorkflowEffect context store now (.workflow (.claimDueWorkflowRun input))
      (.claimed (some (record, run))) after) :
    store.workflows.view.statusOf run.workflowKey = some .active ∨
      store.workflows.view.statusOf run.workflowKey = some .running := by
  cases heffect with
  | unchanged hclaims => simp [StoreOperation.claims] at hclaims
  | @retried _ run record claimedBy claimToken expiresAt _ _ _ hrecord hrunning =>
    refine .inr ?_
    rw [← hrunning]
    exact statusOf_some hrecord
  | @scheduled _ record run scheduledFor claimedBy nonce _ _ hrecord hactive hrun =>
    refine .inl ?_
    have hkey : run.workflowKey = record.key := by
      rw [hrun]
      rfl
    rw [← hactive, hkey]
    exact statusOf_some hrecord
  | finished _ hfinish => simp [StoreOperation.finish] at hfinish

/-- The step leaves the workflow in the status that the user decided on; it hands out no
run of it and enters none. -/
structure DecisionKept (workflowKey : String) (status : WorkflowStatus) (moment : StoreMoment σ) :
    Prop where
  status : moment.after.workflows.view.statusOf workflowKey = some status
  unclaimed : ∀ input record run,
    moment.input.operation = .workflow (.claimDueWorkflowRun input) →
      moment.output = .claimed (some (record, run)) → run.workflowKey ≠ workflowKey
  startsNone : moment.before.workflows.view.StartsNone workflowKey moment.after.workflows.view

theorem updateWorkflowStatus_decides (context : StoreContext σ) (htidy : store.workflows.Tidy)
    {now : Instant} {input : UpdateWorkflowStatusInput}
    (hanswer : (store.perform context ⟨now, nonce, .workflow (.updateWorkflowStatus input)⟩).1 =
      .workflow (some record)) :
    DecisionKept (key input.tenantId input.workflowId) input.status
      ((ControlPlaneStore.machine context).moment store
        ⟨now, nonce, .workflow (.updateWorkflowStatus input)⟩) := by
  have heffect := perform_effect context htidy ⟨now, nonce, .workflow (.updateWorkflowStatus input)⟩
  rw [hanswer] at heffect
  refine ⟨?_, fun _ _ _ h => absurd h (by simp [Machine.moment]), ?_⟩
  · change WorkflowsView.statusOf (store.perform context _).2.workflows.view _ = _
    generalize (store.perform context _).2.workflows.view = after at heffect
    cases heffect with
    | unchanged _ hundecided => exact absurd rfl (hundecided input record rfl)
    | decided => rw [statusOf_putWorkflow, if_pos rfl]
    | finished _ hfinish => simp [StoreOperation.finish] at hfinish
  · change WorkflowsView.StartsNone _ _ (store.perform context _).2.workflows.view
    generalize (store.perform context _).2.workflows.view = after at heffect
    cases heffect with
    | unchanged => exact .refl _
    | decided => exact .putWorkflow (.refl _) _ _
    | finished _ hfinish => simp [StoreOperation.finish] at hfinish

theorem perform_decisionKept (context : StoreContext σ) (htidy : store.workflows.Tidy)
    (hstatus : status = .paused ∨ status = .archived)
    (hheld : store.workflows.view.statusOf workflowKey = some status) (request : StoreRequest)
    (hkeeps : KeepsDecision context workflowKey store request) :
    DecisionKept workflowKey status
      ((ControlPlaneStore.machine context).moment store request) := by
  have heffect := perform_effect context htidy request
  have hrespects := heffect.respects hkeeps hheld hstatus
  refine ⟨hrespects.status.trans hheld, ?_, hrespects.startsNone⟩
  intro _ _ _ hoperation hanswer hkey
  rw [show request.operation = _ from hoperation,
    show (store.perform context request).1 = _ from hanswer] at heffect
  have hactive := heffect.claimed_status
  rw [hkey, hheld] at hactive
  rcases hstatus with rfl | rfl <;> simp at hactive

/-- After a user's pause or archive was answered, in every run whose steps meet the
condition, the workflow stays in that status and none of its runs is started. -/
theorem run_keeps_decision (context : StoreContext σ) (neighbours : σ)
    (first later : List StoreRequest) (now : Instant) (nonce : String)
    (input : UpdateWorkflowStatusInput) (record : CloudWorkflowRecord)
    (hstatus : input.status = .paused ∨ input.status = .archived)
    (hanswer : (((ControlPlaneStore.machine context).run (.initial neighbours) first).perform
      context ⟨now, nonce, .workflow (.updateWorkflowStatus input)⟩).1 = .workflow (some record))
    (hsteps : ∀ moment ∈ (ControlPlaneStore.machine context).history
      ((ControlPlaneStore.machine context).run (.initial neighbours)
        (first ++ [⟨now, nonce, .workflow (.updateWorkflowStatus input)⟩])) later,
      KeepsDecision context (key input.tenantId input.workflowId) moment.before moment.input) :
    ∀ moment ∈ (ControlPlaneStore.machine context).history
      ((ControlPlaneStore.machine context).run (.initial neighbours) first)
        (⟨now, nonce, .workflow (.updateWorkflowStatus input)⟩ :: later),
      DecisionKept (key input.tenantId input.workflowId) input.status moment := by
  have htidy := (ControlPlaneStore.machine context).run_invariant
    (fun store => store.workflows.Tidy)
    (fun store request htidy => perform_tidy context htidy request)
    (.initial neighbours) WorkflowsDomain.empty_tidy first
  rw [(ControlPlaneStore.machine context).run_append] at hsteps
  generalize (ControlPlaneStore.machine context).run (.initial neighbours) first = store at *
  have hdecided := updateWorkflowStatus_decides context htidy hanswer
  have hlater := (ControlPlaneStore.machine context).history_invariant_of
    (fun moment => KeepsDecision context (key input.tenantId input.workflowId) moment.before
      moment.input)
    (fun past store => store.workflows.Tidy ∧
      store.workflows.view.statusOf (key input.tenantId input.workflowId) = some input.status ∧
        ∀ moment ∈ past, DecisionKept (key input.tenantId input.workflowId) input.status moment)
    ?_ _ ⟨perform_tidy context htidy _, hdecided.status, by simp⟩ later hsteps
  · exact List.forall_mem_cons.mpr ⟨hdecided, hlater.2.2⟩
  · rintro past store request ⟨htidy, hheld, hpast⟩ hkeeps
    have hkept := perform_decisionKept context htidy hstatus hheld request hkeeps
    refine ⟨perform_tidy context htidy request, hkept.status, ?_⟩
    intro moment hmem
    rcases List.mem_append.mp hmem with hold | hnew
    · exact hpast moment hold
    · rw [List.mem_singleton.mp hnew]
      exact hkept

/-- The completion of the run `r`, as the service prepares it from what it reads. -/
def preparedCompletion (read : WorkflowsDomain) (now : Instant) : Option CompleteWorkflowRunInput :=
  prepareWorkflowRunCompletion (fun _ _ => none) "t" none none (read.run? (key "t" "r"))
    (fun workflowId => read.view.workflow (key "t" workflowId)) now

/-- A run that was started before the archive makes the workflow running again when its
session is attached, a claim of it that expires does so when it is reaped, and its
completion, prepared before the archive, makes the workflow active. -/
theorem archived_workflow_revived :
    (workflowsAfter [beginWorkflow, startRun 1 "r" none, decideStatus 2 .archived,
        attachRun 3 "r" none]).view.statusOf (key "t" "w") = some .running ∧
      (workflowsAfter [beginWorkflow, startRun 1 "r" (some "w1"), decideStatus 2 .archived,
        ⟨20, "", .workflow (.reapExpiredWorkflowClaims none none)⟩]).view.statusOf
          (key "t" "w") = some .running ∧
      (preparedCompletion (workflowsAfter [beginWorkflow, startRun 1 "r" none]) 2).map
        (fun completion =>
          (workflowsAfter [beginWorkflow, startRun 1 "r" none, decideStatus 2 .archived,
            ⟨3, "", .workflow (.completeWorkflowRun completion)⟩]).view.statusOf
              (key "t" "w")) = some (some .active) := by
  decide +kernel

theorem KeepsDecision.of_other
    (hdecide : ∀ input, request.operation ≠ .workflow (.updateWorkflowStatus input))
    (hattach : ∀ input, request.operation ≠ .workflow (.attachWorkflowRunSession input))
    (hfinish : request.operation.finish context.texts = none)
    (hreap : ∀ attempts limit,
      request.operation ≠ .workflow (.reapExpiredWorkflowClaims attempts limit)) :
    KeepsDecision context workflowKey store request := by
  refine ⟨fun _ h => absurd h (hdecide _), fun _ _ h => absurd h (hattach _), ?_,
    fun _ _ h => absurd h (hreap _ _)⟩
  intro _ _ _ h
  rw [hfinish] at h
  simp at h

theorem KeepsDecision.of_completion {completion : CompleteWorkflowRunInput}
    (hdecided : completion.nextStatus = .paused ∨ completion.nextStatus = .archived)
    (hheld : store.workflows.view.statusOf workflowKey = some completion.nextStatus) :
    KeepsDecision context workflowKey store
      ⟨now, nonce, .workflow (.completeWorkflowRun completion)⟩ := by
  refine ⟨by simp, by simp, ?_, by simp⟩
  intro _ _ _ hfinish _ _ _ _ _ hrecord
  obtain rfl := Option.some.inj hfinish
  rw [statusOf_some hrecord, Option.some.injEq] at hheld
  rw [← hheld] at hdecided
  rw [nextWorkflowStatusAfterRun_of_decided hdecided, hheld]
  rfl

/-- The run completes after the archive, and the workflow is not run again. -/
def afterArchive : List StoreRequest := [completeRun 3 "r" .archived, claimDue 4 "2"]

theorem archived_workflow_kept :
    List.Forall (DecisionKept (key "t" "w") .archived)
      ((ControlPlaneStore.machine plainContext).history
        ((ControlPlaneStore.machine plainContext).run (.initial (Neighbours.single "t" "u"))
          [beginWorkflow, startRun 1 "r" none]) (decideStatus 2 .archived :: afterArchive)) := by
  apply List.forall_iff_forall_mem.mpr
  apply run_keeps_decision plainContext (Neighbours.single "t" "u")
    [beginWorkflow, startRun 1 "r" none] afterArchive 2 ""
  · exact .inr rfl
  · rfl
  · refine List.forall_mem_cons.mpr ⟨?_, List.forall_mem_cons.mpr ⟨?_, List.forall_mem_nil _⟩⟩
    · exact .of_completion (.inr rfl) (by decide +kernel)
    · exact .of_other (by simp [claimDue, Machine.moment]) (by simp [claimDue, Machine.moment]) rfl
        (by simp [claimDue, Machine.moment])

end OpenCowork.ControlPlane
