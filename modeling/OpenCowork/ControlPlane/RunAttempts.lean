import OpenCowork.ControlPlane.WorkflowEffects

/-! # How often a run is claimed

A run counts its claims. The reaper fails a run whose claims are used up, but attaching a
session drops the claim without looking at the count, after which the run can be taken up
once more.
-/

namespace OpenCowork.ControlPlane

open Foundation WorkflowsView

variable {σ : Type} {store : ControlPlaneStore σ} {maxAttempts : Int} {context : StoreContext σ}
  {request : StoreRequest}

abbrev StoreMoment (σ : Type) := Moment (ControlPlaneStore σ) StoreRequest StoreAnswer

namespace WorkflowsView

variable {maxAttempts : Int} {view : WorkflowsView} {runKey : String} {run : CloudWorkflowRunRecord}
  {now : Instant} {runs : List CloudWorkflowRunRecord} {after : WorkflowsView}

def attempts (view : WorkflowsView) (runKey : String) : Nat :=
  ((view.run runKey).map CloudWorkflowRunRecord.attemptCount).getD 0

@[simp] theorem attempts_putWorkflow (view : WorkflowsView) (workflowKey : String)
    (record : CloudWorkflowRecord) :
    (view.putWorkflow workflowKey record).attempts = view.attempts := rfl

theorem attempts_putRun (view : WorkflowsView) (runKey other : String)
    (run : CloudWorkflowRunRecord) :
    (view.putRun runKey run).attempts other =
      if other = runKey then run.attemptCount else view.attempts other := by
  rw [attempts, run_putRun]
  split <;> rfl

theorem attempts_of_run
    (hrun : view.run runKey = some run) : view.attempts runKey = run.attemptCount := by
  rw [attempts, hrun]
  rfl

theorem attempts_putRun_same (hrun : view.run runKey = some run)
    {updated : CloudWorkflowRunRecord} (hcount : updated.attemptCount = run.attemptCount) :
    (view.putRun runKey updated).attempts = view.attempts := by
  ext1 other
  rw [attempts_putRun]
  split
  next h =>
    subst h
    rw [hcount, attempts_of_run hrun]
  · rfl

/-- No run was claimed too often, and one that waits for a claim has one left. -/
structure WithinAttempts (maxAttempts : Int) (view : WorkflowsView) : Prop where
  bounded : ∀ runKey run, view.run runKey = some run → (run.attemptCount : Int) ≤ maxAttempts
  waiting : ∀ runKey run, view.run runKey = some run → run.status = .queued →
    run.claimToken = none → (run.attemptCount : Int) < maxAttempts

theorem WithinAttempts.putWorkflow
    (hwithin : view.WithinAttempts maxAttempts) (workflowKey : String)
    (record : CloudWorkflowRecord) :
    (view.putWorkflow workflowKey record).WithinAttempts maxAttempts :=
  ⟨hwithin.bounded, hwithin.waiting⟩

theorem WithinAttempts.putRun
    (hwithin : view.WithinAttempts maxAttempts) (runKey : String) {run : CloudWorkflowRunRecord}
    (hbounded : (run.attemptCount : Int) ≤ maxAttempts)
    (hwaiting : run.status = .queued → run.claimToken = none →
      (run.attemptCount : Int) < maxAttempts) :
    (view.putRun runKey run).WithinAttempts maxAttempts := by
  constructor
  · intro other found hfound
    rw [run_putRun] at hfound
    split at hfound
    · obtain rfl := Option.some.inj hfound
      exact hbounded
    · exact hwithin.bounded other found hfound
  · intro other found hfound
    rw [run_putRun] at hfound
    split at hfound
    · obtain rfl := Option.some.inj hfound
      exact hwaiting
    · exact hwithin.waiting other found hfound

variable (hreaped : Reaped maxAttempts now runs view after)
include hreaped

theorem Reaped.attempts : after.attempts = view.attempts := by
  induction hreaped with
  | done => rfl
  | passed _ ih => exact ih
  | @expired run rest view after record hrecord hrun hlive _ ih =>
    rw [ih, expire, attempts_putWorkflow]
    apply attempts_putRun_same hrun
    unfold CloudWorkflowRunRecord.claimExpired
    split <;> rfl

theorem Reaped.within
    (hwithin : view.WithinAttempts maxAttempts) : after.WithinAttempts maxAttempts := by
  induction hreaped with
  | done => exact hwithin
  | passed _ ih => exact ih hwithin
  | @expired run rest view after record hrecord hrun hlive _ ih =>
    apply ih
    apply (hwithin.putRun run.tableKey ?_ ?_).putWorkflow
    · have hbounded := hwithin.bounded _ _ hrun
      unfold CloudWorkflowRunRecord.claimExpired
      split <;> exact hbounded
    · unfold CloudWorkflowRunRecord.claimExpired reapAction
      by_cases hexhausted : maxAttempts ≤ run.attemptCount
      · simp [hexhausted]
      · have hleft := Int.not_le.mp hexhausted
        intro _ _
        rw [if_neg hexhausted]
        exact hleft

end WorkflowsView

namespace StoreOperation

variable {texts : WorkflowsEnvironment} {operation : StoreOperation}
  {input : FinishWorkflowRunInput}

theorem claims_of_finish (hfinish : operation.finish texts = some input)
    (before : WorkflowsView) (answer : StoreAnswer) : operation.claims before answer = [] := by
  cases operation with
  | workflow operation => cases operation <;> first | rfl | simp [finish] at hfinish
  | _ => rfl

theorem finish_status (hfinish : operation.finish texts = some input) :
    input.status = .completed ∨ input.status = .failed := by
  unfold finish at hfinish
  split at hfinish
  · obtain rfl := Option.some.inj hfinish
    exact .inl rfl
  · obtain rfl := Option.some.inj hfinish
    exact .inr rfl
  · obtain ⟨terminal, -, rfl⟩ := Option.map_eq_some_iff.mp hfinish
    cases terminal with
    | completed => exact .inl rfl
    | failed => exact .inr rfl
  · simp at hfinish

end StoreOperation

theorem createdRun_attempts (texts : WorkflowsEnvironment) (input : CreateWorkflowRunInput)
    (workflow : CloudWorkflowRecord) (nonce : String) (createdAt : Instant) :
    let run := WorkflowsDomain.createdRun texts input workflow nonce createdAt
    (run.claimToken = none ∧ run.attemptCount = 0) ∨
      (run.claimToken.isSome = true ∧ run.attemptCount = 1) := by
  unfold WorkflowsDomain.createdRun
  cases optionalTrimmedText input.claimedBy with
  | none => exact .inl ⟨rfl, rfl⟩
  | some => exact .inr ⟨rfl, rfl⟩

namespace WorkflowEffect

variable {context : StoreContext σ} {store : ControlPlaneStore σ} {now : Instant}
  {operation : StoreOperation} {answer : StoreAnswer} {after : WorkflowsView}

theorem attempts (heffect : WorkflowEffect context store now operation answer after)
    (hfresh : ∀ input, operation = .workflow (.claimDueWorkflowRun input) →
      WorkflowsDomain.RunIdFree context.env (store.workflowsHost context now) store.workflows
        input now) (runKey : String) :
    after.attempts runKey = store.workflows.view.attempts runKey +
      (operation.claims store.workflows.view answer).count runKey := by
  cases heffect with
  | unchanged hclaims => rw [hclaims, List.count_nil, Nat.add_zero]
  | begun | decided | rotated => rfl
  | @created input record run nonce createdAt hrecord hrunnable hfree hrun =>
    obtain ⟨htable, -⟩ := WorkflowsDomain.createdRun_keys context.texts input record nonce createdAt
    rw [← hrun] at htable
    rw [attempts_putWorkflow, attempts_putRun]
    have hbefore : store.workflows.view.attempts run.tableKey = 0 := by
      rw [WorkflowsView.attempts, htable, hfree]
      rfl
    rcases createdRun_attempts context.texts input record nonce createdAt with
      ⟨htoken, hcount⟩ | ⟨htoken, hcount⟩ <;> rw [← hrun] at htoken hcount
    · simp only [StoreOperation.claims, htoken, Option.isSome_none, Bool.false_eq_true, and_false,
        if_false, List.count_nil, Nat.add_zero, hcount]
      split
      next h => rw [h, hbefore]
      · rfl
    · simp only [StoreOperation.claims, hfree, htoken, and_self, if_true, hcount,
        List.count_singleton, beq_iff_eq]
      by_cases h : runKey = run.tableKey
      · rw [if_pos h, if_pos h.symm, h, hbefore]
      · rw [if_neg h, if_neg (Ne.symm h), Nat.add_zero]
  | @retried input run record claimedBy claimToken expiresAt hretry hrun =>
    rw [attempts_putWorkflow, attempts_putRun]
    change _ = _ + List.count runKey [run.tableKey]
    rw [List.count_singleton]
    by_cases h : runKey = run.tableKey
    · rw [if_pos h, h, attempts_of_run hrun]
      simp [CloudWorkflowRunRecord.claimed]
    · rw [if_neg h]
      simp [Ne.symm h]
  | @scheduled input record run scheduledFor claimedBy nonce hretry hdue hrecord hactive hrun =>
    have hfree := hfresh input rfl hretry _ hdue
    have hbefore : store.workflows.view.attempts run.tableKey = 0 := by
      subst hrun
      exact congrArg (fun run => (run.map CloudWorkflowRunRecord.attemptCount).getD 0) hfree
    have hcount : run.attemptCount = 1 := by
      subst hrun
      rfl
    rw [attempts_putWorkflow, attempts_putRun, hcount]
    change _ = _ + List.count runKey [run.tableKey]
    rw [List.count_singleton]
    by_cases h : runKey = run.tableKey
    · rw [if_pos h, h, hbefore]
      simp
    · rw [if_neg h]
      simp [Ne.symm h]
  | reaped hreaped =>
    rw [hreaped.attempts]
    rfl
  | @attached input _ run record startedAt hrun =>
    have hcount : (run.attached input.sessionId startedAt).attemptCount = run.attemptCount := rfl
    rw [attempts_putWorkflow, attempts_putRun_same hrun hcount]
    rfl
  | @finished _ _ input run record finishedAt hfinish hrun =>
    have hcount : (run.finished input finishedAt).attemptCount = run.attemptCount := rfl
    rw [StoreOperation.claims_of_finish hfinish, attempts_putWorkflow,
      attempts_putRun_same hrun hcount]
    rfl

end WorkflowEffect

theorem retryRun_unclaimed {env : Environment} {host : WorkflowsHost σ} {domain : WorkflowsDomain}
    {run : CloudWorkflowRunRecord} (hretry : domain.retryRun env host = some run) :
    run.claimToken = none := by
  have hmem := List.mem_of_mem_head? hretry
  rw [List.mem_insertionSort, List.mem_filter] at hmem
  simp only [WorkflowsDomain.retryable, Bool.and_eq_true, decide_eq_true_eq] at hmem
  exact hmem.2.2

/-- The condition on one step: the reapers share one limit, a scheduled run gets an id that
no run has, and a run that is taken up again although it was attached to a session has a
claim left. -/
structure KeepsAttempts (context : StoreContext σ) (maxAttempts : Int)
    (store : ControlPlaneStore σ) (request : StoreRequest) : Prop where
  limit : ∀ attempts limit,
    request.operation = .workflow (.reapExpiredWorkflowClaims attempts limit) →
      attemptLimit attempts = maxAttempts
  fresh : ∀ input, request.operation = .workflow (.claimDueWorkflowRun input) →
    WorkflowsDomain.RunIdFree context.env (store.workflowsHost context request.now)
      store.workflows input request.now
  attached : ∀ input, request.operation = .workflow (.claimDueWorkflowRun input) →
    ∀ run, store.workflows.retryRun context.env (store.workflowsHost context request.now) =
      some run → run.status = .running → (run.attemptCount : Int) < maxAttempts

theorem WorkflowEffect.within {answer : StoreAnswer} {after : WorkflowsView}
    (hone : 1 ≤ maxAttempts)
    (heffect : WorkflowEffect context store request.now request.operation answer after)
    (hkeeps : KeepsAttempts context maxAttempts store request)
    (hwithin : store.workflows.view.WithinAttempts maxAttempts) :
    after.WithinAttempts maxAttempts := by
  obtain ⟨_, nonce, _⟩ := request
  cases heffect with
  | unchanged => exact hwithin
  | begun | decided | rotated => exact hwithin.putWorkflow _ _
  | @created input record run nonce createdAt hrecord hrunnable hfree hrun =>
    apply (hwithin.putRun run.tableKey ?_ ?_).putWorkflow
    all_goals
      rcases createdRun_attempts context.texts input record nonce createdAt with
        ⟨htoken, hcount⟩ | ⟨htoken, hcount⟩ <;> rw [← hrun] at htoken hcount
    · omega
    · omega
    · intro _ _
      omega
    · intro _ hnone
      rw [hnone] at htoken
      simp at htoken
  | @retried input run record claimedBy claimToken expiresAt hretry hrun hlive =>
    -- a queued run waits with a claim left, an attached one has it by the condition
    have hleft : (run.attemptCount : Int) < maxAttempts := by
      by_cases hqueued : run.status = .queued
      · exact hwithin.waiting _ run hrun hqueued (retryRun_unclaimed hretry)
      · have hrunning : run.status = .running := by
          simpa [CloudWorkflowRunRecord.live, hqueued] using hlive
        exact hkeeps.attached input rfl run hretry hrunning
    apply (hwithin.putRun run.tableKey ?_ ?_).putWorkflow
    · simp only [CloudWorkflowRunRecord.claimed]
      omega
    · intro _ hnone
      simp [CloudWorkflowRunRecord.claimed] at hnone
  | @scheduled input record run scheduledFor claimedBy nonce hretry hdue hrecord hactive hrun =>
    subst hrun
    apply (hwithin.putRun _ ?_ ?_).putWorkflow
    · exact hone
    · intro _ hnone
      simp [WorkflowsDomain.scheduledRun, CloudWorkflowRunRecord.claimed] at hnone
  | reaped hreaped =>
    rw [hkeeps.limit _ _ rfl] at hreaped
    exact hreaped.within hwithin
  | @attached input _ run record startedAt hrun =>
    apply (hwithin.putRun _ ?_ ?_).putWorkflow
    · exact hwithin.bounded _ run hrun
    · intro hqueued
      simp [CloudWorkflowRunRecord.attached] at hqueued
  | @finished _ _ input run record finishedAt hfinish hrun =>
    apply (hwithin.putRun _ ?_ ?_).putWorkflow
    · exact hwithin.bounded _ run hrun
    · intro hqueued
      have hstatus := StoreOperation.finish_status hfinish
      rw [show input.status = .queued from hqueued] at hstatus
      simp at hstatus

def claimCount (runKey : String) (history : List (StoreMoment σ)) : Nat :=
  (history.flatMap fun moment =>
    moment.input.operation.claims moment.before.workflows.view moment.output).count runKey

/-- The runs count their claims and have not used up more than the limit. -/
structure RunsCounted (maxAttempts : Int) (history : List (StoreMoment σ))
    (store : ControlPlaneStore σ) : Prop where
  tidy : store.workflows.Tidy
  counted : ∀ runKey, claimCount runKey history = store.workflows.view.attempts runKey
  within : store.workflows.view.WithinAttempts maxAttempts

theorem RunsCounted.claims_le {history : List (StoreMoment σ)} (hone : 1 ≤ maxAttempts)
    (hcounted : RunsCounted maxAttempts history store) (runKey : String) :
    (claimCount runKey history : Int) ≤ maxAttempts := by
  rw [hcounted.counted]
  cases hrun : store.workflows.view.run runKey with
  | none =>
    rw [WorkflowsView.attempts, hrun]
    exact Int.le_trans (by decide) hone
  | some run =>
    rw [attempts_of_run hrun]
    exact hcounted.within.bounded runKey run hrun

/-- In every run whose steps meet the condition, no workflow run is claimed for execution
more often than the limit allows, whatever expires, is reaped, attached or taken up again. -/
theorem run_claims_bounded (context : StoreContext σ) (neighbours : σ) (maxAttempts : Option ℚ)
    (requests : List StoreRequest)
    (hsteps : ∀ moment ∈ (ControlPlaneStore.machine context).history (.initial neighbours) requests,
      KeepsAttempts context (attemptLimit maxAttempts) moment.before moment.input)
    (runKey : String) :
    (claimCount runKey ((ControlPlaneStore.machine context).history (.initial neighbours)
      requests) : Int) ≤ attemptLimit maxAttempts := by
  have hone : 1 ≤ attemptLimit maxAttempts := le_max_left _ _
  refine RunsCounted.claims_le hone ((ControlPlaneStore.machine context).history_invariant_of
    (fun moment => KeepsAttempts context (attemptLimit maxAttempts) moment.before moment.input)
    (RunsCounted (attemptLimit maxAttempts)) ?_ (.initial neighbours) ?_ requests hsteps) runKey
  · intro past store request hpast hkeeps
    have heffect := ControlPlaneStore.perform_effect context hpast.tidy request
    refine ⟨ControlPlaneStore.perform_tidy context hpast.tidy request, ?_,
      heffect.within hone hkeeps hpast.within⟩
    intro other
    have hcount := heffect.attempts hkeeps.fresh other
    rw [← hpast.counted] at hcount
    rw [claimCount, List.flatMap_append, List.count_append, List.flatMap_singleton]
    exact hcount.symm
  · refine ⟨WorkflowsDomain.empty_tidy, fun _ => rfl, ?_, ?_⟩
    · intro other run hrun
      exact absurd hrun (by simp [ControlPlaneStore.initial, WorkflowsDomain.view,
        WorkflowsDomain.run?, WorkflowsDomain.empty])
    · intro other run hrun
      exact absurd hrun (by simp [ControlPlaneStore.initial, WorkflowsDomain.view,
        WorkflowsDomain.run?, WorkflowsDomain.empty])

/-- The workflow `w` of the single tenant, without a schedule. -/
def beginWorkflow : StoreRequest :=
  ⟨0, "", .workflow (.createWorkflow
    { tenantId := "t"
      userId := "u"
      workflowId := "w"
      title := "Daily"
      authored := .null
      triggers := []
      webhookSecrets := []
      nextRunAt := none
      createdAt := none })⟩

/-- A manual run of it, claimed at once where a worker is named. -/
def startRun (now : Instant) (runId : String) (claimedBy : Option String) : StoreRequest :=
  ⟨now, "1", .workflow (.createWorkflowRun
    { tenantId := "t"
      userId := "u"
      workflowId := "w"
      runId := runId
      sessionId := some "s"
      triggerType := .manual
      triggerPayload := none
      claimedBy := claimedBy
      leaseTtlMs := some 10
      createdAt := none
      quota := none })⟩

def attachRun (now : Instant) (runId : String) (claimToken : Option String) : StoreRequest :=
  ⟨now, "", .workflow (.attachWorkflowRunSession
    { tenantId := "t"
      workflowId := "w"
      runId := runId
      sessionId := "s"
      claimToken := claimToken
      startedAt := none })⟩

/-- A scheduler looks for work, with the given nonce for its claim token. -/
def claimDue (now : Instant) (nonce : String) : StoreRequest :=
  ⟨now, nonce, .workflow (.claimDueWorkflowRun
    { runId := "due"
      sessionId := none
      claimedBy := some "w1"
      leaseTtlMs := some 10
      quota := none })⟩

/-- The claim token that `claimDue` and `startRun` issue for a run. -/
def tokenOf (runId nonce : String) : String :=
  WorkflowsDomain.createWorkClaimToken plainTexts "t" runId "w1" nonce

def attempt (nonce : String) : List StoreRequest :=
  [claimDue 2 nonce, attachRun 2 "r" (some (tokenOf "r" nonce))]

/-- A run is claimed and attached, and its work is never enqueued: it is taken up again and
again, four times within a limit of three. -/
def attachedAgain : List StoreRequest :=
  [beginWorkflow, startRun 1 "r" (some "w1"), attachRun 1 "r" (some (tokenOf "r" "1"))] ++
    attempt "2" ++ attempt "3" ++ [claimDue 2 "4"]

theorem attached_run_exceeds_attempts :
    claimCount (key "t" "r") ((ControlPlaneStore.machine plainContext).history
      (.initial (Neighbours.single "t" "u")) attachedAgain) = 4 ∧ attemptLimit none = 3 := by
  decide +kernel

/-- A run whose claim expires is reaped and claimed again. -/
def reapedOnce : List StoreRequest :=
  [beginWorkflow, startRun 1 "r" (some "w1"),
    ⟨20, "", .workflow (.reapExpiredWorkflowClaims none none)⟩, claimDue 21 "2"]

theorem KeepsAttempts.of_other
    (hreap : ∀ attempts limit,
      request.operation ≠ .workflow (.reapExpiredWorkflowClaims attempts limit))
    (hclaim : ∀ input, request.operation ≠ .workflow (.claimDueWorkflowRun input)) :
    KeepsAttempts context maxAttempts store request :=
  ⟨fun _ _ h => absurd h (hreap _ _), fun _ h => absurd h (hclaim _),
    fun _ h => absurd h (hclaim _)⟩

theorem KeepsAttempts.of_queued {now : Instant} {nonce : String} {input : ClaimDueWorkflowRunInput}
    (hretry : (store.workflows.retryRun context.env (store.workflowsHost context now)).map
      CloudWorkflowRunRecord.status = some .queued) :
    KeepsAttempts context maxAttempts store ⟨now, nonce,
      .workflow (.claimDueWorkflowRun input)⟩ := by
  refine ⟨by simp, ?_, ?_⟩
  · intro _ _ hnone
    rw [hnone] at hretry
    simp at hretry
  · intro _ _ _ hrun hrunning
    rw [hrun, Option.map_some, hrunning] at hretry
    simp at hretry

theorem reaped_run_within_attempts :
    (claimCount (key "t" "r") ((ControlPlaneStore.machine plainContext).history
      (.initial (Neighbours.single "t" "u")) reapedOnce) : Int) ≤ 3 := by
  have hbegin : ∀ store, KeepsAttempts plainContext (attemptLimit none) store beginWorkflow :=
    fun store => .of_other (by simp [beginWorkflow]) (by simp [beginWorkflow])
  have hstart : ∀ store, KeepsAttempts plainContext (attemptLimit none) store
      (startRun 1 "r" (some "w1")) :=
    fun store => .of_other (by simp [startRun]) (by simp [startRun])
  have hreap : ∀ store, KeepsAttempts plainContext (attemptLimit none) store
      ⟨20, "", .workflow (.reapExpiredWorkflowClaims none none)⟩ := by
    refine fun store => ⟨fun attempts limit hoperation => ?_, by simp, by simp⟩
    obtain ⟨rfl, rfl⟩ : none = attempts ∧ none = limit := by simpa using hoperation
    rfl
  apply run_claims_bounded plainContext (Neighbours.single "t" "u") none reapedOnce
  refine List.forall_mem_cons.mpr ⟨hbegin _, List.forall_mem_cons.mpr ⟨hstart _,
    List.forall_mem_cons.mpr ⟨hreap _, List.forall_mem_cons.mpr ⟨?_, List.forall_mem_nil _⟩⟩⟩⟩
  exact KeepsAttempts.of_queued (by decide +kernel)

end OpenCowork.ControlPlane
