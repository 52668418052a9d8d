import OpenCowork.Desktop.RunLifecycle

/-! # Runs respect the user and end once

The four calls that break the rule are named by `disrupts`: attaching a session
takes no notice of a workflow that the user has halted or of a run that has ended,
a failure computes a next instant for a halted workflow too, and a workflow can be
made active again while a run of it goes on. Whatever else is called, in whatever
order, the statuses stay in order.
-/

namespace OpenCowork.Desktop

open ControlPlane Foundation

variable {Schedule : Type} (host : DesktopHost Schedule)

/-- The calls that the store should have met otherwise. -/
def disrupts (db : WorkflowDb Schedule) (call : WorkflowCall Schedule) : Bool :=
  match call.op with
  | .attachWorkflowRunSession workflowId runId _ =>
    (db.workflows.get workflowId).any (fun row => isHalted row.status) ||
      (db.runs.get runId).any fun run => hasEnded run.status
  | .markWorkflowRunFailed runId _ =>
    (db.runs.get runId).any fun run => !hasEnded run.status &&
      (db.workflows.get run.workflowId).any fun row => isHalted row.status &&
        (computeNextWorkflowRunAt host (triggersOf host db run.workflowId) call.now).isSome
  | .updateWorkflowStatus workflowId .active =>
    db.runs.values.any fun run => run.workflowId = workflowId && !hasEnded run.status
  | _ => false

def WorkflowOp.chosen : WorkflowOp Schedule → Option String
  | .updateWorkflowStatus workflowId _ => some workflowId
  | _ => none

variable {host} {chosen : String → Prop}

theorem Changes.bump {db next : WorkflowDb Schedule}
    (h : Change host chosen db next) : Changes host chosen db next.bumpWorkflowProjectionVersion :=
  .tail (.single h) .bumped

variable {db next : WorkflowDb Schedule} (error : String) {workflowId : String} (now : Int)

theorem createWorkflow_changes {normalized : WorkflowDraft Schedule} {now : Int} {id : String}
    (h : createWorkflow host normalized now db = .ok (id, next)) (chosen : String → Prop) :
    Changes host chosen db next := by
  obtain ⟨_, -, h⟩ := bind_eq_ok h
  cases h
  exact .bump (.created _ rfl)

theorem updateWorkflowStatus_changes {status : WorkflowStatus} {now : Int}
    (h : updateWorkflowStatus host workflowId status now db = .ok next)
    (hidle : isHalted status = false → ∀ runId run, db.runs.get runId = some run →
      run.workflowId = workflowId → hasEnded run.status = true)
    (hchosen : chosen workflowId) : Changes host chosen db next := by
  obtain ⟨_, -, h⟩ := bind_eq_ok h
  obtain ⟨_, -, h⟩ := bind_eq_ok h
  cases h
  refine .bump (.decided workflowId status _ hchosen (fun _ => rfl) ?_ hidle)
  intro _ hhalted
  have hne : status ≠ .active := by
    rintro rfl
    cases hhalted
  exact if_neg hne

theorem createWorkflowRun_changes {triggerType : WorkflowTriggerType}
    {payload : Option String} {now : Int} {run : Option FencedRun}
    (h : createWorkflowRun host workflowId triggerType payload now db = .ok (run, next))
    (chosen : String → Prop) : Changes host chosen db next := by
  obtain ⟨row, hrow, h⟩ := bind_eq_ok h
  have hrow := orThrow_eq_ok hrow
  obtain ⟨_, harchived, h⟩ := bind_eq_ok h
  rw [refuseIf_eq_ok] at harchived
  obtain ⟨_, hpaused, h⟩ := bind_eq_ok h
  rw [refuseIf_eq_ok] at hpaused
  obtain ⟨_, hrunning, h⟩ := bind_eq_ok h
  rw [refuseIf_eq_ok] at hrunning
  cases h
  have hhalted : isHalted row.status = false := by simp [isHalted, harchived, hpaused]
  exact .bump (.started workflowId row (newRun workflowId row.draft.title triggerType _ now) hrow
    ⟨hhalted, hrunning⟩ rfl)

theorem nextDueWorkflow_some {now : Int} {workflowId : String} {row : WorkflowRow Schedule}
    (h : nextDueWorkflow now db = some (workflowId, row)) :
    db.workflows.get workflowId = some row ∧ row.status = .active := by
  have hmem := List.mem_of_head? h
  rw [List.mem_insertionSort, List.mem_filter] at hmem
  obtain ⟨hentry, hdue⟩ := hmem
  rw [isDue, decide_eq_true_eq] at hdue
  exact ⟨(OrderedMap.get_eq_some_iff _ _ _).mpr hentry, hdue.1⟩

theorem claimDueAttempts_changes (attempts : Nat) (db : WorkflowDb Schedule)
    (chosen : String → Prop) :
    Changes host chosen db (claimDueAttempts host now attempts db).2 := by
  induction attempts generalizing db with
  | zero => exact .refl
  | succ _ ih =>
    unfold claimDueAttempts
    cases hdue : nextDueWorkflow now db with
    | none => exact .refl
    | some due =>
      obtain ⟨workflowId, row⟩ := due
      obtain ⟨hrow, hactive⟩ := nextDueWorkflow_some hdue
      dsimp only
      split
      · refine .bump (.started workflowId row
          (newRun workflowId row.draft.title .schedule _ now) hrow ?_ rfl)
        rw [hactive]
        exact ⟨rfl, by decide⟩
      · refine Relation.ReflTransGen.head ?_ (ih _)
        exact .rescheduled workflowId row _ hrow hactive fun _ => rfl

theorem attachWorkflowRunSession_changes (workflowId runId sessionId : String) (now : Int)
    (hquiet : disrupts host db
      ⟨now, .attachWorkflowRunSession workflowId runId sessionId⟩ = false)
    (chosen : String → Prop) :
    Changes host chosen db (attachWorkflowRunSession workflowId runId sessionId now db).2 := by
  rw [disrupts, Bool.or_eq_false_iff] at hquiet
  refine .bump (.attached workflowId runId _ _ (fun _ => rfl) (fun _ => ⟨rfl, rfl⟩) ?_ ?_)
  · intro _ hrow
    simpa [hrow] using hquiet.1
  · intro _ hrun
    simpa [hrun] using hquiet.2

theorem markWorkflowRunCompleted_changes (runId : String) (summary : Option String) (now : Int)
    (db : WorkflowDb Schedule) (chosen : String → Prop) :
    Changes host chosen db (markWorkflowRunCompleted host runId summary now db).2 := by
  unfold markWorkflowRunCompleted
  cases hrun : db.runs.get runId with
  | none => exact .refl
  | some run =>
    dsimp only
    split
    · exact .refl
    next hopen =>
      refine .bump (.ended runId run _ _ hrun (by simpa using hopen) (fun _ => ⟨rfl, rfl⟩) ?_)
      intro _ hrow
      refine .inr ⟨rfl, fun hhalted => ?_⟩
      simp only [hrow, hhalted, if_pos, endRunOf]

theorem markWorkflowRunFailed_changes (runId error : String) (now : Int)
    (hquiet : disrupts host db ⟨now, .markWorkflowRunFailed runId error⟩ = false)
    (chosen : String → Prop) :
    Changes host chosen db (markWorkflowRunFailed host runId error now db).2 := by
  unfold markWorkflowRunFailed
  cases hrun : db.runs.get runId with
  | none => exact .refl
  | some run =>
    dsimp only
    split
    · exact .refl
    next hopen =>
      have hopen : hasEnded run.status = false := by simpa using hopen
      refine .bump (.ended runId run _ _ hrun hopen (fun _ => ⟨rfl, rfl⟩) ?_)
      intro _ hrow
      refine .inr ⟨rfl, fun hhalted => ?_⟩
      have hnext :
          computeNextWorkflowRunAt host (triggersOf host db run.workflowId) now = none := by
        simpa [disrupts, hrun, hopen, hrow, hhalted] using hquiet
      simpa only [endRunOf, hrow] using hnext

theorem recoverRun_changes {runId : String} {run : WorkflowRun}
    (hrun : db.runs.get runId = some run) (hopen : hasEnded run.status = false)
    (chosen : String → Prop) :
    Changes host chosen db (recoverRun host error now runId run db).2 := by
  refine .bump (.ended runId run _ _ hrun hopen (fun _ => ⟨rfl, rfl⟩) ?_)
  intro row _
  by_cases hlatest : row.latestRunId = some runId
  · simp only [if_pos hlatest]
    exact .inr ⟨rfl, fun hhalted => if_pos hhalted⟩
  · exact .inl (if_neg hlatest)

theorem recoverRows_changes (rows : List (String × WorkflowRun))
    (hnodup : (rows.map Prod.fst).Nodup) (db : WorkflowDb Schedule)
    (hrows : ∀ entry ∈ rows, db.runs.get entry.1 = some entry.2 ∧ hasEnded entry.2.status = false)
    (chosen : String → Prop) : Changes host chosen db (recoverRows host error now rows db).2 := by
  induction rows generalizing db with
  | nil => exact .refl
  | cons entry rows ih =>
    obtain ⟨runId, _⟩ := entry
    rw [List.map_cons, List.nodup_cons] at hnodup
    obtain ⟨hrun, hopen⟩ := hrows _ (.head _)
    refine (recoverRun_changes error now hrun hopen chosen).trans (ih hnodup.2 _ ?_)
    -- the rows that follow are of other runs, so they stand as they were read
    intro later hlater
    have hne : runId ≠ later.1 := by
      rintro rfl
      exact hnodup.1 (List.mem_map.mpr ⟨later, hlater, rfl⟩)
    obtain ⟨hget, hopenLater⟩ := hrows later (.tail _ hlater)
    refine ⟨?_, hopenLater⟩
    change ((db.updateRun runId _).runs.get later.1) = some later.2
    rw [updateRun_get, if_neg hne, hget]

theorem recoverInterruptedWorkflowRuns_changes (db : WorkflowDb Schedule) (chosen : String → Prop) :
    Changes host chosen db (recoverInterruptedWorkflowRuns host error now db).2 := by
  have hperm := List.perm_insertionSort (fun first second : String × WorkflowRun =>
    first.2.createdAt ≤ second.2.createdAt) (db.runs.entries.filter fun entry =>
      entry.2.status = .queued || entry.2.status = .running)
  refine recoverRows_changes error now (interruptedRuns db) ?_ db ?_ chosen
  · refine (hperm.map Prod.fst).nodup_iff.mpr ?_
    exact (List.filter_sublist.map Prod.fst).nodup db.runs.nodupKeys
  · intro entry hentry
    obtain ⟨hmem, hopen⟩ := List.mem_filter.mp (hperm.mem_iff.mp hentry)
    refine ⟨(OrderedMap.get_eq_some_iff _ _ _).mpr hmem, hasEnded_eq_false.mpr ?_⟩
    simpa using hopen

/-- A call that does not disrupt changes a run only as its life allows. -/
theorem perform_changes (db : WorkflowDb Schedule) (call : WorkflowCall Schedule)
    (hquiet : disrupts host db call = false)
    (hchosen : ∀ workflowId, call.op.chosen = some workflowId → chosen workflowId) :
    Changes host chosen db (perform host db call).2 := by
  obtain ⟨now, op⟩ := call
  cases op with
  | createWorkflow normalized =>
    simp only [perform]
    cases h : createWorkflow host normalized now db with
    | error => exact .refl
    | ok => exact createWorkflow_changes h _
  | updateWorkflowStatus workflowId status =>
    simp only [perform]
    cases h : updateWorkflowStatus host workflowId status.toStatus now db with
    | error => exact .refl
    | ok =>
      refine updateWorkflowStatus_changes h ?_ (hchosen workflowId rfl)
      intro hhalted runId run hrun howner
      cases status with
      | paused | archived => cases hhalted
      | active =>
        have hmem : run ∈ db.runs.values := (OrderedMap.mem_values_iff _ _).mpr ⟨_, hrun⟩
        have hnone := List.any_eq_false.mp hquiet run hmem
        simpa [howner] using hnone
  | createWorkflowRun workflowId triggerType payload =>
    simp only [perform]
    cases h : createWorkflowRun host workflowId triggerType payload now db with
    | error => exact .refl
    | ok => exact createWorkflowRun_changes h _
  | claimDueWorkflowRun => exact claimDueAttempts_changes now maxWorkflowListItems db _
  | attachWorkflowRunSession =>
    exact attachWorkflowRunSession_changes _ _ _ now hquiet _
  | markWorkflowRunCompleted =>
    exact markWorkflowRunCompleted_changes _ _ now db _
  | markWorkflowRunFailed =>
    exact markWorkflowRunFailed_changes _ _ now hquiet _
  | recoverInterruptedWorkflowRuns error =>
    exact recoverInterruptedWorkflowRuns_changes error now db _

theorem run_sound (chosen : String → Prop) (calls : List (WorkflowCall Schedule))
    (db : WorkflowDb Schedule) (h : Orderly host db)
    (hquiet : ∀ moment ∈ (workflowStore host).history db calls,
      disrupts host moment.before moment.input = false)
    (hchosen : ∀ call ∈ calls, ∀ workflowId, call.op.chosen = some workflowId →
      chosen workflowId) :
    Orderly host ((workflowStore host).run db calls) ∧
      Respects chosen db ((workflowStore host).run db calls) := by
  induction calls generalizing db with
  | nil => exact ⟨h, Respects.refl chosen db⟩
  | cons call _ ih =>
    have hchanges := perform_changes db call (hquiet _ (.head _)) (hchosen call (.head _))
    obtain ⟨horderly, hrespects⟩ := hchanges.sound h
    obtain ⟨hlater, hrest⟩ := ih _ horderly
      (fun moment hmem => hquiet moment (.tail _ hmem))
      (fun other hmem => hchosen other (.tail _ hmem))
    exact ⟨hlater, hrespects.trans hrest⟩

/-- As long as no call disrupts, a halted workflow keeps its status until the user
chooses another, a run that has ended stays as it ended, a workflow has at most one
run that has not, and a halted workflow has no next instant. -/
theorem workflow_runs_respect_user (host : DesktopHost Schedule)
    (calls : List (WorkflowCall Schedule))
    (hquiet : ∀ moment ∈ (workflowStore host).history WorkflowDb.empty calls,
      disrupts host moment.before moment.input = false) :
    (∀ first later, calls = first ++ later →
      (∀ workflowId row,
        ((workflowStore host).run WorkflowDb.empty first).workflows.get workflowId = some row →
        isHalted row.status = true → (∀ call ∈ later, call.op.chosen ≠ some workflowId) →
        ∃ now, ((workflowStore host).run WorkflowDb.empty calls).workflows.get workflowId =
          some now ∧ now.status = row.status) ∧
      ∀ runId run, ((workflowStore host).run WorkflowDb.empty first).runs.get runId = some run →
        hasEnded run.status = true →
        ∃ now, ((workflowStore host).run WorkflowDb.empty calls).runs.get runId = some now ∧
          now.status = run.status) ∧
    (∀ runId otherId run other,
      ((workflowStore host).run WorkflowDb.empty calls).runs.get runId = some run →
      ((workflowStore host).run WorkflowDb.empty calls).runs.get otherId = some other →
      hasEnded run.status = false → hasEnded other.status = false →
      run.workflowId = other.workflowId → runId = otherId) ∧
    ∀ workflowId row,
      ((workflowStore host).run WorkflowDb.empty calls).workflows.get workflowId = some row →
      isHalted row.status = true → row.nextRunAt = none := by
  refine ⟨?_, ?_⟩
  · rintro first later rfl
    rw [Machine.history_append] at hquiet
    rw [Machine.run_append]
    obtain ⟨hmiddle, -⟩ := run_sound (fun _ => True) first _ orderly_empty
      (fun moment hmem => hquiet moment (List.mem_append_left _ hmem)) (fun _ _ _ _ => trivial)
    obtain ⟨-, hrespects⟩ := run_sound
      (fun workflowId => ∃ call ∈ later, call.op.chosen = some workflowId) later _ hmiddle
      (fun moment hmem => hquiet moment (List.mem_append_right _ hmem))
      (fun call hmem workflowId hchosen => ⟨call, hmem, hchosen⟩)
    refine ⟨?_, hrespects.ended⟩
    intro workflowId row hrow hhalted hunchosen
    refine hrespects.halted workflowId row hrow hhalted ?_
    rintro ⟨call, hmem, hchosen⟩
    exact hunchosen call hmem hchosen
  · obtain ⟨horderly, -⟩ := run_sound (fun _ => True) calls _ orderly_empty hquiet
      (fun _ _ _ _ => trivial)
    exact ⟨horderly.single, horderly.unscheduled⟩

/-- A desktop that draws the ids `""`, `"a"`, `"aa"`, …, stores secrets as they are and
has schedules for one instant. -/
def countingDesktop : DesktopHost Int where
  computeNextWorkflowScheduleRunAt startAt now := if now < startAt then some startAt else none
  secretStorage := { mode := .plaintext, encryptString := none, decryptString := none }
  redactSecretText text _ := text
  randomUUID n := String.ofList (List.replicate n 'a')
  randomUUID_injective := Text.replicate_a_injective

def reportOnce : WorkflowDraft Int where
  title := "Report"
  instructions := "Write the report."
  agentName := "build"
  skillNames := []
  toolIds := []
  steps := []
  projectDirectory := none
  draftSessionId := none
  triggers := [⟨"trigger-1", .schedule, true, some 60000, none⟩]

/-- A run that the schedule starts, that completes while its workflow is archived. -/
theorem workflow_runs_respect_user_archived :
    let calls : List (WorkflowCall Int) := [⟨0, .createWorkflow reportOnce⟩,
      ⟨60000, .claimDueWorkflowRun⟩, ⟨60001, .attachWorkflowRunSession "" "a" "session"⟩,
      ⟨60002, .updateWorkflowStatus "" .archived⟩, ⟨60003, .markWorkflowRunCompleted "a" none⟩]
    let db := (workflowStore countingDesktop).run WorkflowDb.empty calls
    (db.runs.get "a").map (·.status) = some .completed ∧
      ∀ workflowId row, db.workflows.get workflowId = some row → isHalted row.status = true →
        row.nextRunAt = none :=
  ⟨by decide +kernel,
    (workflow_runs_respect_user countingDesktop _ (by decide +kernel)).2.2⟩

/-- The user pauses a workflow whose run has just been queued, and the session that is
attached next sets it running. -/
theorem attach_overrides_pause : ¬ ∀ (first later : List (WorkflowCall Int)),
    ∀ workflowId row,
      ((workflowStore countingDesktop).run WorkflowDb.empty first).workflows.get workflowId =
        some row →
      isHalted row.status = true → (∀ call ∈ later, call.op.chosen ≠ some workflowId) →
      ∃ now, ((workflowStore countingDesktop).run WorkflowDb.empty
        (first ++ later)).workflows.get workflowId = some now ∧ now.status = row.status := by
  intro h
  have hpaused := h [⟨0, .createWorkflow reportOnce⟩, ⟨60000, .claimDueWorkflowRun⟩,
    ⟨60001, .updateWorkflowStatus "" .paused⟩]
    [⟨60002, .attachWorkflowRunSession "" "a" "session"⟩] ""
  obtain ⟨row, hrow, hstatus⟩ : ∃ row,
      ((workflowStore countingDesktop).run WorkflowDb.empty [⟨0, .createWorkflow reportOnce⟩,
        ⟨60000, .claimDueWorkflowRun⟩, ⟨60001, .updateWorkflowStatus "" .paused⟩]).workflows.get
          "" = some row ∧ row.status = .paused := ⟨_, rfl, by decide +kernel⟩
  obtain ⟨now, hnow, hkept⟩ := hpaused row hrow (by rw [hstatus]; rfl) (by simp [WorkflowOp.chosen])
  have hrunning : now.status = .running := by
    cases hnow
    decide +kernel
  rw [hstatus, hrunning] at hkept
  cases hkept

end OpenCowork.Desktop
