import OpenCowork.Gateway.Linked

/-! # The active run of a task

A run is running exactly while its task is running it, as long as no operator resumes a task
whose run is still running: every other action aborts the run first.
-/

namespace OpenCowork.Gateway

open Foundation OrderedMap

/-- Every running run of a task is the run that the task names. -/
def RunsOwned (state : WorkState) (id : String) : Prop :=
  ∀ runId run, state.runs.get runId = some run → run.taskId = id → run.status = .running →
    ∃ task, state.tasks.get id = some task ∧ task.currentRunId = some runId

/-- An accepted resume of a task whose active run is running. -/
def ResumesRunning (state : WorkState) (operation : WorkOperation) (id : String) : Prop :=
  ∃ given note stage task, operation = .applyWorkTaskAction id .resume given note ∧
    normalizeOptionalStage given "stage" = .ok stage ∧
    state.tasks.get id = some task ∧ (∀ st ∈ stage, st ∈ task.pipeline.stages) ∧
    (state.activeRunOf task).isSome

section Step

variable {platform : WorkPlatform} {input : WorkInput} {origin state state' : WorkState}
  {id : String}

theorem TaskChange.running {task task' : WorkTaskRecord} {runs : OrderedMap String RunRecord}
    {runId : String} {run : RunRecord}
    (h : TaskChange platform input origin state id task task' runs)
    (htask : state.tasks.get id = some task) (hrun : runs.get runId = some run)
    (hrunning : run.status = .running) :
    state.runs.get runId = some run ∧ (task.currentRunId = some runId →
      task'.currentRunId = some runId ∨ ResumesRunning origin input.operation id) := by
  cases h with
  | edited _ _ _ hcurrent => exact ⟨hrun, fun hnamed => .inl (hcurrent.trans hnamed)⟩
  | approved => exact ⟨hrun, fun hnamed => .inl hnamed⟩
  | @resumed stage given _ given' horigin hoperation hnormalized hstage =>
    refine ⟨hrun, fun hnamed => .inr ?_⟩
    subst horigin
    refine ⟨given, given', stage, task, hoperation, hnormalized, htask,
      fun st hst => (hstage st hst).1, ?_⟩
    rw [activeRunOf_eq_some_iff.mpr ⟨hnamed, hrun, hrunning⟩]
    rfl
  | settled hcause =>
    have hbefore := (TaskChange.settled hcause).running_before hrun hrunning
    refine ⟨hbefore, fun hnamed => ?_⟩
    rw [get_endActive, if_pos hnamed, hbefore, Option.map_some, if_pos hrunning] at hrun
    have hover := hcause.ends.status run
    rw [Option.some.inj hrun] at hover
    exact absurd hrunning hover

/-- A step that resumes no running task leaves each run to its task. -/
theorem RunsOwned.step (h : RunsOwned state id) (hlinked : Linked platform state)
    (hresume : ¬ ResumesRunning origin input.operation id)
    (hstep : WorkStep platform input origin state state') : RunsOwned state' id := by
  intro runId run hrun htaskId hrunning
  cases hstep with
  | kept _ htasks hruns | roadmapArchived _ _ _ htasks hruns | receiptsChanged _ _ htasks hruns
  | reserved _ _ _ _ htasks hruns =>
    rw [htasks]
    exact h runId run (hruns ▸ hrun) htaskId hrunning
  | leased _ hcourse htasks hruns =>
    rw [hruns, get_mapWithKey, Option.map_eq_some_iff] at hrun
    obtain ⟨held, hheld, rfl⟩ := hrun
    have hsame := hcourse runId held hheld
    rw [htasks]
    exact h runId held hheld (hsame.taskId.symm.trans htaskId) (hsame.status.symm.trans hrunning)
  | tasksDeleted _ _ htasks hruns =>
    rw [hruns, get_filter_eq_some_iff, decide_eq_true_eq] at hrun
    obtain ⟨task, htask, hnamed⟩ := h runId run hrun.1 htaskId hrunning
    refine ⟨task, ?_, hnamed⟩
    rw [htasks, get_filter_eq_some_iff]
    exact ⟨htask, decide_eq_true (htaskId ▸ hrun.2)⟩
  | created _ _ _ _ _ _ _ htasks hruns =>
    rw [hruns] at hrun
    obtain ⟨task, htask, hnamed⟩ := h runId run hrun htaskId hrunning
    refine ⟨task, ?_, hnamed⟩
    rw [htasks, get_set_of_ne _ _ ?_]
    · exact htask
    · rintro rfl
      rw [hlinked.task_fresh] at htask
      cases htask
  | changed _ htask hchange htasks hruns =>
    rw [hruns] at hrun
    obtain ⟨hbefore, hkept⟩ := hchange.running htask hrun hrunning
    obtain ⟨owner, howner, hnamed⟩ := h runId run hbefore htaskId hrunning
    rw [htasks, get_set]
    split
    next hid =>
      subst hid
      rw [htask, Option.some.injEq] at howner
      subst howner
      exact ⟨_, rfl, (hkept hnamed).resolve_right hresume⟩
    · exact ⟨owner, howner, hnamed⟩
  | started _ _ _ hstartable htasks hruns =>
    rw [hruns, get_set] at hrun
    rw [htasks, get_set]
    split at hrun
    next hid =>
      cases hrun
      exact ⟨_, if_pos htaskId, congrArg some hid⟩
    · obtain ⟨owner, howner, hnamed⟩ := h runId run hrun htaskId hrunning
      split
      next hid =>
        -- a task that a run is started for names none
        subst hid
        rw [hstartable.held, Option.some.injEq] at howner
        subst howner
        rw [hstartable.current] at hnamed
        cases hnamed
      · exact ⟨owner, howner, hnamed⟩

theorem RunsOwned.steps (h : RunsOwned state id) (hlinked : Linked platform state)
    (hresume : ¬ ResumesRunning origin input.operation id)
    (hsteps : WorkSteps platform input origin state state') : RunsOwned state' id := by
  induction hsteps with
  | refl => exact h
  | tail hfirst hstep ih => exact ih.step (hlinked.steps hfirst) hresume hstep

end Step

/-- A later state, as far as runs that were there are concerned: those that are still there and
were over have kept their status. -/
structure RunsKept (platform : WorkPlatform) (state state' : WorkState) : Prop where
  drawn : state.drawn ≤ state'.drawn
  status : ∀ runId run', platform.Drawn "run_" state.drawn runId →
    state'.runs.get runId = some run' → ∃ run, state.runs.get runId = some run ∧
      (run.status ≠ .running → run'.status = run.status)

namespace RunsKept

variable {platform : WorkPlatform} {input : WorkInput} {origin state state' state'' : WorkState}

theorem refl (state : WorkState) : RunsKept platform state state :=
  ⟨le_rfl, fun _ run' _ hrun' => ⟨run', hrun', fun _ => rfl⟩⟩

theorem trans (hfirst : RunsKept platform state state')
    (hsecond : RunsKept platform state' state'') : RunsKept platform state state'' where
  drawn := hfirst.drawn.trans hsecond.drawn
  status runId run'' hdrawn hrun'' := by
    obtain ⟨run', hrun', hlater⟩ := hsecond.status runId run'' (hdrawn.mono hfirst.drawn) hrun''
    obtain ⟨run, hrun, hearlier⟩ := hfirst.status runId run' hdrawn hrun'
    refine ⟨run, hrun, fun hover => ?_⟩
    have hsame := hearlier hover
    exact (hlater (hsame ▸ hover)).trans hsame

theorem of_runs (hdrawn : state.drawn ≤ state'.drawn) (hruns : state'.runs = state.runs) :
    RunsKept platform state state' :=
  ⟨hdrawn, fun _ run' _ hrun' => ⟨run', hruns ▸ hrun', fun _ => rfl⟩⟩

theorem of_step (hstep : WorkStep platform input origin state state') :
    RunsKept platform state state' := by
  cases hstep with
  | kept hside _ hruns | created hside _ _ _ _ _ _ _ hruns | reserved hside _ _ _ _ hruns
  | receiptsChanged hside _ _ hruns => exact .of_runs hside.drawn hruns
  | roadmapArchived _ hdrawn _ _ hruns => exact .of_runs hdrawn hruns
  | tasksDeleted _ hside _ hruns =>
    refine ⟨hside.drawn, fun runId run' _ hrun' => ⟨run', ?_, fun _ => rfl⟩⟩
    rw [hruns, get_filter_eq_some_iff] at hrun'
    exact hrun'.1
  | leased hside hcourse _ hruns =>
    refine ⟨hside.drawn, fun runId run' _ hrun' => ?_⟩
    rw [hruns, get_mapWithKey, Option.map_eq_some_iff] at hrun'
    obtain ⟨run, hrun, rfl⟩ := hrun'
    exact ⟨run, hrun, fun _ => (hcourse runId run hrun).status⟩
  | started hside _ _ _ _ hruns =>
    refine ⟨hside.drawn, fun runId run' hdrawn hrun' => ?_⟩
    rw [hruns, get_set_of_ne _ _ ?_] at hrun'
    · exact ⟨run', hrun', fun _ => rfl⟩
    · rintro rfl
      exact not_drawn_next _ _ _ hdrawn
  | changed hside _ hchange _ hruns =>
    refine ⟨hside.drawn, fun _ run' _ hrun' => ?_⟩
    rw [hruns] at hrun'
    cases hchange with
    | edited | approved | resumed => exact ⟨run', hrun', fun _ => rfl⟩
    | settled =>
      rw [get_endActive] at hrun'
      split at hrun'
      · obtain ⟨run, hrun, rfl⟩ := Option.map_eq_some_iff.mp hrun'
        refine ⟨run, hrun, fun hover => ?_⟩
        rw [if_neg hover]
      · exact ⟨run', hrun', fun _ => rfl⟩

theorem of_steps (hsteps : WorkSteps platform input origin state state') :
    RunsKept platform state state' := by
  induction hsteps with
  | refl => exact .refl _
  | tail _ hstep ih => exact ih.trans (.of_step hstep)

theorem of_run (platform : WorkPlatform) (state : WorkState) (inputs : List WorkInput) :
    RunsKept platform state ((workStore platform).run state inputs) :=
  (workStore platform).run_invariant (RunsKept platform state)
    (fun next input h => h.trans (.of_steps (perform_steps platform next input))) state
    (.refl state) inputs

end RunsKept

/-- In every state of the store each run is of a task that is there, and what a task names as its
run is a running run of its own, named by no other task and only while the task runs. A run that
is gone stays gone: no later run gets its id. -/
theorem current_runs_live (platform : WorkPlatform) (inputs : List WorkInput) :
    let state := (workStore platform).run .empty inputs
    (∀ runId run, state.runs.get runId = some run → (state.tasks.get run.taskId).isSome) ∧
    (∀ id task runId, state.tasks.get id = some task → task.currentRunId = some runId →
      task.status = .running ∧
        ∃ run, state.runs.get runId = some run ∧ run.taskId = id ∧ run.status = .running) ∧
    (∀ id other task task' runId, state.tasks.get id = some task →
      state.tasks.get other = some task' → task.currentRunId = some runId →
      task'.currentRunId = some runId → id = other) ∧
    ∀ runId run, state.runs.get runId = some run → ∀ between rest,
      ((workStore platform).run state between).runs.get runId = none →
      ((workStore platform).run state (between ++ rest)).runs.get runId = none := by
  have hlinked := linked_run platform inputs
  refine ⟨hlinked.runTask, hlinked.named, ?_, ?_⟩
  · intro id other task task' runId htask hother hnamed hnamed'
    obtain ⟨-, run, hrun, htaskId, -⟩ := hlinked.named id task runId htask hnamed
    obtain ⟨-, held, hheld, hotherId, -⟩ := hlinked.named other task' runId hother hnamed'
    obtain rfl : held = run := Option.mem_unique hheld hrun
    exact htaskId.symm.trans hotherId
  · intro runId run hrun between rest hgone
    rw [Machine.run_append]
    apply Option.eq_none_iff_forall_ne_some.mpr
    intro run' hrun'
    -- the id was drawn before the run left, and a later run is there under a later id
    have hdrawn := (hlinked.runDrawn runId run hrun).mono (RunsKept.of_run platform _ between).drawn
    obtain ⟨_, hheld, -⟩ := (RunsKept.of_run platform _ rest).status runId run' hdrawn hrun'
    rw [hgone] at hheld
    cases hheld

/-! ## The contract -/

structure ActiveRunsMatch (state : WorkState) : Prop where
  single : ∀ first firstRun second secondRun, state.runs.get first = some firstRun →
    state.runs.get second = some secondRun → firstRun.status = .running →
    secondRun.status = .running → firstRun.taskId = secondRun.taskId → first = second
  owned : ∀ runId run, state.runs.get runId = some run → (run.status = .running ↔
    ∃ task, state.tasks.get run.taskId = some task ∧ task.status = .running ∧
      task.currentRunId = some runId)

variable {state : WorkState}

theorem activeRunsMatch_of_owned {platform : WorkPlatform} (hlinked : Linked platform state)
    (howned : ∀ id, RunsOwned state id) :
    ActiveRunsMatch state where
  single first firstRun second secondRun hfirst hsecond hrunning hrunning' hsame := by
    obtain ⟨task, htask, hnamed⟩ := howned _ first firstRun hfirst rfl hrunning
    obtain ⟨_, hother, hnamed'⟩ := howned _ second secondRun hsecond hsame.symm hrunning'
    rw [htask, Option.some.injEq] at hother
    subst hother
    exact Option.mem_unique hnamed hnamed'
  owned runId run hrun := by
    constructor
    · intro hrunning
      obtain ⟨task, htask, hnamed⟩ := howned _ runId run hrun rfl hrunning
      exact ⟨task, htask, (hlinked.named _ task runId htask hnamed).1, hnamed⟩
    · rintro ⟨task, htask, -, hnamed⟩
      obtain ⟨-, _, hheld, -, hrunning⟩ := hlinked.named _ task runId htask hnamed
      rw [hrun, Option.some.injEq] at hheld
      exact hheld ▸ hrunning

theorem perform_resume (platform : WorkPlatform) (now : Int) (note : Option String) {id : String}
    {given stage : Option String} {task : WorkTaskRecord}
    (hnormalized : normalizeOptionalStage given "stage" = .ok stage)
    (htask : state.tasks.get id = some task) (hmember : ∀ st ∈ stage, st ∈ task.pipeline.stages) :
    ((perform platform state ⟨now, .applyWorkTaskAction id .resume given note⟩).2.tasks.get id).map
        WorkTaskRecord.currentRunId = some none ∧
      (perform platform state ⟨now, .applyWorkTaskAction id .resume given note⟩).2.runs =
        state.runs := by
  have hrefused : ¬ ((WorkTaskAction.resume = .resume ∨ WorkTaskAction.resume = .retry) ∧
      (stage.any fun stage => stage ∉ task.pipeline.stages) = true) := by
    rintro ⟨-, hany⟩
    rw [Option.any_eq_true] at hany
    obtain ⟨st, hst, hout⟩ := hany
    exact absurd (hmember st hst) (of_decide_eq_true hout)
  have hwrites : applyWorkTaskAction id .resume given note now state = .ok (.changed [],
      recomputeRoadmapStatusInState task.roadmapId (state.updateTask id
        (WorkTaskRecord.acted .resume stage (normalizeOptionalString note 5000)))) := by
    unfold applyWorkTaskAction
    rw [htask]
    dsimp only
    rw [hnormalized, ok_bind, refuseIf_of_not hrefused, ok_bind]
    rfl
  rw [perform_of_ok platform state ⟨now, .applyWorkTaskAction id .resume given note⟩ hwrites]
  refine ⟨?_, recompute_runs _ _⟩
  rw [recompute_tasks, WorkState.updateTask, get_modify, if_pos rfl, htask]
  rfl

/-- Tasks and runs match in every state that a history reaches exactly if no operator in it
resumes a task whose run is running; runs that are over keep their status in any case. -/
theorem active_runs_match_iff (platform : WorkPlatform) (inputs : List WorkInput) :
    (∀ moment ∈ (workStore platform).history .empty inputs, ∀ id,
      ¬ ResumesRunning moment.before moment.input.operation id) ↔
    (∀ first rest, inputs = first ++ rest →
      ActiveRunsMatch ((workStore platform).run .empty first)) ∧
    (∀ first between rest, inputs = first ++ (between ++ rest) → ∀ runId run run',
      ((workStore platform).run .empty first).runs.get runId = some run → run.status ≠ .running →
      ((workStore platform).run .empty (first ++ between)).runs.get runId = some run' →
      run'.status = run.status) := by
  constructor
  · intro hresumes
    constructor
    · rintro first rest rfl
      rw [Machine.history_append] at hresumes
      have howned := (workStore platform).history_invariant_of
        (fun moment => ∀ id, ¬ ResumesRunning moment.before moment.input.operation id)
        (fun _ state => Linked platform state ∧ ∀ id, RunsOwned state id)
        (fun _ state input h hguard => ⟨h.1.steps (perform_steps platform state input),
          fun id => (h.2 id).steps h.1 (hguard id) (perform_steps platform state input)⟩)
        .empty ⟨.empty platform, fun id runId run hrun => by cases hrun⟩ first
        (fun moment hmem => hresumes moment (List.mem_append_left _ hmem))
      exact activeRunsMatch_of_owned howned.1 howned.2
    · intro first between rest _ runId run run' hrun hover hrun'
      rw [Machine.run_append] at hrun'
      obtain ⟨held, hheld, hkept⟩ := (RunsKept.of_run platform _ between).status runId run'
        ((linked_run platform first).runDrawn runId run hrun) hrun'
      rw [hrun, Option.some.injEq] at hheld
      subst hheld
      exact hkept hover
  · rintro ⟨hmatch, -⟩ moment hmem id
      ⟨given, note, stage, task, hoperation, hnormalized, htask, hmember, hactive⟩
    obtain ⟨first, input, rest, rfl, rfl⟩ :=
      (workStore platform).exists_prefix_of_mem_history _ _ _ hmem
    obtain ⟨now, operation⟩ := input
    obtain rfl : operation = .applyWorkTaskAction id .resume given note := hoperation
    obtain ⟨⟨runId, run⟩, hrunOf⟩ := Option.isSome_iff_exists.mp hactive
    obtain ⟨hnamed, hrun, hrunning⟩ := activeRunOf_eq_some_iff.mp hrunOf
    obtain ⟨-, held, hheld, htaskId, -⟩ :=
      (linked_run platform first).named id task runId htask hnamed
    rw [show held = run from Option.mem_unique hheld hrun] at htaskId
    -- after the resume the run is running, and its task names none
    have hafter := hmatch (first ++ [⟨now, .applyWorkTaskAction id .resume given note⟩]) rest
      (by rw [List.append_assoc, List.singleton_append])
    rw [Machine.run_append] at hafter
    obtain ⟨hcurrent, hruns⟩ := perform_resume platform now note hnormalized htask hmember
    have hstill := (hafter.owned runId run (hruns ▸ hrun)).mp hrunning
    obtain ⟨task', htask', -, hnamed'⟩ := hstill
    rw [htaskId] at htask'
    have hnone : task'.currentRunId = none :=
      Option.some.inj (((congrArg (Option.map _) htask').symm).trans hcurrent)
    rw [hnone] at hnamed'
    cases hnamed'

def resumedWhileRunning : List WorkInput :=
  [⟨0, .createWorkTask { title := "Report" }⟩,
    ⟨1, .startWorkTaskRun
      { taskId := "task_", stage := "implement", sessionId := "ses_1", profile := "coder" }⟩,
    ⟨2, .applyWorkTaskAction "task_" .resume none none⟩]

/-- The run goes on, and its pending task names none. -/
theorem resumed_run_not_owned :
    ¬ ActiveRunsMatch ((workStore countingPlatform).run .empty resumedWhileRunning) := by
  intro h
  have hrun : (((workStore countingPlatform).run .empty resumedWhileRunning).runs.get
      "run_a").map (fun run => (run.status, run.taskId)) = some (.running, "task_") := by
    decide +kernel
  have htask : (((workStore countingPlatform).run .empty resumedWhileRunning).tasks.get
      "task_").map WorkTaskRecord.status = some .pending := by
    decide +kernel
  obtain ⟨run, hget, hfields⟩ := Option.map_eq_some_iff.mp hrun
  obtain ⟨hrunning, htaskId⟩ := Prod.mk.inj hfields
  obtain ⟨_, hheld, hstatus, -⟩ := (h.owned "run_a" run hget).mp hrunning
  rw [htaskId] at hheld
  rw [hheld, Option.map_some, hstatus] at htask
  cases htask

end OpenCowork.Gateway
