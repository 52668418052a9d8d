import OpenCowork.Gateway.GateChains

/-! # The stage of a task in its pipeline

A task stands at a stage of its own pipeline unless one of four writes puts it elsewhere: a
result sent back to a stage that the pipeline lacks, a lost or restarted run whose stage has
left the pipeline, the approval of a gate for such a stage, and a bulk update that checks a
stage against a pipeline which it has replaced itself.
-/

namespace OpenCowork.Gateway

open Foundation OrderedMap

/-- A write that puts a task at a stage outside of its pipeline. -/
inductive Misplaces (platform : WorkPlatform) (state : WorkState) (input : WorkInput) : Prop where
  | sentBack {runId : String} {raw result : StageResult} {retryLimit : Int}
      {lease : RunLeaseExpectation} {collected : Option EnvironmentCollection} {run : RunRecord}
      {task : WorkTaskRecord}
      (hoperation : input.operation = .completeWorkTaskRun runId raw retryLimit lease collected)
      (howned : state.ownedRun runId = some (run, task))
      (hlease : runLeaseExpectationFailure run lease input.now = none)
      (hresult : result = collectRunEnvironmentArtifacts run raw collected)
      (hblocked : result.status ≠ .blocked)
      (hrejected : ¬ AcceptedPass platform.toUpperCase (task.counted run) run.stage result)
      (hlimit : (run.attempt : Int) < retryLimit)
      (hmember : run.stage ∈ task.pipeline.stages)
      (hout : retryStageFor run.stage result ∉ task.pipeline.stages)
  | lost {runId : String} {retryLimit : Int} {run : RunRecord} {task : WorkTaskRecord}
      (hoperation : input.operation.orphanLimit = some retryLimit)
      (hlost : input.operation.loses runId run = true)
      (hrun : state.runs.get runId = some run) (hrunning : run.status = .running)
      (htask : state.tasks.get run.taskId = some task) (hcurrent : task.currentRunId = some runId)
      (hlimit : (countOr ((task.attempts.get run.stage).getD 0) (countOr run.attempt 1) : Int) ≤
        retryLimit) (hout : run.stage ∉ task.pipeline.stages)
  | restarted {control : ActiveRunControlInput} {runId : String} {run : RunRecord}
      {task : WorkTaskRecord}
      (hoperation : input.operation = .applyActiveRunControl control)
      (haction : control.action = .retry ∨ control.action = .restart)
      (hnamed : state.controlledRun control.runId = some (runId, run))
      (hrunning : run.status = .running) (htask : state.tasks.get run.taskId = some task)
      (hactive : task.status = .running) (hcurrent : task.currentRunId = some runId)
      (hallowed : control.denial run input.now = none) (hout : run.stage ∉ task.pipeline.stages)
  | approved {gateId id stage : String} {gate : HumanGateRecord} {task : WorkTaskRecord}
      {note : Option String} {scope : Option HumanGateScope}
      (hoperation : input.operation = .decideHumanGate gateId .approve note scope)
      (hgate : state.gates.get gateId = some gate)
      (hopen : isOpenHumanGateStatus gate.status = true) (hid : Text.truthy gate.taskId = some id)
      (htask : state.tasks.get id = some task) (hnone : Text.truthy task.currentStage = none)
      (hstage : Text.truthy gate.stage = some stage) (hout : stage ∉ task.pipeline.stages)
  | updated {outcome : WorkAnswer × WorkState}
      (haccepted : attempt platform input.now state input.operation = .ok outcome)
      (hbulk : ¬ input.operation.StagesHold state)

def WorkTaskRecord.AtStage (task : WorkTaskRecord) : Prop := task.stage ∈ task.pipeline.stages

section Tasks

variable {task : WorkTaskRecord} {stage : String}

theorem atStage_of_none (hstage : task.currentStage = none) : task.AtStage := by
  unfold WorkTaskRecord.AtStage
  rw [stage_of_none hstage]
  exact task.pipeline.first_mem

theorem atStage_of_some
    (hstage : task.currentStage = some stage) (hmember : stage ∈ task.pipeline.stages) :
    task.AtStage := by
  unfold WorkTaskRecord.AtStage
  rw [stage_of_some hstage (isStage_ne_empty (task.pipeline.valid stage hmember))]
  exact hmember

theorem truthy_of_truthy {value : Option String} {text : String}
    (h : Text.truthy value = some text) : Text.truthy (some text) = some text := by
  obtain ⟨-, hne⟩ := Option.filter_eq_some_iff.mp h
  simp [Text.truthy, Option.filter, hne]

theorem decided_atStage {toUpperCase : String → String}
    {result : StageResult} {retryLimit : Int} {decision : WorkflowDecision}
    (hverdict : Verdict toUpperCase task stage result retryLimit decision)
    (hback : stage ∈ task.pipeline.stages → result.status ≠ .blocked →
      ¬ AcceptedPass toUpperCase task stage result →
      ((task.attempts.get stage).getD 0 : Int) < retryLimit →
      retryStageFor stage result ∈ task.pipeline.stages) :
    (task.decided decision).AtStage := by
  cases hverdict with
  | blocked | finished => exact atStage_of_none rfl
  | retried _ hmember hblocked hrejected hlimit =>
    have hin := hback hmember hblocked hrejected hlimit
    have hne := isStage_ne_empty (task.pipeline.valid _ hin)
    refine atStage_of_some ?_ hin
    simp [WorkTaskRecord.decided, Text.truthy, Option.filter, hne]
  | advanced _ _ _ hnext =>
    have hin := List.mem_of_getElem? hnext
    have hne := isStage_ne_empty (task.pipeline.valid _ hin)
    refine atStage_of_some ?_ hin
    simp [WorkTaskRecord.decided, Text.truthy, Option.filter, hne]

end Tasks

section Step

variable {platform : WorkPlatform} {input : WorkInput} {origin state state' : WorkState}
  {id : String} {outcome : WorkAnswer × WorkState}

theorem Settlement.atStage {task task' : WorkTaskRecord} {endRun : RunRecord → RunRecord}
    (h : Settlement platform input origin state id task task' endRun)
    (htask : state.tasks.get id = some task) (hplaced : ¬ Misplaces platform origin input)
    (haccepted : attempt platform input.now origin input.operation = .ok outcome)
    (hbefore : task.AtStage) : task'.AtStage := by
  cases h with
  | @completed runId raw result retryLimit lease collected run hoperation _ howned hid hlease
      hresult =>
    refine decided_atStage (verdict_decide _ _ _ _ _) fun hmember hblocked hrejected hlimit => ?_
    by_contra hout
    refine hplaced (.sentBack hoperation howned hlease hresult hblocked hrejected ?_ hmember hout)
    simpa [WorkTaskRecord.counted] using hlimit
  | @recovered runId retryLimit run hoperation hrun _ hrunning htask hid hcurrent hlost =>
    unfold WorkTaskRecord.recovered
    split
    next hlimit =>
      by_contra hout
      refine hplaced (.lost hoperation hlost hrun hrunning (hid ▸ htask) hcurrent hlimit
        fun hin => hout ?_)
      exact atStage_of_some rfl hin
    · exact atStage_of_none rfl
  | stopped => exact atStage_of_none rfl
  | gated => exact hbefore
  | @controlled control _ run note hoperation horigin hnamed _ hrunning hid hactive hcurrent
      hallowed =>
    subst horigin hid
    have hrestarted : control.action = .retry ∨ control.action = .restart →
        run.stage ∈ task.pipeline.stages := by
      intro haction
      by_contra hout
      exact hplaced (.restarted hoperation haction hnamed hrunning htask hactive hcurrent hallowed
        hout)
    cases haction : control.action with
    | cancel | stop => exact atStage_of_none rfl
    | retry =>
      have hin := hrestarted (.inl haction)
      have hne := isStage_ne_empty (task.pipeline.valid _ hin)
      refine atStage_of_some ?_ hin
      simp [WorkTaskRecord.controlled, Text.truthy, Option.filter, hne]
    | restart =>
      have hin := hrestarted (.inr haction)
      have hne := isStage_ne_empty (task.pipeline.valid _ hin)
      refine atStage_of_some ?_ hin
      simp [WorkTaskRecord.controlled, Text.truthy, Option.filter, hne]
  | abandoned _ _ _ _ htask' =>
    rcases htask' with rfl | ⟨_, rfl⟩
    · exact hbefore
    · exact atStage_of_none rfl
  | overridden _ _ _ _ _ hstage =>
    refine hstage ?_ hbefore
    by_contra hbulk
    exact hplaced (.updated haccepted hbulk)

theorem TaskChange.atStage {task task' : WorkTaskRecord} {runs : OrderedMap String RunRecord}
    (h : TaskChange platform input origin state id task task' runs)
    (htask : state.tasks.get id = some task) (hplaced : ¬ Misplaces platform origin input)
    (haccepted : attempt platform input.now origin input.operation = .ok outcome)
    (hbefore : task.AtStage) : task'.AtStage := by
  cases h with
  | edited _ _ _ _ _ hstage =>
    refine hstage ?_ hbefore
    by_contra hbulk
    exact hplaced (.updated haccepted hbulk)
  | @approved gateId gate note _ _ horigin hoperation hgate hopen hid =>
    subst horigin
    cases hheld : Text.truthy task.currentStage with
    | some stage =>
      have hsame : (task.approved gate note).stage = task.stage := by
        simp [WorkTaskRecord.stage, WorkTaskRecord.approved, hheld, truthy_of_truthy hheld]
      unfold WorkTaskRecord.AtStage
      rw [hsame]
      exact hbefore
    | none =>
      cases hstage : Text.truthy gate.stage with
      | none =>
        refine atStage_of_some ?_ task.pipeline.first_mem
        simp [WorkTaskRecord.approved, hheld, hstage]
      | some stage =>
        have hin : stage ∈ task.pipeline.stages := by
          by_contra hout
          exact hplaced (.approved hoperation hgate hopen hid htask hheld hstage hout)
        refine atStage_of_some ?_ hin
        simp [WorkTaskRecord.approved, hheld, hstage]
  | @resumed stage given note given' horigin hoperation hnormalized hstage =>
    cases stage with
    | none => exact atStage_of_some rfl hbefore
    | some st => exact atStage_of_some rfl (hstage st rfl).1
  | settled hcause => exact hcause.atStage htask hplaced haccepted hbefore

/-- All tasks stand at a stage of their pipeline. -/
def AllAtStage (state : WorkState) : Prop :=
  ∀ id task, state.tasks.get id = some task → task.AtStage

variable (h : AllAtStage state)
include h

theorem AllAtStage.step (hplaced : ¬ Misplaces platform origin input)
    (haccepted : attempt platform input.now origin input.operation = .ok outcome)
    (hstep : WorkStep platform input origin state state') : AllAtStage state' := by
  intro id task' htask'
  cases hstep with
  | kept _ htasks | roadmapArchived _ _ _ htasks | leased _ _ htasks | receiptsChanged _ _ htasks
  | reserved _ _ _ _ htasks => exact h id task' (htasks ▸ htask')
  | tasksDeleted _ _ htasks =>
    rw [htasks, get_filter_eq_some_iff] at htask'
    exact h id task' htask'.1
  | created _ _ _ _ hstage _ _ htasks =>
    exact of_get_set htasks htask' (atStage_of_some hstage (Pipeline.first_mem _)) (h id task')
  | changed _ htask hchange htasks =>
    exact of_get_set htasks htask' (hchange.atStage htask hplaced haccepted (h _ _ htask))
      (h id task')
  | started _ _ _ hstartable htasks =>
    exact of_get_set htasks htask' (atStage_of_some rfl hstartable.member) (h id task')

theorem AllAtStage.steps (hplaced : ¬ Misplaces platform origin input)
    (haccepted : attempt platform input.now origin input.operation = .ok outcome)
    (hsteps : WorkSteps platform input origin state state') : AllAtStage state' := by
  induction hsteps with
  | refl => exact h
  | tail _ hstep ih => exact ih.step hplaced haccepted hstep

theorem AllAtStage.perform (hplaced : ¬ Misplaces platform state input) :
    AllAtStage (perform platform state input).2 := by
  cases haccepted : attempt platform input.now state input.operation with
  | error =>
    rw [Gateway.perform, haccepted]
    exact h
  | ok => exact h.steps hplaced haccepted (perform_steps platform state input)

end Step

/-- As long as no write puts a task outside of its pipeline, every task, and so every pending one,
stands at a stage at which a run of it can start. -/
theorem pending_task_startable (platform : WorkPlatform) (inputs : List WorkInput)
    (hplaced : ∀ moment ∈ (workStore platform).history .empty inputs,
      ¬ Misplaces platform moment.before moment.input)
    (first rest : List WorkInput) (hinputs : inputs = first ++ rest) (id : String)
    (task : WorkTaskRecord)
    (htask : ((workStore platform).run .empty first).tasks.get id = some task) :
    task.stage ∈ task.pipeline.stages := by
  subst hinputs
  rw [Machine.history_append] at hplaced
  have hall := (workStore platform).history_invariant_of
    (fun moment => ¬ Misplaces platform moment.before moment.input)
    (fun _ state => AllAtStage state)
    (fun _ _ _ h hguard => h.perform hguard)
    .empty (fun id task htask => by cases htask) first
    (fun moment hmem => hplaced moment (List.mem_append_left _ hmem))
  exact hall id task htask

def createdAndStarted (pipeline : List String) (stage : String) : List WorkInput :=
  [⟨0, .createWorkTask { title := "Report", pipeline := some pipeline }⟩,
    ⟨1, .startWorkTaskRun
      { taskId := "task_", stage, sessionId := "ses_1", profile := "coder" }⟩]

theorem pending_task_startable_review : ∃ task,
    ((workStore countingPlatform).run .empty
      (createdAndStarted ["review"] "review")).tasks.get "task_" = some task ∧
    task.stage ∈ task.pipeline.stages := by
  obtain ⟨task, htask⟩ := Option.isSome_iff_exists.mp (by decide +kernel :
    (((workStore countingPlatform).run .empty
      (createdAndStarted ["review"] "review")).tasks.get "task_").isSome = true)
  refine ⟨task, htask, pending_task_startable countingPlatform _ (fun moment hmem hmisplaced => ?_)
    _ [] (List.append_nil _).symm "task_" task htask⟩
  rw [createdAndStarted, Machine.history_cons, Machine.history_cons, List.mem_cons,
    List.mem_cons] at hmem
  rcases hmem with rfl | rfl | hmem
  · cases hmisplaced with
    | updated _ hbulk => exact hbulk trivial
    | lost hoperation | sentBack hoperation | restarted hoperation | approved hoperation =>
      cases hoperation
  · cases hmisplaced with
    | updated _ hbulk => exact hbulk trivial
    | lost hoperation | sentBack hoperation | restarted hoperation | approved hoperation =>
      cases hoperation
  · exact absurd hmem List.not_mem_nil

def failingResult : StageResult where
  status := .fail
  summary := "not good enough"
  feedback := none
  artifacts := []
  evidence := []
  decisions := []
  failureClass := none

/-- A task with the pipeline `["review"]` fails its review and is sent back to a stage that it
does not have. -/
theorem sent_back_outside :
    ((((workStore countingPlatform).run .empty (createdAndStarted ["review"] "review" ++
      [⟨2, .completeWorkTaskRun "run_a" failingResult 3 {} none⟩])).tasks.get "task_").map
        fun task => (task.status, task.stage, decide (task.stage ∈ task.pipeline.stages))) =
      some (.pending, "implement", false) := by
  decide +kernel

def WorkState.GatesNameStages (state : WorkState) : Prop :=
  ∀ id gate, state.gates.get id = some gate → ∀ stage ∈ gate.stage, isStage stage = true

structure StandAtStages (state : WorkState) : Prop where
  tasks : ∀ id task, state.tasks.get id = some task → isStage task.stage = true
  runs : ∀ id run, state.runs.get id = some run → isStage run.stage = true

section Gates

variable {platform : WorkPlatform} {operation : WorkOperation} {origin state state' : WorkState}
  (h : state.GatesNameStages) {id : String}
include h

theorem WorkState.GatesNameStages.set {gate : HumanGateRecord}
    (hgate : ∀ stage ∈ gate.stage, isStage stage = true)
    (hgates : state'.gates = state.gates.set id gate) : state'.GatesNameStages := by
  intro other held hheld
  exact of_get_set hgates hheld hgate (h other held)

omit h in
theorem closing_stage {gate gate' : HumanGateRecord}
    (h : Closing operation id gate gate') : gate'.stage = gate.stage := by
  cases h <;> rfl

theorem WorkState.GatesNameStages.step
    (hstep : GateStep platform operation origin state state') : state'.GatesNameStages := by
  cases hstep with
  | undisturbed hsame =>
    unfold WorkState.GatesNameStages
    rw [hsame.gates]
    exact h
  | created _ _ _ hgates | updated _ _ _ _ _ hgates =>
    unfold WorkState.GatesNameStages
    rw [hgates]
    exact h
  | linked | unlinked => exact h
  | deleted _ _ _ hgates => exact fun id gate hgate => h id gate (hgates id gate hgate).1
  | raised _ hgate =>
    refine h.set (fun stage hstage => ?_) rfl
    rw [Option.mem_def] at hstage
    exact normalizeOptionalStage_isStage (hstage ▸ hgate.stage)
  | @approved _ id gate _ _ _ _ hgate _ _ _ hgates =>
    have hheld : ∀ stage ∈ gate.stage, isStage stage = true := h id gate hgate
    refine h.set ?_ hgates
    exact hheld
  | @closed id gate gate' hgate hclosing =>
    have hheld : ∀ stage ∈ gate'.stage, isStage stage = true := by
      rw [closing_stage hclosing]
      exact h id gate hgate
    exact h.set hheld rfl

theorem WorkState.GatesNameStages.steps
    (hsteps : GateSteps platform operation origin state state') : state'.GatesNameStages := by
  induction hsteps with
  | refl => exact h
  | tail _ hstep ih => exact ih.step hstep

end Gates

section Tasks

variable {platform : WorkPlatform} {input : WorkInput} {origin state state' : WorkState}
  {id : String} {task : WorkTaskRecord} {stage : String} {result : StageResult}
  {task' : WorkTaskRecord}

theorem isStage_of_some (hstage : task.currentStage = some stage) (hvalid : isStage stage = true) :
    isStage task.stage = true := by
  rw [stage_of_some hstage (isStage_ne_empty hvalid)]
  exact hvalid

theorem isStage_truthy (h : isStage stage = true) : Text.truthy (some stage) = some stage := by
  simp [Text.truthy, Option.filter, isStage_ne_empty h]

theorem isStage_retryStageFor (h : isStage stage = true) :
    isStage (retryStageFor stage result) = true := by
  unfold retryStageFor
  split
  · decide
  · split
    · decide
    · exact h

theorem isStage_decided {toUpperCase : String → String} {retryLimit : Int}
    {decision : WorkflowDecision}
    (hverdict : Verdict toUpperCase task stage result retryLimit decision) :
    isStage (task.decided decision).stage = true := by
  cases hverdict with
  | blocked | finished => exact isStage_of_none rfl
  | retried _ hmember =>
    have hvalid : isStage (retryStageFor stage result) = true :=
      isStage_retryStageFor (task.pipeline.valid _ hmember)
    have hne := isStage_ne_empty hvalid
    refine isStage_of_some ?_ hvalid
    simp [WorkTaskRecord.decided, Text.truthy, Option.filter, hne]
  | advanced _ _ _ hnext =>
    have hvalid := task.pipeline.valid _ (List.mem_of_getElem? hnext)
    have hne := isStage_ne_empty hvalid
    refine isStage_of_some ?_ hvalid
    simp [WorkTaskRecord.decided, Text.truthy, Option.filter, hne]

theorem Settlement.isStage {endRun : RunRecord → RunRecord}
    (h : Settlement platform input origin state id task task' endRun)
    (hruns : ∀ id run, state.runs.get id = some run → isStage run.stage = true)
    (hbefore : isStage task.stage = true) : isStage task'.stage = true := by
  cases h with
  | completed => exact isStage_decided (verdict_decide _ _ _ _ _)
  | @recovered runId retryLimit run _ _ hheld =>
    unfold WorkTaskRecord.recovered
    split
    · exact isStage_of_some rfl (hruns runId run hheld)
    · exact isStage_of_none rfl
  | stopped => exact isStage_of_none rfl
  | gated => exact hbefore
  | @controlled control _ run note _ horigin _ hrun =>
    have hvalid := hruns _ run (horigin ▸ hrun)
    cases haction : control.action with
    | cancel | stop => exact isStage_of_none rfl
    | retry | restart =>
      refine isStage_of_some ?_ hvalid
      simp [WorkTaskRecord.controlled, isStage_truthy hvalid]
  | abandoned _ _ _ _ htask' =>
    rcases htask' with rfl | ⟨_, rfl⟩
    · exact hbefore
    · exact isStage_of_none rfl
  | overridden _ _ _ _ _ _ _ hvalid => exact hvalid hbefore

theorem TaskChange.isStage {runs : OrderedMap String RunRecord}
    (h : TaskChange platform input origin state id task task' runs)
    (hgates : origin.GatesNameStages)
    (hruns : ∀ id run, state.runs.get id = some run → isStage run.stage = true)
    (hbefore : isStage task.stage = true) : isStage task'.stage = true := by
  cases h with
  | edited _ _ _ _ _ _ _ hvalid => exact hvalid hbefore
  | @approved gateId gate note _ _ _ _ hgate =>
    cases hheld : Text.truthy task.currentStage with
    | some stage =>
      have hsame : (task.approved gate note).stage = task.stage := by
        simp [WorkTaskRecord.stage, WorkTaskRecord.approved, hheld, truthy_of_truthy hheld]
      rw [hsame]
      exact hbefore
    | none =>
      cases hstage : Text.truthy gate.stage with
      | none =>
        have hfirst := task.pipeline.valid _ task.pipeline.first_mem
        refine isStage_of_some ?_ hfirst
        simp [WorkTaskRecord.approved, hheld, hstage]
      | some stage =>
        obtain ⟨hnamed, -⟩ := Option.filter_eq_some_iff.mp hstage
        refine isStage_of_some ?_ (hgates gateId gate hgate stage hnamed)
        simp [WorkTaskRecord.approved, hheld, hstage]
  | @resumed stage given note given' _ _ _ hstage =>
    cases stage with
    | none => exact isStage_of_some rfl hbefore
    | some st => exact isStage_of_some rfl (task.pipeline.valid _ (hstage st rfl).1)
  | settled hcause => exact hcause.isStage hruns hbefore

theorem StandAtStages.step (h : StandAtStages state) (hgates : origin.GatesNameStages)
    (hstep : WorkStep platform input origin state state') : StandAtStages state' := by
  cases hstep with
  | kept _ htasks hruns | roadmapArchived _ _ _ htasks hruns | receiptsChanged _ _ htasks hruns
  | reserved _ _ _ _ htasks hruns => exact ⟨htasks ▸ h.tasks, hruns ▸ h.runs⟩
  | tasksDeleted _ _ htasks hruns =>
    constructor
    · intro id task htask
      rw [htasks, get_filter_eq_some_iff] at htask
      exact h.tasks id task htask.1
    · intro id run hrun
      rw [hruns, get_filter_eq_some_iff] at hrun
      exact h.runs id run hrun.1
  | @created _ _ created _ _ _ _ hstage _ _ htasks hruns =>
    have hfirst := Pipeline.valid _ _ created.pipeline.first_mem
    refine ⟨fun id task htask => ?_, hruns ▸ h.runs⟩
    exact of_get_set htasks htask (isStage_of_some hstage hfirst) (h.tasks id task)
  | @changed _ _ id task task' runs _ htask hchange htasks hruns =>
    constructor
    · intro other held hheld
      exact of_get_set htasks hheld (hchange.isStage hgates h.runs (h.tasks id task htask))
        (h.tasks other held)
    · intro runId run hrun
      rw [hruns] at hrun
      have hsame := hchange.runs_map (fun _ hends => hends.stage) runId
      rw [hrun, Option.map_some] at hsame
      obtain ⟨held, hheld, hstage⟩ := Option.map_eq_some_iff.mp hsame.symm
      rw [← hstage]
      exact h.runs runId held hheld
  | started _ _ _ hstartable htasks hruns =>
    have hvalid := Pipeline.valid _ _ hstartable.member
    constructor
    · intro id task htask
      exact of_get_set htasks htask (isStage_of_some rfl hvalid) (h.tasks id task)
    · intro id run hrun
      exact of_get_set hruns hrun hvalid (h.runs id run)
  | leased _ hcourse htasks hruns =>
    refine ⟨htasks ▸ h.tasks, fun id _ hrun => ?_⟩
    rw [hruns, get_mapWithKey] at hrun
    obtain ⟨held, hheld, rfl⟩ := Option.map_eq_some_iff.mp hrun
    rw [(hcourse id held hheld).stage]
    exact h.runs id held hheld

theorem StandAtStages.steps (h : StandAtStages state) (hgates : origin.GatesNameStages)
    (hsteps : WorkSteps platform input origin state state') : StandAtStages state' := by
  induction hsteps with
  | refl => exact h
  | tail _ hstep ih => exact ih.step hgates hstep

theorem standAtStages_run (platform : WorkPlatform) (inputs : List WorkInput) :
    StandAtStages ((workStore platform).run .empty inputs) := by
  have hempty : StandAtStages .empty := by
    constructor
    · intro id _ htask
      cases htask
    · intro id _ hrun
      cases hrun
  have hnone : WorkState.GatesNameStages .empty := by
    intro id _ hgate
    cases hgate
  have hboth := (workStore platform).run_invariant
    (fun state => state.GatesNameStages ∧ StandAtStages state)
    (fun state input h => ⟨h.1.steps (perform_gateSteps platform state input),
      h.2.steps h.1 (perform_steps platform state input)⟩) .empty ⟨hnone, hempty⟩ inputs
  exact hboth.2

end Tasks

end OpenCowork.Gateway
