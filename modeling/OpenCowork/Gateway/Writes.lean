import OpenCowork.Gateway.Steps

/-! # Writes

What the functions that the operations share leave of tasks, runs and receipts, and the four
decisions about a result.
-/

namespace OpenCowork.Gateway

open Foundation OrderedMap

namespace SideEffects

variable {state state' state'' : WorkState}

theorem refl (state : WorkState) : SideEffects state state := ⟨fun _ h => h, le_rfl⟩

theorem trans (hfirst : SideEffects state state') (hsecond : SideEffects state' state'') :
    SideEffects state state'' :=
  ⟨fun id h => hfirst.archived id (hsecond.archived id h), hfirst.drawn.trans hsecond.drawn⟩

theorem of_roadmaps (hroadmaps : state'.roadmaps = state.roadmaps)
    (hdrawn : state.drawn ≤ state'.drawn) : SideEffects state state' := by
  refine ⟨fun _ h => ?_, hdrawn⟩
  unfold WorkState.IsArchived at h ⊢
  rw [← hroadmaps]
  exact h

theorem of_set {id : String} {roadmap : RoadmapRecord} (hopen : roadmap.status ≠ .archived)
    (hroadmaps : state'.roadmaps = state.roadmaps.set id roadmap)
    (hdrawn : state.drawn ≤ state'.drawn) : SideEffects state state' := by
  refine ⟨fun other h => ?_, hdrawn⟩
  unfold WorkState.IsArchived at h ⊢
  rw [hroadmaps, get_set] at h
  by_cases hid : id = other
  · rw [if_pos hid] at h
    exact absurd (Option.some.inj h) hopen
  · rw [if_neg hid] at h
    exact h

end SideEffects

/-- Tasks, runs and receipts as they were. -/
structure SameWork (state state' : WorkState) : Prop where
  side : SideEffects state state'
  tasks : state'.tasks = state.tasks
  runs : state'.runs = state.runs
  receipts : state'.receipts = state.receipts

namespace SameWork

variable {state state' state'' : WorkState}

theorem refl (state : WorkState) : SameWork state state := ⟨.refl _, rfl, rfl, rfl⟩

theorem trans (hfirst : SameWork state state') (hsecond : SameWork state' state'') :
    SameWork state state'' where
  side := hfirst.side.trans hsecond.side
  tasks := hsecond.tasks.trans hfirst.tasks
  runs := hsecond.runs.trans hfirst.runs
  receipts := hsecond.receipts.trans hfirst.receipts

theorem of_dependencies (state : WorkState) (dependencies : List WorkDependencyRecord) :
    SameWork state { state with dependencies } :=
  ⟨.of_roadmaps rfl le_rfl, rfl, rfl, rfl⟩

theorem of_gates (gates : OrderedMap String HumanGateRecord) {drawn : Nat}
    (hdrawn : state.drawn ≤ drawn) : SameWork state { state with gates, drawn } :=
  ⟨.of_roadmaps rfl hdrawn, rfl, rfl, rfl⟩

end SameWork

section Parts

variable {platform : WorkPlatform} {state state' : WorkState} (roadmapId : String) {taskId : String}
  (now : Int) (status : WorkStatus) {update : WorkTaskUpdateInput} {task changed : WorkTaskRecord}
  {id : String} {runId : String} {run : RunRecord}

theorem activeRunOf_eq_some_iff :
    state.activeRunOf task = some (runId, run) ↔ task.currentRunId = some runId ∧
      state.runs.get runId = some run ∧ run.status = .running := by
  simp only [WorkState.activeRunOf, Option.bind_eq_bind, Option.bind_eq_some_iff,
    isActiveRunStatus_iff]
  constructor
  · rintro ⟨_, hcurrent, _, hheld, ⟨⟩, hrunning, heq⟩
    cases heq
    exact ⟨hcurrent, hheld, by simpa using hrunning⟩
  · rintro ⟨hcurrent, hrun, hrunning⟩
    exact ⟨runId, hcurrent, run, hrun, (), by simp [hrunning], rfl⟩

theorem ownedRun_eq_some_iff :
    state.ownedRun runId = some (run, task) ↔ state.runs.get runId = some run ∧
      state.tasks.get run.taskId = some task ∧ run.status = .running ∧ task.status = .running ∧
        task.currentRunId = some runId := by
  simp only [WorkState.ownedRun, Option.bind_eq_bind, Option.bind_eq_some_iff]
  constructor
  · rintro ⟨_, hheld, _, howner, ⟨⟩, howned, heq⟩
    cases heq
    exact ⟨hheld, howner, by simpa using howned⟩
  · rintro ⟨hrun, htask, howned⟩
    exact ⟨run, hrun, task, htask, (), by simp [howned], rfl⟩

theorem roadmapStatusOf_ne_archived (tasks : List WorkTaskRecord) :
    roadmapStatusOf tasks ≠ .archived := by
  unfold roadmapStatusOf
  split
  · simp
  · split <;> simp

theorem sameWork_recompute (state : WorkState) :
    SameWork state (recomputeRoadmapStatusInState roadmapId state) := by
  unfold recomputeRoadmapStatusInState
  cases hroadmap : state.roadmaps.get roadmapId with
  | none => exact .refl _
  | some =>
    dsimp only
    split
    · exact .refl _
    · exact ⟨.of_set (roadmapStatusOf_ne_archived _) rfl le_rfl, rfl, rfl, rfl⟩

@[simp] theorem recompute_tasks (state : WorkState) :
    (recomputeRoadmapStatusInState roadmapId state).tasks = state.tasks :=
  (sameWork_recompute roadmapId state).tasks

@[simp] theorem recompute_runs (state : WorkState) :
    (recomputeRoadmapStatusInState roadmapId state).runs = state.runs :=
  (sameWork_recompute roadmapId state).runs

@[simp] theorem recompute_receipts (state : WorkState) :
    (recomputeRoadmapStatusInState roadmapId state).receipts = state.receipts :=
  (sameWork_recompute roadmapId state).receipts

theorem sameWork_ensureInbox (state : WorkState) : SameWork state (ensureInboxRoadmap state) := by
  unfold ensureInboxRoadmap
  split
  · exact .refl _
  · exact ⟨.of_set (by simp) rfl le_rfl, rfl, rfl, rfl⟩

theorem insertHumanGateRow_frame {input : HumanGateInput} {force : Bool} {answer : Option String}
    (h : insertHumanGateRow platform input force state = .ok (answer, state')) :
    ∃ gates drawn, state.drawn ≤ drawn ∧ state' = { state with gates, drawn } := by
  unfold insertHumanGateRow at h
  iterate 3 obtain ⟨_, -, h⟩ := bind_eq_ok h
  dsimp only at h
  split at h
  · cases h
    exact ⟨_, _, le_rfl, rfl⟩
  · split at h
    · cases h
      exact ⟨_, _, le_rfl, rfl⟩
    · cases h
      exact ⟨_, _, Nat.le_succ _, rfl⟩

theorem insertManualGate_frame (h : insertManualGate platform taskId state = .ok state') :
    ∃ gates drawn, state.drawn ≤ drawn ∧ state' = { state with gates, drawn } := by
  unfold insertManualGate at h
  split at h
  · cases h
    exact ⟨_, _, le_rfl, rfl⟩
  · split at h
    · obtain ⟨⟨_, _⟩, hinserted, rfl⟩ := map_eq_ok h
      exact insertHumanGateRow_frame hinserted
    · cases h
      exact ⟨_, _, le_rfl, rfl⟩

theorem addDependency_frame {input : WorkDependencyInput}
    (h : addWorkDependencyInState input state = .ok state') :
    ∃ dependencies, state' = { state with dependencies } := by
  unfold addWorkDependencyInState at h
  obtain ⟨_, -, h⟩ := bind_eq_ok h
  obtain ⟨_, -, h⟩ := bind_eq_ok h
  iterate 3 obtain ⟨_, -, h⟩ := bind_eq_ok h
  split at h
  · cases h
    exact ⟨_, rfl⟩
  · obtain ⟨_, -, h⟩ := bind_eq_ok h
    cases h
    exact ⟨_, rfl⟩

theorem addDependencies_frame {dependsOn : List String}
    (h : dependsOn.foldlM (fun state dependsOnTaskId =>
      addWorkDependencyInState { taskId := taskId, dependsOnTaskId } state) state = .ok state') :
    ∃ dependencies, state' = { state with dependencies } := by
  induction dependsOn generalizing state with
  | nil =>
    cases h
    exact ⟨_, rfl⟩
  | cons _ _ ih =>
    rw [List.foldlM_cons] at h
    obtain ⟨_, hnext, h⟩ := bind_eq_ok h
    obtain ⟨_, rfl⟩ := addDependency_frame hnext
    obtain ⟨dependencies, rfl⟩ := ih h
    exact ⟨dependencies, rfl⟩

theorem planDependencies_frame {ids : List String} {index : Nat}
    {planned : List PlanInitiativeDependency}
    (h : planDependenciesInState ids index planned state = .ok state') :
    ∃ dependencies, state' = { state with dependencies } := by
  induction planned generalizing index state with
  | nil =>
    cases h
    exact ⟨_, rfl⟩
  | cons _ _ ih =>
    obtain ⟨_, -, h⟩ := bind_eq_ok h
    obtain ⟨_, -, h⟩ := bind_eq_ok h
    obtain ⟨_, hnext, h⟩ := bind_eq_ok h
    obtain ⟨_, rfl⟩ := addDependency_frame hnext
    obtain ⟨dependencies, rfl⟩ := ih h
    exact ⟨dependencies, rfl⟩

theorem sameWork_insertManualGate
    (h : insertManualGate platform taskId state = .ok state') : SameWork state state' := by
  obtain ⟨gates, _, hdrawn, rfl⟩ := insertManualGate_frame h
  exact .of_gates gates hdrawn

theorem sameWork_createRoadmap {input : RoadmapInput}
    (h : createRoadmapInState platform input state = .ok (id, state')) : SameWork state state' := by
  unfold createRoadmapInState at h
  obtain ⟨_, -, h⟩ := bind_eq_ok h
  obtain ⟨_, -, h⟩ := bind_eq_ok h
  cases h
  exact ⟨.of_set (by simp) rfl (Nat.le_succ _), rfl, rfl, rfl⟩

theorem not_isArchived_of_accepts {roadmapId : String}
    (h : assertRoadmapAcceptsTasks state roadmapId = .ok ()) : ¬ state.IsArchived roadmapId := by
  unfold assertRoadmapAcceptsTasks at h
  obtain ⟨_, hroadmap, h⟩ := bind_eq_ok h
  rw [refuseIf_eq_ok] at h
  unfold WorkState.IsArchived
  rw [orThrow_eq_ok hroadmap]
  exact fun harchived => h (Option.some.inj harchived)

/-- A state in which the active run of a task, if there was one, has been aborted. -/
structure AbortedAs (state : WorkState) (id : String) (task aborted : WorkTaskRecord) (now : Int)
    (state' : WorkState) : Prop where
  shape : aborted = task ∨ aborted = { task with currentRunId := none }
  tasks : state'.tasks = state.tasks.set id aborted
  runs : state'.runs = state.endActive task (RunRecord.errored · now)
  receipts : state'.receipts = state.receipts
  roadmaps : state'.roadmaps = state.roadmaps
  drawn : state'.drawn = state.drawn

theorem abort_of_active {runId : String} {run : RunRecord} (htask : state.tasks.get id = some task)
    (hactive : state.activeRunOf task = some (runId, run)) :
    AbortedAs state id task { task with currentRunId := none } now
      (abortActiveRunInState id now state).2 := by
  unfold abortActiveRunInState
  rw [htask, Option.bind_some, hactive]
  refine ⟨.inr rfl, ?_, ?_, rfl, rfl, rfl⟩
  · exact modify_of_get _ htask
  · rw [WorkState.endActive, hactive]
    exact modify_of_get _ (activeRunOf_eq_some_iff.mp hactive).2.1

theorem abort_spec (htask : state.tasks.get id = some task) :
    ∃ aborted, AbortedAs state id task aborted now (abortActiveRunInState id now state).2 := by
  cases hactive : state.activeRunOf task with
  | none =>
    unfold abortActiveRunInState
    rw [htask, Option.bind_some, hactive]
    refine ⟨task, .inl rfl, (set_get_self _ htask).symm, ?_, rfl, rfl, rfl⟩
    rw [WorkState.endActive, hactive]
  | some => exact ⟨_, abort_of_active now htask hactive⟩

theorem AbortedAs.updateTask {aborted : WorkTaskRecord} {now : Int}
    (h : AbortedAs state id task aborted now state') {f : WorkTaskRecord → WorkTaskRecord}
    (hf : f { task with currentRunId  := none } = f task) :
    (state'.updateTask id f).tasks = state.tasks.set id (f task) ∧
      (state'.updateTask id f).runs = state.endActive task (RunRecord.errored · now) ∧
      (state'.updateTask id f).receipts = state.receipts ∧
      SideEffects state (state'.updateTask id f) := by
  have haborted : f aborted = f task := by
    rcases h.shape with rfl | rfl
    · rfl
    · exact hf
  have hget : state'.tasks.get id = some aborted := by
    rw [h.tasks, get_set_self]
  refine ⟨?_, h.runs, h.receipts, .of_roadmaps h.roadmaps h.drawn.ge⟩
  rw [WorkState.updateTask, modify_of_get _ hget, h.tasks, set_set, haborted]

/-! ## Updates of one task -/

/-- What an update of a task writes, as far as its course is concerned. -/
structure UpdatedBy (update : WorkTaskUpdateInput) (task updated : WorkTaskRecord) : Prop where
  attempts : updated.attempts = task.attempts
  roadmapId : updated.roadmapId = update.roadmapId.getD task.roadmapId
  pipeline : update.nextPipeline task.pipeline = .ok updated.pipeline
  status : updated.status = update.status.getD task.status
  kept : update.status = none → updated.currentRunId = task.currentRunId
  cleared : ∀ status, update.status = some status → status ≠ .running →
    updated.currentRunId = none
  stage : update.StageFits updated.pipeline → StageKept task updated
  valid : isStage task.stage = true → isStage updated.stage = true
  manualGate : updated.manualGate = update.manualGate.getD task.manualGate

theorem isStage_ne_empty {stage : String} (h : isStage stage = true) : stage ≠ "" := by
  rintro rfl
  exact absurd h (by decide)

theorem normalizeOptionalStage_isStage {value : Option String} {label stage : String}
    (h : normalizeOptionalStage value label = .ok (some stage)) : isStage stage = true := by
  unfold normalizeOptionalStage at h
  split at h
  · cases h
  next given _ =>
    cases hstage : normalizeStage given label with
    | error =>
      rw [hstage] at h
      cases h
    | ok =>
      rw [hstage] at h
      cases h
      unfold normalizeStage at hstage
      obtain ⟨_, -, hstage⟩ := bind_eq_ok hstage
      obtain ⟨_, hvalid, hstage⟩ := bind_eq_ok hstage
      cases hstage
      rw [refuseIf_eq_ok, Bool.not_eq_false] at hvalid
      exact hvalid

theorem stage_of_some {stage : String}
    (hstage : task.currentStage = some stage) (hne : stage ≠ "") : task.stage = stage := by
  simp [WorkTaskRecord.stage, hstage, Text.truthy, Option.filter, hne]

theorem stage_of_none (hstage : task.currentStage = none) : task.stage = task.pipeline.first := by
  simp [WorkTaskRecord.stage, hstage, Text.truthy]

theorem applyStatusUpdate_stage (task : WorkTaskRecord) :
    (applyStatusUpdate status task).pipeline = task.pipeline ∧
      ((applyStatusUpdate status task).stage = task.stage ∨
        (applyStatusUpdate status task).stage = task.pipeline.first) := by
  have hfirst : ∀ changed : WorkTaskRecord, changed.pipeline = task.pipeline →
      changed.currentStage = none ∨ changed.currentStage = some task.pipeline.first →
      changed.stage = task.pipeline.first := by
    intro changed hpipeline hstage
    rcases hstage with hstage | hstage
    · rw [stage_of_none hstage, hpipeline]
    · exact stage_of_some hstage (isStage_ne_empty (task.pipeline.valid _ task.pipeline.first_mem))
  unfold applyStatusUpdate
  dsimp only
  by_cases hover : (isTaskRunOwnershipTerminalStatus status && decide (status ≠ .blocked)) = true
  · rw [if_pos hover]
    split
    · exact ⟨rfl, .inr (hfirst _ rfl (.inr rfl))⟩
    · exact ⟨rfl, .inr (hfirst _ rfl (.inl rfl))⟩
  · rw [if_neg hover]
    split
    · exact ⟨rfl, .inr (hfirst _ rfl (.inr rfl))⟩
    · exact ⟨rfl, .inl rfl⟩

theorem applyStatusUpdate_status (task : WorkTaskRecord) :
    (applyStatusUpdate status task).status = status := by
  simp only [applyStatusUpdate, apply_ite WorkTaskRecord.status, ite_self]

theorem applyStatusUpdate_currentRunId {status : WorkStatus} (hstatus : status ≠ .running)
    (task : WorkTaskRecord) : (applyStatusUpdate status task).currentRunId = none := by
  have hactive : isTaskActiveStatus status = false := by simp [isTaskActiveStatus, hstatus]
  simp only [applyStatusUpdate, apply_ite WorkTaskRecord.currentRunId, ite_self, hactive,
    Bool.false_eq_true, if_false]

theorem applyStatusUpdate_rest (task : WorkTaskRecord) :
    (applyStatusUpdate status task).attempts = task.attempts ∧
      (applyStatusUpdate status task).roadmapId = task.roadmapId := by
  simp only [applyStatusUpdate, apply_ite WorkTaskRecord.attempts,
    apply_ite WorkTaskRecord.roadmapId, ite_self, and_self]

/-- The stage of a task whose fields were written keeps to its pipeline. -/
theorem stageKept_of_fields (hpipeline : update.nextPipeline task.pipeline = .ok changed.pipeline)
    (hstage : update.nextStage task changed.pipeline = .ok changed.currentStage)
    (hfits : update.StageFits changed.pipeline) : StageKept task changed := by
  intro htask
  cases hcurrent : changed.currentStage with
  | none =>
    rw [stage_of_none hcurrent]
    exact changed.pipeline.first_mem
  | some stage =>
    unfold WorkTaskUpdateInput.nextStage at hstage
    rw [hcurrent] at hstage
    cases hgiven : update.currentStage with
    | some given =>
      rw [hgiven] at hstage
      rw [stage_of_some hcurrent (isStage_ne_empty (normalizeOptionalStage_isStage hstage))]
      exact hfits given stage hgiven hstage
    | none =>
      rw [hgiven] at hstage
      have hstage := Except.ok.inj hstage
      by_cases hout : (update.pipeline.isSome && (Text.truthy task.currentStage).any
          (fun stage => stage ∉ changed.pipeline.stages)) = true
      · rw [if_pos hout] at hstage
        rw [stage_of_some (hcurrent.trans hstage.symm)
          (isStage_ne_empty (changed.pipeline.valid _ changed.pipeline.first_mem))]
        exact changed.pipeline.first_mem
      · rw [if_neg hout] at hstage
        cases hlist : update.pipeline with
        | none =>
          have hsame : changed.pipeline = task.pipeline := by
            unfold WorkTaskUpdateInput.nextPipeline at hpipeline
            rw [hlist] at hpipeline
            exact (Except.ok.inj hpipeline).symm
          have hstages : changed.stage = task.stage := by
            unfold WorkTaskRecord.stage
            rw [hcurrent, hstage, hsame]
          rw [hstages, hsame]
          exact htask
        | some =>
          rw [hlist, Option.isSome_some, Bool.true_and, Bool.not_eq_true] at hout
          unfold WorkTaskRecord.stage
          rw [hcurrent, ← hstage]
          cases htruthy : Text.truthy task.currentStage with
          | none => exact changed.pipeline.first_mem
          | some =>
            rw [htruthy] at hout
            simpa using hout

theorem isStage_of_none (hstage : task.currentStage = none) : isStage task.stage = true := by
  rw [stage_of_none hstage]
  exact task.pipeline.valid _ task.pipeline.first_mem

theorem stageValid_of_fields
    (hstage : update.nextStage task changed.pipeline = .ok changed.currentStage)
    (htask : isStage task.stage = true) : isStage changed.stage = true := by
  have hfirst : isStage changed.pipeline.first = true :=
    changed.pipeline.valid _ changed.pipeline.first_mem
  unfold WorkTaskUpdateInput.nextStage at hstage
  cases hgiven : update.currentStage with
  | some =>
    rw [hgiven] at hstage
    cases hcurrent : changed.currentStage with
    | none =>
      rw [stage_of_none hcurrent]
      exact hfirst
    | some =>
      rw [hcurrent] at hstage
      have hvalid := normalizeOptionalStage_isStage hstage
      rw [stage_of_some hcurrent (isStage_ne_empty hvalid)]
      exact hvalid
  | none =>
    rw [hgiven] at hstage
    have hstage := Except.ok.inj hstage
    split at hstage
    · rw [stage_of_some hstage.symm (isStage_ne_empty hfirst)]
      exact hfirst
    · unfold WorkTaskRecord.stage at htask ⊢
      rw [← hstage]
      cases htruthy : Text.truthy task.currentStage with
      | none => exact hfirst
      | some =>
        rw [htruthy] at htask
        exact htask

theorem applyStatusUpdate_manualGate (task : WorkTaskRecord) :
    (applyStatusUpdate status task).manualGate = task.manualGate := by
  simp only [applyStatusUpdate, apply_ite WorkTaskRecord.manualGate, ite_self]

theorem applyTaskUpdate_spec {updated : WorkTaskRecord}
    (h : applyTaskUpdate task update = .ok updated) : UpdatedBy update task updated := by
  unfold applyTaskUpdate at h
  obtain ⟨_, -, h⟩ := bind_eq_ok h
  obtain ⟨_, -, h⟩ := bind_eq_ok h
  obtain ⟨_, hpipeline, h⟩ := bind_eq_ok h
  obtain ⟨_, hstage, h⟩ := bind_eq_ok h
  have h := Except.ok.inj h
  cases hstatus : update.status with
  | none =>
    rw [hstatus] at h
    subst h
    exact ⟨rfl, rfl, hpipeline, by rw [hstatus]; rfl, fun _ => rfl,
      fun status hsome => absurd (hstatus.symm.trans hsome) (by simp),
      fun hfits => stageKept_of_fields hpipeline hstage hfits,
      stageValid_of_fields hstage, rfl⟩
  | some status =>
    rw [hstatus] at h
    subst h
    refine ⟨(applyStatusUpdate_rest _ _).1, (applyStatusUpdate_rest _ _).2, ?_, ?_, ?_, ?_, ?_,
      ?_, applyStatusUpdate_manualGate _ _⟩
    · rw [(applyStatusUpdate_stage _ _).1]
      exact hpipeline
    · rw [applyStatusUpdate_status, hstatus]
      rfl
    · exact fun hnone => absurd (hstatus.symm.trans hnone) (by simp)
    · intro _ hother hne
      obtain rfl := Option.mem_unique hstatus hother
      exact applyStatusUpdate_currentRunId hne _
    · intro hfits htask
      rw [(applyStatusUpdate_stage _ _).1] at hfits ⊢
      have hkept := stageKept_of_fields hpipeline hstage hfits htask
      rcases (applyStatusUpdate_stage status _).2 with hsame | hsame
      · rw [hsame]
        exact hkept
      · rw [hsame]
        exact Pipeline.first_mem _
    · intro htask
      rcases (applyStatusUpdate_stage status _).2 with hsame | hsame
      · rw [hsame]
        exact stageValid_of_fields hstage htask
      · rw [hsame]
        exact Pipeline.valid _ _ (Pipeline.first_mem _)

end Parts

section Verdict

variable (toUpperCase : String → String) (task : WorkTaskRecord) (stage : String)
  (result : StageResult) (retryLimit : Int)

structure AcceptedPass : Prop where
  member : stage ∈ task.pipeline.stages
  pass : result.status = .pass
  quality : validateStageResultQuality toUpperCase task.pipeline.stages task.qualitySpec stage
    result = none

inductive Verdict : WorkflowDecision → Prop where
  | blocked (note : String) :
      Verdict { taskStatus := .blocked, nextStage := none, retryStage := none, note }
  | retried (note : String) (hmember : stage ∈ task.pipeline.stages)
      (hblocked : result.status ≠ .blocked)
      (hrejected : ¬ AcceptedPass toUpperCase task stage result)
      (hlimit : ((task.attempts.get stage).getD 0 : Int) < retryLimit) :
      Verdict { taskStatus := .pending, nextStage := none,
                retryStage := some (retryStageFor stage result), note }
  | advanced (note next : String) (haccepted : AcceptedPass toUpperCase task stage result)
      (hnext : task.pipeline.stages[task.pipeline.stages.idxOf stage + 1]? = some next) :
      Verdict { taskStatus := .pending, nextStage := some next, retryStage := none, note }
  | finished (note : String) (haccepted : AcceptedPass toUpperCase task stage result)
      (hlast : task.pipeline.stages.length = task.pipeline.stages.idxOf stage + 1) :
      Verdict { taskStatus := .done, nextStage := none, retryStage := none, note }

variable {toUpperCase task stage result retryLimit}

theorem verdict_retryOrBlock {note blockNote : String} (hmember : stage ∈ task.pipeline.stages)
    (hblocked : result.status ≠ .blocked)
    (hrejected : ¬ AcceptedPass toUpperCase task stage result) :
    Verdict toUpperCase task stage result retryLimit (retryOrBlock
      ((task.attempts.get stage).getD 0) retryLimit (retryStageFor stage result) note
        blockNote) := by
  unfold retryOrBlock
  split
  · exact .blocked _
  next hlimit => exact .retried _ hmember hblocked hrejected (not_le.mp hlimit)

variable (toUpperCase task stage result retryLimit) in
theorem verdict_decide : Verdict toUpperCase task stage result retryLimit
    (decideNextTaskState toUpperCase task stage result retryLimit) := by
  unfold decideNextTaskState
  by_cases hmember : stage ∈ task.pipeline.stages
  · rw [if_neg (not_not.mpr hmember)]
    split
    · exact .blocked _
    next hblocked =>
      split
      next hfailed =>
        refine verdict_retryOrBlock hmember hblocked fun haccepted => ?_
        rcases hfailed with hfail | hunknown
        · exact absurd (hfail.symm.trans haccepted.pass) (by decide)
        · exact absurd (hunknown.symm.trans haccepted.pass) (by decide)
      next hfailed =>
        rw [not_or] at hfailed
        cases hquality : validateStageResultQuality toUpperCase task.pipeline.stages
            task.qualitySpec stage result with
        | some feedback =>
          refine verdict_retryOrBlock hmember hblocked fun haccepted => ?_
          rw [haccepted.quality] at hquality
          cases hquality
        | none =>
          have hpass : result.status = .pass := by
            cases hstatus : result.status with
            | pass => rfl
            | fail => exact absurd hstatus hfailed.1
            | unknown => exact absurd hstatus hfailed.2
            | blocked => exact absurd hstatus hblocked
          have haccepted : AcceptedPass toUpperCase task stage result := ⟨hmember, hpass, hquality⟩
          cases hnext : task.pipeline.stages[task.pipeline.stages.idxOf stage + 1]? with
          | none =>
            refine .finished _ haccepted ?_
            rw [List.getElem?_eq_none_iff] at hnext
            exact Nat.le_antisymm hnext (List.idxOf_lt_length_of_mem hmember)
          | some next =>
            have hne : next ≠ "" :=
              isStage_ne_empty (task.pipeline.valid next (List.mem_of_getElem? hnext))
            have htruthy : Text.truthy (some next) = some next := by
              simp [Text.truthy, Option.filter, hne]
            rw [htruthy]
            exact .advanced _ next haccepted hnext
  · rw [if_pos hmember]
    exact .blocked _

end Verdict

end OpenCowork.Gateway
