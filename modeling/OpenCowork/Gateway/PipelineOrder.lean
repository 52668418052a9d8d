import OpenCowork.Foundation.LatestInOrder
import OpenCowork.Gateway.Course

/-! # Passes in the order of the pipeline

A task is done when the latest run of every stage of its pipeline was accepted, one after the
other, unless a rejected result has sent it forward: to the stage `implement` where that stands
behind the rejected one.
-/

namespace OpenCowork.Gateway

open Foundation

/-- A result that was not accepted sends its task to a stage behind that of its run. -/
inductive SendsForward (platform : WorkPlatform) (state : WorkState) (input : WorkInput)
    (id : String) : Prop where
  | mk {runId : String} {raw result : StageResult} {retryLimit : Int}
      {lease : RunLeaseExpectation} {collected : Option EnvironmentCollection} {run : RunRecord}
      {task : WorkTaskRecord}
      (hoperation : input.operation = .completeWorkTaskRun runId raw retryLimit lease collected)
      (howned : state.ownedRun runId = some (run, task)) (hid : run.taskId = id)
      (hlease : runLeaseExpectationFailure run lease input.now = none)
      (hresult : result = collectRunEnvironmentArtifacts run raw collected)
      (hblocked : result.status ≠ .blocked)
      (hrejected : ¬ AcceptedPass platform.toUpperCase (task.counted run) run.stage result)
      (hlimit : (run.attempt : Int) < retryLimit)
      (hmember : retryStageFor run.stage result ∈ task.pipeline.stages)
      (hbehind : task.pipeline.stages.idxOf run.stage <
        task.pipeline.stages.idxOf (retryStageFor run.stage result))

def Pipeline.before (pipeline : Pipeline) (stage : String) : List String :=
  pipeline.stages.take (pipeline.stages.idxOf stage)

namespace Pipeline

variable {pipeline : Pipeline} {stage other : String}

theorem not_mem_before (hmember : stage ∈ pipeline.stages)
    (hle : pipeline.stages.idxOf other ≤ pipeline.stages.idxOf stage) :
    stage ∉ pipeline.before other := by
  unfold before
  rw [List.mem_take_iff_idxOf_lt hmember]
  exact not_lt.mpr hle

theorem before_append (hle : pipeline.stages.idxOf other ≤ pipeline.stages.idxOf stage) :
    ∃ rest, pipeline.before stage = pipeline.before other ++ rest := by
  obtain ⟨rest, hrest⟩ := List.take_prefix_take_left hle (l := pipeline.stages)
  exact ⟨rest, hrest.symm⟩

theorem before_first : pipeline.before pipeline.first = [] := by
  have hhead := pipeline.head?_eq_first
  unfold before
  cases hstages : pipeline.stages with
  | nil => rfl
  | cons =>
    rw [hstages, List.head?_cons, Option.some.injEq] at hhead
    rw [hhead, List.idxOf_cons_self, List.take_zero]

variable (hmember : stage ∈ pipeline.stages)
include hmember

theorem take_succ :
    pipeline.stages.take (pipeline.stages.idxOf stage + 1) = pipeline.before stage ++ [stage] := by
  rw [List.take_add_one, List.getElem?_idxOf hmember]
  rfl

theorem before_next (hnext : pipeline.stages[pipeline.stages.idxOf stage + 1]? = some other) :
    pipeline.before other = pipeline.before stage ++ [stage] := by
  obtain ⟨_, rfl⟩ := List.getElem?_eq_some_iff.mp hnext
  rw [before, pipeline.nodup.idxOf_getElem, take_succ hmember]

theorem before_last (hlast : pipeline.stages.length = pipeline.stages.idxOf stage + 1) :
    pipeline.stages = pipeline.before stage ++ [stage] := by
  rw [← take_succ hmember, ← hlast, List.take_length]

end Pipeline

/-- The latest runs of the stages were accepted, one after the other. -/
abbrev PassedInOrder (ended : List (CourseRun × Bool)) (stages : List String) : Prop :=
  LatestInOrder (fun entry => entry.1.stage) (fun entry => entry.2 = true) ended stages

/-- The stages before that of the task were passed in order, and all of them if it is done. -/
structure Course.InOrder (course : Course) : Prop where
  active : ∀ run, course.active = some run →
    run.stage ∈ course.task.pipeline.stages ∧ course.task.stage = run.stage
  due : course.task.status = .pending ∨ course.task.status = .running →
    course.task.stage ∈ course.task.pipeline.stages →
    PassedInOrder course.ended (course.task.pipeline.before course.task.stage)
  done : course.task.status = .done → PassedInOrder course.ended course.task.pipeline.stages

section Step

variable {platform : WorkPlatform} {input : WorkInput} {origin : WorkState} {answer : WorkAnswer}
  {id : String} {course next : Course}

theorem Course.InOrder.of_isNew (hnew : course.IsNew) : course.InOrder := by
  refine ⟨fun _ hrun => ?_, fun _ _ => ?_, fun hdone => ?_⟩
  · rw [hnew.active] at hrun
    cases hrun
  · rw [stage_of_some hnew.stage (isStage_ne_empty
      (course.task.pipeline.valid _ course.task.pipeline.first_mem)), Pipeline.before_first]
    trivial
  · rw [hnew.status] at hdone
    cases hdone

theorem Course.InOrder.of_blocked (hactive : next.active = none)
    (hstatus : next.task.status = .blocked) : next.InOrder := by
  refine ⟨fun _ hrun => ?_, fun hdue => ?_, fun hdone => ?_⟩
  · rw [hactive] at hrun
    cases hrun
  · rw [hstatus] at hdue
    rcases hdue with hdue | hdue <;> cases hdue
  · rw [hstatus] at hdone
    cases hdone

theorem Course.InOrder.of_pending (hactive : next.active = none)
    (hstatus : next.task.status = .pending)
    (hdue : next.task.stage ∈ next.task.pipeline.stages →
      PassedInOrder next.ended (next.task.pipeline.before next.task.stage)) : next.InOrder := by
  refine ⟨fun _ hrun => ?_, fun _ => hdue, fun hdone => ?_⟩
  · rw [hactive] at hrun
    cases hrun
  · rw [hstatus] at hdone
    cases hdone

theorem truthy_some {text : String} (hne : text ≠ "") : Text.truthy (some text) = some text := by
  simp [Text.truthy, Option.filter, hne]

theorem retryStageFor_ne_empty {stage : String} (hstage : stage ≠ "") (result : StageResult) :
    retryStageFor stage result ≠ "" := by
  unfold retryStageFor
  split
  · decide
  · split
    · decide
    · exact hstage

/-- A step that sends nothing forward keeps the passes in order. -/
theorem Course.InOrder.step (h : course.InOrder) (hdescribes : course.Describes origin id)
    (hforward : ¬ SendsForward platform origin input id)
    (hstep : CourseStep platform input origin answer course next) : next.InOrder := by
  -- what is known of the stage of a run
  have hrunning : ∀ runId (run : RunRecord), course.active = some (run.inCourse runId) →
      run.stage ∈ course.task.pipeline.stages ∧ run.stage ≠ "" ∧
      PassedInOrder course.ended (course.task.pipeline.before run.stage) := by
    intro runId run hactive
    obtain ⟨hmember, hstage⟩ := h.active _ hactive
    have hdue := h.due (.inr (hdescribes.running _ hactive).2.1)
    rw [hstage] at hdue
    exact ⟨hmember, isStage_ne_empty (course.task.pipeline.valid _ hmember), hdue hmember⟩
  cases hstep with
  | started _ hpending hmember hstage =>
    have hne := isStage_ne_empty (course.task.pipeline.valid _ hmember)
    have hdue := h.due (.inl hpending) (hstage ▸ hmember)
    rw [hstage] at hdue
    refine ⟨?_, fun _ _ => ?_, fun hdone => ?_⟩
    · rintro run ⟨⟩
      exact ⟨hmember, stage_of_some rfl hne⟩
    · rw [stage_of_some rfl hne]
      exact hdue
    · cases hdone
  | @completed runId run raw result retryLimit lease collected decision status hactive hoperation
      howned hlease hresult hdecision hanswer hover herrored =>
      obtain ⟨hmember, hne, hpassed⟩ := hrunning _ _ hactive
      have hverdict := verdict_decide platform.toUpperCase (course.task.counted run) run.stage
        result retryLimit
      change Verdict _ _ _ _ _ (course.task.decision platform.toUpperCase run result retryLimit)
        at hverdict
      rw [← hdecision] at hverdict
      cases hverdict with
      | blocked => exact .of_blocked rfl rfl
      | retried _ _ hblocked hrejected hlimit =>
        refine .of_pending rfl rfl fun hin => ?_
        have hback := retryStageFor_ne_empty hne result
        rw [stage_of_some (truthy_some hback) hback] at hin ⊢
        have hle : course.task.pipeline.stages.idxOf (retryStageFor run.stage result) ≤
            course.task.pipeline.stages.idxOf run.stage := by
          by_contra hbehind
          refine hforward (.mk hoperation howned (hdescribes.active_taskId hactive
            (ownedRun_eq_some_iff.mp howned).1) hlease hresult hblocked hrejected ?_ hin
            (not_le.mp hbehind))
          simpa [WorkTaskRecord.counted] using hlimit
        obtain ⟨_, hrest⟩ := Pipeline.before_append hle
        rw [hrest] at hpassed
        exact hpassed.of_append.push (Pipeline.not_mem_before hmember hle)
      | advanced _ following _ hnext =>
        refine .of_pending rfl rfl fun hin => ?_
        have hin := List.mem_of_getElem? hnext
        have hfollowing := isStage_ne_empty (course.task.pipeline.valid _ hin)
        have hstage : (Text.truthy (some following)).or (Text.truthy none) = some following := by
          rw [truthy_some hfollowing]
          rfl
        rw [stage_of_some hstage hfollowing]
        change PassedInOrder _ (course.task.pipeline.before following)
        rw [Pipeline.before_next hmember hnext]
        exact hpassed.push_next rfl (Pipeline.not_mem_before hmember le_rfl)
      | finished _ _ hlast =>
        refine ⟨fun run hrun => ?_, fun hdue => ?_, fun _ => ?_⟩
        · cases hrun
        · rcases hdue with hdue | hdue <;> cases hdue
        · change PassedInOrder _ course.task.pipeline.stages
          rw [Pipeline.before_last hmember hlast]
          exact hpassed.push_next rfl (Pipeline.not_mem_before hmember le_rfl)
  | @recovered runId run retryLimit hactive hoperation hrun hlost =>
    obtain ⟨hmember, hne, hpassed⟩ := hrunning _ _ hactive
    unfold WorkTaskRecord.recovered
    split
    · refine .of_pending rfl rfl fun _ => ?_
      rw [stage_of_some rfl hne]
      exact hpassed.push (Pipeline.not_mem_before hmember le_rfl)
    · exact .of_blocked rfl rfl
  | stopped => exact .of_blocked rfl rfl

end Step

/-- As long as no rejected result sends the task forward: once the task is done, the latest run of
every stage of its pipeline is one whose result was accepted, and these runs were started in the
order of the pipeline. -/
theorem done_passed_in_order (platform : WorkPlatform) (inputs : List WorkInput) (id : String)
    (hunattended : ∀ moment ∈ (workStore platform).history .empty inputs,
      ¬ moment.input.operation.overrides moment.before id)
    (hforward : ∀ moment ∈ (workStore platform).history .empty inputs,
      ¬ SendsForward platform moment.before moment.input id)
    (task : WorkTaskRecord)
    (htask : ((workStore platform).run .empty inputs).tasks.get id = some task)
    (hdone : task.status = .done) :
    LatestInOrder CourseRun.stage
      (fun run => run.id ∈ acceptedRuns ((workStore platform).history .empty inputs))
      (((workStore platform).run .empty inputs).runsOf id) task.pipeline.stages := by
  obtain ⟨course, hdescribes, hordered, haccepted⟩ := course_invariant platform id Course.InOrder
    (fun moment => ¬ SendsForward platform moment.before moment.input id)
    (fun course hnew => .of_isNew hnew)
    (fun state input answer course next _ hdescribes hguard hordered hstep =>
      hordered.step hdescribes hguard hstep)
    inputs hunattended hforward htask
  have hsame : course.task = task := Option.mem_unique hdescribes.task htask
  have hidle : course.active = none := by
    cases hactive : course.active with
    | none => rfl
    | some run =>
      have hrunning := (hdescribes.running run hactive).2.1
      rw [hsame, hdone] at hrunning
      cases hrunning
  rw [hdescribes.runs, Course.runs, hidle, Option.toList_none, List.append_nil, ← hsame]
  exact (hordered.done (hsame ▸ hdone)).map Prod.fst (fun _ _ => rfl) haccepted

/-- A task with the given pipeline is created, and results come in for its runs: the stage, the id
of the run and the status of the result. -/
def createdAndRun (pipeline : List String) (results : List (String × String × StageResultStatus)) :
    List WorkInput :=
  ⟨0, .createWorkTask { title := "Report", pipeline := some pipeline }⟩ ::
    results.flatMap fun (stage, runId, status) =>
      [⟨1,
        .startWorkTaskRun { taskId := "task_", stage, sessionId := "ses_1", profile := "coder" }⟩,
      ⟨2, .completeWorkTaskRun runId (plainResult status) 3 {} none⟩]

/-- The review of a task fails and is run again, after the stage before it. -/
def reviewedTwice : List WorkInput :=
  createdAndRun ["implement", "review"] [("implement", "run_a", .pass),
    ("review", "run_aa", .fail), ("implement", "run_aaa", .pass), ("review", "run_aaaa", .pass)]

/-- An operation brings no result that sends its task forward. -/
def sendsNoneForward (state : WorkState) : WorkOperation → Bool
  | .completeWorkTaskRun runId raw _ _ collected => (state.ownedRun runId).all fun owned =>
    owned.2.pipeline.stages.idxOf (retryStageFor owned.1.stage
      (collectRunEnvironmentArtifacts owned.1 raw collected)) ≤
        owned.2.pipeline.stages.idxOf owned.1.stage
  | _ => true

theorem done_passed_in_order_once :
    LatestInOrder CourseRun.stage
      (fun run =>
        run.id ∈ acceptedRuns ((workStore countingPlatform).history .empty reviewedTwice))
      (((workStore countingPlatform).run .empty reviewedTwice).runsOf "task_")
      ["implement", "review"] := by
  have hdone : (((workStore countingPlatform).run .empty reviewedTwice).tasks.get "task_").map
      (fun task => (task.status, task.pipeline.stages)) =
        some (.done, ["implement", "review"]) := by decide +kernel
  obtain ⟨task, htask, hfields⟩ := Option.map_eq_some_iff.mp hdone
  rw [Prod.mk.injEq] at hfields
  have hordered := done_passed_in_order countingPlatform _ "task_" ?_ ?_ task htask hfields.1
  · rwa [hfields.2] at hordered
  · -- creations, starts and results are no operator's actions
    intro moment hmem hoverrides
    have hinput := Machine.input_mem_of_mem_history _ _ hmem
    simp only [reviewedTwice, createdAndRun, List.flatMap_cons, List.flatMap_nil,
      List.append_nil, List.cons_append, List.nil_append, List.mem_cons, List.not_mem_nil,
      or_false] at hinput
    rcases hinput with h | h | h | h | h | h | h | h | h <;> rw [h] at hoverrides <;>
      exact hoverrides
  · have hback : ((workStore countingPlatform).history .empty reviewedTwice).all fun moment =>
        sendsNoneForward moment.before moment.input.operation := by decide +kernel
    rintro moment hmem ⟨hoperation, howned, -, -, rfl, -, -, -, -, hbehind⟩
    have hheld := List.all_eq_true.mp hback moment hmem
    rw [hoperation] at hheld
    simp only [sendsNoneForward, howned, Option.all_some, decide_eq_true_eq] at hheld
    exact absurd hbehind (not_lt.mpr hheld)

/-- A task is done although the only run of its review has failed. -/
theorem done_after_failed_review :
    (((workStore countingPlatform).run .empty (createdAndRun ["review", "implement"]
      [("review", "run_a", .fail), ("implement", "run_aa", .pass)])).tasks.get "task_").map
        WorkTaskRecord.status = some .done ∧
    (((workStore countingPlatform).run .empty (createdAndRun ["review", "implement"]
      [("review", "run_a", .fail), ("implement", "run_aa", .pass)])).runsOf "task_").map
        (fun run => (run.id, run.stage)) = [("run_a", "review"), ("run_aa", "implement")] ∧
    acceptedRuns ((workStore countingPlatform).history .empty (createdAndRun
      ["review", "implement"] [("review", "run_a", .fail), ("implement", "run_aa", .pass)])) =
        ["run_aa"] := by
  decide +kernel

end OpenCowork.Gateway
