import OpenCowork.Gateway.Course

/-! # Failed runs of a stage

A result that is not accepted counts as an attempt at its stage, the loss of a run does not. As
long as no run gets lost at a stage at which its task has lost one before, the runs of a stage
that end in anything but an accepted pass are at most one more than the retry limit allows.
-/

namespace OpenCowork.Gateway

open Foundation

def WorkOperation.retryLimit : WorkOperation → Option Int
  | .completeWorkTaskRun _ _ limit _ _ | .recoverOrphanedWorkRuns _ limit
  | .recoverOrphanedWorkRun _ limit => some limit
  | _ => none

/-- A run of the task gets lost at a stage at which it has lost a run before. -/
def LosesAgain (state : WorkState) (operation : WorkOperation) (id : String) : Prop :=
  ∃ runId run, state.runs.get runId = some run ∧ run.taskId = id ∧ run.status = .running ∧
    operation.loses runId run = true ∧
    ∃ lost ∈ state.runsOf id, lost.stage = run.stage ∧ lost.status = .errored

/-- The runs of a stage that ended without a result. -/
def Course.lostAt (course : Course) (stage : String) : Nat :=
  course.ended.countP fun entry => entry.1.stage = stage ∧ entry.1.status = .errored

/-- The runs of a stage that ended with a result which was not accepted. -/
def Course.failedAt (course : Course) (stage : String) : Nat :=
  course.ended.countP fun entry =>
    entry.1.stage = stage ∧ entry.1.status ≠ .errored ∧ entry.2 = false

/-- The failed runs of every stage are on record as attempts at it, and stay below the limit
while the task is not blocked. -/
structure Course.Bounded (limit : Nat) (course : Course) : Prop where
  recorded : ∀ stage, course.failedAt stage ≤ (course.task.attempts.get stage).getD 0
  attempt : ∀ run, course.active = some run →
    run.attempt = (course.task.attempts.get run.stage).getD 0 + 1
  open_failed : course.task.status ≠ .blocked → ∀ stage, course.failedAt stage < limit
  open_lost : course.task.status ≠ .blocked → ∀ stage, course.lostAt stage ≤ 1
  total : ∀ stage, course.failedAt stage + course.lostAt stage ≤ limit + 1

section Counts

variable {course next : Course} {run : CourseRun} {accepted : Bool} {stage : String}
  (h : next.ended = course.ended ++ [(run, accepted)])
include h

theorem lostAt_push :
    next.lostAt stage = course.lostAt stage +
      if run.stage = stage ∧ run.status = .errored then 1 else 0 := by
  unfold Course.lostAt
  rw [h, List.countP_append, List.countP_singleton]
  simp only [decide_eq_true_eq]

theorem failedAt_push :
    next.failedAt stage = course.failedAt stage +
      if run.stage = stage ∧ run.status ≠ .errored ∧ accepted = false then 1 else 0 := by
  unfold Course.failedAt
  rw [h, List.countP_append, List.countP_singleton]
  simp only [decide_eq_true_eq]

omit h

theorem countP_le_add {α : Type*} {p q r : α → Bool} {l : List α}
    (h : ∀ a ∈ l, p a = true → q a = true ∨ r a = true) : l.countP p ≤ l.countP q + l.countP r := by
  induction l with
  | nil => exact Nat.le_refl 0
  | cons head _ ih =>
    have hrest := ih fun a ha => h a (.tail _ ha)
    have hhead := h head (.head _)
    rw [List.countP_cons, List.countP_cons, List.countP_cons]
    by_cases hp : p head = true
    · rcases hhead hp with hq | hr
      · rw [if_pos hp, if_pos hq]
        omega
      · rw [if_pos hp, if_pos hr]
        omega
    · rw [if_neg hp]
      omega

theorem countP_not_accepted_le (accepted : List String)
    (h : ∀ entry ∈ course.ended, entry.2 = true → entry.1.id ∈ accepted) :
    (course.ended.map Prod.fst).countP (fun run => run.stage = stage ∧ run.id ∉ accepted) ≤
      course.failedAt stage + course.lostAt stage := by
  rw [List.countP_map]
  apply countP_le_add
  intro entry hentry hcounted
  simp only [Function.comp_apply, decide_eq_true_eq] at hcounted ⊢
  obtain ⟨hstage, hrejected⟩ := hcounted
  by_cases herrored : entry.1.status = .errored
  · exact .inr ⟨hstage, herrored⟩
  · refine .inl ⟨hstage, herrored, ?_⟩
    by_contra haccepted
    exact hrejected (h entry hentry (by simpa using haccepted))

end Counts

section Step

variable {platform : WorkPlatform} {input : WorkInput} {origin : WorkState} {answer : WorkAnswer}
  {id : String} {course next : Course} {limit : Nat} {run : CourseRun}

theorem Course.Bounded.of_isNew (hlimit : 1 ≤ limit) (hnew : course.IsNew) :
    course.Bounded limit := by
  have hlost : ∀ stage, course.lostAt stage = 0 := fun stage => by
    rw [Course.lostAt, hnew.ended, List.countP_nil]
  have hfailed : ∀ stage, course.failedAt stage = 0 := fun stage => by
    rw [Course.failedAt, hnew.ended, List.countP_nil]
  refine ⟨fun stage => ?_, fun _ hrun => ?_, fun _ stage => ?_, fun _ stage => ?_,
    fun _ => ?_⟩
  · rw [hfailed]
    exact Nat.zero_le _
  · rw [hnew.active] at hrun
    cases hrun
  · rw [hfailed]
    exact hlimit
  · rw [hlost]
    exact Nat.zero_le 1
  · rw [hfailed, hlost]
    exact Nat.zero_le _

theorem Verdict.below_limit {toUpperCase : String → String} {task : WorkTaskRecord} {stage : String}
    {result : StageResult} {retryLimit : Int} {decision : WorkflowDecision}
    (h : Verdict toUpperCase task stage result retryLimit decision)
    (haccepts : decision.accepts = false) (hstatus : decision.taskStatus ≠ .blocked) :
    ((task.attempts.get stage).getD 0 : Int) < retryLimit := by
  cases h with
  | blocked => exact absurd rfl hstatus
  | retried _ _ _ _ hlimit => exact hlimit
  | advanced | finished => cases haccepts

theorem Course.Bounded.of_end (h : course.Bounded limit) (hopen : course.task.status ≠ .blocked)
    {accepted : Bool} (hended : next.ended = course.ended ++ [(run, accepted)])
    (hactive : next.active = none) (hattempts : ∀ stage, run.stage ≠ stage →
      next.task.attempts.get stage = course.task.attempts.get stage)
    (hrecorded : next.failedAt run.stage ≤ (next.task.attempts.get run.stage).getD 0)
    (hfailed : next.task.status ≠ .blocked → next.failedAt run.stage < limit)
    (hlost : next.task.status ≠ .blocked → next.lostAt run.stage ≤ 1)
    (htotal : next.failedAt run.stage + next.lostAt run.stage ≤ limit + 1) :
    next.Bounded limit := by
  have hfailed_other : ∀ stage, run.stage ≠ stage → next.failedAt stage = course.failedAt stage :=
    fun stage hother => by rw [failedAt_push hended,
      if_neg (fun hcounted => hother hcounted.1)]; rfl
  have hlost_other : ∀ stage, run.stage ≠ stage → next.lostAt stage = course.lostAt stage :=
    fun stage hother => by rw [lostAt_push hended, if_neg (fun hcounted => hother hcounted.1)]; rfl
  refine ⟨fun stage => ?_, fun _ hsome => ?_, fun hstatus stage => ?_,
    fun hstatus stage => ?_, fun stage => ?_⟩
  · by_cases hstage : run.stage = stage
    · exact hstage ▸ hrecorded
    · rw [hfailed_other stage hstage, hattempts stage hstage]
      exact h.recorded stage
  · rw [hactive] at hsome
    cases hsome
  · by_cases hstage : run.stage = stage
    · exact hstage ▸ hfailed hstatus
    · rw [hfailed_other stage hstage]
      exact h.open_failed hopen stage
  · by_cases hstage : run.stage = stage
    · exact hstage ▸ hlost hstatus
    · rw [hlost_other stage hstage]
      exact h.open_lost hopen stage
  · by_cases hstage : run.stage = stage
    · exact hstage ▸ htotal
    · rw [hfailed_other stage hstage, hlost_other stage hstage]
      exact h.total stage

theorem Course.Bounded.of_loss (h : course.Bounded limit) (hopen : course.task.status ≠ .blocked)
    (herrored : run.status = .errored) (hended : next.ended = course.ended ++ [(run, false)])
    (hactive : next.active = none) (hattempts : next.task.attempts = course.task.attempts)
    (hfirst : next.task.status ≠ .blocked → course.lostAt run.stage = 0) : next.Bounded limit := by
  have hfailed : next.failedAt run.stage = course.failedAt run.stage := by
    rw [failedAt_push hended, if_neg (fun hcounted => hcounted.2.1 herrored)]
    rfl
  have hlost : next.lostAt run.stage = course.lostAt run.stage + 1 := by
    rw [lostAt_push hended, if_pos ⟨rfl, herrored⟩]
  have hbelow := h.open_failed hopen run.stage
  have hone := h.open_lost hopen run.stage
  refine h.of_end hopen hended hactive (fun _ _ => by rw [hattempts]) ?_ (fun _ => ?_)
    (fun hstatus => ?_) ?_
  · rw [hfailed, hattempts]
    exact h.recorded run.stage
  · rw [hfailed]
    exact hbelow
  · rw [hlost, hfirst hstatus]
  · rw [hfailed, hlost]
    omega

theorem recovered_attempts (task : WorkTaskRecord) (run : RunRecord) (retryLimit : Int)
    (summary : String) : (task.recovered run retryLimit summary).attempts = task.attempts := by
  unfold WorkTaskRecord.recovered
  split <;> rfl

theorem lostAt_eq_zero (hdescribes : course.Describes origin id)
    (hloses : ¬ LosesAgain origin input.operation id) {runId : String} {run : RunRecord}
    (hactive : course.active = some (run.inCourse runId))
    (hrun : origin.runs.get runId = some run) (hlost : input.operation.loses runId run = true) :
    course.lostAt run.stage = 0 := by
  rw [Course.lostAt, List.countP_eq_zero]
  intro entry hentry hcounted
  simp only [decide_eq_true_eq] at hcounted
  refine hloses ⟨runId, run, hrun, hdescribes.active_taskId hactive hrun,
    (hdescribes.running _ hactive).1, hlost, entry.1, ?_, hcounted⟩
  rw [hdescribes.runs, Course.runs]
  exact List.mem_append_left _ (List.mem_map_of_mem hentry)

/-- A step that loses no second run of a stage keeps its failures within the limit. -/
theorem Course.Bounded.step (h : course.Bounded limit) (hdescribes : course.Describes origin id)
    (hretry : ∀ given, input.operation.retryLimit = some given → given = limit)
    (hloses : ¬ LosesAgain origin input.operation id)
    (hstep : CourseStep platform input origin answer course next) : next.Bounded limit := by
  have hopen : ∀ run, course.active = some run → course.task.status ≠ .blocked := by
    intro run hactive
    rw [(hdescribes.running run hactive).2.1]
    decide
  cases hstep with
  | started _ hpending =>
    have hopen : course.task.status ≠ .blocked := by simp [hpending]
    refine ⟨h.recorded, ?_, fun _ => h.open_failed hopen, fun _ => h.open_lost hopen, h.total⟩
    rintro run ⟨⟩
    rfl
  | @completed runId run raw result retryLimit lease collected decision status hactive hoperation
      howned _ hresult hdecision hanswer hover herrored =>
      have hattempt : run.attempt = (course.task.attempts.get run.stage).getD 0 + 1 :=
        h.attempt _ hactive
      have hfailed := h.open_failed (hopen _ hactive) run.stage
      have hlost := h.open_lost (hopen _ hactive) run.stage
      have hrecorded := h.recorded run.stage
      have hlimit : decision.accepts = false → decision.taskStatus ≠ .blocked →
          run.attempt < limit := by
        intro haccepts hstatus
        have hbelow := (hdecision ▸ verdict_decide platform.toUpperCase (course.task.counted run)
          run.stage result retryLimit : Verdict platform.toUpperCase (course.task.counted run)
            run.stage result retryLimit decision).below_limit haccepts hstatus
        rw [hretry retryLimit (by rw [hoperation]; rfl)] at hbelow
        simpa [WorkTaskRecord.counted] using hbelow
      generalize hnext : Course.mk _ _ _ = next
      have hended : next.ended = course.ended ++
          [({ run.inCourse runId with status := status }, decision.accepts)] := by rw [← hnext]
      have htask : next.task = (course.task.counted run).decided decision := by rw [← hnext]
      have hlost' : next.lostAt run.stage = course.lostAt run.stage := by
        rw [lostAt_push hended, if_neg (fun hcounted => herrored hcounted.2)]
        rfl
      have hfailed' : next.failedAt run.stage =
          course.failedAt run.stage + if decision.accepts = false then 1 else 0 := by
        rw [failedAt_push hended]
        congr 1
        simp [RunRecord.inCourse, herrored]
      have hattempts : ∀ stage, next.task.attempts.get stage =
          (course.task.attempts.set run.stage run.attempt).get stage := fun stage => by
        rw [htask]
        rfl
      refine h.of_end (hopen _ hactive) hended (by rw [← hnext]) (fun stage hother => ?_) ?_
        (fun hstatus => ?_) (fun _ => hlost'.trans_le hlost) ?_
      · rw [hattempts]
        exact OrderedMap.get_set_of_ne _ _ hother
      · change next.failedAt run.stage ≤ (next.task.attempts.get run.stage).getD 0
        rw [hattempts, OrderedMap.get_set_self, Option.getD_some, hfailed', hattempt]
        split <;> omega
      · change next.failedAt run.stage < limit
        rw [htask] at hstatus
        rw [hfailed']
        split
        next haccepts =>
          have hbelow := hlimit haccepts hstatus
          omega
        · exact hfailed
      · change next.failedAt run.stage + next.lostAt run.stage ≤ limit + 1
        rw [hfailed', hlost']
        split <;> omega
  | @recovered runId run retryLimit hactive hoperation hrun hlost =>
    exact h.of_loss (hopen _ hactive) rfl rfl rfl (recovered_attempts _ _ _ _)
      fun _ => lostAt_eq_zero hdescribes hloses hactive hrun hlost
  | stopped hactive =>
    exact h.of_loss (hopen _ hactive) rfl rfl rfl rfl fun hstatus => absurd rfl hstatus

end Step

/-- The runs of a stage that ended in anything but an accepted pass, where `accepted` lists the
runs whose results were accepted. -/
def WorkState.unacceptedAt (state : WorkState) (id stage : String) (accepted : List String) : Nat :=
  (state.runsOf id).countP fun run =>
    run.stage = stage ∧ run.status ≠ .running ∧ run.id ∉ accepted

theorem Course.Describes.unacceptedAt_le {state : WorkState} {id : String} {course : Course}
    (h : course.Describes state id) {history : List (Moment WorkState WorkInput WorkAnswer)}
    (haccepted : course.AcceptedIn history) (stage : String) :
    state.unacceptedAt id stage (acceptedRuns history) ≤
      course.failedAt stage + course.lostAt stage := by
  have hactive : course.active.toList.countP (fun run =>
      run.stage = stage ∧ run.status ≠ .running ∧ run.id ∉ acceptedRuns history) = 0 := by
    rw [List.countP_eq_zero]
    intro run hrun hcounted
    simp only [decide_eq_true_eq] at hcounted
    exact hcounted.2.1 (h.running run (Option.mem_toList.mp hrun)).1
  rw [WorkState.unacceptedAt, h.runs, Course.runs, List.countP_append, hactive, Nat.add_zero]
  refine le_trans (List.countP_mono_left fun _ _ hcounted => ?_)
    (countP_not_accepted_le (acceptedRuns history) haccepted)
  simp only [decide_eq_true_eq] at hcounted ⊢
  exact ⟨hcounted.1, hcounted.2.2⟩

/-- As long as no run of the task gets lost at a stage at which it has lost one before: at most
`limit + 1` of its runs of a stage end in anything but an accepted pass, and if so many do, the
task is blocked. -/
theorem stage_failures_bounded (platform : WorkPlatform) (inputs : List WorkInput) (id : String)
    (limit : Nat) (hlimit : 1 ≤ limit)
    (hretry : ∀ input ∈ inputs, ∀ given, input.operation.retryLimit = some given → given = limit)
    (hunattended : ∀ moment ∈ (workStore platform).history .empty inputs,
      ¬ moment.input.operation.overrides moment.before id)
    (hloses : ∀ moment ∈ (workStore platform).history .empty inputs,
      ¬ LosesAgain moment.before moment.input.operation id)
    (task : WorkTaskRecord)
    (htask : ((workStore platform).run .empty inputs).tasks.get id = some task) (stage : String) :
    ((workStore platform).run .empty inputs).unacceptedAt id stage
      (acceptedRuns ((workStore platform).history .empty inputs)) ≤ limit + 1 ∧
    (((workStore platform).run .empty inputs).unacceptedAt id stage
      (acceptedRuns ((workStore platform).history .empty inputs)) = limit + 1 →
        task.status = .blocked) := by
  obtain ⟨course, hdescribes, hbounded, haccepted⟩ := course_invariant platform id
    (Course.Bounded limit)
    (fun moment => ¬ LosesAgain moment.before moment.input.operation id ∧
      ∀ given, moment.input.operation.retryLimit = some given → given = limit)
    (fun course hnew => .of_isNew hlimit hnew)
    (fun state input answer course next _ hdescribes hguard hbounded hstep =>
      hbounded.step hdescribes hguard.2 hguard.1 hstep)
    inputs hunattended
    (fun moment hmem => ⟨hloses moment hmem,
      hretry moment.input ((workStore platform).input_mem_of_mem_history _ hmem)⟩)
    htask
  have hle := hdescribes.unacceptedAt_le haccepted stage
  refine ⟨hle.trans (hbounded.total stage), fun hfull => ?_⟩
  by_contra hstatus
  have hsame : course.task = task := Option.mem_unique hdescribes.task htask
  rw [← hsame] at hstatus
  have hfailed := hbounded.open_failed hstatus stage
  have hlost := hbounded.open_lost hstatus stage
  omega

def createdAndLost (runIds : List String) : List WorkInput :=
  ⟨0, .createWorkTask { title := "Report" }⟩ :: runIds.flatMap fun runId =>
    [⟨1, .startWorkTaskRun
      { taskId := "task_", stage := "implement", sessionId := "ses_1", profile := "coder" }⟩,
    ⟨2, .recoverOrphanedWorkRun runId 1⟩]

/-- Under a retry limit of 1 one run gets lost, and the next one fails. -/
def lostAndFailed : List WorkInput :=
  createdAndLost ["run_a"] ++ [⟨3, .startWorkTaskRun
    { taskId := "task_", stage := "implement", sessionId := "ses_1", profile := "coder" }⟩,
    ⟨4, .completeWorkTaskRun "run_aa" (plainResult .fail) 1 {} none⟩]

theorem stage_failures_bounded_lost :
    ((workStore countingPlatform).run .empty lostAndFailed).unacceptedAt "task_" "implement"
      (acceptedRuns ((workStore countingPlatform).history .empty lostAndFailed)) = 2 ∧
    ∃ task, ((workStore countingPlatform).run .empty lostAndFailed).tasks.get "task_" =
      some task ∧ task.status = .blocked := by
  have hfull : ((workStore countingPlatform).run .empty lostAndFailed).unacceptedAt "task_"
      "implement" (acceptedRuns ((workStore countingPlatform).history .empty lostAndFailed)) =
        2 := by decide +kernel
  obtain ⟨task, htask⟩ := Option.isSome_iff_exists.mp (by decide +kernel :
    (((workStore countingPlatform).run .empty lostAndFailed).tasks.get "task_").isSome = true)
  refine ⟨hfull, task, htask, (stage_failures_bounded countingPlatform _ "task_" 1 (Nat.le_refl 1)
    ?_ ?_ ?_ task htask "implement").2 hfull⟩
  · have hlimits : ∀ input ∈ lostAndFailed, ∀ given ∈ input.operation.retryLimit, given = 1 := by
      decide +kernel
    exact hlimits
  · intro moment hmem hoverrides
    have hinput := Machine.input_mem_of_mem_history _ _ hmem
    simp only [lostAndFailed, createdAndLost, List.flatMap_cons, List.flatMap_nil,
      List.append_nil, List.cons_append, List.nil_append, List.mem_cons, List.not_mem_nil,
      or_false] at hinput
    rcases hinput with h | h | h | h | h <;> rw [h] at hoverrides <;> exact hoverrides
  · -- before the recovery no run has been lost, and nothing else loses one
    have hfirst : ∀ moment ∈ (workStore countingPlatform).history .empty lostAndFailed,
        moment.input.now = 2 → ∀ lost ∈ moment.before.runsOf "task_", lost.status ≠ .errored := by
      decide +kernel
    rintro moment hmem ⟨runId, run, -, -, -, hlost, lost, hmemLost, -, herrored⟩
    have hinput := Machine.input_mem_of_mem_history _ _ hmem
    simp only [lostAndFailed, createdAndLost, List.flatMap_cons, List.flatMap_nil,
      List.append_nil, List.cons_append, List.nil_append, List.mem_cons, List.not_mem_nil,
      or_false] at hinput
    rcases hinput with h | h | h | h | h
    · rw [h] at hlost
      cases hlost
    · rw [h] at hlost
      cases hlost
    · exact hfirst moment hmem (by rw [h]) lost hmemLost herrored
    · rw [h] at hlost
      cases hlost
    · rw [h] at hlost
      cases hlost

/-- Under a retry limit of 1 three runs of a stage get lost, and the task is still pending. -/
theorem lost_runs_unbounded :
    (((workStore countingPlatform).run .empty
      (createdAndLost ["run_a", "run_aa",
        "run_aaa"])).tasks.get "task_").map WorkTaskRecord.status =
        some .pending ∧
    ((workStore countingPlatform).run .empty
      (createdAndLost ["run_a", "run_aa", "run_aaa"])).unacceptedAt "task_" "implement"
        (acceptedRuns ((workStore countingPlatform).history .empty
          (createdAndLost ["run_a", "run_aa", "run_aaa"]))) = 3 := by
  decide +kernel

end OpenCowork.Gateway
