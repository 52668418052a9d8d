import OpenCowork.Gateway.Course

/-! # The quality gate before the end of a task

A task that no operator touches becomes done by a result that is judged at the last stage of its
pipeline. There the gate asks for the ids of all items of the quality spec and for some evidence,
unless that stage is a review: reviews only have to show evidence.
-/

namespace OpenCowork.Foundation.Text

section SplitRuns

variable {isSeparator : Char → Bool}

/-- What comes after a token: nothing, or a separator first. -/
def EndsHere (isSeparator : Char → Bool) (rest : List Char) : Prop :=
  ∀ c later, rest = c :: later → isSeparator c = true

def IsWordOf (isSeparator : Char → Bool) (word text : List Char) : Prop :=
  ∃ before rest, text = before ++ word ++ rest ∧
    (∀ earlier c, before = earlier ++ [c] → isSeparator c = true) ∧ EndsHere isSeparator rest

/-- What `splitRuns` makes of a text: the first token starts it, or follows the separators that it
starts with, and every other token follows a separator. -/
theorem splitRuns_spec (after : Bool) (text : List Char) : ∃ first tokens,
    splitRuns isSeparator after text = first :: tokens ∧
    (∃ skipped rest, text = skipped ++ first ++ rest ∧
      (∀ c ∈ skipped, isSeparator c = true) ∧ (after = false → skipped = []) ∧
      EndsHere isSeparator rest) ∧
    ∀ token ∈ tokens, ∃ before c rest, text = before ++ c :: (token ++ rest) ∧
      isSeparator c = true ∧ EndsHere isSeparator rest := by
  induction text generalizing after with
  | nil =>
    refine ⟨[], [], by simp [splitRuns], ⟨[], [], by simp, by simp, by simp, ?_⟩, by simp⟩
    rintro c later ⟨⟩
  | cons c text ih =>
    by_cases hseparator : isSeparator c = true
    · obtain ⟨first, tokens, hsplit, ⟨skipped, rest, htext, hskipped, -, hends⟩, htokens⟩ := ih true
      have hlater : ∀ token ∈ tokens, ∃ before d rest, c :: text = before ++ d :: (token ++ rest) ∧
          isSeparator d = true ∧ EndsHere isSeparator rest := by
        intro token htoken
        obtain ⟨before, d, rest, htext, hd, hends⟩ := htokens token htoken
        exact ⟨c :: before, d, rest, by rw [htext]; rfl, hd, hends⟩
      cases after with
      | true =>
        refine ⟨first, tokens, by rw [splitRuns, if_pos hseparator, if_pos rfl, hsplit],
          ⟨c :: skipped, rest, by rw [htext]; simp, ?_, by simp, hends⟩, hlater⟩
        simpa [hseparator] using hskipped
      | false =>
        refine ⟨[], first :: tokens, ?_, ⟨[], c :: text, by simp, by simp, by simp, ?_⟩, ?_⟩
        · rw [splitRuns, if_pos hseparator, if_neg (by simp), hsplit]
        · rintro d _ ⟨⟩
          exact hseparator
        · intro token htoken
          rcases List.mem_cons.mp htoken with rfl | htoken
          · -- it follows the last of the separators that start with `c`
            rcases List.eq_nil_or_concat skipped with rfl | ⟨front, d, rfl⟩
            · exact ⟨[], c, rest, by rw [htext]; rfl, hseparator, hends⟩
            · refine ⟨c :: front, d, rest, ?_, hskipped d (by simp), hends⟩
              rw [htext]
              simp
          · exact hlater token htoken
    · obtain ⟨first, tokens, hsplit, ⟨_, rest, htext, -, hnone, hends⟩, htokens⟩ := ih false
      refine ⟨c :: first, tokens, ?_, ⟨[], rest, ?_, by simp, by simp, hends⟩, ?_⟩
      · rw [splitRuns, if_neg hseparator, hsplit]
        rfl
      · rw [htext, hnone rfl]
        simp
      · intro token htoken
        obtain ⟨before, d, rest, htext, hd, hends⟩ := htokens token htoken
        exact ⟨c :: before, d, rest, by rw [htext]; rfl, hd, hends⟩

theorem isWordOf_of_mem_splitRuns {token text : List Char}
    (h : token ∈ splitRuns isSeparator false text) : IsWordOf isSeparator token text := by
  obtain ⟨_, _, hsplit, ⟨_, rest, htext, -, hnone, hends⟩, htokens⟩ :=
    @splitRuns_spec isSeparator false text
  rw [hsplit] at h
  rcases List.mem_cons.mp h with rfl | h
  · refine ⟨[], rest, by rw [htext, hnone rfl], ?_, hends⟩
    intro earlier c heq
    simp at heq
  · obtain ⟨before, c, rest, htext, hc, hends⟩ := htokens token h
    refine ⟨before ++ [c], rest, by rw [htext]; simp, ?_, hends⟩
    intro earlier _ heq
    obtain ⟨-, hsame⟩ := List.append_inj' heq rfl
    cases hsame
    exact hc

end SplitRuns

end OpenCowork.Foundation.Text

namespace OpenCowork.Gateway

open Foundation

/-- The evidence text cites an id: the id is a word of it, in capitals. -/
def Cites (toUpperCase : String → String) (result : StageResult) (id : String) : Prop :=
  Text.IsWordOf (fun c => !isQualityIdChar c) (toUpperCase id).toList
    (toUpperCase (evidenceText result)).toList

def CitesAll (toUpperCase : String → String) (result : StageResult) (tag : String)
    (items : List String) : Prop :=
  ∀ index < items.length, Cites toUpperCase result (qualitySpecItemId tag index)

/-- What the last stage of a pipeline asks a result to show for a quality spec. -/
structure ShowsQuality (toUpperCase : String → String) (spec : TaskQualitySpec)
    (result : StageResult) : Prop where
  acceptanceCriteria : CitesAll toUpperCase result "AC" spec.acceptanceCriteria
  definitionOfDone : CitesAll toUpperCase result "DOD" spec.definitionOfDone
  constraints : CitesAll toUpperCase result "CONSTRAINT" spec.constraints
  verificationCommands : CitesAll toUpperCase result "CMD" spec.verificationCommands
  evidenceRequirements : CitesAll toUpperCase result "EVIDENCE" spec.evidenceRequirements
  requiredArtifacts : CitesAll toUpperCase result "ARTIFACT" spec.requiredArtifacts
  evidence : spec.requiresEvidence = true → result.artifacts ≠ [] ∨ result.evidence ≠ []

section Gate

variable {toUpperCase : String → String} {spec : TaskQualitySpec} {result : StageResult}
  {stage : String} {pipeline : List String}

theorem citesAll_of_missingItems {label tag : String} {items : List String}
    (h : missingItems toUpperCase (evidenceText result) label tag items = []) :
    CitesAll toUpperCase result tag items := by
  intro index hindex
  rw [missingItems, List.filterMap_eq_nil_iff] at h
  have hitem := h (items[index], index) (List.mem_zipIdx_iff_getElem?.mpr (by simp [hindex]))
  dsimp only at hitem
  split at hitem
  next hcites => exact Text.isWordOf_of_mem_splitRuns (of_decide_eq_true hcites)
  · cases hitem

theorem nil_of_accepted {missing : List String} {feedback : String}
    (h : (if missing.isEmpty then none else some feedback) = none) : missing = [] := by
  split at h
  next hempty => exact List.isEmpty_iff.mp hempty
  · cases h

theorem showsQuality_of_last (hpass : result.status = .pass)
    (hlast : pipeline.length = pipeline.idxOf stage + 1) (hreview : stage ≠ "review")
    (h : validateStageResultQuality toUpperCase pipeline (some spec) stage result = none) :
    ShowsQuality toUpperCase spec result := by
  rw [validateStageResultQuality, if_neg (not_not.mpr hpass)] at h
  dsimp only at h
  rw [if_neg (not_not.mpr (.inl hlast.symm)), if_neg hreview] at h
  have hnothing := nil_of_accepted h
  simp only [List.append_eq_nil_iff] at hnothing
  obtain ⟨⟨⟨⟨⟨⟨hac, hdod⟩, hconstraint⟩, hcmd⟩, hevidence⟩, hartifact⟩, hshown⟩ := hnothing
  refine ⟨citesAll_of_missingItems hac, citesAll_of_missingItems hdod,
    citesAll_of_missingItems hconstraint, citesAll_of_missingItems hcmd,
    citesAll_of_missingItems hevidence, citesAll_of_missingItems hartifact, fun hrequires => ?_⟩
  by_contra hnone
  rw [not_or, not_not, not_not] at hnone
  rw [hrequires, hnone.1, hnone.2, if_pos (by rfl)] at hshown
  cases hshown

theorem showsQuality_of_empty (h : spec.requiresEvidence = false) :
    ShowsQuality toUpperCase spec result := by
  have hnone : ∀ {items : List String} {tag}, items.isEmpty = true →
      CitesAll toUpperCase result tag items := by
    intro items tag hempty _ hindex
    rw [List.isEmpty_iff.mp hempty] at hindex
    cases hindex
  simp only [TaskQualitySpec.requiresEvidence, Bool.not_eq_false', Bool.and_eq_true] at h
  obtain ⟨⟨⟨⟨⟨hac, hdod⟩, hconstraint⟩, hcmd⟩, hevidence⟩, hartifact⟩ := h
  refine ⟨hnone hac, hnone hdod, hnone hconstraint, hnone hcmd, hnone hevidence, hnone hartifact,
    fun hrequires => ?_⟩
  simp [TaskQualitySpec.requiresEvidence, hac, hdod, hconstraint, hcmd, hevidence, hartifact]
    at hrequires

end Gate

/-! ## The end of a task -/

/-- A result that finishes the task of its run: a pass that is accepted at the last stage. -/
structure Finishes (platform : WorkPlatform) (origin : WorkState) (input : WorkInput) (id : String)
    (task' : WorkTaskRecord) (runId : String) (run : RunRecord) (raw : StageResult)
    (collected : Option EnvironmentCollection) : Prop where
  operation : ∃ retryLimit lease,
    input.operation = .completeWorkTaskRun runId raw retryLimit lease collected
  finished : ∃ task, origin.tasks.get id = some task ∧ origin.ownedRun runId = some (run, task) ∧
    task'.pipeline = task.pipeline ∧ task'.qualitySpec = task.qualitySpec ∧
    AcceptedPass platform.toUpperCase (task.counted run) run.stage
      (collectRunEnvironmentArtifacts run raw collected) ∧
    task.pipeline.stages.length = task.pipeline.stages.idxOf run.stage + 1

theorem Verdict.of_done {toUpperCase : String → String} {task : WorkTaskRecord} {stage : String}
    {result : StageResult} {retryLimit : Int} {decision : WorkflowDecision}
    (h : Verdict toUpperCase task stage result retryLimit decision)
    (hdone : decision.taskStatus = .done) : AcceptedPass toUpperCase task stage result ∧
      task.pipeline.stages.length = task.pipeline.stages.idxOf stage + 1 := by
  cases h with
  | blocked | retried | advanced => cases hdone
  | finished _ haccepted hlast => exact ⟨haccepted, hlast⟩

section Step

variable {platform : WorkPlatform} {input : WorkInput} {origin state : WorkState} {id : String}

/-- A task is done by a result that its gate lets pass. -/
theorem finishes_of_steps (hlinked : Linked platform origin)
    (hunattended : ¬ input.operation.overrides origin id)
    (hbefore : (origin.tasks.get id).map WorkTaskRecord.status ≠ some .done)
    (hsteps : WorkSteps platform input origin origin state) {task' : WorkTaskRecord}
    (htask' : state.tasks.get id = some task') (hdone : task'.status = .done) :
    ∃ runId run raw collected, Finishes platform origin input id task' runId run raw collected := by
  induction hsteps generalizing task' with
  | refl =>
    rw [htask', Option.map_some, hdone] at hbefore
    exact absurd rfl hbefore
  | @tail between last hfirst hstep ih =>
    have hbetween := hlinked.steps hfirst
    cases hheld : between.tasks.get id with
    | none =>
      rcases hstep.of_none hbetween hheld with hnone | ⟨_, hnew, hcourse⟩
      · rw [hnone] at htask'
        cases htask'
      · obtain rfl := Option.mem_unique hcourse.task htask'
        rw [hnew.status] at hdone
        cases hdone
    | some task =>
      cases hstep.move hbetween hunattended hheld with
      | kept htask =>
        obtain rfl := Option.mem_unique htask htask'
        exact ih hheld hdone
      | ended hend htasks =>
        rw [htasks, OrderedMap.get_set_self, Option.some.injEq] at htask'
        subst htask'
        cases hend with
        | @completed runId raw result retryLimit lease collected run hoperation horigin howned
            _ hresult =>
            subst horigin hresult
            obtain ⟨haccepted, hlast⟩ := (verdict_decide platform.toUpperCase
              (task.counted run) run.stage (collectRunEnvironmentArtifacts run raw collected)
              retryLimit).of_done hdone
            exact ⟨runId, run, raw, collected, ⟨retryLimit, lease, hoperation⟩,
              ⟨task, hheld, howned, rfl, rfl, haccepted, hlast⟩⟩
        | @recovered _ retryLimit run =>
          unfold WorkTaskRecord.recovered at hdone
          split at hdone <;> cases hdone
        | stopped => cases hdone
      | started _ _ _ _ _ _ htasks =>
        rw [htasks, OrderedMap.get_set_self, Option.some.injEq] at htask'
        subst htask'
        cases hdone

end Step

/-- The last stage of a task is no review, or its quality spec has no items. -/
def WorkTaskRecord.EndsGuarded (task : WorkTaskRecord) : Prop :=
  task.pipeline.stages.getLast? ≠ some "review" ∨
    ∀ spec, task.qualitySpec = some spec → spec.requiresEvidence = false

theorem getLast?_of_idxOf {stages : List String} {stage : String} (hmember : stage ∈ stages)
    (hlast : stages.length = stages.idxOf stage + 1) : stages.getLast? = some stage := by
  rw [List.getLast?_eq_getElem?, hlast, Nat.add_sub_cancel, List.getElem?_idxOf hmember]

/-- A task that ends guarded and that no operator touches becomes done only by a result which
shows all that its quality spec asks for. -/
theorem done_shows_quality (platform : WorkPlatform) (inputs : List WorkInput)
    (moment : Moment WorkState WorkInput WorkAnswer)
    (hmem : moment ∈ (workStore platform).history .empty inputs) (id : String)
    (hunattended : ¬ moment.input.operation.overrides moment.before id)
    (hguarded : ∀ task, moment.before.tasks.get id = some task → task.EndsGuarded)
    (hbefore : (moment.before.tasks.get id).map WorkTaskRecord.status ≠ some .done)
    (task' : WorkTaskRecord) (htask' : moment.after.tasks.get id = some task')
    (hdone : task'.status = .done) (spec : TaskQualitySpec)
    (hspec : task'.qualitySpec = some spec) :
    ∃ runId run raw retryLimit lease collected,
      moment.input.operation = .completeWorkTaskRun runId raw retryLimit lease collected ∧
      moment.before.runs.get runId = some run ∧
      ShowsQuality platform.toUpperCase spec
        (collectRunEnvironmentArtifacts run raw collected) := by
  obtain ⟨first, input, _, -, rfl⟩ :=
    (workStore platform).exists_prefix_of_mem_history _ _ _ hmem
  obtain ⟨runId, run, raw, collected, ⟨retryLimit, lease, hoperation⟩, task, htask, howned,
    -, hsame, haccepted, hlast⟩ := finishes_of_steps (linked_run platform first) hunattended hbefore
      (perform_steps platform _ input) htask' hdone
  refine ⟨runId, run, raw, retryLimit, lease, collected, hoperation,
    (ownedRun_eq_some_iff.mp howned).1, ?_⟩
  have hquality := haccepted.quality
  change validateStageResultQuality _ task.pipeline.stages task.qualitySpec _ _ = none at hquality
  rw [← hsame, hspec] at hquality
  rcases hguarded task htask with hreview | hempty
  · refine showsQuality_of_last haccepted.pass hlast ?_ hquality
    intro hstage
    have hmember : run.stage ∈ task.pipeline.stages := haccepted.member
    rw [getLast?_of_idxOf hmember hlast, hstage] at hreview
    exact hreview rfl
  · exact showsQuality_of_empty (hempty spec (hsame ▸ hspec))

/-- A result that cites one id as an artifact. -/
def citingResult (id : String) : StageResult where
  status := .pass
  summary := "done"
  feedback := none
  artifacts := [id]
  evidence := []
  decisions := []
  failureClass := none

def oneCriterion : TaskQualitySpec where
  constraints := []
  acceptanceCriteria := ["It is complete"]
  definitionOfDone := []
  verificationCommands := []
  evidenceRequirements := []
  requiredArtifacts := []

/-- A task of a single stage with one acceptance criterion gets its first run. -/
def createdWithCriterion (stage : String) : List WorkInput :=
  [⟨0, .createWorkTask
    { title := "Report", pipeline := some [stage], qualitySpec := some oneCriterion }⟩,
    ⟨1, .startWorkTaskRun { taskId := "task_", stage, sessionId := "ses_1", profile := "coder" }⟩]

def citingCompletion (id : String) : WorkInput :=
  ⟨2, .completeWorkTaskRun "run_a" (citingResult id) 3 {} none⟩

theorem done_shows_quality_cited : ∃ spec runId run raw retryLimit lease collected,
    (citingCompletion "AC1").operation =
      .completeWorkTaskRun runId raw retryLimit lease collected ∧
    ((workStore countingPlatform).run .empty (createdWithCriterion "implement")).runs.get runId =
      some run ∧
    ShowsQuality countingPlatform.toUpperCase spec
      (collectRunEnvironmentArtifacts run raw collected) := by
  have hdone : (((workStore countingPlatform).run .empty (createdWithCriterion "implement" ++
      [citingCompletion "AC1"])).tasks.get "task_").map
        (fun task => (task.status, task.qualitySpec.isSome)) = some (.done, true) := by
    decide +kernel
  obtain ⟨task, htask, hfields⟩ := Option.map_eq_some_iff.mp hdone
  rw [Prod.mk.injEq] at hfields
  obtain ⟨spec, hspec⟩ := Option.isSome_iff_exists.mp hfields.2
  refine ⟨spec, done_shows_quality countingPlatform
    (createdWithCriterion "implement" ++ [citingCompletion "AC1"])
    ((workStore countingPlatform).moment ((workStore countingPlatform).run .empty
      (createdWithCriterion "implement")) (citingCompletion "AC1")) ?_ "task_" (fun h => h) ?_
    (by decide +kernel) task ?_ hfields.1 spec hspec⟩
  · rw [Machine.history_append]
    exact List.mem_append_right _ (List.mem_singleton_self _)
  · intro held hheld
    have hlast : (((workStore countingPlatform).run .empty
        (createdWithCriterion "implement")).tasks.get "task_").map
          (fun task => task.pipeline.stages.getLast?) = some (some "implement") := by
      decide +kernel
    refine .inl fun hreview => ?_
    have hfound := (congrArg (Option.map fun task => task.pipeline.stages.getLast?)
      hheld).symm.trans hlast
    rw [Option.map_some, hreview] at hfound
    exact absurd hfound (by decide)
  · rw [← htask, Machine.run_append]
    rfl

/-- A task whose last stage is a review is done by a result that cites none of its items. -/
theorem done_without_citation :
    (((workStore countingPlatform).run .empty (createdWithCriterion "review" ++
      [citingCompletion "log"])).tasks.get "task_").map
        (fun task => (task.status, task.qualitySpec.map TaskQualitySpec.acceptanceCriteria)) =
      some (.done, some ["It is complete"]) ∧
    evidenceCitesQualityId countingPlatform.toUpperCase (evidenceText (citingResult "log"))
      (qualitySpecItemId "AC" 0) = false := by
  decide +kernel

end OpenCowork.Gateway
