import OpenCowork.Gateway.TaskSteps

/-! # Steps of runs and receipts

How runs are started, leased, recovered and ended, and how receipts change.
-/

namespace OpenCowork.Gateway

open Foundation OrderedMap

section Operations

variable {platform : WorkPlatform} {input : WorkInput} {origin state state' : WorkState}
  {id : String} {dispatchId : String} {reservation : ReserveTaskDispatchInput} {start : RunStart}
  {runId : String} {now : Int} {answer : WorkAnswer} {task : WorkTaskRecord} {run : RunRecord}
  {lease : RunLease} {predicate : String → RunRecord → Bool} {retryLimit : Int}

/-! ## Runs -/

theorem applyActiveRunControl_steps {control : ActiveRunControlInput}
    (hoperation : input.operation = .applyActiveRunControl control) :
    WorkSteps platform input origin origin (applyActiveRunControl control input.now origin).2 := by
  unfold applyActiveRunControl
  cases hnamed : origin.controlledRun control.runId with
  | none => exact .refl
  | some named =>
    obtain ⟨runId, run⟩ := named
    dsimp only
    cases htask : origin.tasks.get run.taskId with
    | none => exact .refl
    | some =>
      dsimp only
      split
      · exact .refl
      next hrunning =>
        rw [not_not] at hrunning
        split
        · exact .refl
        next howned =>
          rw [not_or, not_not, not_not] at howned
          split
          · exact .refl
          next hallowed =>
            refine .single (abortAndUpdate_step (.refl _) htask ?_ (.controlled hoperation rfl
              hnamed (WorkState.get_of_controlledRun hnamed) hrunning rfl howned.1 howned.2
              hallowed))
            cases control.action <;> rfl

structure StartedAs (platform : WorkPlatform) (state : WorkState) (start : RunStart) (now : Int)
    (runId : String) (state' : WorkState) (task : WorkTaskRecord) : Prop where
  startable : Startable state start now task
  ofRunId : runId = "run_" ++ platform.randomUUID state.drawn
  tasks : state'.tasks = state.tasks.set start.taskId { task with
    qualitySpec :=
      (start.resolution.taskQualitySpec.map normalizeTaskQualitySpec).or task.qualitySpec
    status := .running
    currentStage := some start.stage
    currentRunId := some runId }
  runs : state'.runs = state.runs.set runId (createRun start.taskId { task with
      qualitySpec :=
        (start.resolution.taskQualitySpec.map normalizeTaskQualitySpec).or task.qualitySpec }
    start.stage start.sessionId start.profile now start.lease start.resolution)
  receipts : state'.receipts = state.receipts
  roadmaps : state'.roadmaps = state.roadmaps
  drawn : state'.drawn = state.drawn + 1

theorem startRun_spec (h : startRun platform start now state = some (runId, state')) :
    ∃ task, StartedAs platform state start now runId state' task := by
  simp only [startRun, startWorkTaskRunInState, Option.bind_eq_bind, Option.bind_eq_some_iff,
    Option.guard_eq_some'] at h
  obtain ⟨task, htask, _, ⟨hpending, hcurrent⟩, _, hopen, _, hmember, _, hstage, _, hready, h⟩ := h
  cases h
  exact ⟨task, ⟨htask, hpending, hcurrent, hopen, hmember, hstage, hready⟩, rfl, rfl, rfl, rfl,
    rfl, rfl⟩

theorem startRun_of_startable (h : Startable state start now task) :
    ∃ runId state', startRun platform start now state = some (runId, state') := by
  simp only [startRun, startWorkTaskRunInState, Option.bind_eq_bind, Option.bind_eq_some_iff,
    Option.guard_eq_some']
  exact ⟨_, _, task, h.held, (), ⟨h.pending, h.current⟩, (), h.accepted, (), h.member, (),
    h.atStage, (), h.ready, rfl⟩

theorem startWorkTaskRun_steps (hoperation : input.operation = .startWorkTaskRun start) :
    WorkSteps platform input origin origin
      (startWorkTaskRun platform start input.now origin).2 := by
  unfold startWorkTaskRun
  split
  · exact .refl
  next hstart =>
    obtain ⟨_, h⟩ := startRun_spec hstart
    obtain rfl := h.ofRunId
    exact .single (.started (.of_roadmaps h.roadmaps (h.drawn ▸ Nat.le_succ _))
      (h.drawn ▸ Nat.lt_succ_self _) (.direct hoperation) h.startable h.tasks h.runs h.receipts)

theorem setReceipt_step {receipt receipt' : TaskDispatchReceiptRecord}
    (hoperation : input.operation.changesReceipts = true)
    (hreceipt : state.receipts.get id = some receipt) (hchange : NoMoreReserved receipt receipt') :
    WorkStep platform input origin state
      { state with receipts := state.receipts.set id receipt' } := by
  refine .receiptsChanged (.of_roadmaps rfl le_rfl) ?_ rfl rfl
    (set_eq_mapWithKey _ _ hreceipt) hoperation
  intro _ _ hheld
  split
  next hother =>
    subst hother
    obtain rfl := Option.mem_unique hreceipt hheld
    exact hchange
  · exact ⟨rfl, rfl, rfl, fun h => h⟩

theorem startWorkTaskRunFromDispatch_steps
    (hoperation : input.operation = .startWorkTaskRunFromDispatch dispatchId start) :
    WorkSteps platform input origin origin
      (startWorkTaskRunFromDispatch platform dispatchId start input.now origin).2 := by
  unfold startWorkTaskRunFromDispatch
  split
  · exact .refl
  next receipt hfound =>
    obtain ⟨hreceipt, hadmits⟩ := Option.filter_eq_some_iff.mp hfound
    split
    · exact .refl
    next hstart =>
      obtain ⟨_, h⟩ := startRun_spec hstart
      obtain rfl := h.ofRunId
      rw [h.receipts]
      -- the receipt is handed over first, which the start does not see
      have hhanded : NoMoreReserved receipt (receipt.handedOver
          ("run_" ++ platform.randomUUID origin.drawn) start.sessionId) :=
        ⟨rfl, rfl, rfl, fun h => absurd h (by
          simp [TaskDispatchReceiptRecord.handedOver, TaskDispatchReceiptRecord.startedAs,
            TaskDispatchReceiptRecord.note])⟩
      refine .tail (.single (setReceipt_step (hoperation ▸ rfl) hreceipt hhanded)) ?_
      have hvia := h.startable
      exact .started (.of_roadmaps h.roadmaps (h.drawn ▸ Nat.le_succ _))
        (h.drawn ▸ Nat.lt_succ_self _) (.dispatch hoperation hreceipt hadmits)
        ⟨hvia.held, hvia.pending, hvia.current, hvia.accepted, hvia.member, hvia.atStage,
          hvia.ready⟩ h.tasks h.runs rfl

theorem renewedRun_sameCourse {renewed : RunRecord} {now : Int}
    (h : renewedRun run lease now = some renewed) : SameCourse run renewed := by
  unfold renewedRun at h
  dsimp only at h
  split at h
  · cases h
  · split at h
    · cases h
    · split at h
      · cases h
        exact ⟨rfl, rfl, rfl, rfl⟩
      · cases h
        exact ⟨rfl, rfl, rfl, rfl⟩

theorem renewWorkTaskRunLease_steps :
    WorkSteps platform input origin origin
      (renewWorkTaskRunLease runId lease input.now origin).2 := by
  unfold renewWorkTaskRunLease
  split
  · exact .refl
  next renewed hfound =>
    obtain ⟨run, hrun, hrenewed⟩ := Option.bind_eq_some_iff.mp hfound
    have hcourse : SameCourse run renewed := by
      split at hrenewed
      · exact renewedRun_sameCourse hrenewed
      · cases hrenewed
    refine .single (.leased (.of_roadmaps rfl le_rfl) ?_ rfl (set_eq_mapWithKey _ _ hrun) rfl)
    intro _ _ hheld
    split
    next hid =>
      subst hid
      obtain rfl := Option.mem_unique hrun hheld
      exact hcourse
    · exact ⟨rfl, rfl, rfl, rfl⟩

theorem adoptActiveWorkRunLeases_steps {owner generation : String} {leaseMs : Option Int} :
    WorkSteps platform input origin origin
      (adoptActiveWorkRunLeases owner generation leaseMs input.now origin).2 := by
  unfold adoptActiveWorkRunLeases
  split
  · exact .refl
  · refine .single (@WorkStep.leased platform input origin origin _
      (fun _ => adoptedRun owner generation (RunLease.duration { leaseMs := leaseMs }) input.now)
      (.of_roadmaps rfl le_rfl) ?_ rfl rfl rfl)
    intro _ _ _
    dsimp only [adoptedRun]
    split <;> exact ⟨rfl, rfl, rfl, rfl⟩

/-! ## Recoveries -/

theorem mem_runningRunIds (h : runId ∈ state.runningRunIds predicate) :
    ∃ run, state.runs.get runId = some run ∧ run.status = .running ∧ predicate runId run := by
  obtain ⟨⟨_, run⟩, hmem, rfl⟩ := List.mem_map.mp h
  rw [List.mem_filter, Bool.and_eq_true] at hmem
  exact ⟨run, (get_eq_some_iff _ _ _).mpr hmem.1, isActiveRunStatus_iff.mp hmem.2.1, hmem.2.2⟩

theorem nodup_runningRunIds (state : WorkState) (predicate : String → RunRecord → Bool) :
    (state.runningRunIds predicate).Nodup :=
  state.runs.nodupKeys.sublist (List.filter_sublist.map Prod.fst)

/-- A state in the loop over some running runs of `origin` with a property: the runs to come are
as they were, and so is every task that still names a run. -/
structure InLoop (predicate : String → RunRecord → Bool) (origin state : WorkState)
    (ids : List String) : Prop where
  nodup : ids.Nodup
  runs : ∀ runId ∈ ids, ∃ run, origin.runs.get runId = some run ∧ run.status = .running ∧
    predicate runId run ∧ state.runs.get runId = some run
  tasks : ∀ id task, state.tasks.get id = some task → task.currentRunId ≠ none →
    origin.tasks.get id = some task

theorem inLoop_runningRunIds (state : WorkState) (predicate : String → RunRecord → Bool) :
    InLoop predicate state state (state.runningRunIds predicate) where
  nodup := nodup_runningRunIds state predicate
  runs runId hmem := by
    obtain ⟨run, hrun, hrunning, hchosen⟩ := mem_runningRunIds hmem
    exact ⟨run, hrun, hrunning, hchosen, hrun⟩
  tasks id task htask _ := htask

section Loop

variable {predicate : String → RunRecord → Bool}
  {next : WorkTaskRecord → RunRecord → WorkTaskRecord}
  (hcurrent : ∀ task run, (next task run).currentRunId = none)
  (hcause : ∀ {state id task run runId}, origin.runs.get runId = some run →
    state.runs.get runId = some run → run.status = .running → predicate runId run →
    origin.tasks.get id = some task → run.taskId = id → task.currentRunId = some runId →
    Settlement platform input origin state id task (next task run) (RunRecord.errored · input.now))
include hcurrent hcause

theorem InLoop.settle {runId : String} {rest : List String}
    (h : InLoop predicate origin state (runId :: rest)) :
    WorkSteps platform input origin state (settleLostRun input.now next state runId) ∧
      InLoop predicate origin (settleLostRun input.now next state runId) rest := by
  obtain ⟨hfirst, hnodup⟩ := List.nodup_cons.mp h.nodup
  obtain ⟨run, horigin, hrunning, hchosen, hrun⟩ := h.runs runId (.head _)
  have hrest : InLoop predicate origin state rest :=
    ⟨hnodup, fun other hmem => h.runs other (.tail _ hmem), h.tasks⟩
  unfold settleLostRun
  rw [hrun]
  dsimp only
  cases htask : state.tasks.get run.taskId with
  | none => exact ⟨.refl, hrest⟩
  | some task =>
    dsimp only
    split
    · exact ⟨.refl, hrest⟩
    next hnames =>
      rw [not_not] at hnames
      have hheld := h.tasks run.taskId task htask (by rw [hnames]; simp)
      have hactive : state.activeRunOf task = some (runId, run) :=
        activeRunOf_eq_some_iff.mpr ⟨hnames, hrun, hrunning⟩
      refine ⟨.single (.changed (.of_roadmaps rfl le_rfl) htask
        (.settled (hcause horigin hrun hrunning hchosen hheld rfl hnames)) rfl ?_ rfl), hnodup,
          ?_, ?_⟩
      · rw [WorkState.endActive, hactive]
      · intro other hmem
        obtain ⟨held, hbefore, hactive, hpredicate, hlater⟩ := hrest.runs other hmem
        refine ⟨held, hbefore, hactive, hpredicate, (get_set_of_ne _ _ ?_).trans hlater⟩
        rintro rfl
        exact hfirst hmem
      · intro id changed hchanged hnamed
        dsimp only at hchanged
        rw [get_set] at hchanged
        by_cases hid : run.taskId = id
        · rw [if_pos hid] at hchanged
          cases hchanged
          exact absurd (hcurrent task run) hnamed
        · rw [if_neg hid] at hchanged
          exact h.tasks id changed hchanged hnamed

theorem settleLostRuns_steps {turn : WorkState → String → WorkState} {ids : List String}
    (hturn : ∀ state runId,
      SameWork (settleLostRun input.now next state runId) (turn state runId))
    (h : InLoop predicate origin state ids) :
    WorkSteps platform input origin state (ids.foldl turn state) := by
  induction ids generalizing state with
  | nil => exact .refl
  | cons runId _ ih =>
    obtain ⟨hsteps, hloop⟩ := InLoop.settle hcurrent hcause h
    have hsame := hturn state runId
    refine (hsteps.trans hsame.steps).trans (ih ⟨hloop.nodup, ?_, ?_⟩)
    · rw [hsame.runs]
      exact hloop.runs
    · rw [hsame.tasks]
      exact hloop.tasks

end Loop

theorem recovered_currentRunId (task : WorkTaskRecord) (run : RunRecord) (retryLimit : Int)
    (summary : String) : (task.recovered run retryLimit summary).currentRunId = none := by
  unfold WorkTaskRecord.recovered
  split <;> rfl

theorem recoverOrphans_steps (hoperation : input.operation.orphanLimit = some retryLimit)
    (hlost : input.operation.loses = predicate) :
    WorkSteps platform input origin origin
      (recoverOrphans predicate retryLimit input.now origin).2 :=
  settleLostRuns_steps
    (fun task run => recovered_currentRunId task run retryLimit orphanSummary)
    (fun hrun hheld hrunning hchosen htask hid hcurrent =>
      .recovered hoperation hrun hheld hrunning htask hid hcurrent (by rw [hlost]; exact hchosen))
    (fun _ _ => .refl _) (inLoop_runningRunIds origin predicate)

theorem sameWork_expire (state : WorkState) (now : Int) (runId : String) :
    SameWork (settleLostRun now (fun task run => task.leaseExpired run) state runId)
      (expireLeaseInState now state runId) := by
  unfold expireLeaseInState
  split
  · exact .refl _
  · exact sameWork_recompute _ _

theorem recoverExpiredWorkLeases_steps (hoperation : input.operation = .recoverExpiredWorkLeases) :
    WorkSteps platform input origin origin (recoverExpiredWorkLeases input.now origin).2 :=
  settleLostRuns_steps (fun _ _ => rfl)
    (fun hrun hheld hrunning _ _ hid hcurrent =>
      .stopped (by rw [hoperation]; rfl) hrun hheld hrunning hid hcurrent)
    (fun state runId => sameWork_expire state input.now runId) (inLoop_runningRunIds origin _)

/-! ## Ends of runs -/

theorem endActive_of_active (h : state.activeRunOf task = some (runId, run))
    (endRun : RunRecord → RunRecord) :
    state.endActive task endRun = state.runs.set runId (endRun run) := by
  rw [WorkState.endActive, h]

theorem abortWorkEnvironment_steps {note : Option String}
    (hoperation : input.operation = .abortWorkEnvironment id note) :
    WorkSteps platform input origin origin (abortWorkEnvironment id note input.now origin).2 := by
  unfold abortWorkEnvironment
  split
  · exact .refl
  next run hfound =>
    split
    · exact .refl
    · split
      · exact .refl
      next task hheld =>
        obtain ⟨htask, -⟩ := Option.filter_eq_some_iff.mp hheld
        have hoverrides : input.operation.overrides origin run.taskId := by
          rw [hoperation]
          exact congrArg (Option.map (·.2.taskId)) hfound
        cases hactive : origin.activeRunOf task with
        | none =>
          have hquiet : abortActiveRunInState run.taskId input.now origin =
              (none, origin) := by
            rw [abortActiveRunInState, htask, Option.bind_some, hactive]
          rw [hquiet]
          exact .refl
        | some found =>
          obtain ⟨_, _⟩ := found
          dsimp only
          split
          · have haborted := abort_of_active input.now htask hactive
            exact .single (.changed (.of_roadmaps haborted.roadmaps haborted.drawn.ge) htask
              (.settled (.abandoned hoperation rfl hoverrides hactive (.inl rfl)))
                haborted.tasks
              haborted.runs haborted.receipts)
          · exact .single (abortAndUpdate_step (.refl _) htask rfl
              (.abandoned hoperation rfl hoverrides hactive (.inr ⟨_, rfl⟩)))

theorem completeWorkTaskRun_steps {result : StageResult}
    {expectedLease : RunLeaseExpectation} {collected : Option EnvironmentCollection}
    (hoperation : input.operation =
      .completeWorkTaskRun runId result retryLimit expectedLease collected) :
    WorkSteps platform input origin origin (completeWorkTaskRun platform runId result retryLimit
      expectedLease collected input.now origin).2 := by
  unfold completeWorkTaskRun
  split
  · exact .refl
  next run task howned =>
    split
    · exact .refl
    next hlease =>
      obtain ⟨hrun, htask, hrunning, _, hcurrent⟩ := ownedRun_eq_some_iff.mp howned
      generalize hresult : collectRunEnvironmentArtifacts run result collected = judged
      generalize hdecision : task.decision platform.toUpperCase run judged retryLimit = decision
      have hends := endActive_of_active (activeRunOf_eq_some_iff.mpr ⟨hcurrent, hrun, hrunning⟩)
        (fun run => run.completed judged decision input.now)
      have hsame : SameWork
          { origin with
            runs := origin.runs.set runId (run.completed judged decision input.now)
            tasks := origin.tasks.set run.taskId ((task.counted run).decided decision) }
          (applyStageResultInState platform (finishRunInState run judged input.now).taskId runId
            task (finishRunInState run judged input.now) judged retryLimit origin).2 := by
        subst hdecision
        unfold applyStageResultInState
        dsimp only
        split
        · exact sameWork_recompute _ _
        · exact .refl _
      subst hdecision
      exact .single (.changed ⟨hsame.side.archived, hsame.side.drawn⟩ htask
        (.settled (.completed hoperation rfl howned rfl hlease hresult.symm)) hsame.tasks
        (hsame.runs.trans hends.symm) hsame.receipts)

theorem blockActiveWorkTaskRun_steps {note : String}
    (hoperation : input.operation = .blockActiveWorkTaskRun runId note) :
    WorkSteps platform input origin origin
      (blockActiveWorkTaskRun runId note input.now origin).2 := by
  unfold blockActiveWorkTaskRun
  split
  · exact .refl
  next run task howned =>
    obtain ⟨hrun, htask, hrunning, _, hcurrent⟩ := ownedRun_eq_some_iff.mp howned
    have hends := endActive_of_active (activeRunOf_eq_some_iff.mpr ⟨hcurrent, hrun, hrunning⟩)
      (RunRecord.errored · input.now)
    have hsame := sameWork_recompute task.roadmapId { origin with
      runs := origin.runs.set runId (run.errored input.now)
      tasks := origin.tasks.set run.taskId
        { task.halted .blocked (some note) with currentStage := none } }
    refine .single (.changed ⟨hsame.side.archived, hsame.side.drawn⟩ htask
      (.settled (.stopped (by rw [hoperation]; rfl) hrun hrun hrunning rfl hcurrent)) hsame.tasks
      (hsame.runs.trans hends.symm) hsame.receipts)

/-! ## Receipts -/

theorem reserve_cases
    (h : reserveTaskDispatchStart platform reservation now state = .ok (answer, state')) :
    state' = state ∨ ∃ stage task, Reserves platform state now reservation stage task ∧
      state' = { state with
        drawn := state.drawn + 1
        receipts := state.receipts.set ("dispatch_" ++ platform.randomUUID state.drawn)
          (newTaskDispatchReceipt platform reservation stage (platform.isoString now) now) } := by
  unfold reserveTaskDispatchStart at h
  obtain ⟨stage, hnormalized, h⟩ := bind_eq_ok h
  dsimp only at h
  split at h
  · cases h
    exact .inl rfl
  next hunused =>
    split at h
    · cases h
      exact .inl rfl
    next task htask =>
      split at h
      · cases h
        exact .inl rfl
      next hready =>
        rw [not_or, not_or, not_not, not_not, not_not] at hready
        split at h
        · cases h
          exact .inl rfl
        next hnone =>
          obtain ⟨_, hunique, h⟩ := bind_eq_ok h
          rw [refuseIf_eq_ok] at hunique
          cases h
          refine .inr ⟨stage, task, ⟨hnormalized, ?_, htask, hready.1, hready.2.1,
            hready.2.2, ?_, ?_⟩, rfl⟩
          · intro id receipt hreceipt hkey
            rw [List.find?_eq_none] at hunused
            exact hunused (id, receipt) ((get_eq_some_iff _ _ _).mp hreceipt) (decide_eq_true hkey)
          · intro id receipt hreceipt htaskId hstage
            rw [List.any_eq_true, not_exists] at hnone
            have hlive := hnone receipt
            rw [mem_values_iff, not_and] at hlive
            have hlive := hlive ⟨id, hreceipt⟩
            simpa [htaskId, hstage] using hlive
          · intro id receipt hreceipt hkey
            refine hunique (List.any_eq_true.mpr ⟨receipt, ?_, decide_eq_true hkey⟩)
            exact (mem_values_iff _ _).mpr ⟨id, hreceipt⟩

theorem reserve_of_reserves {stage : String}
    {task : WorkTaskRecord} (h : Reserves platform state now reservation stage task) :
    reserveTaskDispatchStart platform reservation now state =
      .ok (.receipt ("dispatch_" ++ platform.randomUUID state.drawn), { state with
        drawn := state.drawn + 1
        receipts := state.receipts.set ("dispatch_" ++ platform.randomUUID state.drawn)
          (newTaskDispatchReceipt platform reservation stage (platform.isoString now) now) }) := by
  have hfree : ¬ (state.receipts.values.any fun receipt =>
      receipt.taskId = reservation.taskId && receipt.stage = stage && receipt.isLive now) =
        true := by
    rw [List.any_eq_true]
    rintro ⟨receipt, hmem, hlive⟩
    obtain ⟨id, hreceipt⟩ := (mem_values_iff _ _).mp hmem
    simp only [Bool.and_eq_true, decide_eq_true_eq] at hlive
    rw [h.free id receipt hreceipt hlive.1.1 hlive.1.2] at hlive
    exact absurd hlive.2 (by simp)
  have hunique : ¬ (state.receipts.values.any fun other => other.idempotencyKey =
      (newTaskDispatchReceipt platform reservation stage (platform.isoString now)
        now).idempotencyKey) = true := by
    rw [List.any_eq_true]
    rintro ⟨receipt, hmem, hkey⟩
    obtain ⟨id, hreceipt⟩ := (mem_values_iff _ _).mp hmem
    exact h.unique id receipt hreceipt (of_decide_eq_true hkey)
  have hready : ¬ (task.status ≠ .pending ∨ task.currentRunId ≠ none ∨ task.stage ≠ stage) := by
    rw [not_or, not_or, not_not, not_not, not_not]
    exact ⟨h.pending, h.current, h.atStage⟩
  unfold reserveTaskDispatchStart
  rw [h.normalized, ok_bind]
  dsimp only
  split
  next id receipt hfound =>
    have hheld := (get_eq_some_iff _ _ _).mpr (List.mem_of_find?_eq_some hfound)
    have hkey := List.find?_some hfound
    exact absurd (of_decide_eq_true hkey) (h.unused id receipt hheld)
  · rw [h.held]
    dsimp only
    rw [if_neg hready, if_neg hfree, refuseIf_of_not hunique]
    rfl

theorem reserveTaskDispatchStart_steps
    (hoperation : input.operation = .reserveTaskDispatchStart reservation)
    (h : reserveTaskDispatchStart platform reservation input.now origin = .ok (answer, state')) :
    WorkSteps platform input origin origin state' := by
  rcases reserve_cases h with rfl | ⟨_, _, hreserves, rfl⟩
  · exact .refl
  · exact .single (.reserved (.of_roadmaps rfl (Nat.le_succ _)) (Nat.lt_succ_self _) hoperation
      hreserves rfl rfl rfl)

variable (hoperation : input.operation.changesReceipts = true)
include hoperation

theorem updateTaskDispatchReceipt_steps
    {change : TaskDispatchReceiptRecord → Option TaskDispatchReceiptRecord}
    (hchange : ∀ receipt receipt', change receipt = some receipt' →
      NoMoreReserved receipt receipt') :
    WorkSteps platform input origin origin
      (updateTaskDispatchReceipt dispatchId change origin).2 := by
  unfold updateTaskDispatchReceipt
  split
  · exact .refl
  next hchanged =>
    obtain ⟨_, hreceipt, hchanged⟩ := Option.bind_eq_some_iff.mp hchanged
    exact .single (setReceipt_step hoperation hreceipt (hchange _ _ hchanged))

omit hoperation in
theorem whileStarting_noMoreReserved
    {change : TaskDispatchReceiptRecord → TaskDispatchReceiptRecord}
    (hchange : ∀ receipt : TaskDispatchReceiptRecord, receipt.status = .starting →
      NoMoreReserved receipt (change receipt)) (receipt receipt' : TaskDispatchReceiptRecord)
    (h : whileStarting change receipt = some receipt') : NoMoreReserved receipt receipt' := by
  unfold whileStarting at h
  split at h
  next hstarting =>
    cases h
    exact hchange receipt hstarting
  · cases h

theorem attachTaskDispatchSession_steps {dispatchId sessionId : String} {answer : WorkAnswer}
    (h : attachTaskDispatchSession dispatchId sessionId origin = .ok (answer, state')) :
    WorkSteps platform input origin origin state' := by
  unfold attachTaskDispatchSession at h
  split at h
  · cases h
    exact .refl
  · obtain ⟨_, -, h⟩ := bind_eq_ok h
    have h := congrArg Prod.snd (Except.ok.inj h)
    subst h
    exact updateTaskDispatchReceipt_steps hoperation (whileStarting_noMoreReserved
      fun _ hstarting => ⟨rfl, rfl, rfl, fun _ => hstarting⟩)

omit hoperation in
theorem expired_noMoreReserved (receipt : TaskDispatchReceiptRecord) (releases : Bool) :
    NoMoreReserved receipt (receipt.expired releases) := by
  unfold TaskDispatchReceiptRecord.expired
  split
  · split
    · exact ⟨rfl, rfl, rfl, fun h => absurd h (by simp)⟩
    · exact ⟨rfl, rfl, rfl, fun h => absurd h (by simp)⟩
  · exact ⟨rfl, rfl, rfl, fun h => absurd h (by simp)⟩

theorem recoverExpiredTaskDispatchStarts_steps {releases : String → Bool} :
    WorkSteps platform input origin origin
      (recoverExpiredTaskDispatchStarts releases input.now origin).2 := by
  refine .single (@WorkStep.receiptsChanged platform input origin origin _ (fun id receipt =>
    if receipt.status = .starting ∧ receipt.leaseExpiresAt ≤ input.now then
      receipt.expired (releases id)
    else receipt) (.of_roadmaps rfl le_rfl) (fun _ _ _ => ?_) rfl rfl rfl
    hoperation)
  split
  · exact expired_noMoreReserved _ _
  · exact ⟨rfl, rfl, rfl, fun h => h⟩

end Operations

end OpenCowork.Gateway
