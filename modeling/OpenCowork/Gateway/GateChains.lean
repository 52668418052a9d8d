import OpenCowork.Gateway.GateSteps

/-! # Every operation is a chain of gate steps

Whatever an operation does to gates, dependencies and manual gates, it does by steps.
-/

namespace OpenCowork.Gateway

open Foundation

/-! ## Raising gates -/

/-- What asking for a gate comes to. -/
inductive Raising (platform : WorkPlatform) (input : HumanGateInput) (force : Bool)
    (state : WorkState) : Option String → WorkState → Prop where
  | approved {id : String} {gate : HumanGateRecord} (hforce : force = false)
      (hgate : state.gates.get id = some gate) (happroved : gate.status = .approved)
      (hkey : ∃ stage, normalizeOptionalStage input.stage "stage" = .ok stage ∧
        (input.key stage).isSome ∧ gate.scopeKey = input.key stage) :
      Raising platform input force state none state
  | found {id : String} {gate : HumanGateRecord} (hforce : force = false)
      (hgate : state.gates.get id = some gate) (hopen : isOpenHumanGateStatus gate.status = true)
      (hkey : ∃ stage, normalizeOptionalStage input.stage "stage" = .ok stage ∧
        (input.key stage).isSome ∧ gate.scopeKey = input.key stage) :
      Raising platform input force state (some id) state
  | raised {gate : HumanGateRecord} (hgate : RaisedBy input gate)
      (hfree : force = false → state.Unasked gate.scopeKey) :
      Raising platform input force state (some ("gate_" ++ platform.randomUUID state.drawn))
        { state with
          gates := state.gates.set ("gate_" ++ platform.randomUUID state.drawn) gate
          drawn := state.drawn + 1 }

section Raising

variable {platform : WorkPlatform} {operation : WorkOperation} {origin state state' : WorkState}
  {input : HumanGateInput} {force : Bool} {answer : Option String}

theorem insertHumanGateRow_raising
    (h : insertHumanGateRow platform input force state = .ok (answer, state')) :
    Raising platform input force state answer state' := by
  unfold insertHumanGateRow at h
  obtain ⟨stage, hstage, h⟩ := bind_eq_ok h
  obtain ⟨_, -, h⟩ := bind_eq_ok h
  obtain ⟨_, -, h⟩ := bind_eq_ok h
  dsimp only at h
  have hkey : ((normalizeOptionalString input.scopeKey 300).orElse fun _ =>
      defaultHumanGateScopeKey input.type (normalizeOptionalString input.taskId 120)
        (normalizeOptionalString input.roadmapId 120) (normalizeOptionalString input.runId 120)
        stage) = input.key stage := rfl
  rw [hkey] at h
  generalize hscope : (state.gates.entries.filter fun entry =>
    decide (force = false ∧ (input.key stage).isSome = true ∧
      entry.2.scopeKey = input.key stage)) = ofScope at h
  have hmem : ∀ id gate, (id, gate) ∈ ofScope ↔ state.gates.get id = some gate ∧
      force = false ∧ (input.key stage).isSome = true ∧ gate.scopeKey = input.key stage := by
    intro id gate
    rw [← hscope, List.mem_filter, OrderedMap.get_eq_some_iff, decide_eq_true_eq]
  split at h
  next happroved =>
    cases h
    obtain ⟨⟨id, gate⟩, hin, hstatus⟩ := List.any_eq_true.mp happroved
    obtain ⟨hgate, hforce, hsome, hsame⟩ := (hmem id gate).mp hin
    exact .approved hforce hgate (of_decide_eq_true hstatus) ⟨stage, hstage, hsome, hsame⟩
  next happroved =>
    split at h
    next id gate hfind =>
      cases h
      obtain ⟨hgate, hforce, hsome, hsame⟩ := (hmem id gate).mp (List.mem_of_find?_eq_some hfind)
      have hopen : isOpenHumanGateStatus gate.status = true :=
        List.find?_some (a := (id, gate)) hfind
      exact .found hforce hgate hopen ⟨stage, hstage, hsome, hsame⟩
    next hfind =>
      cases h
      refine .raised ⟨hstage, rfl, rfl, rfl, rfl⟩ fun hforce id gate hgate hsome hsame => ?_
      have hin := (hmem id gate).mpr ⟨hgate, hforce, hsome, hsame⟩
      constructor
      · intro hstatus
        exact happroved (List.any_eq_true.mpr ⟨_, hin, decide_eq_true hstatus⟩)
      · exact Bool.eq_false_iff.mpr (List.find?_eq_none.mp hfind _ hin)

theorem Raising.steps (h : Raising platform input force state answer state')
    (hasked : Asked operation state input force) :
    GateSteps platform operation origin state state' := by
  cases h with
  | approved | found => exact .refl
  | raised hgate hfree => exact .single (.raised hasked hgate hfree)

theorem insertManualGate_gateSteps {taskId : String}
    (h : insertManualGate platform taskId state = .ok state') :
    GateSteps platform operation origin state state' := by
  unfold insertManualGate at h
  split at h
  · cases h
    exact .refl
  next htask =>
    split at h
    next hmanual =>
      obtain ⟨⟨_, _⟩, hinserted, rfl⟩ := map_eq_ok h
      obtain ⟨_, hmanual⟩ := Option.isSome_iff_exists.mp hmanual
      exact (insertHumanGateRow_raising hinserted).steps (.manual htask hmanual)
    · cases h
      exact .refl

end Raising

/-! ## Dependencies and creation -/

section Operations

variable {platform : WorkPlatform} {operation : WorkOperation} {origin state state' : WorkState}
  {id : String} {note : Option String} {scope : Option HumanGateScope} {now : Int}
  {ids : List String} {answer : WorkAnswer} {gate : HumanGateRecord}

theorem addDependency_gateSteps {input : WorkDependencyInput}
    (h : addWorkDependencyInState input state = .ok state') :
    GateSteps platform operation origin state state' := by
  unfold addWorkDependencyInState at h
  obtain ⟨_, -, h⟩ := bind_eq_ok h
  obtain ⟨_, -, h⟩ := bind_eq_ok h
  obtain ⟨_, hne, h⟩ := bind_eq_ok h
  obtain ⟨_, htask, h⟩ := bind_eq_ok h
  obtain ⟨_, htarget, h⟩ := bind_eq_ok h
  rw [refuseIf_eq_ok] at hne
  split at h
  · cases h
    exact .refl
  next hnew =>
    obtain ⟨_, hcycle, h⟩ := bind_eq_ok h
    cases h
    exact .single (.linked hne (by rw [orThrow_eq_ok htask]; rfl)
      (by rw [orThrow_eq_ok htarget]; rfl) hnew hcycle)

theorem addDependencies_gateSteps {taskId : String} {dependsOn : List String}
    (h : dependsOn.foldlM (fun state dependsOnTaskId =>
      addWorkDependencyInState { taskId := taskId, dependsOnTaskId } state) state = .ok state') :
    GateSteps platform operation origin state state' := by
  induction dependsOn generalizing state with
  | nil =>
    cases h
    exact .refl
  | cons _ _ ih =>
    rw [List.foldlM_cons] at h
    obtain ⟨_, hnext, h⟩ := bind_eq_ok h
    exact (addDependency_gateSteps hnext).trans (ih h)

theorem planDependencies_gateSteps {index : Nat} {planned : List PlanInitiativeDependency}
    (h : planDependenciesInState ids index planned state = .ok state') :
    GateSteps platform operation origin state state' := by
  induction planned generalizing index state with
  | nil =>
    cases h
    exact .refl
  | cons _ _ ih =>
    obtain ⟨_, -, h⟩ := bind_eq_ok h
    obtain ⟨_, -, h⟩ := bind_eq_ok h
    obtain ⟨_, hnext, h⟩ := bind_eq_ok h
    exact (addDependency_gateSteps hnext).trans (ih h)

theorem createTask_gateSteps {create : WorkTaskCreateInput}
    (h : createWorkTaskInState platform create state = .ok (id, state')) :
    GateSteps platform operation origin state state' := by
  unfold createWorkTaskInState at h
  iterate 3 obtain ⟨_, -, h⟩ := bind_eq_ok h
  dsimp only at h
  have hinbox : Undisturbed state (if (Text.truthy create.roadmapId).isNone = true
      then ensureInboxRoadmap state else state) := by
    split
    · exact .ensureInbox state
    · exact .refl _
  generalize (if (Text.truthy create.roadmapId).isNone = true
    then ensureInboxRoadmap state else state) = entered at h hinbox
  split at h
  · cases h
    exact hinbox.steps
  · obtain ⟨_, -, h⟩ := bind_eq_ok h
    obtain ⟨linked, hlinked, h⟩ := bind_eq_ok h
    obtain ⟨_, hgated, h⟩ := bind_eq_ok h
    cases h
    refine hinbox.steps.trans (.head ?_ (((addDependencies_gateSteps hlinked).trans
      (Undisturbed.recompute _ linked).steps).trans (insertManualGate_gateSteps hgated)))
    exact .created (Nat.lt_succ_self _) rfl rfl rfl

theorem createTasks_gateSteps {inputs : List WorkTaskCreateInput}
    (h : createWorkTasksInState platform inputs state = .ok (ids, state')) :
    GateSteps platform operation origin state state' := by
  induction inputs generalizing state ids with
  | nil =>
    cases h
    exact .refl
  | cons _ _ ih =>
    rw [createWorkTasksInState] at h
    obtain ⟨⟨_, _⟩, hnext, h⟩ := bind_eq_ok h
    obtain ⟨⟨_, _⟩, hlast, h⟩ := bind_eq_ok h
    cases h
    exact (createTask_gateSteps hnext).trans (ih hlast)

/-! ## Updates -/

theorem updateTask_gateSteps {update : WorkTaskUpdateInput} {abortedSessionId : Option String}
    (hsets : ∀ given, update.manualGate = some given → operation.setsManualGate id given)
    (h : updateTaskInState platform id update now state = .ok (abortedSessionId, state')) :
    GateSteps platform operation origin state state' := by
  unfold updateTaskInState at h
  -- the active run is aborted first, if at all
  have haborted : ∀ entered : Option String × WorkState,
      (entered = abortActiveRunInState id now state ∨ entered = (none, state)) →
      Undisturbed state entered.2 := by
    rintro entered (rfl | rfl)
    · exact .abort id now state
    · exact .refl _
  have hentered : (if update.status.any shouldAbortActiveRunForTaskStatus = true
      then abortActiveRunInState id now state else (none, state)) =
        abortActiveRunInState id now state ∨
      (if update.status.any shouldAbortActiveRunForTaskStatus = true
        then abortActiveRunInState id now state else (none, state)) = (none, state) := by
    split
    · exact .inl rfl
    · exact .inr rfl
  replace haborted := haborted _ hentered
  generalize (if update.status.any shouldAbortActiveRunForTaskStatus = true
    then abortActiveRunInState id now state else (none, state)) = entered at h haborted
  obtain ⟨_, hwritten, h⟩ := bind_eq_ok h
  cases h
  refine haborted.steps.trans ?_
  unfold writeTaskUpdateInState at hwritten
  obtain ⟨task, htask, hwritten⟩ := bind_eq_ok hwritten
  obtain ⟨updated, hupdated, hwritten⟩ := bind_eq_ok hwritten
  have hspec := applyTaskUpdate_spec hupdated
  have hset : GateSteps platform operation origin entered.2
      { entered.2 with tasks := entered.2.tasks.set id updated } := by
    cases hgiven : update.manualGate with
    | none =>
      have hkept : updated.manualGate = task.manualGate := by
        rw [hspec.manualGate, hgiven, Option.getD_none]
      exact Undisturbed.steps (.of_set (orThrow_eq_ok htask) hkept rfl rfl rfl le_rfl)
    | some given =>
      have hset : updated.manualGate = given := by
        rw [hspec.manualGate, hgiven, Option.getD_some]
      exact .single (.updated le_rfl (orThrow_eq_ok htask) (hset ▸ hsets given hgiven) rfl rfl rfl)
  refine hset.trans (.trans ?_ (insertManualGate_gateSteps hwritten))
  split
  · exact ((Undisturbed.recompute _ _).trans (.recompute _ _)).steps
  · exact (Undisturbed.recompute _ _).steps

theorem updateTasks_gateSteps {updates : List WorkTaskBulkUpdateInput}
    (hsets : ∀ id update given, (id, update) ∈ updates →
      update.manualGate = some given → operation.setsManualGate id given)
    (h : updateTasksInState platform now updates state = .ok (ids, state')) :
    GateSteps platform operation origin state state' := by
  induction updates generalizing state ids with
  | nil =>
    cases h
    exact .refl
  | cons entry _ ih =>
    obtain ⟨id, update⟩ := entry
    rw [updateTasksInState] at h
    obtain ⟨⟨_, _⟩, hnext, h⟩ := bind_eq_ok h
    obtain ⟨⟨_, _⟩, hlast, h⟩ := bind_eq_ok h
    cases h
    refine (updateTask_gateSteps (fun given => hsets id update given (.head _))
      hnext).trans (ih (fun id update given hmem => ?_) hlast)
    exact hsets id update given (.tail _ hmem)

/-! ## Deletion -/

theorem withoutTasks_gates {taskIds : List String}
    (h : (state.withoutTasks taskIds).gates.get id = some gate) :
    state.gates.get id = some gate ∧ ∀ taskId ∈ gate.taskId, taskId ∉ taskIds := by
  obtain ⟨hgate, hkept⟩ := (OrderedMap.get_filter_eq_some_iff _ _ _ _).mp h
  refine ⟨hgate, fun _ htaskId => ?_⟩
  rw [Option.mem_def] at htaskId
  rw [htaskId] at hkept
  simpa using hkept

theorem deleteRoadmap_gateSteps {roadmapId : String}
    (h : deleteRoadmap roadmapId state = .ok (answer, state')) :
    GateSteps platform operation origin state state' := by
  unfold deleteRoadmap at h
  split at h
  · cases h
    exact .refl
  · obtain ⟨_, -, h⟩ := bind_eq_ok h
    cases h
    refine .single (.deleted le_rfl rfl rfl fun _ _ hgate => ?_)
    obtain ⟨hgate, -⟩ := (OrderedMap.get_filter_eq_some_iff _ _ _ _).mp hgate
    exact withoutTasks_gates hgate

theorem deleteWorkTask_gateSteps (h : deleteWorkTask id state = .ok (answer, state')) :
    GateSteps platform operation origin state state' := by
  unfold deleteWorkTask at h
  split at h
  · cases h
    exact .refl
  next task _ =>
    obtain ⟨_, -, h⟩ := bind_eq_ok h
    cases h
    refine .trans (.single ?_) (Undisturbed.recompute task.roadmapId
      (state.withoutTasks [id])).steps
    exact .deleted le_rfl rfl rfl fun _ _ hgate => withoutTasks_gates hgate

/-! ## Decisions -/

theorem taskOfGate_eq_none (h : state.taskOfGate gate = none)
    (hid : Text.truthy gate.taskId = some id) : state.tasks.get id = none := by
  cases htask : state.tasks.get id with
  | none => rfl
  | some task =>
    have hfound : state.taskOfGate gate = some (id, task) := taskOfGate_eq_some_iff.mpr ⟨hid, htask⟩
    rw [h] at hfound
    cases hfound

theorem approve_gateSteps (hoperation : operation = .decideHumanGate id .approve note scope) :
    GateSteps platform operation state state
      (decideHumanGate id .approve note scope now state).2 := by
  unfold decideHumanGate
  cases hgate : state.gates.get id with
  | none => exact .refl
  | some existing =>
    dsimp only
    split
    · exact .refl
    next hopen =>
      rw [Bool.not_eq_false] at hopen
      split
      next hnone =>
        refine .single (.approved hoperation le_rfl hgate hopen (fun other => ?_) rfl rfl)
        by_cases hother : Text.truthy existing.taskId = some other
        · have hmissing : state.tasks.get other = none := taskOfGate_eq_none hnone hother
          rw [if_pos hother, hmissing]
          rfl
        · rw [if_neg hother]
      next taskId task hsome =>
        obtain ⟨htaskId, _⟩ := taskOfGate_eq_some_iff.mp hsome
        refine .trans (.single ?_) (Undisturbed.recompute task.roadmapId _).steps
        refine .approved hoperation le_rfl hgate hopen (fun other => ?_) rfl rfl
        rw [htaskId]
        unfold WorkState.updateTask
        rw [OrderedMap.get_modify]
        by_cases hother : taskId = other
        · rw [if_pos hother, if_pos (congrArg some hother), Option.map_map, ← hother]
          rfl
        · rw [if_neg hother, if_neg fun heq => hother (Option.some.inj heq)]

theorem reject_gateSteps (hoperation : operation = .decideHumanGate id .reject note scope) :
    GateSteps platform operation state state
      (decideHumanGate id .reject note scope now state).2 := by
  unfold decideHumanGate
  cases hgate : state.gates.get id with
  | none => exact .refl
  | some =>
    dsimp only
    split
    · exact .refl
    next hopen =>
      rw [Bool.not_eq_false] at hopen
      have hclosed : GateSteps platform operation state state _ :=
        .single (.closed hgate (.rejected hoperation hopen))
      split
      · exact hclosed
      · refine hclosed.trans (Undisturbed.steps ?_)
        refine .abortAndUpdate _ _ now ?_ _
        exact fun _ => rfl

theorem consumeHumanGate_gateSteps (hoperation : operation = .consumeHumanGate id) :
    GateSteps platform operation state state (consumeHumanGate id state).2 := by
  unfold consumeHumanGate
  cases hgate : state.gates.get id with
  | none => exact .refl
  | some =>
    dsimp only
    split
    · exact .refl
    next hconsumed =>
      rw [not_or, not_not] at hconsumed
      exact .single (.closed hgate (.consumed hoperation hconsumed.1 hconsumed.2))

theorem timeoutHumanGate_gateSteps {action : HumanGateTimeoutAction}
    (hoperation : operation = .timeoutHumanGate id action) :
    GateSteps platform operation state state (timeoutHumanGate id action now state).2 := by
  unfold timeoutHumanGate
  cases hgate : state.gates.get id with
  | none => exact .refl
  | some =>
    dsimp only
    split
    · exact .refl
    next hopen =>
      rw [Bool.not_eq_false] at hopen
      cases action with
      | remind => exact .refl
      | escalate => exact .single (.closed hgate (.escalated hoperation hopen))
      | pause | block =>
        have hclosed : GateSteps platform operation state state _ :=
          .single (.closed hgate (.timedOut hoperation hopen))
        dsimp only
        split
        · exact hclosed
        · refine hclosed.trans (Undisturbed.steps ?_)
          refine .abortAndUpdate _ _ now ?_ _
          exact fun _ => rfl

/-! ## Every operation -/

theorem attempt_gateSteps {input : WorkInput}
    (h : attempt platform input.now state input.operation = .ok (answer, state')) :
    GateSteps platform input.operation state state state' := by
  generalize hoperation : input.operation = operation at h ⊢
  cases operation with
  | createRoadmap =>
    obtain ⟨⟨id, created⟩, hcreated, h⟩ := bind_eq_ok h
    cases h
    exact (undisturbed_createRoadmap hcreated).steps
  | createRoadmapWithTasks =>
    obtain ⟨⟨id, created⟩, hcreated, h⟩ := bind_eq_ok h
    obtain ⟨⟨ids, filled⟩, hfilled, h⟩ := bind_eq_ok h
    cases h
    exact ((undisturbed_createRoadmap hcreated).steps.trans (createTasks_gateSteps hfilled)).trans
      (Undisturbed.recompute _ _).steps
  | planInitiative =>
    obtain ⟨⟨id, created⟩, hcreated, h⟩ := bind_eq_ok h
    obtain ⟨⟨ids, _⟩, hfilled, h⟩ := bind_eq_ok h
    obtain ⟨_, hplanned, h⟩ := bind_eq_ok h
    obtain ⟨_, -, h⟩ := bind_eq_ok h
    cases h
    exact ((undisturbed_createRoadmap hcreated).steps.trans (createTasks_gateSteps hfilled)).trans
      ((Undisturbed.recompute _ _).steps.trans (planDependencies_gateSteps hplanned))
  | updateRoadmap => exact (undisturbed_updateRoadmap h).steps
  | recomputeRoadmapStatus =>
    cases h
    exact (Undisturbed.recompute _ _).steps
  | archiveRoadmap roadmapId note =>
    obtain rfl := eq_of_answered h
    exact (undisturbed_archiveRoadmap roadmapId note input.now state).steps
  | deleteRoadmap => exact deleteRoadmap_gateSteps h
  | createWorkTask =>
    obtain ⟨⟨id, created⟩, hcreated, h⟩ := bind_eq_ok h
    cases h
    exact createTask_gateSteps hcreated
  | createWorkTasks =>
    obtain ⟨⟨_, _⟩, hcreated, h⟩ := bind_eq_ok h
    cases h
    exact createTasks_gateSteps hcreated
  | updateWorkTask =>
    unfold attempt updateWorkTask at h
    dsimp only at h
    split at h
    · cases h
      exact .refl
    · obtain ⟨_, -, h⟩ := bind_eq_ok h
      obtain ⟨⟨_, updated⟩, hupdated, h⟩ := bind_eq_ok h
      cases h
      exact updateTask_gateSteps (fun given hgiven => ⟨rfl, hgiven⟩) hupdated
  | updateWorkTasks =>
    iterate 3 obtain ⟨_, -, h⟩ := bind_eq_ok h
    obtain ⟨⟨_, _⟩, hupdated, h⟩ := bind_eq_ok h
    cases h
    exact updateTasks_gateSteps (fun id update given hmem hgiven => ⟨update, hmem, hgiven⟩) hupdated
  | applyWorkTaskAction => exact (undisturbed_applyWorkTaskAction h).steps
  | markWorkTaskDone =>
    obtain rfl := eq_of_answered h
    unfold markWorkTaskDone
    split
    · exact .refl
    · refine Undisturbed.steps (.abortAndUpdate _ _ input.now ?_ state)
      exact fun _ => rfl
  | archiveWorkTask =>
    obtain rfl := eq_of_answered h
    unfold archiveWorkTask
    split
    · exact .refl
    · refine Undisturbed.steps (.abortAndUpdate _ _ input.now ?_ state)
      exact fun _ => rfl
  | deleteWorkTask => exact deleteWorkTask_gateSteps h
  | addWorkDependency =>
    obtain ⟨_, hadded, h⟩ := bind_eq_ok h
    cases h
    exact addDependency_gateSteps hadded
  | deleteWorkDependency =>
    cases h
    exact .single (.unlinked _)
  | applyActiveRunControl control =>
    obtain rfl := eq_of_answered h
    exact (undisturbed_applyActiveRunControl control input.now state).steps
  | startWorkTaskRun =>
    obtain rfl := eq_of_answered h
    unfold startWorkTaskRun
    split
    · exact .refl
    next hstart => exact (undisturbed_startRun hstart).steps
  | startWorkTaskRunFromDispatch =>
    obtain rfl := eq_of_answered h
    unfold startWorkTaskRunFromDispatch
    split
    · exact .refl
    · split
      · exact .refl
      next hstart =>
        refine ((undisturbed_startRun hstart).trans ?_).steps
        exact .of_tasks rfl rfl rfl le_rfl
  | renewWorkTaskRunLease =>
    obtain rfl := eq_of_answered h
    unfold renewWorkTaskRunLease
    split
    · exact .refl
    · exact Undisturbed.steps (.of_tasks rfl rfl rfl le_rfl)
  | adoptActiveWorkRunLeases =>
    obtain rfl := eq_of_answered h
    unfold adoptActiveWorkRunLeases
    split
    · exact .refl
    · exact Undisturbed.steps (.of_tasks rfl rfl rfl le_rfl)
  | recoverExpiredWorkLeases =>
    obtain rfl := eq_of_answered h
    exact Undisturbed.steps (.foldl (undisturbed_expireLease input.now) _ _)
  | recoverOrphanedWorkRuns activeSessionIds retryLimit
  | recoverOrphanedWorkRun _ retryLimit =>
    obtain rfl := eq_of_answered h
    exact Undisturbed.steps (.foldl (.settleLostRun
      (fun task run => recovered_manualGate task run retryLimit orphanSummary) input.now) _ _)
  | abortWorkEnvironment id note =>
    obtain rfl := eq_of_answered h
    exact (undisturbed_abortWorkEnvironment id note input.now state).steps
  | completeWorkTaskRun =>
    obtain rfl := eq_of_answered h
    exact (undisturbed_completeWorkTaskRun _ _ _ _ _ _ state).steps
  | blockActiveWorkTaskRun runId note =>
    obtain rfl := eq_of_answered h
    exact (undisturbed_blockActiveWorkTaskRun runId note input.now state).steps
  | createHumanGate =>
    obtain ⟨⟨id, _⟩, hinserted, h⟩ := bind_eq_ok h
    cases h
    exact (insertHumanGateRow_raising hinserted).steps (.given rfl)
  | decideHumanGate _ decision =>
    obtain rfl := eq_of_answered h
    cases decision with
    | approve => exact approve_gateSteps rfl
    | reject => exact reject_gateSteps rfl
  | consumeHumanGate =>
    obtain rfl := eq_of_answered h
    exact consumeHumanGate_gateSteps rfl
  | timeoutHumanGate =>
    obtain rfl := eq_of_answered h
    exact timeoutHumanGate_gateSteps rfl
  | reserveTaskDispatchStart =>
    rcases reserve_cases h with rfl | ⟨_, _, -, rfl⟩
    · exact .refl
    · exact Undisturbed.steps (.of_tasks rfl rfl rfl (Nat.le_succ _))
  | journalTaskDispatchAcquisitionIntent dispatchId kind
  | attachTaskDispatchEnvironment dispatchId environment
  | markTaskDispatchAcquisitionSettled dispatchId kind failed
  | markTaskDispatchStarted dispatchId runId sessionId
  | markTaskDispatchFailed dispatchId =>
    obtain rfl := eq_of_answered h
    exact (undisturbed_receipts dispatchId state).steps
  | attachTaskDispatchSession dispatchId =>
    unfold attempt attachTaskDispatchSession at h
    dsimp only at h
    split at h
    · cases h
      exact .refl
    · obtain ⟨_, -, h⟩ := bind_eq_ok h
      obtain rfl := eq_of_answered h
      exact (undisturbed_receipts dispatchId state).steps
  | recoverExpiredTaskDispatchStarts =>
    obtain rfl := eq_of_answered h
    exact Undisturbed.steps (.of_tasks rfl rfl rfl le_rfl)

theorem perform_gateSteps (platform : WorkPlatform) (state : WorkState) (input : WorkInput) :
    GateSteps platform input.operation state state (perform platform state input).2 := by
  unfold perform
  split
  next hok => exact attempt_gateSteps hok
  · exact .refl

end Operations

end OpenCowork.Gateway
