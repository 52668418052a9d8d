import OpenCowork.Gateway.Frames
import OpenCowork.Gateway.Linked

/-! # Steps of gates and dependencies

What one operation does to gates, dependencies and the manual gates of tasks, one write after the
other. Every operation is a chain of these steps.
-/

namespace OpenCowork.Gateway

open Foundation

/-- Dependencies and gates as they were, and the same tasks with the same manual gates. -/
structure Undisturbed (state state' : WorkState) : Prop where
  dependencies : state'.dependencies = state.dependencies
  gates : state'.gates = state.gates
  manual : ∀ id, (state'.tasks.get id).map WorkTaskRecord.manualGate =
    (state.tasks.get id).map WorkTaskRecord.manualGate
  drawn : state.drawn ≤ state'.drawn

def WorkOperation.setsManualGate (operation : WorkOperation) (taskId : String)
    (given : Option ManualGate) : Prop :=
  match operation with
  | updateWorkTask id input => id = taskId ∧ input.manualGate = some given
  | updateWorkTasks inputs => ∃ input, (taskId, input) ∈ inputs ∧ input.manualGate = some given
  | _ => False

def HumanGateInput.key (input : HumanGateInput) (stage : Option String) : Option String :=
  (normalizeOptionalString input.scopeKey 300).orElse fun _ =>
    defaultHumanGateScopeKey input.type (normalizeOptionalString input.taskId 120)
      (normalizeOptionalString input.roadmapId 120) (normalizeOptionalString input.runId 120) stage

structure RaisedBy (input : HumanGateInput) (gate : HumanGateRecord) : Prop where
  stage : normalizeOptionalStage input.stage "stage" = .ok gate.stage
  status : gate.status = .pending
  type : gate.type = input.type
  taskId : gate.taskId = normalizeOptionalString input.taskId 120
  scopeKey : gate.scopeKey = input.key gate.stage

/-- What an operation asks a gate for: the manual gate of a task, or what it is given. -/
inductive Asked (operation : WorkOperation) (state : WorkState) : HumanGateInput → Bool → Prop where
  | manual {id : String} {task : WorkTaskRecord} {manualGate : ManualGate}
      (htask : state.tasks.get id = some task) (hmanual : task.manualGate = some manualGate) :
      Asked operation state (humanGateInputForManualTask id task) false
  | given {input : HumanGateInput} {force : Bool}
      (hoperation : operation = .createHumanGate input force) :
      Asked operation state input force

/-- No gate under the key is open or approved. -/
def WorkState.Unasked (state : WorkState) (key : Option String) : Prop :=
  ∀ id gate, state.gates.get id = some gate → key.isSome → gate.scopeKey = key →
    gate.status ≠ .approved ∧ isOpenHumanGateStatus gate.status = false

/-- How a gate is closed, or put off, without its approval. -/
inductive Closing (operation : WorkOperation) (id : String) (gate : HumanGateRecord) :
    HumanGateRecord → Prop where
  | rejected {note : Option String} {scope : Option HumanGateScope}
      (hoperation : operation = .decideHumanGate id .reject note scope)
      (hopen : isOpenHumanGateStatus gate.status = true) :
      Closing operation id gate { gate with status := .rejected, scope := some (scope.getD .once) }
  | timedOut {action : HumanGateTimeoutAction}
      (hoperation : operation = .timeoutHumanGate id action)
      (hopen : isOpenHumanGateStatus gate.status = true) :
      Closing operation id gate { gate with status := .timedOut }
  | escalated (hoperation : operation = .timeoutHumanGate id .escalate)
      (hopen : isOpenHumanGateStatus gate.status = true) :
      Closing operation id gate { gate with status := .escalated }
  | consumed (hoperation : operation = .consumeHumanGate id) (happroved : gate.status = .approved)
      (hscope : gate.scope ≠ some .always) :
      Closing operation id gate { gate with status := .consumed }

variable (platform : WorkPlatform)

/-- The writes to gates, dependencies and manual gates that an operation on the state `origin`
consists of. -/
inductive GateStep (operation : WorkOperation) (origin : WorkState) :
    WorkState → WorkState → Prop where
  | undisturbed {state state' : WorkState} (h : Undisturbed state state') :
      GateStep operation origin state state'
  | created {state state' : WorkState} {task : WorkTaskRecord}
      (hdrawn : state.drawn < state'.drawn)
      (htasks : state'.tasks = state.tasks.set ("task_" ++ platform.randomUUID state.drawn) task)
      (hdependencies : state'.dependencies = state.dependencies)
      (hgates : state'.gates = state.gates) : GateStep operation origin state state'
  | updated {state state' : WorkState} {id : String} {task task' : WorkTaskRecord}
      (hdrawn : state.drawn ≤ state'.drawn) (htask : state.tasks.get id = some task)
      (hsets : operation.setsManualGate id task'.manualGate)
      (htasks : state'.tasks = state.tasks.set id task')
      (hdependencies : state'.dependencies = state.dependencies)
      (hgates : state'.gates = state.gates) : GateStep operation origin state state'
  | linked {state : WorkState} {record : WorkDependencyRecord}
      (hne : record.taskId ≠ record.dependsOnTaskId)
      (htask : (state.tasks.get record.taskId).isSome)
      (htarget : (state.tasks.get record.dependsOnTaskId).isSome)
      (hnew : record ∉ state.dependencies)
      (hcycle : assertNoDependencyCycle state record = .ok ()) :
      GateStep operation origin state { state with dependencies := state.dependencies ++ [record] }
  | unlinked {state : WorkState} (keeps : WorkDependencyRecord → Bool) :
      GateStep operation origin state { state with dependencies := state.dependencies.filter keeps }
  | deleted {state state' : WorkState} {taskIds : List String}
      (hdrawn : state.drawn ≤ state'.drawn)
      (htasks : state'.tasks = state.tasks.filter fun id _ => id ∉ taskIds)
      (hdependencies : state'.dependencies = state.dependencies.filter fun dep =>
        dep.taskId ∉ taskIds ∧ dep.dependsOnTaskId ∉ taskIds)
      (hgates : ∀ id gate, state'.gates.get id = some gate →
        state.gates.get id = some gate ∧ ∀ taskId ∈ gate.taskId, taskId ∉ taskIds) :
      GateStep operation origin state state'
  | raised {state : WorkState} {input : HumanGateInput} {force : Bool} {gate : HumanGateRecord}
      (hasked : Asked operation state input force) (hgate : RaisedBy input gate)
      (hfree : force = false → state.Unasked gate.scopeKey) :
      GateStep operation origin state { state with
        gates := state.gates.set ("gate_" ++ platform.randomUUID state.drawn) gate
        drawn := state.drawn + 1 }
  | approved {state' : WorkState} {id : String} {gate : HumanGateRecord}
      {note : Option String} {scope : Option HumanGateScope}
      (hoperation : operation = .decideHumanGate id .approve note scope)
      (hdrawn : origin.drawn ≤ state'.drawn) (hgate : origin.gates.get id = some gate)
      (hopen : isOpenHumanGateStatus gate.status = true)
      (hmanual : ∀ id, (state'.tasks.get id).map WorkTaskRecord.manualGate =
        if Text.truthy gate.taskId = some id then (origin.tasks.get id).map fun _ => none
        else (origin.tasks.get id).map WorkTaskRecord.manualGate)
      (hdependencies : state'.dependencies = origin.dependencies)
      (hgates : state'.gates = origin.gates.set id
        { gate with status := .approved, scope := some (scope.getD .once) }) :
      GateStep operation origin origin state'
  | closed {id : String} {gate gate' : HumanGateRecord}
      (hgate : origin.gates.get id = some gate) (hclosing : Closing operation id gate gate') :
      GateStep operation origin origin { origin with gates := origin.gates.set id gate' }

abbrev GateSteps (operation : WorkOperation) (origin : WorkState) :
    WorkState → WorkState → Prop :=
  Relation.ReflTransGen (GateStep platform operation origin)

/-! ## What leaves gates and dependencies alone -/

namespace Undisturbed

variable {platform : WorkPlatform} {operation : WorkOperation}
  {origin state state' state'' : WorkState} {f : WorkTaskRecord → WorkTaskRecord}

theorem steps (h : Undisturbed state state') : GateSteps platform operation origin state state' :=
  .single (.undisturbed h)

theorem refl (state : WorkState) : Undisturbed state state := ⟨rfl, rfl, fun _ => rfl, le_rfl⟩

theorem trans (hfirst : Undisturbed state state') (hsecond : Undisturbed state' state'') :
    Undisturbed state state'' where
  dependencies := hsecond.dependencies.trans hfirst.dependencies
  gates := hsecond.gates.trans hfirst.gates
  manual id := (hsecond.manual id).trans (hfirst.manual id)
  drawn := hfirst.drawn.trans hsecond.drawn

theorem of_tasks (htasks : state'.tasks = state.tasks)
    (hdependencies : state'.dependencies = state.dependencies)
    (hgates : state'.gates = state.gates) (hdrawn : state.drawn ≤ state'.drawn) :
    Undisturbed state state' :=
  ⟨hdependencies, hgates, fun id => by rw [htasks], hdrawn⟩

theorem of_set {id : String} {task task' : WorkTaskRecord} (htask : state.tasks.get id = some task)
    (hmanual : task'.manualGate = task.manualGate)
    (htasks : state'.tasks = state.tasks.set id task')
    (hdependencies : state'.dependencies = state.dependencies)
    (hgates : state'.gates = state.gates) (hdrawn : state.drawn ≤ state'.drawn) :
    Undisturbed state state' := by
  refine ⟨hdependencies, hgates, fun _ => ?_, hdrawn⟩
  rw [htasks, OrderedMap.get_set]
  split
  next hid => rw [← hid, htask, Option.map_some, Option.map_some, hmanual]
  · rfl

theorem recompute (roadmapId : String) (state : WorkState) :
    Undisturbed state (recomputeRoadmapStatusInState roadmapId state) :=
  of_tasks (recompute_tasks _ _) (recompute_dependencies _ _) (recompute_gates _ _)
    (recompute_drawn _ _).ge

theorem updateTask (taskId : String)
    (hmanual : ∀ task, (f task).manualGate = task.manualGate) (state : WorkState) :
    Undisturbed state (state.updateTask taskId f) := by
  refine ⟨rfl, rfl, fun other => ?_, le_rfl⟩
  unfold WorkState.updateTask
  rw [OrderedMap.get_modify]
  split
  next hid =>
    rw [Option.map_map, hid]
    exact congrArg (Option.map · (state.tasks.get other)) (funext hmanual)
  · rfl

theorem abort (taskId : String) (now : Int) (state : WorkState) :
    Undisturbed state (abortActiveRunInState taskId now state).2 := by
  unfold abortActiveRunInState
  split
  · exact refl _
  next runId run _ =>
    have hrun : Undisturbed state (state.updateRun runId fun run => run.errored now) :=
      of_tasks rfl rfl rfl le_rfl
    exact hrun.trans (updateTask taskId
      (f := fun task => { task with currentRunId := none }) (fun _ => rfl) _)

theorem abortAndUpdate (taskId roadmapId : String) (now : Int)
    (hmanual : ∀ task, (f task).manualGate = task.manualGate) (state : WorkState) :
    Undisturbed state (abortAndUpdateTask taskId roadmapId now f state).2 :=
  ((abort taskId now state).trans (updateTask taskId hmanual _)).trans (recompute roadmapId _)

theorem ensureInbox (state : WorkState) : Undisturbed state (ensureInboxRoadmap state) := by
  obtain ⟨_, h⟩ := ensureInbox_frame state
  rw [h]
  exact of_tasks rfl rfl rfl le_rfl

theorem settleLostRun {next : WorkTaskRecord → RunRecord → WorkTaskRecord}
    (hmanual : ∀ task run, (next task run).manualGate = task.manualGate) (now : Int)
    (state : WorkState) (runId : String) :
    Undisturbed state (settleLostRun now next state runId) := by
  unfold Gateway.settleLostRun
  split
  · exact refl _
  next run _ =>
    split
    · exact refl _
    next task htask =>
      split
      · exact refl _
      · exact of_set htask (hmanual task run) rfl rfl rfl le_rfl

theorem foldl {α : Type*} {turn : WorkState → α → WorkState}
    (hturn : ∀ state item, Undisturbed state (turn state item)) (items : List α)
    (state : WorkState) : Undisturbed state (items.foldl turn state) := by
  induction items generalizing state with
  | nil => exact refl _
  | cons item _ ih => exact (hturn state item).trans (ih _)

end Undisturbed

theorem acted_manualGate (action : WorkTaskAction) (stage note : Option String)
    (task : WorkTaskRecord) : (task.acted action stage note).manualGate = task.manualGate := by
  cases action <;> rfl

theorem controlled_manualGate (action : ActiveRunControlAction) (run : RunRecord)
    (note : Option String) (task : WorkTaskRecord) :
    (task.controlled action run note).manualGate = task.manualGate := by
  cases action <;> rfl

theorem recovered_manualGate (task : WorkTaskRecord) (run : RunRecord) (retryLimit : Int)
    (summary : String) : (task.recovered run retryLimit summary).manualGate = task.manualGate := by
  unfold WorkTaskRecord.recovered
  split <;> rfl

section Operations

variable {platform : WorkPlatform} {state state' : WorkState} {id : String} {answer : WorkAnswer}
  {now : Int}

theorem undisturbed_createRoadmap {roadmap : RoadmapInput}
    (h : createRoadmapInState platform roadmap state = .ok (id, state')) :
    Undisturbed state state' := by
  unfold createRoadmapInState at h
  obtain ⟨_, -, h⟩ := bind_eq_ok h
  obtain ⟨_, -, h⟩ := bind_eq_ok h
  cases h
  exact .of_tasks rfl rfl rfl (Nat.le_succ _)

theorem undisturbed_updateRoadmap {update : RoadmapUpdateInput}
    (h : updateRoadmap id update state = .ok (answer, state')) : Undisturbed state state' := by
  unfold updateRoadmap at h
  split at h
  · cases h
    exact .refl _
  · obtain ⟨_, -, h⟩ := bind_eq_ok h
    obtain ⟨_, -, h⟩ := bind_eq_ok h
    obtain ⟨_, -, h⟩ := bind_eq_ok h
    cases h
    exact .of_tasks rfl rfl rfl le_rfl

theorem undisturbed_archiveTask (note : Option String) (now : Int) (state : WorkState)
    (taskId : String) : Undisturbed state (archiveTaskInState note now state taskId) :=
  (Undisturbed.abort taskId now state).trans
    (.updateTask taskId (f := WorkTaskRecord.archive note) (fun _ => rfl) _)

theorem undisturbed_archiveRoadmap (roadmapId : String) (note : Option String) (now : Int)
    (state : WorkState) : Undisturbed state (archiveRoadmap roadmapId note now state).2 := by
  unfold archiveRoadmap
  split
  · exact .refl _
  next roadmap _ =>
    have hroadmap : Undisturbed state { state with
        roadmaps := state.roadmaps.set roadmapId { roadmap with status := .archived } } :=
      .of_tasks rfl rfl rfl le_rfl
    exact hroadmap.trans (.foldl (undisturbed_archiveTask _ now) _ _)

theorem undisturbed_applyWorkTaskAction {action : WorkTaskAction} {stage note : Option String}
    (h : applyWorkTaskAction id action stage note now state = .ok (answer, state')) :
    Undisturbed state state' := by
  unfold applyWorkTaskAction at h
  split at h
  · cases h
    exact .refl _
  · obtain ⟨stage, -, h⟩ := bind_eq_ok h
    obtain ⟨_, -, h⟩ := bind_eq_ok h
    cases haborts : action.abortsRun with
    | false =>
      rw [haborts] at h
      cases h
      exact (Undisturbed.updateTask id (acted_manualGate action stage _) _).trans (.recompute _ _)
    | true =>
      rw [haborts] at h
      cases h
      exact ((Undisturbed.abort id now state).trans
        (.updateTask id (acted_manualGate action stage _) _)).trans (.recompute _ _)

theorem undisturbed_applyActiveRunControl (control : ActiveRunControlInput) (now : Int)
    (state : WorkState) : Undisturbed state (applyActiveRunControl control now state).2 := by
  unfold applyActiveRunControl
  split
  · exact .refl _
  next _ run _ =>
    split
    · exact .refl _
    · split
      · exact .refl _
      · split
        · exact .refl _
        · split
          · exact .refl _
          · exact .abortAndUpdate _ _ now (controlled_manualGate control.action run _) state

theorem undisturbed_startRun {start : RunStart} {runId : String}
    (h : startRun platform start now state = some (runId, state')) : Undisturbed state state' := by
  simp only [startRun, startWorkTaskRunInState, Option.bind_eq_bind, Option.bind_eq_some_iff,
    Option.guard_eq_some'] at h
  obtain ⟨_, htask, _, -, _, -, _, -, _, -, _, -, h⟩ := h
  cases h
  refine .of_set htask ?_ rfl rfl rfl (Nat.le_succ _)
  rfl

theorem undisturbed_abortWorkEnvironment (id : String) (note : Option String) (now : Int)
    (state : WorkState) : Undisturbed state (abortWorkEnvironment id note now state).2 := by
  unfold abortWorkEnvironment
  split
  · exact .refl _
  next run _ =>
    split
    · exact .refl _
    · split
      · exact .refl _
      · have haborted := Undisturbed.abort run.taskId now state
        dsimp only
        split
        · exact haborted
        · refine .trans (haborted.trans ?_) (.recompute _ _)
          refine .updateTask _ ?_ _
          exact fun _ => rfl

theorem undisturbed_completeWorkTaskRun (runId : String) (result : StageResult) (retryLimit : Int)
    (lease : RunLeaseExpectation) (collected : Option EnvironmentCollection) (now : Int)
    (state : WorkState) : Undisturbed state
      (completeWorkTaskRun platform runId result retryLimit lease collected now state).2 := by
  unfold completeWorkTaskRun
  split
  · exact .refl _
  next howned =>
    obtain ⟨-, htask, -⟩ := ownedRun_eq_some_iff.mp howned
    split
    · exact .refl _
    · unfold applyStageResultInState
      dsimp only
      split
      · refine .trans ?_ (.recompute _ _)
        refine .of_set htask ?_ rfl rfl rfl le_rfl
        rfl
      · refine .of_set htask ?_ rfl rfl rfl le_rfl
        rfl

theorem undisturbed_blockActiveWorkTaskRun (runId note : String) (now : Int) (state : WorkState) :
    Undisturbed state (blockActiveWorkTaskRun runId note now state).2 := by
  unfold blockActiveWorkTaskRun
  split
  · exact .refl _
  next howned =>
    obtain ⟨-, htask, -⟩ := ownedRun_eq_some_iff.mp howned
    refine .trans ?_ (.recompute _ _)
    refine .of_set htask ?_ rfl rfl rfl le_rfl
    rfl

theorem undisturbed_expireLease (now : Int) (state : WorkState) (runId : String) :
    Undisturbed state (expireLeaseInState now state runId) := by
  have hsettled : Undisturbed state
      (settleLostRun now (fun task run => task.leaseExpired run) state runId) := by
    refine .settleLostRun ?_ now state runId
    exact fun _ _ => rfl
  unfold expireLeaseInState
  split
  · exact hsettled
  · exact hsettled.trans (.recompute _ _)

theorem undisturbed_receipts {change : TaskDispatchReceiptRecord → Option TaskDispatchReceiptRecord}
    (dispatchId : String) (state : WorkState) :
    Undisturbed state (updateTaskDispatchReceipt dispatchId change state).2 := by
  unfold updateTaskDispatchReceipt
  split
  · exact .refl _
  · exact .of_tasks rfl rfl rfl le_rfl

end Operations

end OpenCowork.Gateway
