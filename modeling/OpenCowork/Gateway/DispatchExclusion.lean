import OpenCowork.Gateway.Linked

/-! # One dispatch at a time

The running runs of a task and the receipts that still reserve a start for it. Together there is
at most one of them, as long as no start is granted beside a run or a receipt, and no receipt
beside another.
-/

namespace OpenCowork.Gateway

open Foundation OrderedMap

variable {platform : WorkPlatform} {state : WorkState} {now : Int} {task : WorkTaskRecord}

def WorkState.runningRuns (state : WorkState) (taskId : String) : Nat :=
  (state.runs.values.filter fun run => run.taskId = taskId && isActiveRunStatus run.status).length

def WorkState.liveReceipts (state : WorkState) (taskId : String) (now : Int) : Nat :=
  (state.receipts.values.filter fun receipt => receipt.taskId = taskId && receipt.isLive now).length

def WorkState.occupancy (state : WorkState) (taskId : String) (now : Int) : Nat :=
  state.runningRuns taskId + state.liveReceipts taskId now

/-- A direct start or a reservation that is granted for a task with a running run or a receipt
that still reserves its start. -/
inductive Overlaps (platform : WorkPlatform) (state : WorkState) (input : WorkInput) : Prop where
  | start {start : RunStart} {task : WorkTaskRecord}
      (hoperation : input.operation = .startWorkTaskRun start)
      (hstartable : Startable state start input.now task)
      (hbusy : state.occupancy start.taskId input.now ≠ 0)
  | reserve {reservation : ReserveTaskDispatchInput} {stage : String} {task : WorkTaskRecord}
      (hoperation : input.operation = .reserveTaskDispatchStart reservation)
      (hreserves : Reserves platform state input.now reservation stage task)
      (hbusy : state.occupancy reservation.taskId input.now ≠ 0)

section Counts

variable {platform : WorkPlatform} {input : WorkInput} {origin state state' : WorkState}
  {taskId : String} {earlier later : Int} {receipt : TaskDispatchReceiptRecord} {now : Int}
  {runId : String} {run : RunRecord} {id : String}

theorem runningRuns_le
    (h : ∀ runId run', state'.runs.get runId = some run' → run'.status = .running →
      ∃ run, state.runs.get runId = some run ∧ run.taskId = run'.taskId ∧
        run.status = .running) :
    state'.runningRuns taskId ≤ state.runningRuns taskId := by
  have hle : state'.runningRuns taskId ≤ ([] : List String).length + state.runningRuns taskId := by
    refine length_filter_values_le [] fun runId _ run' hrun' hcounts => ?_
    simp only [Bool.and_eq_true, decide_eq_true_eq, isActiveRunStatus_iff] at hcounts
    obtain ⟨run, hrun, htaskId, hrunning⟩ := h runId run' hrun' hcounts.2
    exact ⟨run, hrun, by simp [htaskId, hcounts.1, hrunning]⟩
  simpa using hle

theorem liveReceipts_le
    (h : ∀ id receipt', state'.receipts.get id = some receipt' → receipt'.isLive later = true →
      ∃ receipt, state.receipts.get id = some receipt ∧ receipt.taskId = receipt'.taskId ∧
        receipt.isLive earlier = true) :
    state'.liveReceipts taskId later ≤ state.liveReceipts taskId earlier := by
  have hle : state'.liveReceipts taskId later ≤
      ([] : List String).length + state.liveReceipts taskId earlier := by
    refine length_filter_values_le [] fun id _ receipt' hreceipt' hcounts => ?_
    simp only [Bool.and_eq_true, decide_eq_true_eq] at hcounts
    obtain ⟨receipt, hreceipt, htaskId, hlive⟩ := h id receipt' hreceipt' hcounts.2
    exact ⟨receipt, hreceipt, by simp [htaskId, hcounts.1, hlive]⟩
  simpa using hle

theorem isLive_iff :
    receipt.isLive now = true ↔ receipt.status = .starting ∧ now < receipt.leaseExpiresAt := by
  simp [TaskDispatchReceiptRecord.isLive]

theorem isLive_of_noMore {receipt' : TaskDispatchReceiptRecord} {earlier later : Int}
    (hle : earlier ≤ later) (hsame : NoMoreReserved receipt receipt')
    (hlive : receipt'.isLive later = true) : receipt.isLive earlier = true := by
  rw [isLive_iff] at hlive ⊢
  exact ⟨hsame.starting hlive.1, hle.trans_lt (hsame.leaseExpiresAt ▸ hlive.2)⟩

theorem occupancy_wait (hle : earlier ≤ later) :
    state.occupancy taskId later ≤ state.occupancy taskId earlier := by
  refine Nat.add_le_add_left (liveReceipts_le fun _ receipt hreceipt hlive =>
    ⟨receipt, hreceipt, rfl, isLive_of_noMore hle ⟨rfl, rfl, rfl, fun h => h⟩ hlive⟩) _

theorem runningRuns_set (taskId : String)
    (hfresh : state.runs.get runId = none) (hrunning : run.status = .running)
    (hruns : state'.runs = state.runs.set runId run) :
    state'.runningRuns taskId =
      state.runningRuns taskId + if run.taskId = taskId then 1 else 0 := by
  unfold WorkState.runningRuns
  rw [hruns, values_set_of_free _ hfresh, List.filter_append, List.length_append]
  by_cases htaskId : run.taskId = taskId
  · simp [htaskId, hrunning]
  · simp [htaskId]

theorem liveReceipts_set (taskId : String)
    (hfresh : state.receipts.get id = none) (hlive : receipt.isLive now = true)
    (hreceipts : state'.receipts = state.receipts.set id receipt) :
    state'.liveReceipts taskId now =
      state.liveReceipts taskId now + if receipt.taskId = taskId then 1 else 0 := by
  unfold WorkState.liveReceipts
  rw [hreceipts, values_set_of_free _ hfresh, List.filter_append, List.length_append]
  by_cases htaskId : receipt.taskId = taskId
  · simp [htaskId, hlive]
  · simp [htaskId]

theorem runningRuns_set_own (hfresh : state.runs.get runId = none)
    (hrunning : run.status = .running) (hown : run.taskId = taskId)
    (hruns : state'.runs = state.runs.set runId run) :
    state'.runningRuns taskId = state.runningRuns taskId + 1 := by
  rw [runningRuns_set taskId hfresh hrunning hruns, if_pos hown]

theorem liveReceipts_set_own (hfresh : state.receipts.get id = none)
    (hlive : receipt.isLive now = true) (hown : receipt.taskId = taskId)
    (hreceipts : state'.receipts = state.receipts.set id receipt) :
    state'.liveReceipts taskId now = state.liveReceipts taskId now + 1 := by
  rw [liveReceipts_set taskId hfresh hlive hreceipts, if_pos hown]

theorem newTaskDispatchReceipt_isLive (reservation : ReserveTaskDispatchInput)
    (stage stamp : String) (now : Int) :
    (newTaskDispatchReceipt platform reservation stage stamp now).isLive now = true := by
  rw [isLive_iff]
  refine ⟨rfl, ?_⟩
  have hlease : 60 * 1000 ≤ dispatchLeaseMs reservation.leaseMs := le_max_left _ _
  change now < now + dispatchLeaseMs reservation.leaseMs
  omega

theorem liveReceipts_handedOver (state' : WorkState) {dispatchId sessionId : String}
    (hreceipt : state.receipts.get dispatchId = some receipt) (hlive : receipt.isLive now = true)
    (hreceipts : state'.receipts =
      state.receipts.set dispatchId (receipt.handedOver runId sessionId)) :
    state'.liveReceipts receipt.taskId now + 1 = state.liveReceipts receipt.taskId now := by
  have hover : (receipt.handedOver runId sessionId).isLive now = false := by
    simp [TaskDispatchReceiptRecord.isLive, TaskDispatchReceiptRecord.handedOver,
      TaskDispatchReceiptRecord.startedAs, TaskDispatchReceiptRecord.note]
  have hcount := length_filter_values_set (receipt.handedOver runId sessionId)
    (fun other => other.taskId = receipt.taskId && other.isLive now) hreceipt
  rw [← hreceipts] at hcount
  simpa [WorkState.liveReceipts, hlive, hover] using hcount

theorem occupancy_le
    (hruns : ∀ runId run', state'.runs.get runId = some run' → run'.status = .running →
      ∃ run, state.runs.get runId = some run ∧ run.taskId = run'.taskId ∧ run.status = .running)
    (hreceipts : ∀ id receipt', state'.receipts.get id = some receipt' →
      receipt'.isLive now = true → ∃ receipt, state.receipts.get id = some receipt ∧
        receipt.taskId = receipt'.taskId ∧ receipt.isLive now = true) :
    state'.occupancy taskId now ≤ state.occupancy taskId now :=
  Nat.add_le_add (runningRuns_le hruns) (liveReceipts_le hreceipts)

/-- A step that overlaps nothing leaves at most one run or start to each task. -/
theorem occupancy_step (hlinked : Linked platform state)
    (horigin : ∀ id, origin.occupancy id input.now ≤ 1)
    (hoverlaps : ¬ Overlaps platform origin input) (hstate : ∀ id, state.occupancy id input.now ≤ 1)
    (hstep : WorkStep platform input origin state state') (id : String) :
    state'.occupancy id input.now ≤ 1 := by
  have hsameRuns : state'.runs = state.runs → ∀ runId run', state'.runs.get runId = some run' →
      run'.status = .running → ∃ run, state.runs.get runId = some run ∧
        run.taskId = run'.taskId ∧ run.status = .running :=
    fun hruns runId run' hrun' hrunning => ⟨run', hruns ▸ hrun', rfl, hrunning⟩
  have hsameReceipts : state'.receipts = state.receipts → ∀ id receipt',
      state'.receipts.get id = some receipt' → receipt'.isLive input.now = true →
        ∃ receipt, state.receipts.get id = some receipt ∧ receipt.taskId = receipt'.taskId ∧
          receipt.isLive input.now = true :=
    fun hreceipts id receipt' hreceipt' hlive => ⟨receipt', hreceipts ▸ hreceipt', rfl, hlive⟩
  cases hstep with
  | kept _ _ hruns hreceipts | roadmapArchived _ _ _ _ hruns hreceipts
  | created _ _ _ _ _ _ _ _ hruns hreceipts =>
    exact (occupancy_le (hsameRuns hruns) (hsameReceipts hreceipts)).trans (hstate id)
  | changed _ _ hchange _ hruns hreceipts =>
    refine (occupancy_le (fun runId run' hrun' hrunning => ?_) (hsameReceipts hreceipts)).trans
      (hstate id)
    exact ⟨run', hchange.running_before (hruns ▸ hrun') hrunning, rfl, hrunning⟩
  | tasksDeleted _ _ _ hruns hreceipts =>
    refine (occupancy_le (fun runId run' hrun' hrunning => ?_)
      (fun other receipt' hreceipt' hlive => ?_)).trans (hstate id)
    · rw [hruns, get_filter_eq_some_iff] at hrun'
      exact ⟨run', hrun'.1, rfl, hrunning⟩
    · rw [hreceipts, get_filter_eq_some_iff] at hreceipt'
      exact ⟨receipt', hreceipt'.1, rfl, hlive⟩
  | leased _ hcourse _ hruns hreceipts =>
    refine (occupancy_le (fun runId _ hrun' hrunning => ?_) (hsameReceipts hreceipts)).trans
      (hstate id)
    rw [hruns, get_mapWithKey, Option.map_eq_some_iff] at hrun'
    obtain ⟨run, hrun, rfl⟩ := hrun'
    have hsame := hcourse runId run hrun
    exact ⟨run, hrun, hsame.taskId.symm, hsame.status.symm.trans hrunning⟩
  | receiptsChanged _ hchange _ hruns hreceipts =>
    refine (occupancy_le (hsameRuns hruns) (fun other _ hreceipt' hlive => ?_)).trans
      (hstate id)
    rw [hreceipts, get_mapWithKey, Option.map_eq_some_iff] at hreceipt'
    obtain ⟨receipt, hreceipt, rfl⟩ := hreceipt'
    have hsame := hchange other receipt hreceipt
    exact ⟨receipt, hreceipt, hsame.taskId.symm, isLive_of_noMore le_rfl hsame hlive⟩
  | @reserved _ reservation stage task hside _ hoperation hreserves _ hruns hreceipts =>
    have hfree : origin.occupancy reservation.taskId input.now = 0 := by
      by_contra hbusy
      exact hoverlaps (.reserve hoperation hreserves hbusy)
    have hcount := liveReceipts_set id hlinked.receipt_fresh
      (newTaskDispatchReceipt_isLive _ _ _ _) hreceipts
    have hrunning : state'.runningRuns id = origin.runningRuns id := by
      rw [WorkState.runningRuns, hruns, ← WorkState.runningRuns]
    unfold WorkState.occupancy at hfree ⊢
    rw [hcount, hrunning]
    have hbefore := hstate id
    unfold WorkState.occupancy at hbefore
    split
    next htaskId =>
      rw [← htaskId]
      change origin.runningRuns reservation.taskId +
        (origin.liveReceipts reservation.taskId input.now + 1) ≤ 1
      omega
    · exact hbefore
  | @started _ _ start task hside _ hvia hstartable _ hruns hreceipts =>
    have hcount := runningRuns_set id hlinked.run_fresh rfl hruns
    have hlive : state'.liveReceipts id input.now = state.liveReceipts id input.now := by
      rw [WorkState.liveReceipts, hreceipts, ← WorkState.liveReceipts]
    have hbefore := hstate id
    unfold WorkState.occupancy at hbefore ⊢
    rw [hcount, hlive]
    split
    next htaskId =>
      -- the task of the start is free: by the check, or because its receipt was handed over
      have hfree : state.occupancy start.taskId input.now = 0 := by
        cases hvia with
        | direct hoperation =>
          by_contra hbusy
          exact hoverlaps (.start hoperation hstartable hbusy)
        | @dispatch dispatchId runId receipt hoperation hreceipt hadmits =>
          simp only [TaskDispatchReceiptRecord.admits, Bool.and_eq_true,
            decide_eq_true_eq] at hadmits
          obtain ⟨⟨⟨⟨htask, -⟩, hreceiptLive⟩, -⟩, -⟩ := hadmits
          have hhanded := liveReceipts_handedOver { origin with
            receipts := origin.receipts.set dispatchId
              (receipt.handedOver runId start.sessionId) } hreceipt hreceiptLive rfl
          have hwas := horigin start.taskId
          rw [htask] at hhanded
          unfold WorkState.occupancy at hwas ⊢
          change origin.runningRuns start.taskId + _ = 0
          omega
      change start.taskId = id at htaskId
      rw [← htaskId]
      unfold WorkState.occupancy at hfree
      omega
    · omega

theorem occupancy_steps (hlinked : Linked platform origin)
    (horigin : ∀ id, origin.occupancy id input.now ≤ 1)
    (hoverlaps : ¬ Overlaps platform origin input)
    (hsteps : WorkSteps platform input origin origin state) (id : String) :
    state.occupancy id input.now ≤ 1 := by
  induction hsteps generalizing id with
  | refl => exact horigin id
  | tail hfirst hstep ih =>
    exact occupancy_step (hlinked.steps hfirst) horigin hoverlaps ih hstep id

end Counts

theorem occupancy_of_start {start : RunStart} (hlinked : Linked platform state)
    (hstartable : Startable state start now task) :
    (perform platform state ⟨now, .startWorkTaskRun start⟩).2.occupancy start.taskId now =
      state.occupancy start.taskId now + 1 := by
  obtain ⟨runId, state', hstart⟩ : ∃ runId state', startRun platform start now state =
      some (runId, state') := startRun_of_startable hstartable
  obtain ⟨_, h⟩ := startRun_spec hstart
  have hperform : (perform platform state ⟨now, .startWorkTaskRun start⟩).2 = state' := by
    rw [perform_of_ok platform state ⟨now, .startWorkTaskRun start⟩ rfl, startWorkTaskRun, hstart]
  rw [hperform]
  have hruns := h.runs
  rw [h.ofRunId] at hruns
  have hcount := runningRuns_set_own hlinked.run_fresh rfl rfl hruns
  unfold WorkState.occupancy WorkState.liveReceipts
  rw [h.receipts]
  change state'.runningRuns start.taskId = state.runningRuns start.taskId + 1 at hcount
  omega

theorem occupancy_of_reserve {reservation : ReserveTaskDispatchInput} {stage : String}
    (hlinked : Linked platform state)
    (hreserves : Reserves platform state now reservation stage task) :
    (perform platform state ⟨now, .reserveTaskDispatchStart reservation⟩).2.occupancy
      reservation.taskId now = state.occupancy reservation.taskId now + 1 := by
  have hperform := perform_of_ok platform state ⟨now, .reserveTaskDispatchStart reservation⟩
    (reserve_of_reserves hreserves)
  have hlive : (perform platform state ⟨now, .reserveTaskDispatchStart reservation⟩).2.liveReceipts
      reservation.taskId now = state.liveReceipts reservation.taskId now + 1 :=
    liveReceipts_set_own hlinked.receipt_fresh (newTaskDispatchReceipt_isLive
      reservation stage (platform.isoString now) now) rfl (congrArg (·.2.receipts) hperform)
  have hruns : (perform platform state ⟨now, .reserveTaskDispatchStart reservation⟩).2.runs =
      state.runs := congrArg (·.2.runs) hperform
  unfold WorkState.occupancy WorkState.runningRuns
  rw [hruns]
  omega

/-- The clock of a history, and a time behind it. -/
def ClockedTo (inputs : List WorkInput) (now : Int) : Prop :=
  (inputs.map WorkInput.now ++ [now]).Pairwise (· ≤ ·)

/-- Every task is occupied at most once in every state and at every time that a history reaches
exactly if nothing in it is granted for a task that is occupied already. -/
theorem dispatch_exclusive_iff (platform : WorkPlatform) (inputs : List WorkInput)
    (hclock : (inputs.map WorkInput.now).Pairwise (· ≤ ·)) :
    (∀ moment ∈ (workStore platform).history .empty inputs,
      ¬ Overlaps platform moment.before moment.input) ↔
    ∀ first rest now, inputs = first ++ rest → ClockedTo first now → ∀ id,
      ((workStore platform).run .empty first).occupancy id now ≤ 1 := by
  constructor
  · rintro hoverlaps first rest now rfl hnow id
    rw [Machine.history_append] at hoverlaps
    have hinvariant := (workStore platform).history_invariant_clocked WorkInput.now
      (fun moment => ¬ Overlaps platform moment.before moment.input)
      (fun _ time state => Linked platform state ∧ ∀ id, state.occupancy id time ≤ 1)
      (fun _ earlier later state hle h => ⟨h.1, fun id => (occupancy_wait hle).trans (h.2 id)⟩)
      (fun _ state input h hguard => ?_) .empty ?_ first now hnow
      (fun moment hmem => hoverlaps moment (List.mem_append_left _ hmem))
    · exact hinvariant.2 id
    · have hsteps := perform_steps platform state input
      refine ⟨h.1.steps hsteps, ?_⟩
      exact fun id => occupancy_steps h.1 h.2 hguard hsteps id
    · exact fun time => ⟨.empty platform, fun id => Nat.zero_le 1⟩
  · intro hexclusive moment hmem hoverlaps
    obtain ⟨first, input, rest, rfl, rfl⟩ :=
      (workStore platform).exists_prefix_of_mem_history _ _ _ hmem
    have hlinked := linked_run platform first
    have hpast : ∀ earlier ∈ first, earlier.now ≤ input.now := by
      rw [List.map_append, List.map_cons, List.pairwise_append] at hclock
      exact fun earlier hearlier => hclock.2.2 _ (List.mem_map_of_mem hearlier) _ (.head _)
    have hafter : ClockedTo (first ++ [input]) input.now := by
      unfold ClockedTo
      rw [List.map_append, List.map_cons, List.pairwise_append] at hclock
      rw [List.map_append, List.append_assoc, List.pairwise_append]
      refine ⟨hclock.1, by simp, fun earlier hearlier time htime => ?_⟩
      obtain ⟨before, hbefore, rfl⟩ := List.mem_map.mp hearlier
      have heq : time = input.now := by simpa using htime
      exact heq ▸ hpast before hbefore
    have hone := hexclusive (first ++ [input]) rest input.now
      (by rw [List.append_assoc, List.singleton_append]) hafter
    rw [Machine.run_append] at hone
    -- whoever was granted beside another is the second one afterwards
    obtain ⟨now, operation⟩ := input
    cases hoverlaps with
    | @start start task hoperation hstartable hbusy =>
      obtain rfl : operation = .startWorkTaskRun start := hoperation
      have hcount := occupancy_of_start hlinked (show Startable _ start now task from hstartable)
      have hafterwards := hone start.taskId
      change (perform platform _ ⟨now, .startWorkTaskRun start⟩).2.occupancy start.taskId now ≤ 1
        at hafterwards
      change ((workStore platform).run .empty first).occupancy start.taskId now ≠ 0 at hbusy
      omega
    | @reserve reservation stage task hoperation hreserves hbusy =>
      obtain rfl : operation = .reserveTaskDispatchStart reservation := hoperation
      have hcount := occupancy_of_reserve hlinked
        (show Reserves platform _ now reservation stage task from hreserves)
      have hafterwards := hone reservation.taskId
      change (perform platform _ ⟨now, .reserveTaskDispatchStart reservation⟩).2.occupancy
        reservation.taskId now ≤ 1 at hafterwards
      change ((workStore platform).run .empty first).occupancy reservation.taskId now ≠ 0 at hbusy
      omega

def movedBetweenReservations : List WorkInput :=
  [⟨0, .createWorkTask { title := "Report" }⟩,
    ⟨1, .reserveTaskDispatchStart { taskId := "task_", stage := "implement" }⟩,
    ⟨2, .updateWorkTask "task_" { currentStage := some "review" }⟩,
    ⟨3, .reserveTaskDispatchStart { taskId := "task_", stage := "review" }⟩]

theorem dispatch_exclusive_iff_moved :
    (∀ moment ∈ (workStore countingPlatform).history .empty movedBetweenReservations,
      ¬ Overlaps countingPlatform moment.before moment.input) ↔
    ∀ first rest now, movedBetweenReservations = first ++ rest → ClockedTo first now → ∀ id,
      ((workStore countingPlatform).run .empty first).occupancy id now ≤ 1 :=
  dispatch_exclusive_iff countingPlatform movedBetweenReservations (by decide)

/-- The task then has two starts at once. -/
theorem moved_task_reserved_twice : ClockedTo movedBetweenReservations 3 ∧
    ((workStore countingPlatform).run .empty movedBetweenReservations).occupancy "task_" 3 = 2 :=
  ⟨by unfold ClockedTo; decide, by decide +kernel⟩

end OpenCowork.Gateway
