import OpenCowork.Gateway.GateKeys

/-! # Tasks that wait for their manual gates

A task waits for its manual gate until a person decides a gate. There is one to decide, or it can
be asked for, unless an earlier decision under the same key stands in the way.
-/

namespace OpenCowork.Gateway

open Foundation OrderedMap

/-- No gate under the key of the manual gate is approved, and the open ones are gates of the
task. -/
def WorkState.Answerable (state : WorkState) (taskId : String) (manualGate : ManualGate) : Prop :=
  ∀ id gate, state.gates.get id = some gate → gate.scopeKey = manualGateKey taskId manualGate →
    gate.status ≠ .approved ∧ (isOpenHumanGateStatus gate.status = true →
      gate.taskId = some taskId)

/-- What can leave a task waiting for a gate that nobody can decide: to give it a manual gate while
a gate under its key is approved, or is open for something else, and to ask for a gate under its
key for something else or before its id has been drawn. -/
inductive LeavesWaiting (platform : WorkPlatform) (state : WorkState) (operation : WorkOperation) :
    Prop where
  | given {taskId id : String} {manualGate : ManualGate} {gate : HumanGateRecord}
      (hsets : operation.setsManualGate taskId (some manualGate))
      (hgate : state.gates.get id = some gate)
      (hkey : gate.scopeKey = manualGateKey taskId manualGate)
      (hspent : gate.status = .approved ∨
        isOpenHumanGateStatus gate.status = true ∧ gate.taskId ≠ some taskId)
  | stray {input : HumanGateInput} {force : Bool} {stage : Option String} {taskId : String}
      {task : WorkTaskRecord} {manualGate : ManualGate}
      (hoperation : operation = .createHumanGate input force)
      (hstage : normalizeOptionalStage input.stage "stage" = .ok stage)
      (hkey : input.key stage = manualGateKey taskId manualGate)
      (htask : state.tasks.get taskId = some task) (hmanual : task.manualGate = some manualGate)
      (hother : normalizeOptionalString input.taskId 120 ≠ some taskId)
  | guessed {input : HumanGateInput} {force : Bool} {stage : Option String} {n : Nat}
      {manualGate : ManualGate} (hoperation : operation = .createHumanGate input force)
      (hstage : normalizeOptionalStage input.stage "stage" = .ok stage)
      (hkey : input.key stage = manualGateKey ("task_" ++ platform.randomUUID n) manualGate)
      (hn : state.drawn ≤ n)

/-- Every manual gate is answerable, and no gate is under a key of a task that is still to come. -/
structure Waiting (platform : WorkPlatform) (total : Nat) (state : WorkState) : Prop where
  taskDrawn : ∀ id task, state.tasks.get id = some task → platform.Drawn "task_" state.drawn id
  gateDrawn : ∀ id gate, state.gates.get id = some gate → platform.Drawn "gate_" state.drawn id
  answerable : ∀ taskId task manualGate, state.tasks.get taskId = some task →
    task.manualGate = some manualGate → state.Answerable taskId manualGate
  ahead : ∀ n manualGate, state.drawn ≤ n → n < total → ∀ id gate, state.gates.get id = some gate →
    gate.scopeKey ≠ manualGateKey ("task_" ++ platform.randomUUID n) manualGate

def GivesAnswerable (platform : WorkPlatform) (total : Nat) (operation : WorkOperation)
    (state : WorkState) : Prop :=
  ∀ taskId manualGate, platform.Drawn "task_" total taskId →
    operation.setsManualGate taskId (some manualGate) → state.Answerable taskId manualGate

section Steps

variable {platform : WorkPlatform} {total : Nat} {operation : WorkOperation}
  {origin state state' : WorkState} {id : String} {manualGate : ManualGate} {gate : HumanGateRecord}
  {taskId : String}

theorem WorkState.Answerable.set (h : state.Answerable taskId manualGate)
    (hgates : state'.gates = state.gates.set id gate)
    (hgate : gate.scopeKey = manualGateKey taskId manualGate → gate.status ≠ .approved ∧
      (isOpenHumanGateStatus gate.status = true → gate.taskId = some taskId)) :
    state'.Answerable taskId manualGate := by
  intro other held hheld
  exact of_get_set hgates hheld hgate (h other held)

theorem WorkState.Answerable.of_gates (h : state.Answerable taskId manualGate)
    (hgates : ∀ id gate, state'.gates.get id = some gate → state.gates.get id = some gate) :
    state'.Answerable taskId manualGate :=
  fun id gate hgate => h id gate (hgates id gate hgate)

structure Closed (gate gate' : HumanGateRecord) : Prop where
  scopeKey : gate'.scopeKey = gate.scopeKey
  taskId : gate'.taskId = gate.taskId
  status : gate'.status ≠ .approved
  opens : isOpenHumanGateStatus gate'.status = true → isOpenHumanGateStatus gate.status = true

theorem Closing.closed {gate' : HumanGateRecord}
    (h : Closing operation id gate gate') : Closed gate gate' := by
  cases h with
  | rejected _ hopen | timedOut _ hopen | escalated _ hopen =>
    exact ⟨rfl, rfl, HumanGateStatus.noConfusion, fun _ => hopen⟩
  | consumed =>
    refine ⟨rfl, rfl, HumanGateStatus.noConfusion, fun hopen => ?_⟩
    exact Bool.noConfusion hopen

theorem raisedBy_manual (huuids : platform.DrawsUUIDs total) {task : WorkTaskRecord}
    (hid : platform.Drawn "task_" total id) (hmanual : task.manualGate = some manualGate)
    (h : RaisedBy (humanGateInputForManualTask id task) gate) :
    gate.taskId = some id ∧ gate.scopeKey = manualGateKey id manualGate := by
  constructor
  · rw [h.taskId]
    exact normalizeOptionalString_drawn huuids hid
  · have hgiven : (humanGateInputForManualTask id task).scopeKey =
        some ("manual:" ++ id ++ ":" ++ manualGate.text) := by
      rw [humanGateInputForManualTask, hmanual]
      rfl
    have hkey := manualGateKey_drawn huuids hid manualGate
    rw [h.scopeKey, HumanGateInput.key, hgiven]
    unfold manualGateKey at hkey ⊢
    rw [hkey]
    rfl

namespace Waiting

variable {gate : HumanGateRecord} {id : String}

section

variable (h : Waiting platform total state)
include h

variable (hdrawn : state.drawn ≤ state'.drawn)
include hdrawn

theorem of_manual
    (hgates : ∀ id gate, state'.gates.get id = some gate → state.gates.get id = some gate)
    (hmanual : ∀ id task', state'.tasks.get id = some task' →
      ∃ task, state.tasks.get id = some task ∧ task.manualGate = task'.manualGate) :
    Waiting platform total state' where
  taskDrawn id task htask := by
    obtain ⟨held, hheld, -⟩ := hmanual id task htask
    exact (h.taskDrawn id held hheld).mono hdrawn
  gateDrawn id gate hgate := (h.gateDrawn id gate (hgates id gate hgate)).mono hdrawn
  answerable taskId task manualGate htask hwaits := by
    obtain ⟨held, hheld, hsame⟩ := hmanual taskId task htask
    exact (h.answerable taskId held manualGate hheld (hsame.trans hwaits)).of_gates hgates
  ahead n manualGate hn htotal id gate hgate :=
    h.ahead n manualGate (hdrawn.trans hn) htotal id gate (hgates id gate hgate)

theorem set_gate (htasks : state'.tasks = state.tasks)
    (hid : platform.Drawn "gate_" state'.drawn id) (hgates : state'.gates = state.gates.set id gate)
    (hgate : ∀ taskId task manualGate, state.tasks.get taskId = some task →
      task.manualGate = some manualGate → gate.scopeKey = manualGateKey taskId manualGate →
        gate.status ≠ .approved ∧ (isOpenHumanGateStatus gate.status = true →
          gate.taskId = some taskId)) (hahead : ∀ n manualGate, state.drawn ≤ n → n < total →
      gate.scopeKey ≠ manualGateKey ("task_" ++ platform.randomUUID n) manualGate) :
    Waiting platform total state' where
  taskDrawn id task htask := (h.taskDrawn id task (htasks ▸ htask)).mono hdrawn
  gateDrawn other held hheld := by
    exact of_get_set hgates hheld hid fun hheld => (h.gateDrawn other held hheld).mono hdrawn
  answerable taskId task manualGate htask hwaits := by
    rw [htasks] at htask
    exact (h.answerable taskId task manualGate htask hwaits).set hgates
      (hgate taskId task manualGate htask hwaits)
  ahead n manualGate hn htotal other held hheld := by
    exact of_get_set hgates hheld (hahead n manualGate (hdrawn.trans hn) htotal)
      (h.ahead n manualGate (hdrawn.trans hn) htotal other held)

omit hdrawn in
theorem raised {input : HumanGateInput} (hgate : RaisedBy input gate)
    (hnamed : ∀ taskId task manualGate, state.tasks.get taskId = some task →
      task.manualGate = some manualGate → gate.scopeKey = manualGateKey taskId manualGate →
        gate.taskId = some taskId)
    (hahead : ∀ n manualGate, state.drawn ≤ n → n < total →
      gate.scopeKey ≠ manualGateKey ("task_" ++ platform.randomUUID n) manualGate) :
    Waiting platform total { state with
      gates := state.gates.set ("gate_" ++ platform.randomUUID state.drawn) gate
      drawn := state.drawn + 1 } := by
  have hpending : gate.status ≠ .approved := by
    rw [hgate.status]
    decide
  refine h.set_gate (Nat.le_succ _) rfl (drawn_succ (Nat.lt_succ_self _)) rfl ?_ hahead
  intro taskId task manualGate htask hwaits hkey
  exact ⟨hpending, fun _ => hnamed taskId task manualGate htask hwaits hkey⟩

/-- A gate is approved. The manual gates under its key belong to its task, which it lets go. -/
theorem approved {scope : Option HumanGateScope} (hgate : state.gates.get id = some gate)
    (hopen : isOpenHumanGateStatus gate.status = true)
    (hmanual : ∀ id, (state'.tasks.get id).map WorkTaskRecord.manualGate =
      if Text.truthy gate.taskId = some id then (state.tasks.get id).map fun _ => none
      else (state.tasks.get id).map WorkTaskRecord.manualGate)
    (hgates : state'.gates = state.gates.set id
      { gate with status  := .approved, scope := some (scope.getD .once) }) :
    Waiting platform total state' := by
  have hheld : ∀ taskId task, state'.tasks.get taskId = some task →
      ∃ held, state.tasks.get taskId = some held ∧
        (∀ manualGate, task.manualGate = some manualGate →
          held.manualGate = some manualGate ∧ Text.truthy gate.taskId ≠ some taskId) := by
    intro taskId task htask
    have hkept := hmanual taskId
    rw [htask, Option.map_some] at hkept
    split at hkept
    · obtain ⟨held, hheld, hnone⟩ := Option.map_eq_some_iff.mp hkept.symm
      refine ⟨held, hheld, fun manualGate hwaits => ?_⟩
      rw [← hnone] at hwaits
      cases hwaits
    next hother =>
      obtain ⟨held, hheld, hsame⟩ := Option.map_eq_some_iff.mp hkept.symm
      exact ⟨held, hheld, fun manualGate hwaits => ⟨hsame.trans hwaits, hother⟩⟩
  constructor
  · intro taskId task htask
    obtain ⟨held, hheld, -⟩ := hheld taskId task htask
    exact (h.taskDrawn taskId held hheld).mono hdrawn
  · intro other found hfound
    exact of_get_set hgates hfound ((h.gateDrawn id gate hgate).mono hdrawn)
      fun hfound => (h.gateDrawn other found hfound).mono hdrawn
  · intro taskId task manualGate htask hwaits
    obtain ⟨held, hheld, hkept⟩ := hheld taskId task htask
    obtain ⟨hwaits, hother⟩ := hkept manualGate hwaits
    have hanswerable := h.answerable taskId held manualGate hheld hwaits
    refine hanswerable.set hgates fun hkey => ?_
    have htaskId : gate.taskId = some taskId := (hanswerable id gate hgate hkey).2 hopen
    have hne : taskId ≠ "" := by
      obtain ⟨n, -, rfl⟩ := h.taskDrawn taskId held hheld
      intro hempty
      have hlist := congrArg String.toList hempty
      rw [String.toList_append] at hlist
      exact absurd (List.append_eq_nil_iff.mp hlist).1 (by decide)
    rw [htaskId, Text.truthy, Option.filter_some, if_pos (decide_eq_true hne)] at hother
    exact absurd rfl hother
  · intro n manualGate hn htotal other found hfound
    exact of_get_set hgates hfound (h.ahead n manualGate (hdrawn.trans hn) htotal id gate hgate)
      (h.ahead n manualGate (hdrawn.trans hn) htotal other found)

omit hdrawn

/-- A step keeps an answerable gate for every waiting task. -/
theorem step (huuids : platform.DrawsUUIDs total)
    (hgives : GivesAnswerable platform total operation state)
    (hasks : ∀ input force, operation ≠ .createHumanGate input force)
    (hstep : GateStep platform operation origin state state') (htotal : state'.drawn ≤ total) :
    Waiting platform total state' := by
  cases hstep with
  | undisturbed hsame =>
    refine h.of_manual hsame.drawn (fun id gate hgate => hsame.gates ▸ hgate) ?_
    intro id task htask
    have hmanual := hsame.manual id
    rw [htask, Option.map_some] at hmanual
    exact Option.map_eq_some_iff.mp hmanual.symm
  | created hdrawn htasks _ hgates =>
    constructor
    · intro id task htask
      exact of_get_set htasks htask (drawn_succ hdrawn)
        fun htask => (h.taskDrawn id task htask).mono hdrawn.le
    · intro id gate hgate
      exact (h.gateDrawn id gate (hgates ▸ hgate)).mono hdrawn.le
    · intro taskId task manualGate htask hwaits
      rw [htasks, get_set] at htask
      split at htask
      next heq =>
        -- nobody has asked for a gate of this task before
        intro id gate hgate hkey
        rw [hgates] at hgate
        exact absurd (heq ▸ hkey)
          (h.ahead _ manualGate le_rfl (hdrawn.trans_le htotal) id gate hgate)
      · exact (h.answerable taskId task manualGate htask hwaits).of_gates
          fun id gate hgate => hgates ▸ hgate
    · intro n manualGate hn hlast id gate hgate
      exact h.ahead n manualGate (hdrawn.le.trans hn) hlast id gate (hgates ▸ hgate)
  | @updated _ _ id task task' hdrawn htask hsets htasks _ hgates =>
    constructor
    · intro other held hheld
      exact of_get_set htasks hheld ((h.taskDrawn id task htask).mono hdrawn)
        fun hheld => (h.taskDrawn other held hheld).mono hdrawn
    · intro other gate hgate
      exact (h.gateDrawn other gate (hgates ▸ hgate)).mono hdrawn
    · intro taskId held manualGate hheld hwaits
      rw [htasks, get_set] at hheld
      have hkept : ∀ id gate, state'.gates.get id = some gate → state.gates.get id = some gate :=
        fun id gate hgate => hgates ▸ hgate
      split at hheld
      next heq =>
        cases hheld
        have hid := (h.taskDrawn id task htask).mono (hdrawn.trans htotal)
        rw [hwaits] at hsets
        exact (hgives taskId manualGate (heq ▸ hid) (heq ▸ hsets)).of_gates hkept
      · exact (h.answerable taskId held manualGate hheld hwaits).of_gates hkept
    · intro n manualGate hn hlast other gate hgate
      exact h.ahead n manualGate (hdrawn.trans hn) hlast other gate (hgates ▸ hgate)
  | linked | unlinked =>
    exact h.of_manual le_rfl (fun _ _ hgate => hgate) fun id task htask => ⟨task, htask, rfl⟩
  | deleted hdrawn htasks _ hgates =>
    refine h.of_manual hdrawn (fun id gate hgate => (hgates id gate hgate).1) ?_
    intro id task htask
    rw [htasks] at htask
    exact ⟨task, ((get_filter_eq_some_iff _ _ _ _).mp htask).1, rfl⟩
  | raised hasked hgate =>
    cases hasked with
    | given hoperation => exact absurd hoperation (hasks _ _)
    | @manual id task manualGate htask hmanual =>
      have hid : platform.Drawn "task_" total id :=
        (h.taskDrawn id task htask).mono ((Nat.le_succ _).trans htotal)
      obtain ⟨htaskId, hkey⟩ := raisedBy_manual huuids hid hmanual hgate
      refine h.raised hgate ?_ ?_
      · intro taskId held heldGate hheld _ hsame
        have hdrawn := (h.taskDrawn taskId held hheld).mono ((Nat.le_succ _).trans htotal)
        rw [hkey] at hsame
        rw [htaskId, (manualGateKey_injective huuids hid hdrawn hsame).1]
      · intro n heldGate hn hlast hsame
        have hdrawn : platform.Drawn "task_" total ("task_" ++ platform.randomUUID n) :=
          ⟨n, hlast, rfl⟩
        rw [hkey] at hsame
        have hnot := (h.taskDrawn id task htask)
        rw [(manualGateKey_injective huuids hid hdrawn hsame).1] at hnot
        exact not_drawn_next platform "task_" n (hnot.mono hn)
  | approved _ hdrawn hgate hopen hmanual _ hgates =>
    exact h.approved hdrawn hgate hopen hmanual hgates
  | @closed id gate gate' hgate hclosing =>
    have hclosed := hclosing.closed
    refine h.set_gate le_rfl rfl (h.gateDrawn id gate hgate) rfl ?_ ?_
    · intro taskId task manualGate htask hwaits hkey
      rw [hclosed.scopeKey] at hkey
      refine ⟨hclosed.status, fun hopen => ?_⟩
      rw [hclosed.taskId]
      exact (h.answerable taskId task manualGate htask hwaits id gate hgate hkey).2
        (hclosed.opens hopen)
    · intro n manualGate hn hlast
      rw [hclosed.scopeKey]
      exact h.ahead n manualGate hn hlast id gate hgate

end

theorem empty (platform : WorkPlatform) (total : Nat) : Waiting platform total .empty := by
  constructor
  · intro id task htask
    cases htask
  · intro id gate hgate
    cases hgate
  · intro _ task manualGate htask
    cases htask
  · intro _ manualGate _ _ id gate hgate
    cases hgate

end Waiting

theorem drawn_le_of_gateStep (h : GateStep platform operation origin state state') :
    state.drawn ≤ state'.drawn := by
  cases h with
  | undisturbed hsame => exact hsame.drawn
  | created hdrawn => exact hdrawn.le
  | updated hdrawn | deleted hdrawn | approved _ hdrawn => exact hdrawn
  | linked | unlinked | closed => exact le_rfl
  | raised => exact Nat.le_succ _

theorem GivesAnswerable.step (h : GivesAnswerable platform total operation state)
    (huuids : platform.DrawsUUIDs total)
    (hdrawn : ∀ id task, state.tasks.get id = some task → platform.Drawn "task_" total id)
    (hstep : GateStep platform operation origin state state') :
    GivesAnswerable platform total operation state' := by
  intro taskId manualGate htaskId hsets
  have hheld := h taskId manualGate htaskId hsets
  cases hstep with
  | undisturbed hsame => exact hheld.of_gates fun id gate hgate => hsame.gates ▸ hgate
  | created _ _ _ hgates | updated _ _ _ _ _ hgates =>
    exact hheld.of_gates fun id gate hgate => hgates ▸ hgate
  | linked | unlinked => exact hheld
  | deleted _ _ _ hgates => exact hheld.of_gates fun id gate hgate => (hgates id gate hgate).1
  | raised hasked hgate =>
    cases hasked with
    | given hoperation =>
      rw [hoperation] at hsets
      exact hsets.elim
    | @manual id task asked htask hmanual =>
      have hid := hdrawn id task htask
      obtain ⟨hnamed, hkey⟩ := raisedBy_manual huuids hid hmanual hgate
      refine hheld.set rfl fun hsame => ⟨?_, fun _ => ?_⟩
      · rw [hgate.status]
        exact HumanGateStatus.noConfusion
      · rw [hkey] at hsame
        rw [hnamed, (manualGateKey_injective huuids hid htaskId hsame).1]
  | approved hoperation =>
    rw [hoperation] at hsets
    exact hsets.elim
  | closed _ hclosing =>
    cases hclosing with
    | rejected hoperation | timedOut hoperation | escalated hoperation | consumed hoperation =>
      rw [hoperation] at hsets
      exact hsets.elim

theorem drawn_le_of_gateSteps (h : GateSteps platform operation origin state state') :
    state.drawn ≤ state'.drawn := by
  induction h with
  | refl => exact le_rfl
  | tail _ hstep ih => exact ih.trans (drawn_le_of_gateStep hstep)

variable (h : Waiting platform total state)
include h

theorem Waiting.steps (huuids : platform.DrawsUUIDs total)
    (hgives : GivesAnswerable platform total operation state)
    (hasks : ∀ input force, operation ≠ .createHumanGate input force)
    (hsteps : GateSteps platform operation origin state state') (htotal : state'.drawn ≤ total) :
    Waiting platform total state' ∧ GivesAnswerable platform total operation state' := by
  induction hsteps with
  | refl => exact ⟨h, hgives⟩
  | tail _ hstep ih =>
    obtain ⟨hbefore, hgives⟩ := ih ((drawn_le_of_gateStep hstep).trans htotal)
    have hdrawn := fun id task htask => (hbefore.taskDrawn id task htask).mono
      ((drawn_le_of_gateStep hstep).trans htotal)
    exact ⟨hbefore.step huuids hgives hasks hstep htotal, hgives.step huuids hdrawn hstep⟩

theorem Waiting.asked {input : HumanGateInput} {force : Bool}
    (hleaves : ¬ LeavesWaiting platform state (.createHumanGate input force))
    {answer : Option String} (hraising : Raising platform input force state answer state') :
    Waiting platform total state' := by
  cases hraising with
  | approved | found => exact h
  | @raised gate hgate =>
    refine h.raised hgate ?_ ?_
    · intro _ _ manualGate htask hmanual hkey
      rw [hgate.scopeKey] at hkey
      by_contra hother
      rw [hgate.taskId] at hother
      exact hleaves (.stray rfl hgate.stage hkey htask hmanual hother)
    · intro _ manualGate hn _ hkey
      rw [hgate.scopeKey] at hkey
      exact hleaves (.guessed rfl hgate.stage hkey hn)

theorem Waiting.perform (huuids : platform.DrawsUUIDs total) (input : WorkInput)
    (hleaves : ¬ LeavesWaiting platform state input.operation)
    (htotal : (perform platform state input).2.drawn ≤ total) :
    Waiting platform total (perform platform state input).2 := by
  by_cases hasks : ∃ asked force, input.operation = .createHumanGate asked force
  · obtain ⟨asked, force, hoperation⟩ := hasks
    rw [hoperation] at hleaves
    cases houtcome : createHumanGate platform asked force state with
    | error =>
      have hsame : (Gateway.perform platform state input).2 = state := by
        rw [Gateway.perform, hoperation]
        simp only [attempt, houtcome]
      rw [hsame]
      exact h
    | ok =>
      obtain ⟨⟨answer, inserted⟩, hinserted, houtcome'⟩ := bind_eq_ok houtcome
      cases houtcome'
      have hattempt : attempt platform input.now state input.operation =
          .ok ((answer.map .gate).getD .nothing, inserted) := by
        rw [hoperation]
        exact houtcome
      rw [perform_of_ok platform state input hattempt]
      exact h.asked hleaves (insertHumanGateRow_raising hinserted)
  · have hgives : GivesAnswerable platform total input.operation state := by
      intro _ _ _ hsets _ _ hgate hkey
      constructor
      · intro happroved
        exact hleaves (.given hsets hgate hkey (.inl happroved))
      · intro hopen
        by_contra hother
        exact hleaves (.given hsets hgate hkey (.inr ⟨hopen, hother⟩))
    have hasks : ∀ asked force, input.operation ≠ .createHumanGate asked force :=
      fun asked force hoperation => hasks ⟨asked, force, hoperation⟩
    exact (h.steps huuids hgives hasks (perform_gateSteps platform state input) htotal).1

end Steps

theorem waiting_run (platform : WorkPlatform) (inputs : List WorkInput)
    (huuids : platform.DrawsUUIDs ((workStore platform).run .empty inputs).drawn)
    (hleaves : ∀ moment ∈ (workStore platform).history .empty inputs,
      ¬ LeavesWaiting platform moment.before moment.input.operation) :
    Waiting platform ((workStore platform).run .empty inputs).drawn
      ((workStore platform).run .empty inputs) := by
  generalize htotal : ((workStore platform).run .empty inputs).drawn = total at huuids
  have hrun := (workStore platform).history_invariant_of
    (fun moment => ¬ LeavesWaiting platform moment.before moment.input.operation)
    (fun _ state => state.drawn ≤ total → Waiting platform total state)
    (fun _ state input h hguard hle =>
      (h ((drawn_le_of_gateSteps (perform_gateSteps platform state input)).trans hle)).perform
        huuids input hguard hle)
    .empty (fun _ => .empty platform total) inputs hleaves
  exact hrun htotal.le

structure HumanGateRecord.DecidesFor (gate : HumanGateRecord) (taskId : String)
    (manualGate : ManualGate) : Prop where
  isOpen : isOpenHumanGateStatus gate.status = true
  named : gate.taskId = some taskId
  keyed : gate.scopeKey = manualGateKey taskId manualGate

theorem insertHumanGateRow_manual_ok (platform : WorkPlatform) (id : String)
    {task : WorkTaskRecord} (hstage : isStage task.stage = true) (state : WorkState) :
    ∃ answer state', insertHumanGateRow platform (humanGateInputForManualTask id task) false state =
      .ok (answer, state') := by
  have hword : normalizeOptionalStage (humanGateInputForManualTask id task).stage "stage" =
      .ok (some task.stage) := normalizeOptionalStage_of_isStage hstage "stage"
  have hreason : ∃ reason, normalizeRequiredString (humanGateInputForManualTask id task).reason
      "reason" 1000 = .ok reason := by
    have hgiven : Text.trim (humanGateInputForManualTask id task).reason ≠ "" := by
      unfold humanGateInputForManualTask
      dsimp only
      cases task.manualGate.getD .waitingForUser <;> decide
    rw [normalizeRequiredString, if_neg hgiven]
    exact ⟨_, rfl⟩
  obtain ⟨_, hreason⟩ := hreason
  have hread : rejectUnread (humanGateInputForManualTask id task).rejection = .ok () := rfl
  rw [insertHumanGateRow, hword, hreason, hread]
  simp only [bind, Except.bind]
  split
  · exact ⟨_, _, rfl⟩
  · split
    · exact ⟨_, _, rfl⟩
    · exact ⟨_, _, rfl⟩

theorem createHumanGate_of_inserted {platform : WorkPlatform} {input : HumanGateInput}
    {force : Bool} {state state' : WorkState} {answer : Option String}
    (h : insertHumanGateRow platform input force state = .ok (answer, state')) :
    createHumanGate platform input force state =
      .ok ((answer.map .gate).getD .nothing, state') := by
  rw [createHumanGate, h]
  rfl

/-- A task that waits for its manual gate has an open gate for it, or is given one by asking for
its gate, in every run that neither gives a task a manual gate whose key is spent nor asks under
the key of a manual gate for something else. -/
theorem waiting_task_has_gate (platform : WorkPlatform) (inputs : List WorkInput)
    (huuids : platform.DrawsUUIDs ((workStore platform).run .empty inputs).drawn)
    (hleaves : ∀ moment ∈ (workStore platform).history .empty inputs,
      ¬ LeavesWaiting platform moment.before moment.input.operation) :
    ∀ taskId task manualGate,
      ((workStore platform).run .empty inputs).tasks.get taskId = some task →
      task.status = .pending → task.manualGate = some manualGate →
      (∃ id gate, ((workStore platform).run .empty inputs).gates.get id = some gate ∧
        gate.DecidesFor taskId manualGate) ∨
      ∀ config input, gateInputForTaskStage config taskId task task.stage
          ((workStore platform).run .empty inputs) = some input →
        ∃ id gate state', createHumanGate platform input false
            ((workStore platform).run .empty inputs) = .ok (.gate id, state') ∧
          ((workStore platform).run .empty inputs).gates.get id = none ∧
          state'.gates.get id = some gate ∧ gate.DecidesFor taskId manualGate := by
  intro taskId task manualGate htask _ hmanual
  have hwaiting := waiting_run platform inputs huuids hleaves
  have hstage := (standAtStages_run platform inputs).tasks taskId task htask
  generalize (workStore platform).run .empty inputs = state at *
  have hanswerable := hwaiting.answerable taskId task manualGate htask hmanual
  have hid := hwaiting.taskDrawn taskId task htask
  have hasked : ∀ {stage}, (humanGateInputForManualTask taskId task).key stage =
      manualGateKey taskId manualGate := by
    intro stage
    have hgiven : (humanGateInputForManualTask taskId task).scopeKey =
        some ("manual:" ++ taskId ++ ":" ++ manualGate.text) := by
      rw [humanGateInputForManualTask, hmanual]
      rfl
    have hkey := manualGateKey_drawn huuids hid manualGate
    rw [HumanGateInput.key, hgiven]
    unfold manualGateKey at hkey ⊢
    rw [hkey]
    rfl
  obtain ⟨_, _, hinserted⟩ := insertHumanGateRow_manual_ok platform taskId hstage state
  cases insertHumanGateRow_raising hinserted with
  | @approved id gate _ hgate happroved hkey =>
    obtain ⟨stage, -, -, hkey⟩ := hkey
    exact absurd happroved (hanswerable id gate hgate (hkey.trans hasked)).1
  | @found id gate _ hgate hopen hkey =>
    obtain ⟨_, -, -, hkey⟩ := hkey
    have hnamed := (hanswerable id gate hgate (hkey.trans hasked)).2 hopen
    exact .inl ⟨id, gate, hgate, hopen, hnamed, hkey.trans hasked⟩
  | @raised gate hgate =>
    right
    intro config input hinput
    rw [gateInputForTaskStage_manual hmanual] at hinput
    cases hinput
    obtain ⟨hnamed, hkey⟩ := raisedBy_manual huuids hid hmanual hgate
    have hcreated := createHumanGate_of_inserted hinserted
    refine ⟨_, gate, _, hcreated, ?_, get_set_self _ _ _, ?_, hnamed, hkey⟩
    · cases hfree : state.gates.get ("gate_" ++ platform.randomUUID state.drawn) with
      | none => rfl
      | some held => exact absurd (hwaiting.gateDrawn _ held hfree) (not_drawn_next _ _ _)
    · rw [hgate.status]
      rfl

/-- The gate of a task is rejected, and the task is tried again. -/
def rejectedAndRetried : List WorkInput :=
  [⟨0, .createWorkTask { title := "Report", manualGate := some .approvalRequired }⟩,
    ⟨1, .decideHumanGate "gate_a" .reject none none⟩,
    ⟨2, .applyWorkTaskAction "task_" .retry none none⟩]

theorem waiting_task_has_gate_rejected : ∃ task,
    ((workStore countingPlatform).run .empty rejectedAndRetried).tasks.get "task_" = some task ∧
    ((∃ id gate, ((workStore countingPlatform).run .empty rejectedAndRetried).gates.get id =
        some gate ∧ gate.DecidesFor "task_" .approvalRequired) ∨
      ∀ config input, gateInputForTaskStage config "task_" task task.stage
          ((workStore countingPlatform).run .empty rejectedAndRetried) = some input →
        ∃ id gate state', createHumanGate countingPlatform input false
            ((workStore countingPlatform).run .empty rejectedAndRetried) = .ok (.gate id, state') ∧
          ((workStore countingPlatform).run .empty rejectedAndRetried).gates.get id = none ∧
          state'.gates.get id = some gate ∧ gate.DecidesFor "task_" .approvalRequired) := by
  obtain ⟨task, htask, hwaits⟩ := Option.map_eq_some_iff.mp (by decide +kernel :
    (((workStore countingPlatform).run .empty rejectedAndRetried).tasks.get "task_").map
      (fun task => (task.status, task.manualGate)) = some (.pending, some .approvalRequired))
  obtain ⟨hpending, hmanual⟩ := Prod.mk.inj hwaits
  have huuids : countingPlatform.DrawsUUIDs
      ((workStore countingPlatform).run .empty rejectedAndRetried).drawn := by
    have hdrawn : ((workStore countingPlatform).run .empty rejectedAndRetried).drawn = 2 := by
      decide +kernel
    rw [hdrawn]
    intro n hn
    obtain rfl | rfl : n = 0 ∨ n = 1 := by omega
    · exact ⟨List.all_eq_true.mp (by decide), by decide⟩
    · exact ⟨List.all_eq_true.mp (by decide), by decide⟩
  refine ⟨task, htask, waiting_task_has_gate countingPlatform rejectedAndRetried huuids ?_ "task_"
    task .approvalRequired htask hpending hmanual⟩
  intro moment hmem hleaves
  have hinput := (workStore countingPlatform).input_mem_of_mem_history _ hmem
  simp only [rejectedAndRetried, List.mem_cons, List.not_mem_nil, or_false] at hinput
  cases hleaves with
  | given hsets =>
    rcases hinput with hinput | hinput | hinput <;> rw [hinput] at hsets <;> exact hsets
  | stray hoperation | guessed hoperation =>
    rcases hinput with hinput | hinput | hinput <;> rw [hinput] at hoperation <;> cases hoperation

def approvedAndGatedAgain : List WorkInput :=
  [⟨0, .createWorkTask { title := "Report", manualGate := some .approvalRequired }⟩,
    ⟨1, .decideHumanGate "gate_a" .approve none none⟩,
    ⟨2, .updateWorkTask "task_" { manualGate := some (some .approvalRequired) }⟩]

/-- The task waits, no gate is open, and asking for one gives none. -/
theorem waiting_without_gate :
    let state := (workStore countingPlatform).run .empty approvedAndGatedAgain
    (state.tasks.get "task_").map (fun task => (task.status, task.manualGate,
      (createHumanGate countingPlatform (humanGateInputForManualTask "task_" task) false
        state).toOption.map Prod.fst)) =
      some (.pending, some .approvalRequired, some .nothing) ∧
    state.gates.entries.all fun (_, gate) => !isOpenHumanGateStatus gate.status := by
  decide +kernel

end OpenCowork.Gateway
