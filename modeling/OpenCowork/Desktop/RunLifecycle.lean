import OpenCowork.Desktop.WorkflowStore

/-! # What the operations do to workflows and runs

Every operation of the store is a chain of a few elementary changes. A change
says which workflow and which run it writes and under which conditions; what a
workflow and its runs have to do with each other is kept by each change, so the
operations need not be looked at again.
-/

namespace OpenCowork.Desktop

open ControlPlane Foundation OrderedMap

variable {Schedule : Type} (host : DesktopHost Schedule)

section Reads

variable (db : WorkflowDb Schedule) (workflowId : String) (runId : String)
  (write : WorkflowRow Schedule → WorkflowRow Schedule)

@[simp] theorem updateWorkflow_runs : (db.updateWorkflow workflowId write).runs = db.runs := rfl

theorem updateWorkflow_get (workflowId other : String)
    (write : WorkflowRow Schedule → WorkflowRow Schedule) :
    (db.updateWorkflow workflowId write).workflows.get other =
      if workflowId = other then (db.workflows.get other).map write
      else db.workflows.get other := by
  unfold WorkflowDb.updateWorkflow
  rw [get_modify]
  split
  next h => rw [h]
  next => rfl

@[simp] theorem updateRun_workflows (write : WorkflowRun → WorkflowRun) :
    (db.updateRun runId write).workflows = db.workflows := rfl

theorem updateRun_get (runId other : String) (write : WorkflowRun → WorkflowRun) :
    (db.updateRun runId write).runs.get other =
      if runId = other then (db.runs.get other).map write else db.runs.get other := by
  unfold WorkflowDb.updateRun
  rw [get_modify]
  split
  next h => rw [h]
  next => rfl

end Reads

theorem hasEnded_eq_false {status : WorkflowRunStatus} :
    hasEnded status = false ↔ status = .queued ∨ status = .running := by
  cases status <;> decide

theorem isHalted_statusAfterRun {status : WorkflowStatus} :
    isHalted (statusAfterRun status) = isHalted status := by
  cases status <;> decide

/-- One elementary change, where the user may choose the status of some workflows. -/
inductive Change (chosen : String → Prop) (db : WorkflowDb Schedule) : WorkflowDb Schedule → Prop
  | bumped : Change chosen db db.bumpWorkflowProjectionVersion
  | created (row : WorkflowRow Schedule) (hstatus : row.status = .active) :
      Change chosen db (db.insertWorkflow (host.randomUUID db.drawn) row)
  | decided (workflowId) (status : WorkflowStatus) (write)
      (hchosen : chosen workflowId)
      (hstatus : ∀ row, (write row).status = status)
      (hnext : ∀ row, isHalted status = true → (write row).nextRunAt = none)
      (hidle : isHalted status = false → ∀ runId run, db.runs.get runId = some run →
        run.workflowId = workflowId → hasEnded run.status = true) :
      Change chosen db (db.updateWorkflow workflowId write)
  | rescheduled (workflowId) (row) (write) (hrow : db.workflows.get workflowId = some row)
      (hactive : row.status = .active) (hstatus : ∀ row, (write row).status = row.status) :
      Change chosen db (db.updateWorkflow workflowId write)
  | started (workflowId) (row) (run : WorkflowRun)
      (hrow : db.workflows.get workflowId = some row)
      (hfree : isHalted row.status = false ∧ row.status ≠ .running)
      (hrun : run.workflowId = workflowId) :
      Change chosen db ((db.insertRun (host.randomUUID db.drawn) run).updateWorkflow workflowId
        (queueOn (host.randomUUID db.drawn) run.createdAt))
  | attached (workflowId runId) (write : WorkflowRow Schedule → WorkflowRow Schedule)
      (writeRun : WorkflowRun → WorkflowRun) (hstatus : ∀ row, (write row).status = .running)
      (hrunStatus : ∀ run, (writeRun run).status = .running ∧
        (writeRun run).workflowId = run.workflowId)
      (hhalted : ∀ row, db.workflows.get workflowId = some row → isHalted row.status = false)
      (hended : ∀ run, db.runs.get runId = some run → hasEnded run.status = false) :
      Change chosen db ((db.updateRun runId writeRun).updateWorkflow workflowId write)
  | ended (runId) (run : WorkflowRun) (write : WorkflowRow Schedule → WorkflowRow Schedule)
      (writeRun : WorkflowRun → WorkflowRun) (hrun : db.runs.get runId = some run)
      (hopen : hasEnded run.status = false)
      (hrunStatus : ∀ run, hasEnded (writeRun run).status = true ∧
        (writeRun run).workflowId = run.workflowId)
      (hwrite : ∀ row, db.workflows.get run.workflowId = some row →
        write row = row ∨ (write row).status = statusAfterRun row.status ∧
          (isHalted row.status = true → (write row).nextRunAt = none)) :
      Change chosen db ((db.updateRun runId writeRun).updateWorkflow run.workflowId write)

structure Orderly (db : WorkflowDb Schedule) : Prop where
  single : ∀ first second run other, db.runs.get first = some run →
    db.runs.get second = some other → hasEnded run.status = false →
    hasEnded other.status = false → run.workflowId = other.workflowId → first = second
  busy : ∀ runId run row, db.runs.get runId = some run → hasEnded run.status = false →
    db.workflows.get run.workflowId = some row → row.status = .running ∨ isHalted row.status = true
  unscheduled : ∀ workflowId row, db.workflows.get workflowId = some row →
    isHalted row.status = true → row.nextRunAt = none
  owned : ∀ runId run, db.runs.get runId = some run →
    ∃ row, db.workflows.get run.workflowId = some row
  workflowsDrawn : ∀ workflowId row, db.workflows.get workflowId = some row →
    ∃ n < db.drawn, workflowId = host.randomUUID n
  runsDrawn : ∀ runId run, db.runs.get runId = some run →
    ∃ n < db.drawn, runId = host.randomUUID n

/-- What the user has decided and what has ended stays, except for the statuses
that the user may have chosen meanwhile. -/
structure Respects (chosen : String → Prop) (db next : WorkflowDb Schedule) : Prop where
  halted : ∀ workflowId row, db.workflows.get workflowId = some row →
    isHalted row.status = true → ¬ chosen workflowId →
    ∃ later, next.workflows.get workflowId = some later ∧ later.status = row.status
  ended : ∀ runId run, db.runs.get runId = some run → hasEnded run.status = true →
    ∃ later, next.runs.get runId = some later ∧ later.status = run.status

variable {host}
variable {db : WorkflowDb Schedule} {chosen : String → Prop}

theorem Orderly.workflow_fresh (h : Orderly host db) :
    db.workflows.get (host.randomUUID db.drawn) = none := by
  rw [Option.eq_none_iff_forall_ne_some]
  intro _ hrow
  obtain ⟨_, _, heq⟩ := h.workflowsDrawn _ _ hrow
  have := host.randomUUID_injective heq
  omega

theorem Orderly.run_fresh (h : Orderly host db) :
    db.runs.get (host.randomUUID db.drawn) = none := by
  rw [Option.eq_none_iff_forall_ne_some]
  intro _ hrun
  obtain ⟨_, _, heq⟩ := h.runsDrawn _ _ hrun
  have := host.randomUUID_injective heq
  omega

theorem orderly_empty : Orderly host (WorkflowDb.empty : WorkflowDb Schedule) where
  single := by
    intro _ _ run _ hrun
    cases hrun
  busy := by
    intro runId run row hrun
    cases hrun
  unscheduled := by
    intro workflowId row hrow
    cases hrow
  owned := by
    intro runId run hrun
    cases hrun
  workflowsDrawn := by
    intro workflowId row hrow
    cases hrow
  runsDrawn := by
    intro runId run hrun
    cases hrun

section Changes

variable {db : WorkflowDb Schedule} {chosen : String → Prop} {next : WorkflowDb Schedule}
  (h : Orderly host db)
include h

theorem Orderly.updateRun (runId : String) (write : WorkflowRun → WorkflowRun)
    (hwrite : ∀ run, db.runs.get runId = some run → (write run).workflowId = run.workflowId ∧
      (hasEnded run.status = true → hasEnded (write run).status = true)) :
    Orderly host (db.updateRun runId write) := by
  -- every run afterwards comes from one before that has the same workflow and was open if it is
  have hback : ∀ id run, (db.updateRun runId write).runs.get id = some run →
      ∃ old, db.runs.get id = some old ∧ run.workflowId = old.workflowId ∧
        (hasEnded run.status = false → hasEnded old.status = false) := by
    intro id run hrun
    rw [updateRun_get] at hrun
    split at hrun
    next hid =>
      subst hid
      obtain ⟨old, hold, rfl⟩ := Option.map_eq_some_iff.mp hrun
      obtain ⟨howner, hended⟩ := hwrite old hold
      refine ⟨old, hold, howner, fun hopen => ?_⟩
      cases hcase : hasEnded old.status with
      | false => rfl
      | true => rw [hended hcase] at hopen; cases hopen
    next => exact ⟨run, hrun, rfl, fun hopen => hopen⟩
  constructor
  · intro first second run other hrun hother hopen hopenOther howner
    obtain ⟨old, hold, hownerOld, hopenOld⟩ := hback first run hrun
    obtain ⟨old', hold', hownerOld', hopenOld'⟩ := hback second other hother
    rw [hownerOld, hownerOld'] at howner
    exact h.single first second old old' hold hold' (hopenOld hopen) (hopenOld' hopenOther) howner
  · intro id run row hrun hopen hrow
    obtain ⟨old, hold, howner, hopenOld⟩ := hback id run hrun
    rw [howner] at hrow
    exact h.busy id old row hold (hopenOld hopen) hrow
  · exact h.unscheduled
  · intro id run hrun
    obtain ⟨old, hold, howner, -⟩ := hback id run hrun
    rw [howner]
    exact h.owned id old hold
  · exact h.workflowsDrawn
  · intro id run hrun
    obtain ⟨old, hold, -⟩ := hback id run hrun
    exact h.runsDrawn id old hold

theorem Orderly.updateWorkflow (workflowId : String)
    (write : WorkflowRow Schedule → WorkflowRow Schedule)
    (hnext : ∀ row, db.workflows.get workflowId = some row →
      isHalted (write row).status = true → (write row).nextRunAt = none)
    (hbusy : ∀ row runId run, db.workflows.get workflowId = some row →
      db.runs.get runId = some run → hasEnded run.status = false → run.workflowId = workflowId →
      (write row).status = .running ∨ isHalted (write row).status = true) :
    Orderly host (db.updateWorkflow workflowId write) := by
  constructor
  · exact h.single
  · intro runId run row hrun hopen hrow
    rw [updateWorkflow_get] at hrow
    split at hrow
    next howner =>
      obtain ⟨old, hold, rfl⟩ := Option.map_eq_some_iff.mp hrow
      exact hbusy old runId run (howner ▸ hold) hrun hopen howner.symm
    next => exact h.busy runId run row hrun hopen hrow
  · intro id row hrow hhalted
    rw [updateWorkflow_get] at hrow
    split at hrow
    next hid =>
      subst hid
      obtain ⟨old, hold, rfl⟩ := Option.map_eq_some_iff.mp hrow
      exact hnext old hold hhalted
    next => exact h.unscheduled id row hrow hhalted
  · intro runId run hrun
    obtain ⟨row, hrow⟩ := h.owned runId run hrun
    rw [updateWorkflow_get, hrow]
    split
    · exact ⟨_, rfl⟩
    · exact ⟨row, rfl⟩
  · intro id row hrow
    rw [updateWorkflow_get] at hrow
    split at hrow
    · obtain ⟨old, hold, -⟩ := Option.map_eq_some_iff.mp hrow
      exact h.workflowsDrawn id old hold
    · exact h.workflowsDrawn id row hrow
  · exact h.runsDrawn

theorem Orderly.insertRun (row : WorkflowRow Schedule) (run : WorkflowRun)
    (hrow : db.workflows.get run.workflowId = some row) (hrunning : row.status = .running)
    (hnone : ∀ runId other, db.runs.get runId = some other → hasEnded other.status = false →
      other.workflowId ≠ run.workflowId) :
    Orderly host (db.insertRun (host.randomUUID db.drawn) run) := by
  have hget : ∀ id entry, (db.insertRun (host.randomUUID db.drawn) run).runs.get id = some entry →
      id = host.randomUUID db.drawn ∧ entry = run ∨ db.runs.get id = some entry := by
    intro id entry hentry
    rw [WorkflowDb.insertRun, get_set] at hentry
    split at hentry
    next hid => exact .inl ⟨hid.symm, (Option.some.inj hentry).symm⟩
    next => exact .inr hentry
  have hdrawn : ∀ n < db.drawn, n < (db.insertRun (host.randomUUID db.drawn) run).drawn :=
    fun n hn => Nat.lt_succ_of_lt hn
  constructor
  · intro first second entry other hentry hother hopen hopenOther howner
    rcases hget first entry hentry with ⟨rfl, rfl⟩ | hold <;>
      rcases hget second other hother with ⟨rfl, rfl⟩ | hold'
    · rfl
    · exact absurd howner.symm (hnone second other hold' hopenOther)
    · exact absurd howner (hnone first entry hold hopen)
    · exact h.single first second entry other hold hold' hopen hopenOther howner
  · intro id entry other hentry hopen hother
    rcases hget id entry hentry with ⟨rfl, rfl⟩ | hold
    · cases hrow.symm.trans hother
      exact .inl hrunning
    · exact h.busy id entry other hold hopen hother
  · exact h.unscheduled
  · intro id entry hentry
    rcases hget id entry hentry with ⟨rfl, rfl⟩ | hold
    · exact ⟨row, hrow⟩
    · exact h.owned id entry hold
  · intro id other hother
    obtain ⟨n, hn, rfl⟩ := h.workflowsDrawn id other hother
    exact ⟨n, hdrawn n hn, rfl⟩
  · intro id entry hentry
    rcases hget id entry hentry with ⟨rfl, rfl⟩ | hold
    · exact ⟨db.drawn, Nat.lt_succ_self _, rfl⟩
    · obtain ⟨n, hn, rfl⟩ := h.runsDrawn id entry hold
      exact ⟨n, hdrawn n hn, rfl⟩

theorem Orderly.insertWorkflow (row : WorkflowRow Schedule) (hstatus : row.status = .active) :
    Orderly host (db.insertWorkflow (host.randomUUID db.drawn) row) := by
  have hget : ∀ id entry,
      (db.insertWorkflow (host.randomUUID db.drawn) row).workflows.get id = some entry →
      id = host.randomUUID db.drawn ∧ entry = row ∨ db.workflows.get id = some entry := by
    intro id entry hentry
    rw [WorkflowDb.insertWorkflow, get_set] at hentry
    split at hentry
    next hid => exact .inl ⟨hid.symm, (Option.some.inj hentry).symm⟩
    next => exact .inr hentry
  have hdrawn : ∀ n < db.drawn, n < (db.insertWorkflow (host.randomUUID db.drawn) row).drawn :=
    fun n hn => Nat.lt_succ_of_lt hn
  constructor
  · exact h.single
  · intro runId run entry hrun hopen hentry
    rcases hget _ entry hentry with ⟨hid, -⟩ | hold
    · -- the owner of a run exists, and the new workflow did not
      obtain ⟨old, hold⟩ := h.owned runId run hrun
      rw [hid, h.workflow_fresh] at hold
      cases hold
    · exact h.busy runId run entry hrun hopen hold
  · intro id entry hentry hhalted
    rcases hget id entry hentry with ⟨-, rfl⟩ | hold
    · rw [hstatus] at hhalted
      cases hhalted
    · exact h.unscheduled id entry hold hhalted
  · intro runId run hrun
    obtain ⟨old, hold⟩ := h.owned runId run hrun
    rw [WorkflowDb.insertWorkflow, get_set]
    split
    · exact ⟨row, rfl⟩
    · exact ⟨old, hold⟩
  · intro id entry hentry
    rcases hget id entry hentry with ⟨rfl, -⟩ | hold
    · exact ⟨db.drawn, Nat.lt_succ_self _, rfl⟩
    · obtain ⟨n, hn, rfl⟩ := h.workflowsDrawn id entry hold
      exact ⟨n, hdrawn n hn, rfl⟩
  · intro runId run hrun
    obtain ⟨n, hn, rfl⟩ := h.runsDrawn runId run hrun
    exact ⟨n, hdrawn n hn, rfl⟩

omit h

theorem insertRun_updateWorkflow (runId workflowId : String) (run : WorkflowRun)
    (write : WorkflowRow Schedule → WorkflowRow Schedule) :
    (db.insertRun runId run).updateWorkflow workflowId write =
      (db.updateWorkflow workflowId write).insertRun runId run := rfl

theorem Change.orderly
    (hchange : Change host chosen db next) (h : Orderly host db) : Orderly host next := by
  cases hchange with
  | bumped => exact ⟨h.single, h.busy, h.unscheduled, h.owned, h.workflowsDrawn, h.runsDrawn⟩
  | created row hstatus => exact h.insertWorkflow row hstatus
  | decided workflowId status write _ hstatus hnext hidle =>
    refine h.updateWorkflow workflowId write ?_ ?_
    · intro row _ hhalted
      rw [hstatus] at hhalted
      exact hnext row hhalted
    · intro row runId run _ hrun hopen howner
      rw [hstatus]
      cases hcase : isHalted status with
      | true => exact .inr rfl
      | false =>
        rw [hidle hcase runId run hrun howner] at hopen
        cases hopen
  | rescheduled workflowId row write hrow hactive hstatus =>
    refine h.updateWorkflow workflowId write ?_ ?_
    · intro other hother hhalted
      cases hrow.symm.trans hother
      rw [hstatus, hactive] at hhalted
      cases hhalted
    · intro other runId run hother hrun hopen howner
      cases hrow.symm.trans hother
      rw [hstatus]
      exact h.busy runId run row hrun hopen (howner ▸ hrow)
  | started workflowId row run hrow hfree hrun =>
    subst hrun
    rw [insertRun_updateWorkflow]
    have hqueued : Orderly host (db.updateWorkflow run.workflowId
        (queueOn (host.randomUUID db.drawn) run.createdAt)) := by
      refine h.updateWorkflow _ _ ?_ ?_
      · intro other _ hhalted
        cases hhalted
      · intro other runId _ _ _ _ _
        exact .inl rfl
    refine hqueued.insertRun (queueOn (host.randomUUID db.drawn) run.createdAt row) run ?_ rfl ?_
    · rw [updateWorkflow_get, if_pos rfl, hrow, Option.map_some]
    · intro runId other hother hopen howner
      rcases h.busy runId other row hother hopen (howner ▸ hrow) with hrunning | hhalted
      · exact hfree.2 hrunning
      · rw [hfree.1] at hhalted
        cases hhalted
  | attached workflowId runId write writeRun hstatus hrunStatus _ hended =>
    refine (h.updateRun runId writeRun ?_).updateWorkflow workflowId write ?_ ?_
    · intro run hrun
      refine ⟨(hrunStatus run).2, fun hold => ?_⟩
      rw [hended run hrun] at hold
      cases hold
    · intro row _ hhaltedRow
      rw [hstatus] at hhaltedRow
      cases hhaltedRow
    · intro row id run _ _ _ _
      exact .inl (hstatus row)
  | ended runId run write writeRun hrun hopen hrunStatus hwrite =>
    refine (h.updateRun runId writeRun ?_).updateWorkflow run.workflowId write ?_ ?_
    · intro other _
      exact ⟨(hrunStatus other).2, fun _ => (hrunStatus other).1⟩
    · intro row hrow hhalted
      rcases hwrite row hrow with hkeep | ⟨hstatus, hnext⟩
      · rw [hkeep] at hhalted ⊢
        exact h.unscheduled _ row hrow hhalted
      · rw [hstatus, isHalted_statusAfterRun] at hhalted
        exact hnext hhalted
    · -- the run that ends was the only one of its workflow that had not
      intro row id other hrow hother hopenOther howner
      rw [updateRun_get] at hother
      split at hother
      next =>
        obtain ⟨old, -, rfl⟩ := Option.map_eq_some_iff.mp hother
        rw [(hrunStatus old).1] at hopenOther
        cases hopenOther
      next hid =>
        exact absurd (h.single runId id run other hrun hother hopen hopenOther howner.symm) hid

theorem Change.respects (hchange : Change host chosen db next) (h : Orderly host db) :
    Respects chosen db next := by
  cases hchange with
  | bumped => exact ⟨fun _ row hrow _ _ => ⟨row, hrow, rfl⟩, fun _ run hrun _ => ⟨run, hrun, rfl⟩⟩
  | created =>
    refine ⟨?_, fun _ run hrun _ => ⟨run, hrun, rfl⟩⟩
    intro id old hold _ _
    refine ⟨old, ?_, rfl⟩
    rw [WorkflowDb.insertWorkflow, get_set_of_ne _ _ ?_]
    · exact hold
    · rintro rfl
      rw [h.workflow_fresh] at hold
      cases hold
  | decided _ _ _ hchosen =>
    refine ⟨?_, fun _ run hrun _ => ⟨run, hrun, rfl⟩⟩
    intro id row hrow _ hne
    rw [updateWorkflow_get, if_neg]
    · exact ⟨row, hrow, rfl⟩
    · rintro rfl
      exact hne hchosen
  | rescheduled _ _ _ _ _ hstatus =>
    refine ⟨?_, fun _ run hrun _ => ⟨run, hrun, rfl⟩⟩
    intro id old hold _ _
    rw [updateWorkflow_get, hold]
    split
    · exact ⟨_, rfl, hstatus old⟩
    · exact ⟨old, rfl, rfl⟩
  | started _ _ _ hrow hfree =>
    constructor
    · intro id old hold hhalted _
      rw [updateWorkflow_get, if_neg]
      · exact ⟨old, hold, rfl⟩
      · rintro rfl
        cases hrow.symm.trans hold
        rw [hfree.1] at hhalted
        cases hhalted
    · intro id old hold _
      refine ⟨old, ?_, rfl⟩
      rw [updateWorkflow_runs, WorkflowDb.insertRun, get_set_of_ne _ _ ?_]
      · exact hold
      · rintro rfl
        rw [h.run_fresh] at hold
        cases hold
  | attached _ _ _ _ _ _ hhalted hended =>
    constructor
    · intro id row hrow hhaltedRow _
      rw [updateWorkflow_get, if_neg]
      · exact ⟨row, hrow, rfl⟩
      · rintro rfl
        rw [hhalted row hrow] at hhaltedRow
        cases hhaltedRow
    · intro id run hrun hendedRun
      rw [updateWorkflow_runs, updateRun_get, if_neg]
      · exact ⟨run, hrun, rfl⟩
      · rintro rfl
        rw [hended run hrun] at hendedRun
        cases hendedRun
  | ended _ _ _ _ hrun hopen _ hwrite =>
    constructor
    · intro id row hrow hhalted _
      rw [updateWorkflow_get, updateRun_workflows, hrow]
      split
      next hid =>
        subst hid
        refine ⟨_, rfl, ?_⟩
        rcases hwrite row hrow with hkeep | ⟨hstatus, -⟩
        · rw [hkeep]
        · rw [hstatus, statusAfterRun, if_pos hhalted]
      next => exact ⟨row, rfl, rfl⟩
    · intro id other hother hended
      rw [updateWorkflow_runs, updateRun_get, if_neg]
      · exact ⟨other, hother, rfl⟩
      · rintro rfl
        cases hrun.symm.trans hother
        rw [hopen] at hended
        cases hended

end Changes

theorem Respects.trans {first second third : WorkflowDb Schedule}
    (hfirst : Respects chosen first second) (hsecond : Respects chosen second third) :
    Respects chosen first third := by
  constructor
  · intro workflowId row hrow hhalted hne
    obtain ⟨middle, hmiddle, hstatus⟩ := hfirst.halted workflowId row hrow hhalted hne
    obtain ⟨later, hlater, hstatus'⟩ :=
      hsecond.halted workflowId middle hmiddle (hstatus ▸ hhalted) hne
    exact ⟨later, hlater, hstatus'.trans hstatus⟩
  · intro runId run hrun hended
    obtain ⟨middle, hmiddle, hstatus⟩ := hfirst.ended runId run hrun hended
    obtain ⟨later, hlater, hstatus'⟩ := hsecond.ended runId middle hmiddle (hstatus ▸ hended)
    exact ⟨later, hlater, hstatus'.trans hstatus⟩

variable (host) in
def Changes (chosen : String → Prop) : WorkflowDb Schedule → WorkflowDb Schedule → Prop :=
  Relation.ReflTransGen (Change host chosen)

theorem Respects.refl (chosen : String → Prop) (db : WorkflowDb Schedule) : Respects chosen db db :=
  ⟨fun _ row hrow _ _ => ⟨row, hrow, rfl⟩, fun _ run hrun _ => ⟨run, hrun, rfl⟩⟩

theorem Changes.sound {next : WorkflowDb Schedule}
    (hchanges : Changes host chosen db next) (h : Orderly host db) :
    Orderly host next ∧ Respects chosen db next := by
  induction hchanges with
  | refl => exact ⟨h, Respects.refl chosen db⟩
  | tail _ hchange ih =>
    obtain ⟨horderly, hrespects⟩ := ih
    exact ⟨hchange.orderly horderly, hrespects.trans (hchange.respects horderly)⟩

end OpenCowork.Desktop
