import OpenCowork.Foundation.ParentTree
import OpenCowork.Runtime.CoordinationStore

/-! # The tree of coordination tasks

The way up from a task through the parents of tasks. A new task is a leaf under its parent;
an update may hang a task under any other task of its project, also under one that hangs
under it already.
-/

namespace OpenCowork.Runtime

open OpenCowork.Foundation
open OpenCowork.Foundation.ParentTree
open Relation (ReflTransGen)

/-- The project of a task, and the workspace of both. -/
def CoordinationTask.home (task : CoordinationTask) : String × String :=
  (task.workspaceId, task.projectId)

namespace CoordinationDb

/-- From every task the parents lead to a task without parent, through tasks that exist and
belong to its project and workspace. -/
def TaskForest (db : CoordinationDb) : Prop :=
  Forest CoordinationTask.parentTaskId CoordinationTask.home db.getCoordinationTask

/-- The parent of a task as a relation of ids. -/
def HangsUnder (db : CoordinationDb) : String → String → Prop :=
  Climbs CoordinationTask.parentTaskId db.getCoordinationTask

end CoordinationDb

/-! ## What a write does to the tree -/

variable {db after : CoordinationDb} {taskId : String} {input : CoordinationTaskUpdateInput}
  {options : CoordinationWriteOptions} {answer : Option CoordinationTask} {task : CoordinationTask}

theorem placed_of_checkParent
    (h : db.checkParent task.parentTaskId task.workspaceId task.projectId = .ok ()) :
    Placed CoordinationTask.parentTaskId CoordinationTask.home db.getCoordinationTask task := by
  intro _ habove
  unfold CoordinationDb.checkParent at h
  rw [habove] at h
  obtain ⟨parentTask, hfound, hrefused⟩ := bind_eq_ok h
  rw [refuseIf_eq_ok, not_or, not_not, not_not] at hrefused
  exact ⟨parentTask, orThrow_eq_ok hfound, Prod.ext hrefused.1 hrefused.2⟩

theorem put_set (db : CoordinationDb) (taskId : String) (task : CoordinationTask) :
    Put db.getCoordinationTask (db.tasks.set taskId task).get taskId task where
  here := OrderedMap.get_set_self ..
  elsewhere _ hne := OrderedMap.get_set_of_ne _ _ hne.symm

theorem createCoordinationProject_tasks {input : CoordinationProjectInput}
    {project : CoordinationProject}
    (h : db.createCoordinationProject input options = .ok (project, after)) :
    after.tasks = db.tasks := by
  iterate 7 obtain ⟨_, _, h⟩ := bind_eq_ok h
  cases h
  rfl

theorem createCoordinationTask_spec {input : CoordinationTaskInput}
    (h : db.createCoordinationTask input options = .ok (task, after)) :
    db.getCoordinationTask options.newId = none ∧
      after.tasks = db.tasks.set options.newId task ∧
      Placed CoordinationTask.parentTaskId CoordinationTask.home db.getCoordinationTask task := by
  iterate 3 obtain ⟨_, _, h⟩ := bind_eq_ok h
  obtain ⟨_, hparent, h⟩ := bind_eq_ok h
  iterate 11 obtain ⟨_, _, h⟩ := bind_eq_ok h
  obtain ⟨_, htasks, h⟩ := bind_eq_ok h
  obtain ⟨hfree, rfl⟩ := OrderedMap.insertNew_eq_some_iff.mp (orThrow_eq_ok htasks)
  cases h
  exact ⟨hfree, rfl, placed_of_checkParent hparent⟩

def CoordinationTaskUpdateInput.parentFor (input : CoordinationTaskUpdateInput)
    (existing : CoordinationTask) : Except String (Option String) :=
  updated input.parentTaskId existing.parentTaskId
    (optionalString · "Parent task id" 512)

theorem updateCoordinationTask_spec
    (h : db.updateCoordinationTask taskId input options = .ok (answer, after)) :
    (db.getCoordinationTask taskId = none ∧ after = db) ∨
    ∃ old new, db.getCoordinationTask taskId = some old ∧
      after.tasks = db.tasks.set taskId new ∧ new.home = old.home ∧
      Placed CoordinationTask.parentTaskId CoordinationTask.home db.getCoordinationTask new ∧
      input.parentFor old = .ok new.parentTaskId := by
  unfold CoordinationDb.updateCoordinationTask at h
  split at h
  next hmissing =>
    cases h
    exact .inl ⟨hmissing, rfl⟩
  next existing hexisting =>
    right
    obtain ⟨_, hupdated, h⟩ := bind_eq_ok h
    obtain ⟨_, _, h⟩ := bind_eq_ok h
    obtain ⟨_, hparent, h⟩ := bind_eq_ok h
    iterate 11 obtain ⟨_, _, h⟩ := bind_eq_ok h
    cases h
    exact ⟨existing, _, hexisting, rfl, rfl, placed_of_checkParent hparent, hupdated⟩

/-! ## The forest -/

/-- The call is an accepted update that names as the parent of its task one that hangs, over
any number of parents, under that task. -/
def CoordinationCall.HangsUnderItself (db : CoordinationDb) : CoordinationCall → Prop
  | .updateTask taskId input options =>
    (db.updateCoordinationTask taskId input options).isOk ∧
    (db.getCoordinationTask taskId).isSome ∧
    ∃ given above, input.parentTaskId = some given ∧
      optionalString (some given) "Parent task id" 512 = .ok (some above) ∧
      ReflTransGen db.HangsUnder above taskId
  | _ => False

theorem updateCoordinationTask_forest_iff (hforest : db.TaskForest)
    (h : db.updateCoordinationTask taskId input options = .ok (answer, after)) :
    after.TaskForest ↔
      ¬ (CoordinationCall.updateTask taskId input options).HangsUnderItself db := by
  rcases updateCoordinationTask_spec h with
    ⟨hmissing, rfl⟩ | ⟨old, new, hold, htasks, hhome, hplaced, hparent⟩
  · refine iff_of_true hforest ?_
    rintro ⟨-, hfound, -⟩
    rw [hmissing] at hfound
    cases hfound
  · show Forest _ _ after.tasks.get ↔ _
    rw [htasks, hforest.move_iff hold (put_set db taskId new) hhome hplaced]
    rw [CoordinationTaskUpdateInput.parentFor] at hparent
    constructor
    · rintro haway ⟨-, -, given, above, hgiven, hread, hpath⟩
      rw [hgiven] at hparent
      have hnew : some above = new.parentTaskId := Except.ok.inj (hread.symm.trans hparent)
      exact haway above hnew.symm hpath
    · intro hcall above hnew hpath
      cases hgiven : input.parentTaskId with
      | none =>
        -- the parent that stands does not lead back in a forest
        rw [hgiven] at hparent
        have hstands : old.parentTaskId = some above := (Except.ok.inj hparent).trans hnew
        exact (hforest taskId old hold).not_cycle (.head' ⟨old, hold, hstands⟩ hpath)
      | some given =>
        rw [hgiven] at hparent
        have hread : optionalString (some given) "Parent task id" 512 = .ok (some above) :=
          hnew ▸ hparent
        refine hcall ⟨?_, ?_, given, above, hgiven, hread, hpath⟩
        · rw [h]
          rfl
        · rw [hold]
          rfl

/-- The tasks stay a forest exactly if none is hung under itself. -/
theorem taskForest_step_iff (db : CoordinationDb) (call : CoordinationCall)
    (hforest : db.TaskForest) : (db.perform call).2.TaskForest ↔ ¬ call.HangsUnderItself db := by
  cases hattempt : db.attempt call with
  | error =>
    rw [CoordinationDb.perform_of_error hattempt]
    refine iff_of_true hforest ?_
    cases call with
    | createProject | createTask => exact id
    | updateTask =>
      rintro ⟨hok, -⟩
      obtain ⟨answer, hanswer⟩ := isOk_iff.mp hok
      rw [CoordinationDb.attempt, hanswer] at hattempt
      cases hattempt
  | ok =>
    rw [CoordinationDb.perform_of_ok hattempt]
    cases call with
    | createProject =>
      obtain ⟨found, hcreate, rfl⟩ := map_eq_ok hattempt
      refine iff_of_true ?_ id
      show Forest _ _ found.2.tasks.get
      rw [createCoordinationProject_tasks hcreate]
      exact hforest
    | createTask =>
      obtain ⟨found, hcreate, rfl⟩ := map_eq_ok hattempt
      obtain ⟨hfree, htasks, hplaced⟩ := createCoordinationTask_spec hcreate
      refine iff_of_true ?_ id
      show Forest _ _ found.2.tasks.get
      rw [htasks]
      exact hforest.grow hfree (put_set db _ _) hplaced
    | updateTask =>
      obtain ⟨_, hupdate, rfl⟩ := map_eq_ok hattempt
      exact updateCoordinationTask_forest_iff hforest hupdate

/-- The tasks form a forest in every state that a history reaches exactly if no update of it
hangs a task under itself. -/
theorem task_forest_iff (calls : List CoordinationCall) :
    (∀ first rest, calls = first ++ rest → (coordinationStore.run .empty first).TaskForest) ↔
      ∀ moment ∈ coordinationStore.history .empty calls,
        ¬ moment.input.HangsUnderItself moment.before :=
  coordinationStore.forall_run_iff CoordinationDb.TaskForest
    (fun moment => ¬ moment.input.HangsUnderItself moment.before)
    taskForest_step_iff .empty (Forest.of_none fun _ => rfl) calls

/-- A project, two tasks of it of which the second hangs under the first, and then the first
under the second. -/
def circleCalls : List CoordinationCall :=
  let text (value : String) : Option Json := some (.str value)
  [.createProject ⟨text "Plan", text "Do it", none, none, none, none, none⟩ ⟨"", none, "plan"⟩,
    .createTask ⟨"plan", none, text "First", text "One", none, none, none, none, none, none, none,
      none, none, none⟩ ⟨"", none, "first"⟩,
    .createTask ⟨"plan", text "first", text "Second", text "Two", none, none, none, none, none,
      none, none, none, none, none⟩ ⟨"", none, "second"⟩,
    .updateTask "first" ⟨text "second", none, none, none, none, none, none, none, none, none,
      none, none⟩ ⟨"", none, ""⟩]

theorem circle_parents :
    ["first", "second"].map (fun taskId =>
      ((coordinationStore.run .empty circleCalls).getCoordinationTask taskId).map
        CoordinationTask.parentTaskId) = [some (some "second"), some (some "first")] := by
  decide +kernel

/-- The tree is not a forest after every history: each of the two tasks is the parent of the
other. -/
theorem task_hung_under_itself : ¬ ∀ calls, (coordinationStore.run .empty calls).TaskForest := by
  intro h
  have hparents := circle_parents
  rw [List.map_cons, List.map_cons, List.map_nil, List.cons_eq_cons, List.cons_eq_cons] at hparents
  obtain ⟨first, hfirst, hup⟩ := Option.map_eq_some_iff.mp hparents.1
  obtain ⟨second, hsecond, hdown⟩ := Option.map_eq_some_iff.mp hparents.2.1
  exact (h circleCalls "first" first hfirst).not_cycle
    (.head ⟨first, hfirst, hup⟩ (.single ⟨second, hsecond, hdown⟩))

end OpenCowork.Runtime
