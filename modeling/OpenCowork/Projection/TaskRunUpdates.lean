import OpenCowork.Projection.Reduce

/-! # Updates of task runs

A `task.run` event brings a whole task run, with defaults for what its payload leaves out, and is
merged over the one that there is.
-/

namespace OpenCowork.Projection

open Foundation

variable {before : TaskRun}

def suppliesList (payload : List (String × Json)) (key : String) : Bool :=
  (Json.readArray (Json.findField key payload)).isSome

/-- What was recorded is still there, unless the payload replaces it. -/
structure KeepsWork (payload : List (String × Json)) (before after : TaskRun) : Prop where
  toolCalls : ¬ suppliesList payload "toolCalls" → before.toolCalls ⊆ after.toolCalls
  transcript : ¬ suppliesList payload "transcript" → before.transcript ⊆ after.transcript
  todos : ¬ suppliesList payload "todos" → before.todos ⊆ after.todos
  sessionCost : Json.readNumber (Json.findField "sessionCost" payload) = none →
    after.sessionCost = before.sessionCost

/-- Nothing is recorded that the payload does not replace. -/
structure HasNoWork (payload : List (String × Json)) (taskRun : TaskRun) : Prop where
  toolCalls : ¬ suppliesList payload "toolCalls" → taskRun.toolCalls = []
  transcript : ¬ suppliesList payload "transcript" → taskRun.transcript = []
  todos : ¬ suppliesList payload "todos" → taskRun.todos = []
  sessionCost : Json.readNumber (Json.findField "sessionCost" payload) = none →
    taskRun.sessionCost = 0

theorem keepsWork_merge_iff (session : CloudProjectionSessionRecord)
    (payload : List (String × Json)) (event : CloudProjectionEventRecord) :
    KeepsWork payload before (before.merge (taskRunFromPayload session payload event)) ↔
      HasNoWork payload before := by
  constructor
  · intro h
    refine ⟨fun hlist => List.subset_nil.mp (h.toolCalls hlist),
      fun hlist => List.subset_nil.mp (h.transcript hlist),
      fun hlist => List.subset_nil.mp (h.todos hlist), fun hnumber => ?_⟩
    rw [← h.sessionCost hnumber]
    simp [TaskRun.merge, taskRunFromPayload, readNumber, hnumber]
  · intro h
    refine ⟨fun hlist => List.subset_nil.mpr (h.toolCalls hlist),
      fun hlist => List.subset_nil.mpr (h.transcript hlist),
      fun hlist => List.subset_nil.mpr (h.todos hlist), fun hnumber => ?_⟩
    rw [h.sessionCost hnumber]
    simp [TaskRun.merge, taskRunFromPayload, readNumber, hnumber]

def CloudSessionProjectionView.taskRunOf (view : CloudSessionProjectionView)
    (session : CloudProjectionSessionRecord) (event : CloudProjectionEventRecord) :
    Option TaskRun :=
  view.taskRuns.find? fun entry =>
    entry.id = (taskRunFromPayload session (Json.asRecord (some event.payload)) event).id

/-- A `task.run` event keeps what was recorded for its task run exactly if nothing was. -/
theorem task_run_keeps_work_iff (env : ProjectionEnvironment)
    (session : CloudProjectionSessionRecord) (view : CloudSessionProjectionView) (sequence : Nat)
    (payload : Json) (createdAt : NonBlank) :
    let event : CloudProjectionEventRecord := ⟨sequence, "task.run", payload, createdAt⟩
    let next := reduceCloudSessionProjectionEvent env session view event
    let fields := Json.asRecord (some payload)
    (∀ before ∈ view.taskRunOf session event,
      ∃ after ∈ next.taskRunOf session event, KeepsWork fields before after) ↔
        ∀ before ∈ view.taskRunOf session event, HasNoWork fields before := by
  intro event next fields
  refine forall₂_congr fun before hbefore => ?_
  have hafter : next.taskRunOf session event =
      some (before.merge (taskRunFromPayload session fields event)) :=
    find?_upsertFirst hbefore (by simp [TaskRun.merge, event])
  rw [← keepsWork_merge_iff session fields event, hafter]
  simp

/-- A tool call of a task is gone when the task ends. -/
theorem ended_task_forgets_calls :
    let env : ProjectionEnvironment := ⟨fun value _ => some value⟩
    let now : NonBlank := ⟨"now", by decide⟩
    let session : CloudProjectionSessionRecord := ⟨"session", "profile", .idle, none, now⟩
    let call : CloudProjectionEventRecord :=
      ⟨1, "tool.call", .obj [("id", .str "call"), ("taskRunId", .str "task")], now⟩
    let payload : List (String × Json) := [("id", .str "task"), ("status", .str "complete")]
    let ended : CloudProjectionEventRecord := ⟨2, "task.run", .obj payload, now⟩
    let view := reduceCloudSessionProjectionEvent env session
      (createCloudSessionProjectionView session) call
    let next := reduceCloudSessionProjectionEvent env session view ended
    ¬ ∀ before ∈ view.taskRunOf session ended,
      ∃ after ∈ next.taskRunOf session ended, KeepsWork payload before after := by
  intro env now session call payload ended view next h
  obtain ⟨_, hafter, hkeeps⟩ := h _ rfl
  obtain rfl := Option.some.inj hafter
  cases List.subset_nil.mp (hkeeps.toolCalls (by decide))

end OpenCowork.Projection
