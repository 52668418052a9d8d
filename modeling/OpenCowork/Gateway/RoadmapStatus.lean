import OpenCowork.Gateway.Frames
import OpenCowork.Gateway.Linked

/-! # The status of a roadmap

A roadmap that is not archived has the status that its tasks give it: every operation that changes
what a task contributes recomputes the roadmaps concerned, except orphan recovery where it blocks
a task.
-/

namespace OpenCowork.Gateway

open Foundation OrderedMap

/-- What a task contributes to the status of its roadmap; nothing if it is archived. -/
inductive Standing where
  | done | blocked | underway
  deriving DecidableEq

def WorkStatus.standing : WorkStatus → Option Standing
  | .done => some .done
  | .blocked => some .blocked
  | .archived => none
  | .pending | .running | .paused | .cancelled => some .underway

def WorkState.tasksOf (state : WorkState) (roadmapId : String) : List WorkTaskRecord :=
  state.tasks.values.filter fun task => task.roadmapId = roadmapId ∧ task.status ≠ .archived

def WorkState.Contributes (state : WorkState) (roadmapId : String) (standing : Standing) : Prop :=
  ∃ id task, state.tasks.get id = some task ∧ task.roadmapId = roadmapId ∧
    task.status.standing = some standing

section Standings

variable {state state' : WorkState} {roadmapId : String} {task : WorkTaskRecord}
  {standing : Standing} {status : WorkStatus}

theorem mem_tasksOf : task ∈ state.tasksOf roadmapId ↔
    ∃ id, state.tasks.get id = some task ∧ task.roadmapId = roadmapId ∧
      task.status ≠ .archived := by
  simp only [WorkState.tasksOf, List.mem_filter, mem_values_iff, decide_eq_true_eq]
  constructor
  · rintro ⟨⟨id, hget⟩, hroadmap, hstatus⟩
    exact ⟨id, hget, hroadmap, hstatus⟩
  · rintro ⟨id, hget, hroadmap, hstatus⟩
    exact ⟨⟨id, hget⟩, hroadmap, hstatus⟩

theorem contributes_iff : state.Contributes roadmapId standing ↔
    ∃ task ∈ state.tasksOf roadmapId, task.status.standing = some standing := by
  constructor
  · rintro ⟨id, task, hget, hroadmap, hstanding⟩
    refine ⟨task, mem_tasksOf.mpr ⟨id, hget, hroadmap, ?_⟩, hstanding⟩
    intro harchived
    rw [harchived] at hstanding
    cases hstanding
  · rintro ⟨task, hmem, hstanding⟩
    obtain ⟨id, hget, hroadmap, -⟩ := mem_tasksOf.mp hmem
    exact ⟨id, task, hget, hroadmap, hstanding⟩

theorem standing_of_mem (hmem : task ∈ state.tasksOf roadmapId) :
    ∃ standing, task.status.standing = some standing := by
  obtain ⟨-, -, -, hstatus⟩ := mem_tasksOf.mp hmem
  cases hcase : task.status with
  | archived => exact absurd hcase hstatus
  | done => exact ⟨.done, rfl⟩
  | blocked => exact ⟨.blocked, rfl⟩
  | pending | running | paused | cancelled => exact ⟨.underway, rfl⟩

theorem standing_eq_done : status.standing = some .done ↔ status = .done := by
  cases status <;> simp [WorkStatus.standing]

theorem standing_eq_blocked : status.standing = some .blocked ↔ status = .blocked := by
  cases status <;> simp [WorkStatus.standing]

theorem all_done_iff : (state.tasksOf roadmapId).all (fun task => task.status = .done) = true ↔
    ∀ standing, state.Contributes roadmapId standing → standing = .done := by
  simp only [List.all_eq_true, decide_eq_true_eq]
  constructor
  · intro h standing hcontributes
    obtain ⟨task, hmem, hstanding⟩ := contributes_iff.mp hcontributes
    rw [h task hmem] at hstanding
    exact (Option.some.inj hstanding).symm
  · intro h task hmem
    obtain ⟨standing, hstanding⟩ := standing_of_mem hmem
    obtain rfl := h standing (contributes_iff.mpr ⟨task, hmem, hstanding⟩)
    exact standing_eq_done.mp hstanding

theorem any_blocked_iff : (state.tasksOf roadmapId).any (fun task => task.status = .blocked) =
    true ↔ state.Contributes roadmapId .blocked := by
  simp only [List.any_eq_true, decide_eq_true_eq]
  rw [contributes_iff]
  simp only [standing_eq_blocked]

theorem isEmpty_tasksOf_iff : (state.tasksOf roadmapId).isEmpty = true ↔
    ∀ standing, ¬ state.Contributes roadmapId standing := by
  rw [List.isEmpty_iff, List.eq_nil_iff_forall_not_mem]
  constructor
  · intro h standing hcontributes
    obtain ⟨task, hmem, -⟩ := contributes_iff.mp hcontributes
    exact h task hmem
  · intro h task hmem
    obtain ⟨standing, hstanding⟩ := standing_of_mem hmem
    exact h standing (contributes_iff.mpr ⟨task, hmem, hstanding⟩)

theorem not_all_done (h : state.Contributes roadmapId standing) (hne : standing ≠ .done) :
    ((state.tasksOf roadmapId).all fun task => task.status = .done) = false := by
  rw [Bool.eq_false_iff, ne_eq, all_done_iff]
  exact fun hall => hne (hall standing h)

theorem roadmapStatusOf_blocked (h : state.Contributes roadmapId .blocked) :
    roadmapStatusOf (state.tasksOf roadmapId) = .blocked := by
  unfold roadmapStatusOf
  rw [not_all_done h (by decide), Bool.and_false, if_neg (by simp), if_pos (any_blocked_iff.mpr h)]

theorem roadmapStatusOf_underway (h : state.Contributes roadmapId .underway) :
    roadmapStatusOf (state.tasksOf roadmapId) = .blocked ∨
      roadmapStatusOf (state.tasksOf roadmapId) = .active := by
  unfold roadmapStatusOf
  rw [not_all_done h (by decide), Bool.and_false, if_neg (by simp)]
  split
  · exact .inl rfl
  · exact .inr rfl

theorem roadmapStatusOf_congr (h : ∀ standing,
    state.Contributes roadmapId standing ↔ state'.Contributes roadmapId standing) :
    roadmapStatusOf (state.tasksOf roadmapId) = roadmapStatusOf (state'.tasksOf roadmapId) := by
  have hempty : (state.tasksOf roadmapId).isEmpty = (state'.tasksOf roadmapId).isEmpty := by
    rw [Bool.eq_iff_iff, isEmpty_tasksOf_iff, isEmpty_tasksOf_iff]
    simp only [h]
  have hall : (state.tasksOf roadmapId).all (fun task => task.status = .done) =
      (state'.tasksOf roadmapId).all (fun task => task.status = .done) := by
    rw [Bool.eq_iff_iff, all_done_iff, all_done_iff]
    simp only [h]
  have hany : (state.tasksOf roadmapId).any (fun task => task.status = .blocked) =
      (state'.tasksOf roadmapId).any (fun task => task.status = .blocked) := by
    rw [Bool.eq_iff_iff, any_blocked_iff, any_blocked_iff]
    exact h .blocked
  unfold roadmapStatusOf
  rw [hempty, hall, hany]

theorem contributes_mono (h : ∀ id task, state.tasks.get id = some task →
    task.roadmapId = roadmapId → ∃ task', state'.tasks.get id = some task' ∧
      task'.roadmapId = roadmapId ∧ task'.status.standing = task.status.standing)
    (hcontributes : state.Contributes roadmapId standing) :
    state'.Contributes roadmapId standing := by
  obtain ⟨id, task, hget, hroadmap, hstanding⟩ := hcontributes
  obtain ⟨task', hget', hroadmap', hsame⟩ := h id task hget hroadmap
  exact ⟨id, task', hget', hroadmap', hsame.trans hstanding⟩

theorem roadmapStatusOf_set {id : String} {task task' : WorkTaskRecord}
    (htask : state.tasks.get id = some task) (htasks : state'.tasks = state.tasks.set id task')
    (hsame : task.roadmapId = roadmapId ∨ task'.roadmapId = roadmapId →
      task'.roadmapId = task.roadmapId ∧ task'.status.standing = task.status.standing) :
    roadmapStatusOf (state.tasksOf roadmapId) = roadmapStatusOf (state'.tasksOf roadmapId) := by
  refine roadmapStatusOf_congr fun _ => ⟨contributes_mono ?_, contributes_mono ?_⟩
  · intro other held hheld hroadmap
    by_cases hid : id = other
    · subst hid
      obtain rfl := Option.mem_unique htask hheld
      obtain ⟨hkept, hstanding⟩ := hsame (.inl hroadmap)
      refine ⟨task', ?_, hkept.trans hroadmap, hstanding⟩
      rw [htasks, get_set_self]
    · refine ⟨held, ?_, hroadmap, rfl⟩
      rw [htasks, get_set_of_ne _ _ hid, hheld]
  · intro other held hheld hroadmap
    revert hroadmap
    refine of_get_set htasks hheld (fun hroadmap => ?_) fun hheld hroadmap =>
      ⟨held, hheld, hroadmap, rfl⟩
    obtain ⟨hkept, hstanding⟩ := hsame (.inr hroadmap)
    exact ⟨task, htask, hkept.symm.trans hroadmap, hstanding.symm⟩

end Standings

/-! ## The invariant -/

/-- The roadmaps follow their tasks, except for those that are to be recomputed yet. -/
structure FollowsExcept (stale : String → Prop) (platform : WorkPlatform) (state : WorkState) :
    Prop where
  status : ∀ id roadmap, state.roadmaps.get id = some roadmap → roadmap.status ≠ .archived →
    ¬ stale id → roadmap.status = roadmapStatusOf (state.tasksOf id)
  held : ∀ id task, state.tasks.get id = some task → (state.roadmaps.get task.roadmapId).isSome
  roadmapDrawn : ∀ id, (state.roadmaps.get id).isSome →
    id = inboxRoadmapId ∨ platform.Drawn "roadmap_" state.drawn id
  taskDrawn : ∀ id, (state.tasks.get id).isSome → platform.Drawn "task_" state.drawn id

/-- All roadmaps follow their tasks. -/
abbrev Follows (platform : WorkPlatform) (state : WorkState) : Prop :=
  FollowsExcept (fun _ => False) platform state

namespace FollowsExcept

variable {stale stale' : String → Prop} {platform : WorkPlatform} {state state' : WorkState}
  {id : String} {task task' : WorkTaskRecord} {f : WorkTaskRecord → WorkTaskRecord}

theorem mono (h : FollowsExcept stale platform state) (hstale : ∀ id, stale id → stale' id) :
    FollowsExcept stale' platform state :=
  ⟨fun id roadmap hroadmap hopen hfresh =>
    h.status id roadmap hroadmap hopen fun hid => hfresh (hstale id hid),
    h.held, h.roadmapDrawn, h.taskDrawn⟩

section

variable (h : FollowsExcept stale platform state)
include h

theorem roadmapDrawn_of (hroadmaps : state'.roadmaps = state.roadmaps)
    (hdrawn : state.drawn ≤ state'.drawn) (other : String)
    (hother : (state'.roadmaps.get other).isSome) :
    other = inboxRoadmapId ∨ platform.Drawn "roadmap_" state'.drawn other := by
  rw [hroadmaps] at hother
  exact (h.roadmapDrawn other hother).imp_right fun hdrawnId => hdrawnId.mono hdrawn

theorem taskDrawn_of (htasks : state'.tasks = state.tasks) (hdrawn : state.drawn ≤ state'.drawn)
    (other : String) (hother : (state'.tasks.get other).isSome) :
    platform.Drawn "task_" state'.drawn other := by
  rw [htasks] at hother
  exact (h.taskDrawn other hother).mono hdrawn

theorem of_same (hroadmaps : state'.roadmaps = state.roadmaps) (htasks : state'.tasks = state.tasks)
    (hdrawn : state.drawn ≤ state'.drawn) : FollowsExcept stale platform state' := by
  have hsame : ∀ id, state'.tasksOf id = state.tasksOf id := fun id => by
    rw [WorkState.tasksOf, htasks]
    rfl
  refine ⟨?_, ?_, h.roadmapDrawn_of hroadmaps hdrawn, h.taskDrawn_of htasks hdrawn⟩
  · rw [hroadmaps]
    simpa only [hsame] using h.status
  · rw [hroadmaps, htasks]
    exact h.held

theorem of_roadmap {roadmap : RoadmapRecord}
    (hstatus : roadmap.status = .archived ∨ roadmap.status = roadmapStatusOf (state.tasksOf id))
    (hdrawnId : id = inboxRoadmapId ∨ platform.Drawn "roadmap_" state'.drawn id)
    (hroadmaps : state'.roadmaps = state.roadmaps.set id roadmap)
    (htasks : state'.tasks = state.tasks) (hdrawn : state.drawn ≤ state'.drawn)
    (hstale : ∀ other, stale other → stale' other ∨ other = id) :
    FollowsExcept stale' platform state' := by
  have hsame : ∀ id, state'.tasksOf id = state.tasksOf id := fun _ => by
    rw [WorkState.tasksOf, htasks]
    rfl
  refine ⟨?_, ?_, ?_, h.taskDrawn_of htasks hdrawn⟩
  · intro other held hheld hopen hfresh
    rw [hroadmaps, get_set] at hheld
    rw [hsame]
    split at hheld
    next hid =>
      cases hheld
      subst hid
      exact hstatus.resolve_left hopen
    next hid =>
      refine h.status other held hheld hopen fun hother => ?_
      exact (hstale other hother).elim hfresh fun heq => hid heq.symm
  · intro other task htask
    rw [htasks] at htask
    rw [hroadmaps]
    exact isSome_set roadmap (h.held other task htask)
  · intro other hother
    exact of_isSome_set hroadmaps hother hdrawnId fun hother =>
      (h.roadmapDrawn other hother).imp_right fun hdrawnId => hdrawnId.mono hdrawn

theorem recompute (roadmapId : String) (hstale : ∀ id, stale id → stale' id ∨ id = roadmapId) :
    FollowsExcept stale' platform (recomputeRoadmapStatusInState roadmapId state) := by
  unfold recomputeRoadmapStatusInState
  cases hroadmap : state.roadmaps.get roadmapId with
  | none =>
    refine ⟨fun id held hheld hopen hfresh => ?_, h.held, h.roadmapDrawn, h.taskDrawn⟩
    refine h.status id held hheld hopen fun hid => (hstale id hid).elim hfresh ?_
    rintro rfl
    rw [hroadmap] at hheld
    cases hheld
  | some =>
    dsimp only
    split
    next harchived =>
      refine ⟨fun id held hheld hopen hfresh => ?_, h.held, h.roadmapDrawn, h.taskDrawn⟩
      refine h.status id held hheld hopen fun hid => (hstale id hid).elim hfresh ?_
      rintro rfl
      obtain rfl := Option.mem_unique hroadmap hheld
      exact hopen harchived
    · exact h.of_roadmap (.inr rfl) (h.roadmapDrawn roadmapId (by rw [hroadmap]; rfl)) rfl rfl
        le_rfl hstale

variable (htask : state.tasks.get id = some task)
include htask

theorem of_task (hheld : (state.roadmaps.get task'.roadmapId).isSome)
    (hroadmaps : state'.roadmaps = state.roadmaps)
    (htasks : state'.tasks = state.tasks.set id task') (hdrawn : state.drawn ≤ state'.drawn)
    (hstale : ∀ other, ¬ stale' other → ¬ stale other ∧
      (task.roadmapId = other ∨ task'.roadmapId = other →
        task'.roadmapId = task.roadmapId ∧ task'.status.standing = task.status.standing)) :
    FollowsExcept stale' platform state' := by
  refine ⟨?_, ?_, h.roadmapDrawn_of hroadmaps hdrawn, ?_⟩
  · intro other roadmap hroadmap hopen hfresh
    rw [hroadmaps] at hroadmap
    obtain ⟨hbefore, hsame⟩ := hstale other hfresh
    rw [← roadmapStatusOf_set htask htasks hsame]
    exact h.status other roadmap hroadmap hopen hbefore
  · intro other held hget
    rw [hroadmaps]
    exact of_get_set htasks hget hheld (h.held other held)
  · intro other hother
    exact of_isSome_set htasks hother ((h.taskDrawn id (by rw [htask]; rfl)).mono hdrawn)
      fun hother => (h.taskDrawn other hother).mono hdrawn

omit htask in
theorem of_new_task
    (hfree : state.tasks.get id = none) (hheld : (state.roadmaps.get task.roadmapId).isSome)
    (hid : platform.Drawn "task_" state'.drawn id) (hroadmaps : state'.roadmaps = state.roadmaps)
    (htasks : state'.tasks = state.tasks.set id task) (hdrawn : state.drawn ≤ state'.drawn) :
    FollowsExcept (fun other => stale other ∨ other = task.roadmapId) platform state' := by
  have hget : ∀ other held, state'.tasks.get other = some held →
      held = task ∨ state.tasks.get other = some held := by
    intro other held hother
    exact of_get_set htasks hother (.inl rfl) .inr
  refine ⟨?_, ?_, h.roadmapDrawn_of hroadmaps hdrawn, ?_⟩
  · intro other roadmap hroadmap hopen hfresh
    rw [not_or] at hfresh
    rw [hroadmaps] at hroadmap
    rw [h.status other roadmap hroadmap hopen hfresh.1]
    refine roadmapStatusOf_congr fun _ => ⟨contributes_mono ?_, contributes_mono ?_⟩
    · intro taskId held hheld hin
      refine ⟨held, ?_, hin, rfl⟩
      rw [htasks, get_set_of_ne _ _ ?_, hheld]
      rintro rfl
      rw [hfree] at hheld
      cases hheld
    · intro taskId held hheld hin
      rcases hget taskId held hheld with rfl | hbefore
      · exact absurd hin.symm hfresh.2
      · exact ⟨held, hbefore, hin, rfl⟩
  · intro other held hother
    rw [hroadmaps]
    rcases hget other held hother with rfl | hbefore
    · exact hheld
    · exact h.held other held hbefore
  · intro other hother
    exact of_isSome_set htasks hother hid fun hother => (h.taskDrawn other hother).mono hdrawn

theorem of_task_same (hroadmap : task'.roadmapId = task.roadmapId)
    (hstanding : task'.status.standing = task.status.standing)
    (hroadmaps : state'.roadmaps = state.roadmaps)
    (htasks : state'.tasks = state.tasks.set id task') (hdrawn : state.drawn ≤ state'.drawn) :
    FollowsExcept stale platform state' :=
  h.of_task htask (hroadmap ▸ h.held id task htask) hroadmaps htasks hdrawn
    fun _ hfresh => ⟨hfresh, fun _ => ⟨hroadmap, hstanding⟩⟩

theorem of_task_within (hroadmap : task'.roadmapId = task.roadmapId)
    (hroadmaps : state'.roadmaps = state.roadmaps)
    (htasks : state'.tasks = state.tasks.set id task') (hdrawn : state.drawn ≤ state'.drawn) :
    FollowsExcept (fun other => stale other ∨ other = task.roadmapId) platform state' := by
  refine h.of_task htask (hroadmap ▸ h.held id task htask) hroadmaps htasks hdrawn
    fun _ hfresh => ?_
  rw [not_or] at hfresh
  refine ⟨hfresh.1, fun hin => absurd ?_ hfresh.2⟩
  rcases hin with hin | hin
  · exact hin.symm
  · exact (hroadmap ▸ hin).symm

end

theorem update (h : Follows platform state) {roadmapId : String}
    (htask : state.tasks.get id = some task)
    (hin : task.roadmapId = roadmapId) (hroadmap : (f task).roadmapId = task.roadmapId) :
    Follows platform (recomputeRoadmapStatusInState roadmapId (state.updateTask id f)) := by
  subst hin
  have hwritten : FollowsExcept (fun other => False ∨ other = task.roadmapId) platform
      (state.updateTask id f) :=
    h.of_task_within htask hroadmap rfl (modify_of_get f htask) le_rfl
  exact hwritten.recompute task.roadmapId fun _ hid => hid

theorem abort (h : FollowsExcept stale platform state) (id : String) (now : Int) :
    FollowsExcept stale platform (abortActiveRunInState id now state).2 := by
  cases htask : state.tasks.get id with
  | none =>
    unfold abortActiveRunInState
    rw [htask]
    exact h
  | some =>
    obtain ⟨_, haborted⟩ := abort_spec now htask
    refine h.of_task_same htask ?_ ?_ haborted.roadmaps haborted.tasks haborted.drawn.ge
    · rcases haborted.shape with rfl | rfl <;> rfl
    · rcases haborted.shape with rfl | rfl <;> rfl

theorem get_abort (now : Int) (htask : state.tasks.get id = some task) : ∃ aborted,
    (abortActiveRunInState id now state).2.tasks.get id = some aborted ∧
      aborted.roadmapId = task.roadmapId := by
  obtain ⟨aborted, haborted⟩ := abort_spec now htask
  refine ⟨aborted, ?_, ?_⟩
  · rw [haborted.tasks, get_set_self]
  · rcases haborted.shape with rfl | rfl <;> rfl

theorem abortAndUpdate (h : Follows platform state) (now : Int)
    (htask : state.tasks.get id = some task)
    (hroadmap : ∀ task, (f task).roadmapId = task.roadmapId) :
    Follows platform (abortAndUpdateTask id task.roadmapId now f state).2 := by
  obtain ⟨aborted, hget, hsame⟩ := get_abort now htask
  exact (h.abort id now).update hget hsame (hroadmap aborted)

end FollowsExcept

section Operations

variable {platform : WorkPlatform} {state state' : WorkState} {id : String} {answer : WorkAnswer}
  {now : Int} {roadmapId : String} {update : WorkTaskUpdateInput} {task : WorkTaskRecord}
  {updates : List WorkTaskBulkUpdateInput} {input : WorkInput} {ids : List String}
  {task' : WorkTaskRecord} {origin : WorkState}

/-! ## Roadmaps and new tasks -/

theorem tasksOf_eq_nil (h : Follows platform state)
    (hnone : state.roadmaps.get id = none) : state.tasksOf id = [] := by
  rw [List.eq_nil_iff_forall_not_mem]
  intro task hmem
  obtain ⟨taskId, hget, rfl, -⟩ := mem_tasksOf.mp hmem
  have hheld := h.held taskId task hget
  rw [hnone] at hheld
  cases hheld

theorem roadmap_ne_inbox (platform : WorkPlatform) (drawn : Nat) :
    "roadmap_" ++ platform.randomUUID drawn ≠ inboxRoadmapId := by
  intro heq
  refine platform.randomUUID_ne_inbox drawn ?_
  rw [inboxRoadmapId, show "roadmap_inbox" = "roadmap_" ++ "inbox" from rfl] at heq
  rw [← String.toList_inj] at heq ⊢
  rw [String.toList_append, String.toList_append] at heq
  exact List.append_cancel_left heq

theorem isSome_of_accepts (h : assertRoadmapAcceptsTasks state roadmapId = .ok ()) :
    (state.roadmaps.get roadmapId).isSome := by
  unfold assertRoadmapAcceptsTasks at h
  obtain ⟨_, hroadmap, -⟩ := bind_eq_ok h
  rw [orThrow_eq_ok hroadmap]
  rfl

section

variable (h : Follows platform state)
include h

theorem follows_createRoadmap {input : RoadmapInput}
    (hcreated : createRoadmapInState platform input state = .ok (id, state')) :
    Follows platform state' := by
  unfold createRoadmapInState at hcreated
  obtain ⟨_, -, hcreated⟩ := bind_eq_ok hcreated
  obtain ⟨_, -, hcreated⟩ := bind_eq_ok hcreated
  cases hcreated
  have hfree : state.roadmaps.get ("roadmap_" ++ platform.randomUUID state.drawn) = none := by
    rw [← Option.not_isSome_iff_eq_none]
    intro htaken
    rcases h.roadmapDrawn _ htaken with hinbox | hdrawn
    · exact roadmap_ne_inbox platform _ hinbox
    · exact not_drawn_next _ _ _ hdrawn
  refine h.of_roadmap (.inr ?_) (.inr ⟨state.drawn, Nat.lt_succ_self _, rfl⟩) rfl rfl
    (Nat.le_succ _) fun _ hid => hid.elim
  rw [tasksOf_eq_nil h hfree]
  rfl

theorem follows_ensureInbox : Follows platform (ensureInboxRoadmap state) := by
  unfold ensureInboxRoadmap
  split
  · exact h
  next hnone =>
    refine h.of_roadmap (.inr ?_) (.inl rfl) rfl rfl le_rfl fun _ hid => hid.elim
    rw [tasksOf_eq_nil h (Option.not_isSome_iff_eq_none.mp hnone)]
    rfl

theorem follows_createTask {create : WorkTaskCreateInput}
    (hcreated : createWorkTaskInState platform create state = .ok (id, state')) :
    Follows platform state' := by
  unfold createWorkTaskInState at hcreated
  obtain ⟨_, -, hcreated⟩ := bind_eq_ok hcreated
  obtain ⟨_, haccepts, hcreated⟩ := bind_eq_ok hcreated
  obtain ⟨_, -, hcreated⟩ := bind_eq_ok hcreated
  dsimp only at hcreated haccepts
  have hinbox : Follows platform (if (Text.truthy create.roadmapId).isNone = true
      then ensureInboxRoadmap state else state) := by
    split
    · exact follows_ensureInbox h
    · exact h
  generalize (Text.truthy create.roadmapId).getD inboxRoadmapId = roadmapId at hcreated haccepts
  generalize (if (Text.truthy create.roadmapId).isNone = true
    then ensureInboxRoadmap state else state) = entered at hcreated haccepts hinbox
  split at hcreated
  · cases hcreated
    exact hinbox
  · obtain ⟨_, -, hcreated⟩ := bind_eq_ok hcreated
    obtain ⟨linked, hlinked, hcreated⟩ := bind_eq_ok hcreated
    obtain ⟨_, hgated, hcreated⟩ := bind_eq_ok hcreated
    cases hcreated
    have hfree : entered.tasks.get ("task_" ++ platform.randomUUID entered.drawn) = none := by
      rw [← Option.not_isSome_iff_eq_none]
      exact fun htaken => not_drawn_next _ _ _ (hinbox.taskDrawn _ htaken)
    have hwritten : ∀ task : WorkTaskRecord, task.roadmapId = roadmapId →
        FollowsExcept (fun other => False ∨ other = roadmapId) platform
          { entered with
            tasks := entered.tasks.set ("task_" ++ platform.randomUUID entered.drawn) task
            drawn := entered.drawn + 1 } := by
      rintro _ rfl
      exact hinbox.of_new_task hfree (isSome_of_accepts haccepts)
        ⟨entered.drawn, Nat.lt_succ_self _, rfl⟩ rfl rfl (Nat.le_succ _)
    obtain ⟨_, hdependencies⟩ := addDependencies_frame hlinked
    have hstale : FollowsExcept (fun other => False ∨ other = roadmapId) platform linked := by
      rw [hdependencies]
      exact (hwritten _ rfl).of_same rfl rfl le_rfl
    obtain ⟨_, _, hdrawn, hgates⟩ := insertManualGate_frame hgated
    rw [hgates]
    exact (hstale.recompute roadmapId fun _ hid => hid).of_same rfl rfl hdrawn

theorem follows_createTasks {inputs : List WorkTaskCreateInput}
    (hcreated : createWorkTasksInState platform inputs state = .ok (ids, state')) :
    Follows platform state' := by
  induction inputs generalizing state ids with
  | nil =>
    cases hcreated
    exact h
  | cons _ _ ih =>
    rw [createWorkTasksInState] at hcreated
    obtain ⟨⟨_, _⟩, hnext, hcreated⟩ := bind_eq_ok hcreated
    obtain ⟨⟨_, _⟩, hlast, hcreated⟩ := bind_eq_ok hcreated
    cases hcreated
    exact ih (follows_createTask h hnext) hlast

theorem follows_createRoadmapWithTasks {roadmap : RoadmapInput} {tasks : List WorkTaskCreateInput}
    (hcreated : createRoadmapWithTasks platform roadmap tasks state = .ok (answer, state')) :
    Follows platform state' := by
  unfold createRoadmapWithTasks at hcreated
  obtain ⟨⟨id, _⟩, hroadmap, hcreated⟩ := bind_eq_ok hcreated
  obtain ⟨⟨_, _⟩, hfilled, hcreated⟩ := bind_eq_ok hcreated
  cases hcreated
  exact (follows_createTasks (follows_createRoadmap h hroadmap) hfilled).recompute id
    fun _ hid => hid.elim

theorem follows_planInitiative {plan : PlanInitiativeInput}
    (hplan : planInitiative platform plan state = .ok (answer, state')) :
    Follows platform state' := by
  unfold planInitiative at hplan
  obtain ⟨⟨id, _⟩, hroadmap, hplan⟩ := bind_eq_ok hplan
  obtain ⟨⟨_, filled⟩, hfilled, hplan⟩ := bind_eq_ok hplan
  obtain ⟨_, hplanned, hplan⟩ := bind_eq_ok hplan
  obtain ⟨_, -, hplan⟩ := bind_eq_ok hplan
  cases hplan
  have hrecomputed : Follows platform (recomputeRoadmapStatusInState id filled) :=
    (follows_createTasks (follows_createRoadmap h hroadmap) hfilled).recompute id
      fun _ hid => hid.elim
  obtain ⟨_, rfl⟩ := planDependencies_frame hplanned
  exact hrecomputed.of_same rfl rfl le_rfl

theorem follows_updateRoadmap {update : RoadmapUpdateInput} (hstatus : update.status = none)
    (hupdated : updateRoadmap id update state = .ok (answer, state')) :
    Follows platform state' := by
  unfold updateRoadmap at hupdated
  split at hupdated
  · cases hupdated
    exact h
  next roadmap hroadmap =>
    iterate 3 obtain ⟨_, -, hupdated⟩ := bind_eq_ok hupdated
    cases hupdated
    refine h.of_roadmap ?_ (h.roadmapDrawn id (by rw [hroadmap]; rfl)) rfl rfl le_rfl
      fun _ hid => hid.elim
    rw [hstatus, Option.getD_none]
    by_cases harchived : roadmap.status = .archived
    · exact .inl harchived
    · exact .inr (h.status id roadmap hroadmap harchived fun hid => hid)

end

/-! ## Roadmaps that are put away or deleted -/

theorem FollowsExcept.of_closed
    (h : FollowsExcept (fun id => False ∨ id = roadmapId) platform state)
    (hclosed : ∀ roadmap, state.roadmaps.get roadmapId = some roadmap →
      roadmap.status = .archived) : Follows platform state := by
  refine ⟨fun id roadmap hroadmap hopen _ => ?_, h.held, h.roadmapDrawn, h.taskDrawn⟩
  refine h.status id roadmap hroadmap hopen ?_
  rintro (hid | rfl)
  · exact hid
  · exact hopen (hclosed roadmap hroadmap)

theorem follows_archiveTasks (note : Option String) (now : Int)
    (h : FollowsExcept (fun id => False ∨ id = roadmapId) platform state)
    (hin : ∀ id ∈ ids, ∃ task, state.tasks.get id = some task ∧ task.roadmapId = roadmapId) :
    FollowsExcept (fun id => False ∨ id = roadmapId) platform
      (ids.foldl (archiveTaskInState note now) state) ∧
    (ids.foldl (archiveTaskInState note now) state).roadmaps = state.roadmaps := by
  induction ids generalizing state with
  | nil => exact ⟨h, rfl⟩
  | cons id _ ih =>
    obtain ⟨task, htask, hroadmap⟩ := hin id (.head _)
    obtain ⟨_, haborted⟩ := abort_spec now htask
    obtain ⟨htasks, -⟩ := haborted.updateTask
      (show WorkTaskRecord.archive note { task with currentRunId := none } =
        WorkTaskRecord.archive note task from rfl)
    have hnext : FollowsExcept (fun id => False ∨ id = roadmapId) platform
        (archiveTaskInState note now state id) := by
      have hwritten : FollowsExcept (fun other => (False ∨ other = roadmapId) ∨
          other = task.roadmapId) platform (archiveTaskInState note now state id) :=
        h.of_task_within htask (show (task.archive note).roadmapId = task.roadmapId from rfl)
          (show (archiveTaskInState note now state id).roadmaps = state.roadmaps from
            haborted.roadmaps) htasks haborted.drawn.ge
      refine hwritten.mono ?_
      rintro other (hother | hother)
      · exact hother
      · exact .inr (hother.trans hroadmap)
    obtain ⟨hlast, hroadmaps⟩ := ih hnext fun other hmem => by
      obtain ⟨held, hheld, hheldIn⟩ := hin other (.tail _ hmem)
      by_cases hid : id = other
      · refine ⟨task.archive note, ?_, hroadmap⟩
        subst hid
        exact (congrArg (OrderedMap.get · id) htasks).trans (get_set_self _ _ _)
      · refine ⟨held, ?_, hheldIn⟩
        exact (congrArg (OrderedMap.get · other) htasks).trans ((get_set_of_ne _ _ hid).trans hheld)
    exact ⟨hlast, hroadmaps.trans haborted.roadmaps⟩

variable (h : Follows platform state)
include h

theorem follows_archiveRoadmap (roadmapId : String) (note : Option String) (now : Int) :
    Follows platform (archiveRoadmap roadmapId note now state).2 := by
  unfold archiveRoadmap
  cases hroadmap : state.roadmaps.get roadmapId with
  | none => exact h
  | some roadmap =>
    have hput : FollowsExcept (fun id => False ∨ id = roadmapId) platform
        { state with roadmaps :=
            state.roadmaps.set roadmapId { roadmap with status := .archived } } :=
      h.of_roadmap (.inl rfl) (h.roadmapDrawn roadmapId (by rw [hroadmap]; rfl)) rfl rfl
        le_rfl fun _ hid => hid.elim
    obtain ⟨hlast, hroadmaps⟩ := follows_archiveTasks (normalizeOptionalString note 5000) now hput
      fun _ hmem => mem_taskIdsOf.mp hmem
    refine hlast.of_closed fun _ hheld => ?_
    rw [hroadmaps, get_set_self] at hheld
    cases hheld
    rfl

theorem FollowsExcept.of_deletion {taskIds : List String} {stale : String → Prop}
    (hstale : ∀ id ∈ taskIds, ∀ task, state.tasks.get id = some task → stale task.roadmapId) :
    FollowsExcept stale platform (state.withoutTasks taskIds) := by
  have hget : ∀ id task, (state.withoutTasks taskIds).tasks.get id = some task ↔
      state.tasks.get id = some task ∧ id ∉ taskIds := by
    intro id task
    unfold WorkState.withoutTasks
    rw [get_filter_eq_some_iff, decide_eq_true_eq]
  refine ⟨?_, fun id task htask => h.held id task ((hget id task).mp htask).1, h.roadmapDrawn, ?_⟩
  · intro other roadmap hroadmap hopen hfresh
    rw [h.status other roadmap hroadmap hopen fun hid => hid]
    refine roadmapStatusOf_congr fun _ => ⟨contributes_mono ?_, contributes_mono ?_⟩
    · rintro id task htask rfl
      exact ⟨task, (hget id task).mpr ⟨htask, fun hmem => hfresh (hstale id hmem task htask)⟩, rfl,
        rfl⟩
    · intro id task htask hin
      exact ⟨task, ((hget id task).mp htask).1, hin, rfl⟩
  · intro id hid
    obtain ⟨task, htask⟩ := Option.isSome_iff_exists.mp hid
    exact h.taskDrawn id (by rw [((hget id task).mp htask).1]; rfl)

theorem follows_deleteWorkTask
    (hdeleted : deleteWorkTask id state = .ok (answer, state')) : Follows platform state' := by
  unfold deleteWorkTask at hdeleted
  split at hdeleted
  · cases hdeleted
    exact h
  next task htask =>
    obtain ⟨_, -, hdeleted⟩ := bind_eq_ok hdeleted
    cases hdeleted
    have hrest : FollowsExcept (fun other => False ∨ other = task.roadmapId) platform
        (state.withoutTasks [id]) := by
      refine .of_deletion h fun _ hmem _ hheld => .inr ?_
      obtain rfl := List.mem_singleton.mp hmem
      rw [Option.mem_unique htask hheld]
    exact hrest.recompute task.roadmapId fun _ hid => hid

theorem follows_deleteRoadmap (hdeleted : deleteRoadmap roadmapId state = .ok (answer, state')) :
    Follows platform state' := by
  unfold deleteRoadmap at hdeleted
  split at hdeleted
  · cases hdeleted
    exact h
  · obtain ⟨_, -, hdeleted⟩ := bind_eq_ok hdeleted
    cases hdeleted
    have hrest : FollowsExcept (fun other => False ∨ other = roadmapId) platform
        (state.withoutTasks (state.taskIdsOf roadmapId)) := by
      refine .of_deletion h fun id hmem task htask => .inr ?_
      obtain ⟨held, hheld, hin⟩ := mem_taskIdsOf.mp hmem
      rw [← Option.mem_unique hheld htask]
      exact hin
    have hgone : ∀ id task, (state.withoutTasks (state.taskIdsOf roadmapId)).tasks.get id =
        some task → roadmapId ≠ task.roadmapId := by
      rintro id task htask heq
      unfold WorkState.withoutTasks at htask
      rw [get_filter_eq_some_iff, decide_eq_true_eq] at htask
      exact htask.2 (mem_taskIdsOf.mpr ⟨task, htask.1, heq.symm⟩)
    refine ⟨fun id roadmap hroadmap hopen _ => ?_, fun id task htask => ?_, fun id hid => ?_,
      hrest.taskDrawn⟩
    · by_cases hid : roadmapId = id
      · rw [hid, get_erase_self] at hroadmap
        cases hroadmap
      · rw [get_erase_of_ne _ hid] at hroadmap
        refine hrest.status id roadmap hroadmap hopen ?_
        rintro (hfalse | heq)
        · exact hfalse
        · exact hid heq.symm
    · rw [get_erase_of_ne _ (hgone id task htask)]
      exact hrest.held id task htask
    · by_cases hsame : roadmapId = id
      · rw [hsame, get_erase_self] at hid
        cases hid
      · rw [get_erase_of_ne _ hsame] at hid
        exact hrest.roadmapDrawn id hid

omit h

/-! ## Updates and actions -/

def KeepsRoadmaps (state state' : WorkState) : Prop :=
  ∀ id, (state.roadmaps.get id).isSome → (state'.roadmaps.get id).isSome

theorem keepsRoadmaps_recompute (roadmapId : String) (state : WorkState) :
    KeepsRoadmaps state (recomputeRoadmapStatusInState roadmapId state) := by
  intro _ hid
  unfold recomputeRoadmapStatusInState
  split
  · exact hid
  · dsimp only
    split
    · exact hid
    · exact isSome_set _ hid

variable (h : Follows platform state)
include h

theorem follows_writeTaskUpdate (hroadmap : ∀ roadmapId, update.roadmapId = some roadmapId →
      (state.roadmaps.get roadmapId).isSome)
    (hwritten : writeTaskUpdateInState platform id update state = .ok state') :
    Follows platform state' ∧ KeepsRoadmaps state state' := by
  unfold writeTaskUpdateInState at hwritten
  obtain ⟨task, htask, hwritten⟩ := bind_eq_ok hwritten
  obtain ⟨updated, hupdated, hwritten⟩ := bind_eq_ok hwritten
  have htask := orThrow_eq_ok htask
  have hin := (applyTaskUpdate_spec hupdated).roadmapId
  have hheld : (state.roadmaps.get updated.roadmapId).isSome := by
    rw [hin]
    cases hgiven : update.roadmapId with
    | none => exact h.held id task htask
    | some => exact hroadmap _ hgiven
  dsimp only at hwritten
  have hset : FollowsExcept (fun other => other = task.roadmapId ∨ other = updated.roadmapId)
      platform { state with tasks := state.tasks.set id updated } := by
    refine h.of_task htask hheld rfl rfl le_rfl fun other hfresh => ?_
    rw [not_or] at hfresh
    refine ⟨fun hfalse => hfalse, ?_⟩
    rintro (hother | hother)
    · exact absurd hother.symm hfresh.1
    · exact absurd hother.symm hfresh.2
  have hfirst : FollowsExcept
      (fun other => updated.roadmapId ≠ task.roadmapId ∧ other = updated.roadmapId) platform
      (recomputeRoadmapStatusInState task.roadmapId
        { state with tasks := state.tasks.set id updated }) := by
    refine hset.recompute task.roadmapId fun other hother => ?_
    by_cases hsame : other = task.roadmapId
    · exact .inr hsame
    · have hupdatedIn := hother.resolve_left hsame
      exact .inl ⟨hupdatedIn ▸ hsame, hupdatedIn⟩
  have hkeeps := keepsRoadmaps_recompute task.roadmapId
    { state with tasks := state.tasks.set id updated }
  generalize hsecond : (if updated.roadmapId ≠ task.roadmapId then _ else _) = second at hwritten
  have hboth : Follows platform second ∧ KeepsRoadmaps state second := by
    rw [← hsecond]
    split
    · exact ⟨hfirst.recompute updated.roadmapId fun other hother => .inr hother.2,
        fun other hother => keepsRoadmaps_recompute _ _ other (hkeeps other hother)⟩
    next hsame => exact ⟨hfirst.mono fun _ hother => hsame hother.1, hkeeps⟩
  obtain ⟨_, _, hdrawn, hgates⟩ := insertManualGate_frame hwritten
  rw [hgates]
  exact ⟨hboth.1.of_same rfl rfl hdrawn, hboth.2⟩

theorem follows_updateTask {aborted : Option String}
    (hroadmap : ∀ roadmapId, update.roadmapId = some roadmapId →
      (state.roadmaps.get roadmapId).isSome)
    (hupdated : updateTaskInState platform id update now state = .ok (aborted, state')) :
    Follows platform state' ∧ KeepsRoadmaps state state' := by
  unfold updateTaskInState at hupdated
  by_cases haborts : update.status.any shouldAbortActiveRunForTaskStatus = true
  · rw [if_pos haborts] at hupdated
    obtain ⟨written, hwritten, hupdated⟩ := bind_eq_ok hupdated
    cases hupdated
    obtain ⟨_, _, hframe⟩ := abort_frame id now state
    have hsame : (abortActiveRunInState id now state).2.roadmaps = state.roadmaps := by
      rw [hframe]
    obtain ⟨hfollows, hkeeps⟩ := follows_writeTaskUpdate (h.abort id now)
      (fun roadmapId hgiven => hsame ▸ hroadmap roadmapId hgiven) hwritten
    exact ⟨hfollows, fun other hother => hkeeps other (hsame ▸ hother)⟩
  · rw [if_neg haborts] at hupdated
    obtain ⟨_, hwritten, hupdated⟩ := bind_eq_ok hupdated
    cases hupdated
    exact follows_writeTaskUpdate h hroadmap hwritten

omit h in
theorem isSome_of_validate (h : validateTaskUpdate state task update = .ok ()) (roadmapId : String)
    (hgiven : update.roadmapId = some roadmapId) : (state.roadmaps.get roadmapId).isSome := by
  unfold validateTaskUpdate at h
  obtain ⟨_, -, h⟩ := bind_eq_ok h
  obtain ⟨_, haccepts, h⟩ := bind_eq_ok h
  rw [hgiven] at haccepts
  exact isSome_of_accepts haccepts

theorem follows_updateWorkTask
    (hupdated : updateWorkTask platform id update now state = .ok (answer, state')) :
    Follows platform state' := by
  unfold updateWorkTask at hupdated
  split at hupdated
  · cases hupdated
    exact h
  · obtain ⟨_, hvalid, hupdated⟩ := bind_eq_ok hupdated
    obtain ⟨⟨_, _⟩, hnext, hupdated⟩ := bind_eq_ok hupdated
    cases hupdated
    exact (follows_updateTask h (isSome_of_validate hvalid) hnext).1

theorem follows_updateTasks {aborted : List String}
    (hroadmap : ∀ entry ∈ updates, ∀ roadmapId, entry.2.roadmapId = some roadmapId →
      (state.roadmaps.get roadmapId).isSome)
    (hupdated : updateTasksInState platform now updates state = .ok (aborted, state')) :
    Follows platform state' := by
  induction updates generalizing state aborted with
  | nil =>
    cases hupdated
    exact h
  | cons entry _ ih =>
    obtain ⟨_, _⟩ := entry
    rw [updateTasksInState] at hupdated
    obtain ⟨⟨_, _⟩, hnext, hupdated⟩ := bind_eq_ok hupdated
    obtain ⟨⟨_, _⟩, hlast, hupdated⟩ := bind_eq_ok hupdated
    cases hupdated
    obtain ⟨hfollows, hkeeps⟩ := follows_updateTask h (hroadmap _ (.head _)) hnext
    exact ih hfollows (fun other hmem roadmapId hgiven =>
      hkeeps roadmapId (hroadmap other (.tail _ hmem) roadmapId hgiven)) hlast

omit h in
theorem isSome_of_validateAll
    (h : validateTaskUpdates state updates = .ok ()) : ∀ entry ∈ updates, ∀ roadmapId,
      entry.2.roadmapId = some roadmapId → (state.roadmaps.get roadmapId).isSome := by
  induction updates with
  | nil => exact fun entry hmem => absurd hmem List.not_mem_nil
  | cons first _ ih =>
    obtain ⟨_, _⟩ := first
    rw [validateTaskUpdates] at h
    obtain ⟨_, -, h⟩ := bind_eq_ok h
    obtain ⟨_, hvalid, h⟩ := bind_eq_ok h
    intro entry hmem
    rcases List.mem_cons.mp hmem with rfl | hmem
    · exact isSome_of_validate hvalid
    · exact ih h entry hmem

theorem follows_updateWorkTasks
    (hupdated : updateWorkTasks platform updates now state = .ok (answer, state')) :
    Follows platform state' := by
  unfold updateWorkTasks at hupdated
  obtain ⟨_, -, hupdated⟩ := bind_eq_ok hupdated
  obtain ⟨_, -, hupdated⟩ := bind_eq_ok hupdated
  obtain ⟨_, hvalid, hupdated⟩ := bind_eq_ok hupdated
  obtain ⟨⟨_, _⟩, hnext, hupdated⟩ := bind_eq_ok hupdated
  cases hupdated
  exact follows_updateTasks h (isSome_of_validateAll hvalid) hnext

omit h

theorem acted_roadmapId (action : WorkTaskAction) (stage note : Option String)
    (task : WorkTaskRecord) : (task.acted action stage note).roadmapId = task.roadmapId := by
  cases action <;> rfl

variable (h : Follows platform state)
include h

theorem follows_applyWorkTaskAction {action : WorkTaskAction} {stage note : Option String}
    (hacted : applyWorkTaskAction id action stage note now state = .ok (answer, state')) :
    Follows platform state' := by
  unfold applyWorkTaskAction at hacted
  split at hacted
  · cases hacted
    exact h
  next htask =>
    obtain ⟨_, -, hacted⟩ := bind_eq_ok hacted
    obtain ⟨_, -, hacted⟩ := bind_eq_ok hacted
    by_cases haborts : action.abortsRun = true
    · rw [if_pos haborts] at hacted
      cases hacted
      obtain ⟨_, hget, hsame⟩ := FollowsExcept.get_abort now htask
      exact (h.abort id now).update hget hsame (acted_roadmapId _ _ _ _)
    · rw [if_neg haborts] at hacted
      cases hacted
      exact h.update htask rfl (acted_roadmapId _ _ _ _)

theorem follows_markWorkTaskDone (text : String) (now : Int) :
    Follows platform (markWorkTaskDone text now state).2 := by
  unfold markWorkTaskDone
  cases hnamed : state.taskNamed text with
  | none => exact h
  | some found =>
    obtain ⟨_, _⟩ := found
    exact h.abortAndUpdate now
      ((get_eq_some_iff _ _ _).mpr (List.mem_of_find?_eq_some hnamed)) fun _ => rfl

theorem follows_archiveWorkTask (id : String) (note : Option String)
    (now : Int) : Follows platform (archiveWorkTask id note now state).2 := by
  unfold archiveWorkTask
  cases htask : state.tasks.get id with
  | none => exact h
  | some => exact h.abortAndUpdate now htask fun _ => rfl

omit h

/-! ## Runs -/

theorem controlled_roadmapId (action : ActiveRunControlAction) (run : RunRecord)
    (note : Option String) (task : WorkTaskRecord) :
    (task.controlled action run note).roadmapId = task.roadmapId := by
  cases action <;> rfl

section

variable (h : Follows platform state)
include h

theorem follows_applyActiveRunControl (control : ActiveRunControlInput) (now : Int) :
    Follows platform (applyActiveRunControl control now state).2 := by
  unfold applyActiveRunControl
  split
  · exact h
  next _ _ =>
    split
    · exact h
    next htask =>
      split
      · exact h
      · split
        · exact h
        · split
          · exact h
          · exact h.abortAndUpdate now htask fun _ => controlled_roadmapId _ _ _ _

theorem follows_startRun {start : RunStart}
    {runId : String} (hstarted : startRun platform start now state = some (runId, state')) :
    Follows platform state' := by
  obtain ⟨_, hspec⟩ := startRun_spec hstarted
  refine h.of_task_same hspec.startable.held ?_ ?_ hspec.roadmaps hspec.tasks
    (hspec.drawn ▸ Nat.le_succ _)
  · rfl
  · rw [hspec.startable.pending]
    rfl

theorem follows_startWorkTaskRun (start : RunStart) (now : Int) :
    Follows platform (startWorkTaskRun platform start now state).2 := by
  unfold startWorkTaskRun
  split
  · exact h
  next hstarted => exact follows_startRun h hstarted

theorem follows_startWorkTaskRunFromDispatch (dispatchId : String) (start : RunStart) (now : Int) :
    Follows platform (startWorkTaskRunFromDispatch platform dispatchId start now state).2 := by
  unfold startWorkTaskRunFromDispatch
  split
  · exact h
  · split
    · exact h
    next hstarted => exact (follows_startRun h hstarted).of_same rfl rfl le_rfl

theorem FollowsExcept.settle (runs : OrderedMap String RunRecord)
    (htask : state.tasks.get id = some task) (hin : task.roadmapId = roadmapId)
    (hroadmap : task'.roadmapId = task.roadmapId) :
    Follows platform (recomputeRoadmapStatusInState roadmapId
      { state with runs := runs, tasks := state.tasks.set id task' }) := by
  subst hin
  have hwritten : FollowsExcept (fun other => False ∨ other = task.roadmapId) platform
      { state with runs := runs, tasks := state.tasks.set id task' } :=
    h.of_task_within htask hroadmap rfl rfl le_rfl
  exact hwritten.recompute task.roadmapId fun _ hid => hid

theorem follows_expireLease (now : Int) (runId : String) :
    Follows platform (expireLeaseInState now state runId) := by
  unfold expireLeaseInState settleLostRun
  cases hrun : state.runs.get runId with
  | none => exact h
  | some run =>
    rw [Option.bind_some]
    dsimp only
    cases htask : state.tasks.get run.taskId with
    | none => exact h
    | some task =>
      by_cases hnames : task.currentRunId = some runId
      · rw [Option.filter_some, decide_eq_true hnames, if_pos rfl]
        dsimp only
        rw [if_neg (not_not.mpr hnames)]
        exact h.settle _ htask rfl rfl
      · rw [Option.filter_some, decide_eq_false hnames]
        dsimp only
        rw [if_pos hnames]
        exact h

theorem follows_recoverExpiredWorkLeases (now : Int) :
    Follows platform (recoverExpiredWorkLeases now state).2 := by
  unfold recoverExpiredWorkLeases
  dsimp only
  generalize state.runningRunIds _ = ids
  induction ids generalizing state with
  | nil => exact h
  | cons runId _ ih => exact ih (follows_expireLease h now runId)

theorem follows_abortWorkEnvironment (id : String) (note : Option String) (now : Int) :
    Follows platform (abortWorkEnvironment id note now state).2 := by
  unfold abortWorkEnvironment
  split
  · exact h
  next _ _ _ =>
    split
    · exact h
    · split
      · exact h
      next hheld =>
        obtain ⟨htask, -⟩ := Option.filter_eq_some_iff.mp hheld
        dsimp only
        split
        · exact h.abort _ now
        · obtain ⟨_, hget, hsame⟩ := FollowsExcept.get_abort now htask
          exact (h.abort _ now).update hget hsame rfl

end

theorem decided_standing (toUpperCase : String → String) (task : WorkTaskRecord) (stage : String)
    (result : StageResult) (retryLimit : Int) (hopen : isTaskRunOwnershipTerminalStatus
      (decideNextTaskState toUpperCase task stage result retryLimit).taskStatus ≠ true) :
    (decideNextTaskState toUpperCase task stage result retryLimit).taskStatus.standing =
      some .underway := by
  have hverdict := verdict_decide toUpperCase task stage result retryLimit
  generalize decideNextTaskState toUpperCase task stage result retryLimit = decision
    at hverdict hopen
  cases hverdict with
  | blocked | finished => exact absurd rfl hopen
  | retried | advanced => rfl

variable (h : Follows platform state)
include h

theorem follows_completeWorkTaskRun (runId : String) (result : StageResult) (retryLimit : Int)
    (expectedLease : RunLeaseExpectation) (collected : Option EnvironmentCollection) (now : Int) :
    Follows platform (completeWorkTaskRun platform runId result retryLimit expectedLease collected
      now state).2 := by
  unfold completeWorkTaskRun
  split
  · exact h
  next howned =>
    obtain ⟨-, htask, -, hrunning, -⟩ := ownedRun_eq_some_iff.mp howned
    split
    · exact h
    · unfold applyStageResultInState
      dsimp only
      split
      · exact h.settle _ htask rfl rfl
      next hopen =>
        refine h.of_task_same htask ?_ ?_ rfl rfl le_rfl
        · rfl
        · rw [hrunning]
          exact decided_standing _ _ _ _ _ hopen

theorem follows_blockActiveWorkTaskRun (runId note : String)
    (now : Int) : Follows platform (blockActiveWorkTaskRun runId note now state).2 := by
  unfold blockActiveWorkTaskRun
  split
  · exact h
  next howned => exact h.settle _ (ownedRun_eq_some_iff.mp howned).2.1 rfl rfl

/-! ## Orphans -/

/-- An orphan recovery blocks a task of an active roadmap. -/
def BlocksOrphan (state : WorkState) (operation : WorkOperation) : Prop :=
  ∃ retryLimit runId run task, operation.orphanLimit = some retryLimit ∧
    state.runs.get runId = some run ∧ run.status = .running ∧
    operation.loses runId run = true ∧ state.tasks.get run.taskId = some task ∧
    task.currentRunId = some runId ∧ (task.recovered run retryLimit orphanSummary).status =
      .blocked ∧
    (state.roadmaps.get task.roadmapId).map RoadmapRecord.status = some .active

omit h in
theorem recovered_roadmapId (task : WorkTaskRecord) (run : RunRecord) (retryLimit : Int)
    (summary : String) : (task.recovered run retryLimit summary).roadmapId = task.roadmapId := by
  unfold WorkTaskRecord.recovered
  split <;> rfl

theorem FollowsExcept.lose (runs : OrderedMap String RunRecord)
    (htask : state.tasks.get id = some task) (hrunning : task.status = .running)
    (hroadmap : task'.roadmapId = task.roadmapId)
    (hstatus : task'.status = .pending ∨ task'.status = .blocked ∧
      (state.roadmaps.get task.roadmapId).map RoadmapRecord.status ≠ some .active) :
    Follows platform { state with runs := runs, tasks := state.tasks.set id task' } := by
  rcases hstatus with hpending | ⟨hblocked, hinactive⟩
  · refine h.of_task_same htask hroadmap ?_ rfl rfl le_rfl
    rw [hpending, hrunning]
    rfl
  · have hwritten : FollowsExcept (fun other => False ∨ other = task.roadmapId) platform
        { state with runs := runs, tasks := state.tasks.set id task' } :=
      h.of_task_within htask hroadmap rfl rfl le_rfl
    refine ⟨fun other roadmap hget hopen _ => ?_, hwritten.held, hwritten.roadmapDrawn,
      hwritten.taskDrawn⟩
    by_cases hother : other = task.roadmapId
    · subst hother
      have hbefore := h.status _ roadmap hget hopen fun hfalse => hfalse
      have hafter : roadmapStatusOf (WorkState.tasksOf
          { state with runs := runs, tasks := state.tasks.set id task' } task.roadmapId) =
          .blocked :=
        roadmapStatusOf_blocked ⟨id, task', get_set_self _ _ _, hroadmap, by
          rw [hblocked]
          rfl⟩
      rw [hafter]
      have hunderway : state.Contributes task.roadmapId .underway :=
        ⟨id, task, htask, rfl, by rw [hrunning]; rfl⟩
      rcases roadmapStatusOf_underway hunderway with hstatus | hstatus
      · exact hbefore.trans hstatus
      · have hactive : state.roadmaps.get task.roadmapId = some roadmap := hget
        rw [hactive, Option.map_some, hbefore, hstatus] at hinactive
        exact absurd rfl hinactive
    · refine hwritten.status other roadmap hget hopen ?_
      rintro (hfalse | heq)
      · exact hfalse
      · exact hother heq

omit h

theorem follows_recoverOrphans {predicate : String → RunRecord → Bool} {retryLimit : Int}
    (hlinked : Linked platform origin) (h : Follows platform origin)
    (horphan : input.operation.orphanLimit = some retryLimit)
    (hlost : input.operation.loses = predicate) (hblocks : ¬ BlocksOrphan origin input.operation) :
    Follows platform (recoverOrphans predicate retryLimit input.now origin).2 := by
  have hloop := inLoop_runningRunIds origin predicate
  unfold recoverOrphans recoverRunsInState
  generalize origin.runningRunIds predicate = ids at hloop
  -- the loop leaves the roadmaps alone, so the guard holds on every turn
  suffices hall : ∀ state, InLoop predicate origin state ids → Follows platform state →
      state.roadmaps = origin.roadmaps → Follows platform (ids.foldl
        (settleLostRun input.now fun task run => task.recovered run retryLimit orphanSummary) state)
    from hall origin hloop h rfl
  clear hloop
  induction ids with
  | nil => exact fun state _ hfollows _ => hfollows
  | cons runId _ ih =>
    intro state hloop hfollows hroadmaps
    have hsettled : WorkSteps platform input origin state _ ∧ _ := hloop.settle
      (fun task run => recovered_currentRunId task run retryLimit orphanSummary)
      (fun hrun hheld hrunning hchosen htask hid hcurrent =>
        .recovered horphan hrun hheld hrunning htask hid hcurrent (by rw [hlost]; exact hchosen))
    rw [List.foldl_cons]
    obtain ⟨run, horigin, hrunning, hchosen, hrun⟩ := hloop.runs runId (.head _)
    refine ih _ hsettled.2 ?_ ?_
    · unfold settleLostRun
      rw [hrun]
      dsimp only
      cases htask : state.tasks.get run.taskId with
      | none => exact hfollows
      | some task =>
        dsimp only
        split
        · exact hfollows
        next hnames =>
          rw [not_not] at hnames
          have hheld := hloop.tasks run.taskId task htask (by rw [hnames]; simp)
          refine hfollows.lose _ htask (hlinked.named _ _ _ hheld hnames).1
            (recovered_roadmapId _ _ _ _) ?_
          by_cases hblocked : (task.recovered run retryLimit orphanSummary).status = .blocked
          · refine .inr ⟨hblocked, fun hactive => hblocks ⟨retryLimit, runId, run, task, horphan,
              horigin, hrunning, ?_, hheld, hnames, hblocked, hroadmaps ▸ hactive⟩⟩
            rw [hlost]
            exact hchosen
          · left
            unfold WorkTaskRecord.recovered at hblocked ⊢
            split
            · rfl
            next hover =>
              rw [if_neg hover] at hblocked
              exact absurd rfl hblocked
    · unfold settleLostRun
      rw [hrun]
      dsimp only
      split
      · exact hroadmaps
      · split
        · exact hroadmaps
        · exact hroadmaps

/-! ## Gates -/

variable (h : Follows platform state)
include h

theorem follows_setGate (gates : OrderedMap String HumanGateRecord) :
    Follows platform { state with gates } := h.of_same rfl rfl le_rfl

theorem follows_decideHumanGate (id : String) (decision : HumanGateDecision) (note : Option String)
    (scope : Option HumanGateScope)
    (now : Int) : Follows platform (decideHumanGate id decision note scope now state).2 := by
  unfold decideHumanGate
  cases hgate : state.gates.get id with
  | none => exact h
  | some =>
    dsimp only
    split
    · exact h
    · split
      · exact follows_setGate h _
      next htask =>
        obtain ⟨-, htask⟩ := taskOfGate_eq_some_iff.mp htask
        split
        · exact (follows_setGate h _).update htask rfl rfl
        · exact (follows_setGate h _).abortAndUpdate now htask fun _ => rfl

theorem follows_consumeHumanGate (id : String) :
    Follows platform (consumeHumanGate id state).2 := by
  unfold consumeHumanGate
  split
  · exact h
  · split
    · exact h
    · exact follows_setGate h _

theorem follows_timeoutHumanGate (id : String) (action : HumanGateTimeoutAction) (now : Int) :
    Follows platform (timeoutHumanGate id action now state).2 := by
  unfold timeoutHumanGate
  cases hgate : state.gates.get id with
  | none => exact h
  | some =>
    dsimp only
    split
    · exact h
    · cases action with
      | remind => exact h
      | escalate => exact follows_setGate h _
      | pause | block =>
        dsimp only
        split
        · exact follows_setGate h _
        next htask =>
          obtain ⟨-, htask⟩ := taskOfGate_eq_some_iff.mp htask
          exact (follows_setGate h _).abortAndUpdate now htask fun _ => rfl

omit h

/-! ## Every operation -/

def WorkOperation.setsRoadmapStatus : WorkOperation → Bool
  | .updateRoadmap _ update => update.status.isSome
  | _ => false

theorem follows_receipts {change : TaskDispatchReceiptRecord → Option TaskDispatchReceiptRecord}
    (h : Follows platform state) (dispatchId : String) :
    Follows platform (updateTaskDispatchReceipt dispatchId change state).2 := by
  unfold updateTaskDispatchReceipt
  split
  · exact h
  · exact h.of_same rfl rfl le_rfl

theorem follows_attempt (hlinked : Linked platform origin)
    (h : Follows platform origin) (hunset : input.operation.setsRoadmapStatus = false)
    (hblocks : ¬ BlocksOrphan origin input.operation)
    (hok : attempt platform input.now origin input.operation = .ok (answer, state')) :
    Follows platform state' := by
  generalize hoperation : input.operation = operation at hok hunset
  cases operation with
  | createRoadmap =>
    obtain ⟨⟨id, created⟩, hcreated, hok⟩ := bind_eq_ok hok
    cases hok
    exact follows_createRoadmap h hcreated
  | createRoadmapWithTasks => exact follows_createRoadmapWithTasks h hok
  | planInitiative => exact follows_planInitiative h hok
  | updateRoadmap _ update =>
    have hnone : update.status = none :=
      Option.isNone_iff_eq_none.mp (Option.isSome_eq_false_iff.mp hunset)
    exact follows_updateRoadmap h hnone hok
  | recomputeRoadmapStatus roadmapId =>
    cases hok
    exact h.recompute roadmapId fun _ hid => hid.elim
  | archiveRoadmap roadmapId note =>
    obtain rfl := eq_of_answered hok
    exact follows_archiveRoadmap h roadmapId note input.now
  | deleteRoadmap => exact follows_deleteRoadmap h hok
  | createWorkTask =>
    obtain ⟨⟨id, created⟩, hcreated, hok⟩ := bind_eq_ok hok
    cases hok
    exact follows_createTask h hcreated
  | createWorkTasks =>
    obtain ⟨⟨_, _⟩, hcreated, hok⟩ := bind_eq_ok hok
    cases hok
    exact follows_createTasks h hcreated
  | updateWorkTask => exact follows_updateWorkTask h hok
  | updateWorkTasks => exact follows_updateWorkTasks h hok
  | applyWorkTaskAction => exact follows_applyWorkTaskAction h hok
  | markWorkTaskDone text =>
    obtain rfl := eq_of_answered hok
    exact follows_markWorkTaskDone h text input.now
  | archiveWorkTask id note =>
    obtain rfl := eq_of_answered hok
    exact follows_archiveWorkTask h id note input.now
  | deleteWorkTask => exact follows_deleteWorkTask h hok
  | addWorkDependency =>
    obtain ⟨_, hadded, hok⟩ := bind_eq_ok hok
    cases hok
    obtain ⟨_, rfl⟩ := addDependency_frame hadded
    exact h.of_same rfl rfl le_rfl
  | deleteWorkDependency =>
    cases hok
    exact h.of_same rfl rfl le_rfl
  | applyActiveRunControl control =>
    obtain rfl := eq_of_answered hok
    exact follows_applyActiveRunControl h control input.now
  | startWorkTaskRun start =>
    obtain rfl := eq_of_answered hok
    exact follows_startWorkTaskRun h start input.now
  | startWorkTaskRunFromDispatch dispatchId start =>
    obtain rfl := eq_of_answered hok
    exact follows_startWorkTaskRunFromDispatch h dispatchId start input.now
  | renewWorkTaskRunLease =>
    obtain rfl := eq_of_answered hok
    unfold renewWorkTaskRunLease
    split
    · exact h
    · exact h.of_same rfl rfl le_rfl
  | adoptActiveWorkRunLeases =>
    obtain rfl := eq_of_answered hok
    unfold adoptActiveWorkRunLeases
    split
    · exact h
    · exact h.of_same rfl rfl le_rfl
  | recoverExpiredWorkLeases =>
    obtain rfl := eq_of_answered hok
    exact follows_recoverExpiredWorkLeases h input.now
  | recoverOrphanedWorkRuns | recoverOrphanedWorkRun =>
    have hlimit := congrArg WorkOperation.orphanLimit hoperation
    have hlost := congrArg WorkOperation.loses hoperation
    obtain rfl := eq_of_answered hok
    exact follows_recoverOrphans hlinked h hlimit hlost hblocks
  | abortWorkEnvironment id note =>
    obtain rfl := eq_of_answered hok
    exact follows_abortWorkEnvironment h id note input.now
  | completeWorkTaskRun runId result retryLimit expectedLease collected =>
    obtain rfl := eq_of_answered hok
    exact follows_completeWorkTaskRun h runId result retryLimit expectedLease collected input.now
  | blockActiveWorkTaskRun runId note =>
    obtain rfl := eq_of_answered hok
    exact follows_blockActiveWorkTaskRun h runId note input.now
  | createHumanGate =>
    obtain ⟨⟨id, _⟩, hinserted, hok⟩ := bind_eq_ok hok
    cases hok
    obtain ⟨_, _, hdrawn, rfl⟩ := insertHumanGateRow_frame hinserted
    exact h.of_same rfl rfl hdrawn
  | decideHumanGate id decision note scope =>
    obtain rfl := eq_of_answered hok
    exact follows_decideHumanGate h id decision note scope input.now
  | consumeHumanGate id =>
    obtain rfl := eq_of_answered hok
    exact follows_consumeHumanGate h id
  | timeoutHumanGate id action =>
    obtain rfl := eq_of_answered hok
    exact follows_timeoutHumanGate h id action input.now
  | reserveTaskDispatchStart =>
    rcases reserve_cases hok with rfl | ⟨_, _, -, rfl⟩
    · exact h
    · exact h.of_same rfl rfl (Nat.le_succ _)
  | journalTaskDispatchAcquisitionIntent dispatchId kind
  | attachTaskDispatchEnvironment dispatchId environment
  | markTaskDispatchAcquisitionSettled dispatchId kind failed
  | markTaskDispatchStarted dispatchId runId sessionId
  | markTaskDispatchFailed dispatchId =>
    obtain rfl := eq_of_answered hok
    exact follows_receipts h dispatchId
  | attachTaskDispatchSession dispatchId =>
    unfold attempt attachTaskDispatchSession at hok
    dsimp only at hok
    split at hok
    · cases hok
      exact h
    · obtain ⟨_, -, hok⟩ := bind_eq_ok hok
      obtain rfl := eq_of_answered hok
      exact follows_receipts h dispatchId
  | recoverExpiredTaskDispatchStarts =>
    obtain rfl := eq_of_answered hok
    exact h.of_same rfl rfl le_rfl

theorem FollowsExcept.perform (hlinked : Linked platform state) (h : Follows platform state)
    (hunset : input.operation.setsRoadmapStatus = false)
    (hblocks : ¬ BlocksOrphan state input.operation) :
    Follows platform (perform platform state input).2 := by
  unfold Gateway.perform
  split
  next hok => exact follows_attempt hlinked h hunset hblocks hok
  · exact h

theorem FollowsExcept.empty : Follows platform .empty where
  status _ _ hroadmap := by cases hroadmap
  held _ _ htask := by cases htask
  roadmapDrawn _ hroadmap := by cases hroadmap
  taskDrawn _ htask := by cases htask

end Operations

/-- A roadmap has the status that its tasks give it after any operations, unless one gives it a
status explicitly or an orphan recovery blocks a task of an active roadmap. -/
theorem roadmap_status_followed (platform : WorkPlatform) (inputs : List WorkInput)
    (hunset : ∀ input ∈ inputs, input.operation.setsRoadmapStatus = false)
    (hblocks : ∀ moment ∈ (workStore platform).history .empty inputs,
      ¬ BlocksOrphan moment.before moment.input.operation) :
    ∀ id roadmap, ((workStore platform).run .empty inputs).roadmaps.get id = some roadmap →
      roadmap.status ≠ .archived →
      roadmap.status = roadmapStatusOf (((workStore platform).run .empty inputs).tasksOf id) := by
  have hboth := (workStore platform).history_invariant_of
    (fun moment => moment.input.operation.setsRoadmapStatus = false ∧
      ¬ BlocksOrphan moment.before moment.input.operation)
    (fun _ state => Linked platform state ∧ Follows platform state)
    (fun _ state input h hguard => ⟨h.1.steps (perform_steps platform state input),
      h.2.perform h.1 hguard.1 hguard.2⟩)
    .empty ⟨.empty platform, .empty⟩ inputs fun moment hmem =>
      ⟨hunset _ ((workStore platform).input_mem_of_mem_history _ hmem), hblocks moment hmem⟩
  exact fun id roadmap hroadmap hopen => hboth.2.status id roadmap hroadmap hopen not_false

def createdAndBlocked : List WorkInput :=
  [⟨0, .createWorkTask { title := "Report" }⟩, ⟨1, .applyWorkTaskAction "task_" .block none none⟩]

theorem roadmap_status_followed_blocked : ∃ roadmap,
    ((workStore countingPlatform).run .empty createdAndBlocked).roadmaps.get inboxRoadmapId =
      some roadmap ∧ roadmap.status = .blocked ∧ roadmap.status = roadmapStatusOf
        (((workStore countingPlatform).run .empty createdAndBlocked).tasksOf inboxRoadmapId) := by
  obtain ⟨roadmap, hroadmap, hstatus⟩ := Option.map_eq_some_iff.mp (by decide +kernel :
    (((workStore countingPlatform).run .empty createdAndBlocked).roadmaps.get inboxRoadmapId).map
      RoadmapRecord.status = some .blocked)
  refine ⟨roadmap, hroadmap, hstatus, roadmap_status_followed countingPlatform createdAndBlocked
    ?_ ?_ inboxRoadmapId roadmap hroadmap ?_⟩
  · decide
  · rintro moment hmem ⟨retryLimit, runId, run, task, horphan, -⟩
    have hinput := (workStore countingPlatform).input_mem_of_mem_history _ hmem
    rw [createdAndBlocked, List.mem_cons, List.mem_singleton] at hinput
    rcases hinput with hinput | hinput <;> rw [hinput] at horphan <;> cases horphan
  · rw [hstatus]
    decide

/-- The session of a run gets lost, and no retry is allowed. -/
def lostWithoutRetry : List WorkInput :=
  [⟨0, .createWorkTask { title := "Report" }⟩,
    ⟨1, .startWorkTaskRun
      { taskId := "task_", stage := "implement", sessionId := "session", profile := "profile" }⟩,
    ⟨2, .recoverOrphanedWorkRuns [] 0⟩]

/-- Its only task is blocked, and the roadmap stays active. -/
theorem active_roadmap_of_blocked_task :
    (((workStore countingPlatform).run .empty lostWithoutRetry).roadmaps.get inboxRoadmapId).map
      RoadmapRecord.status = some .active ∧
    roadmapStatusOf (((workStore countingPlatform).run .empty lostWithoutRetry).tasksOf
      inboxRoadmapId) = .blocked ∧
    ∀ input ∈ lostWithoutRetry, input.operation.setsRoadmapStatus = false := by
  decide +kernel

end OpenCowork.Gateway
