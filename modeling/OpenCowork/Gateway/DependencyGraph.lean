import OpenCowork.Foundation.Acyclic
import OpenCowork.Gateway.GateChains

/-! # The dependency graph

Blocking dependencies form no cycle, since a dependency that closed one is refused: the search for
a way back finds one exactly if there is one.
-/

namespace OpenCowork.Gateway

open Foundation Relation

def Leads (edges : List WorkDependencyRecord) (taskId dependsOnTaskId : String) : Prop :=
  ∃ dep ∈ edges, dep.taskId = taskId ∧ dep.dependsOnTaskId = dependsOnTaskId

/-- A task waits for another by a blocking dependency. -/
def WorkState.Blocks (state : WorkState) : String → String → Prop :=
  Leads (state.dependencies.filter isBlockingDependency)

section Search

variable {edges : List WorkDependencyRecord} {target taskId : String} {stack seen : List String}

theorem mem_targetsOf {next : String} : next ∈ targetsOf edges taskId ↔
    Leads edges taskId next := by
  simp only [targetsOf, Leads, List.mem_map, List.mem_filter, decide_eq_true_eq, and_assoc]

theorem reachesTask_iff (h : Searched (Leads edges) target stack seen) :
    reachesTask edges target stack seen = true ↔
      ∃ taskId ∈ stack, ReflTransGen (Leads edges) taskId target := by
  induction stack, seen using reachesTask.induct edges target with
  | case1 =>
    rw [reachesTask]
    simp
  | case2 =>
    rw [reachesTask, if_pos rfl]
    exact iff_of_true rfl ⟨target, .head _, .refl⟩
  | case3 _ _ _ htarget hseen ih =>
    rw [reachesTask, if_neg htarget, if_pos hseen, ih (h.drop hseen)]
    simp only [List.exists_mem_cons_iff]
    constructor
    · exact .inr
    · rintro (hpath | hpath)
      · exact (h.drop hseen).exists_mem_stack hseen hpath
      · exact hpath
  | case4 _ _ _ htarget hseen ih =>
    rw [reachesTask, if_neg htarget, if_neg hseen,
      ih (h.visit htarget fun _ hedge => mem_targetsOf.mpr hedge)]
    simp only [List.mem_append, List.exists_mem_cons_iff, or_and_right, exists_or, mem_targetsOf]
    refine or_congr_left ⟨?_, fun hpath => ?_⟩
    · rintro ⟨_, hedge, hpath⟩
      exact hpath.head hedge
    · rcases hpath.cases_head with rfl | hpath
      · exact absurd rfl htarget
      · exact hpath

end Search

section Cycles

variable {state : WorkState} {record : WorkDependencyRecord} {state' : WorkState}

theorem leads_append (edges : List WorkDependencyRecord) (record : WorkDependencyRecord) :
    Leads (edges ++ [record]) = WithEdge (Leads edges) record.taskId record.dependsOnTaskId := by
  funext taskId dependsOnTaskId
  simp only [Leads, WithEdge, List.mem_append, List.mem_singleton, or_and_right, exists_or,
    exists_eq_left, eq_comm (a := taskId), eq_comm (a := dependsOnTaskId)]

theorem assertNoDependencyCycle_eq_ok_iff : assertNoDependencyCycle state record = .ok () ↔
    (isBlockingDependency record = true →
      ¬ ReflTransGen state.Blocks record.dependsOnTaskId record.taskId) := by
  unfold assertNoDependencyCycle
  split
  next hblocking =>
    rw [refuseIf_eq_ok, reachesTask_iff (.start _ _ _), leads_append]
    simp only [List.mem_singleton, exists_eq_left, reflTransGen_withEdge_source]
    exact ⟨fun h _ => h, fun h => h hblocking⟩
  next hblocking => exact iff_of_true rfl fun h => absurd h hblocking

variable (hdependencies : state'.dependencies = state.dependencies ++ [record])
include hdependencies

theorem blocks_append_of_blocking (hblocking : isBlockingDependency record = true) :
    state'.Blocks = WithEdge state.Blocks record.taskId record.dependsOnTaskId := by
  unfold WorkState.Blocks
  rw [hdependencies, List.filter_append, List.filter_singleton, hblocking, cond_true, leads_append]

theorem blocks_append_of_not_blocking
    (hblocking : isBlockingDependency record = false) : state'.Blocks = state.Blocks := by
  unfold WorkState.Blocks
  rw [hdependencies, List.filter_append, List.filter_singleton, hblocking, cond_false,
    List.append_nil]

omit hdependencies

theorem Blocks.of_filter {keeps : WorkDependencyRecord → Bool}
    (hdependencies : state'.dependencies = state.dependencies.filter keeps)
    {taskId dependsOnTaskId : String} (h : state'.Blocks taskId dependsOnTaskId) :
    state.Blocks taskId dependsOnTaskId := by
  obtain ⟨dep, hmem, hends⟩ := h
  rw [hdependencies, List.mem_filter, List.mem_filter] at hmem
  exact ⟨dep, List.mem_filter.mpr ⟨hmem.1.1, hmem.2⟩, hends⟩

end Cycles

/-! ## The invariant -/

/-- The dependencies form no cycle of blocking ones, both ends of each exist, and none of them is
stored twice. -/
structure SoundDependencies (state : WorkState) : Prop where
  acyclic : Acyclic state.Blocks
  ends : ∀ dep ∈ state.dependencies,
    (state.tasks.get dep.taskId).isSome ∧ (state.tasks.get dep.dependsOnTaskId).isSome
  nodup : state.dependencies.Nodup

namespace SoundDependencies

variable {platform : WorkPlatform} {operation : WorkOperation} {origin state state' : WorkState}

theorem empty : SoundDependencies .empty := by
  refine ⟨fun _ hcycle => ?_, fun _ hmem => ?_, List.nodup_nil⟩
  · obtain ⟨_, ⟨_, hmem, -⟩, -⟩ := TransGen.head'_iff.mp hcycle
    exact absurd hmem List.not_mem_nil
  · exact absurd hmem List.not_mem_nil

variable (h : SoundDependencies state)
include h

theorem of_same (hdependencies : state'.dependencies = state.dependencies)
    (htasks : ∀ id, (state.tasks.get id).isSome → (state'.tasks.get id).isSome) :
    SoundDependencies state' := by
  refine ⟨?_, fun dep hmem => ?_, hdependencies ▸ h.nodup⟩
  · unfold WorkState.Blocks
    rw [hdependencies]
    exact h.acyclic
  · rw [hdependencies] at hmem
    exact ⟨htasks _ (h.ends dep hmem).1, htasks _ (h.ends dep hmem).2⟩

theorem of_filter {keeps : WorkDependencyRecord → Bool}
    (hdependencies : state'.dependencies = state.dependencies.filter keeps)
    (htasks : ∀ dep, keeps dep = true → ∀ id, id = dep.taskId ∨ id = dep.dependsOnTaskId →
      (state.tasks.get id).isSome → (state'.tasks.get id).isSome) : SoundDependencies state' := by
  refine ⟨h.acyclic.mono fun _ _ => Blocks.of_filter hdependencies, fun dep hmem => ?_, ?_⟩
  · rw [hdependencies, List.mem_filter] at hmem
    obtain ⟨hmem, hkept⟩ := hmem
    exact ⟨htasks dep hkept _ (.inl rfl) (h.ends dep hmem).1,
      htasks dep hkept _ (.inr rfl) (h.ends dep hmem).2⟩
  · rw [hdependencies]
    exact h.nodup.filter keeps

theorem link {record : WorkDependencyRecord} (htask : (state.tasks.get record.taskId).isSome)
    (htarget : (state.tasks.get record.dependsOnTaskId).isSome) (hnew : record ∉ state.dependencies)
    (hcycle : assertNoDependencyCycle state record = .ok ()) :
    SoundDependencies { state with dependencies := state.dependencies ++ [record] } := by
  refine ⟨?_, fun dep hmem => ?_, ?_⟩
  · cases hblocking : isBlockingDependency record with
    | true =>
      rw [blocks_append_of_blocking rfl hblocking, acyclic_withEdge_iff h.acyclic]
      exact assertNoDependencyCycle_eq_ok_iff.mp hcycle hblocking
    | false =>
      rw [blocks_append_of_not_blocking rfl hblocking]
      exact h.acyclic
  · rcases List.mem_append.mp hmem with hmem | hmem
    · exact h.ends dep hmem
    · rw [List.mem_singleton] at hmem
      subst hmem
      exact ⟨htask, htarget⟩
  · exact h.nodup.append (List.nodup_singleton record) (List.disjoint_singleton.mpr hnew)

/-- A step closes no cycle and leaves no dependency without its ends. -/
theorem step
    (hstep : GateStep platform operation origin state state') : SoundDependencies state' := by
  cases hstep with
  | undisturbed hsame =>
    refine h.of_same hsame.dependencies fun id hid => ?_
    have hmanual := congrArg Option.isSome (hsame.manual id)
    rwa [Option.isSome_map, Option.isSome_map, hid] at hmanual
  | created _ htasks hdependencies | updated _ _ _ htasks hdependencies =>
    exact h.of_same hdependencies fun _ hid => htasks ▸ OrderedMap.isSome_set _ hid
  | linked _ htask htarget hnew hcycle => exact h.link htask htarget hnew hcycle
  | unlinked => exact h.of_filter rfl fun _ _ _ _ hid => hid
  | deleted _ htasks hdependencies =>
    refine h.of_filter hdependencies fun _ hkept id hend hid => ?_
    rw [decide_eq_true_eq] at hkept
    obtain ⟨task, htask⟩ := Option.isSome_iff_exists.mp hid
    rw [htasks, Option.isSome_iff_exists]
    refine ⟨task, (OrderedMap.get_filter_eq_some_iff _ _ _ _).mpr ⟨htask, ?_⟩⟩
    rcases hend with rfl | rfl
    · simpa using hkept.1
    · simpa using hkept.2
  | raised | closed => exact h.of_same rfl fun _ hid => hid
  | approved _ _ _ _ hmanual hdependencies =>
    refine h.of_same hdependencies fun id hid => ?_
    have hsome := congrArg Option.isSome (hmanual id)
    split at hsome
    · rwa [Option.isSome_map, Option.isSome_map, hid] at hsome
    · rwa [Option.isSome_map, Option.isSome_map, hid] at hsome

theorem steps
    (hsteps : GateSteps platform operation origin state state') : SoundDependencies state' := by
  induction hsteps with
  | refl => exact h
  | tail _ hstep ih => exact ih.step hstep

end SoundDependencies

theorem soundDependencies_run (platform : WorkPlatform) (inputs : List WorkInput) :
    SoundDependencies ((workStore platform).run .empty inputs) :=
  (workStore platform).run_invariant SoundDependencies
    (fun state input h => h.steps (perform_gateSteps platform state input)) .empty
    SoundDependencies.empty inputs

/-! ## Adding a dependency -/

section Adding

variable {state : WorkState} {input : WorkDependencyInput} {taskId dependsOnTaskId : String}

theorem SoundDependencies.acyclic_withEdge (h : SoundDependencies state)
    {record : WorkDependencyRecord} (hmem : record ∈ state.dependencies)
    (hblocking : isBlockingDependency record = true) :
    Acyclic (WithEdge state.Blocks record.taskId record.dependsOnTaskId) := by
  refine h.acyclic.mono fun _ _ hedge => ?_
  rcases hedge with hedge | ⟨rfl, rfl⟩
  · exact hedge
  · exact ⟨record, List.mem_filter.mpr ⟨hmem, hblocking⟩, rfl, rfl⟩

/-- Between existing tasks a dependency is refused exactly if it is blocking and closes a cycle. -/
theorem SoundDependencies.addDependency_eq_error_iff (h : SoundDependencies state)
    (htaskId : normalizeRequiredString input.taskId "taskId" 120 = .ok taskId)
    (hdependsOn : normalizeRequiredString input.dependsOnTaskId "dependsOnTaskId" 120 =
      .ok dependsOnTaskId) (hne : taskId ≠ dependsOnTaskId)
    (htask : (state.tasks.get taskId).isSome) (htarget : (state.tasks.get dependsOnTaskId).isSome) :
    (∃ error, addWorkDependencyInState input state = .error error) ↔
      isBlockingDependency { taskId, dependsOnTaskId, type := input.type } = true ∧
        ¬ Acyclic (WithEdge state.Blocks taskId dependsOnTaskId) := by
  obtain ⟨_, htask⟩ := Option.isSome_iff_exists.mp htask
  obtain ⟨_, htarget⟩ := Option.isSome_iff_exists.mp htarget
  generalize hrecord : ({ taskId, dependsOnTaskId, type := input.type } : WorkDependencyRecord) =
    record
  have hadd : addWorkDependencyInState input state =
      if record ∈ state.dependencies then .ok state
      else assertNoDependencyCycle state record >>= fun _ =>
        .ok { state with dependencies := state.dependencies ++ [record] } := by
    unfold addWorkDependencyInState
    rw [htaskId, hdependsOn]
    simp only [ok_bind, refuseIf_of_not hne, htask, htarget, orThrow_some, hrecord]
    rfl
  rw [hadd]
  split
  next hmem =>
    refine iff_of_false ?_ ?_
    · rintro ⟨error, herror⟩
      cases herror
    · rintro ⟨hblocking, hcycle⟩
      have hkept := h.acyclic_withEdge hmem hblocking
      rw [← hrecord] at hkept
      exact hcycle hkept
  · rw [acyclic_withEdge_iff h.acyclic, not_not]
    cases hcycle : assertNoDependencyCycle state record with
    | ok =>
      have hfree := assertNoDependencyCycle_eq_ok_iff.mp hcycle
      rw [← hrecord] at hfree
      refine iff_of_false ?_ ?_
      · rintro ⟨error, herror⟩
        cases herror
      · rintro ⟨hblocking, hpath⟩
        exact hfree (hrecord ▸ hblocking) hpath
    | error error =>
      refine iff_of_true ⟨error, rfl⟩ ?_
      by_contra hfree
      have hok : assertNoDependencyCycle state record = .ok () :=
        assertNoDependencyCycle_eq_ok_iff.mpr fun hblocking hpath => by
          rw [← hrecord] at hpath
          exact hfree ⟨hblocking, hpath⟩
      rw [hcycle] at hok
      cases hok

/-- A dependency that is not refused is stored. -/
theorem mem_of_addDependency {state' : WorkState}
    (htaskId : normalizeRequiredString input.taskId "taskId" 120 = .ok taskId)
    (hdependsOn : normalizeRequiredString input.dependsOnTaskId "dependsOnTaskId" 120 =
      .ok dependsOnTaskId) (h : addWorkDependencyInState input state = .ok state') :
    { taskId, dependsOnTaskId, type := input.type } ∈ state'.dependencies := by
  unfold addWorkDependencyInState at h
  rw [htaskId, hdependsOn] at h
  simp only [ok_bind] at h
  iterate 3 obtain ⟨_, -, h⟩ := bind_eq_ok h
  split at h
  next hmem =>
    cases h
    exact hmem
  · obtain ⟨_, -, h⟩ := bind_eq_ok h
    cases h
    exact List.mem_append_right _ (List.mem_singleton_self _)

end Adding

/-- After any operations blocking dependencies form no cycle, both ends of every dependency and the
task of every run exist, and no dependency is stored twice; and a dependency between two existing
tasks is refused exactly if it is blocking and closes a cycle, and else stored. -/
theorem dependency_graph_sound (platform : WorkPlatform) (inputs : List WorkInput) :
    Acyclic ((workStore platform).run .empty inputs).Blocks ∧
    (∀ dep ∈ ((workStore platform).run .empty inputs).dependencies,
      (((workStore platform).run .empty inputs).tasks.get dep.taskId).isSome ∧
      (((workStore platform).run .empty inputs).tasks.get dep.dependsOnTaskId).isSome) ∧
    (∀ id run, ((workStore platform).run .empty inputs).runs.get id = some run →
      (((workStore platform).run .empty inputs).tasks.get run.taskId).isSome) ∧
    ((workStore platform).run .empty inputs).dependencies.Nodup ∧
    ∀ (now : Int) (input : WorkDependencyInput) (taskId dependsOnTaskId : String),
      normalizeRequiredString input.taskId "taskId" 120 = .ok taskId →
      normalizeRequiredString input.dependsOnTaskId "dependsOnTaskId" 120 = .ok dependsOnTaskId →
      taskId ≠ dependsOnTaskId →
      (((workStore platform).run .empty inputs).tasks.get taskId).isSome →
      (((workStore platform).run .empty inputs).tasks.get dependsOnTaskId).isSome →
      ((∃ error, ((workStore platform).step ((workStore platform).run .empty inputs)
          ⟨now, .addWorkDependency input⟩).1 = .refused error) ↔
        isBlockingDependency { taskId, dependsOnTaskId, type := input.type } = true ∧
          ¬ Acyclic (WithEdge ((workStore platform).run .empty inputs).Blocks taskId
            dependsOnTaskId)) ∧
      ((¬ ∃ error, ((workStore platform).step ((workStore platform).run .empty inputs)
          ⟨now, .addWorkDependency input⟩).1 = .refused error) →
        { taskId, dependsOnTaskId, type := input.type } ∈
          ((workStore platform).step ((workStore platform).run .empty inputs)
            ⟨now, .addWorkDependency input⟩).2.dependencies) := by
  have hsound := soundDependencies_run platform inputs
  refine ⟨hsound.acyclic, hsound.ends, (linked_run platform inputs).runTask, hsound.nodup, ?_⟩
  intro now input taskId dependsOnTaskId htaskId hdependsOn hne htask htarget
  rw [← hsound.addDependency_eq_error_iff htaskId hdependsOn hne htask htarget]
  generalize (workStore platform).run .empty inputs = state
  have hattempt : attempt platform now state (.addWorkDependency input) =
      addWorkDependencyInState input state >>= fun added => .ok (.changed [], added) := rfl
  have hstep : (workStore platform).step state ⟨now, .addWorkDependency input⟩ =
      perform platform state ⟨now, .addWorkDependency input⟩ := rfl
  rw [hstep]
  unfold perform
  rw [hattempt]
  cases hadded : addWorkDependencyInState input state with
  | error error =>
    exact ⟨iff_of_true ⟨error, rfl⟩ ⟨error, rfl⟩, fun haccepted => absurd ⟨error, rfl⟩ haccepted⟩
  | ok =>
    refine ⟨iff_of_false ?_ ?_, fun _ => mem_of_addDependency htaskId hdependsOn hadded⟩
    · rintro ⟨error, herror⟩
      cases herror
    · rintro ⟨error, herror⟩
      cases herror

/-- Two tasks, the second of which waits for the first. -/
def reportAndReview : List WorkInput :=
  [⟨0, .createWorkTask { title := "Report" }⟩,
    ⟨1, .createWorkTask { title := "Review", dependsOn := ["task_"] }⟩]

theorem dependency_graph_sound_review (now : Int) :
    (∃ error, ((workStore countingPlatform).step
        ((workStore countingPlatform).run .empty reportAndReview)
        ⟨now, .addWorkDependency { taskId := "task_", dependsOnTaskId := "task_a" }⟩).1 =
      .refused error) ↔
    isBlockingDependency { taskId := "task_", dependsOnTaskId := "task_a", type := .blocks } =
      true ∧
      ¬ Acyclic (WithEdge ((workStore countingPlatform).run .empty reportAndReview).Blocks "task_"
        "task_a") :=
  ((dependency_graph_sound countingPlatform reportAndReview).2.2.2.2 now _ _ _ (by decide)
    (by decide) (by decide) (by decide +kernel) (by decide +kernel)).1

end OpenCowork.Gateway
