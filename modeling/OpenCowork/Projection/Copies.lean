import OpenCowork.Projection.Reduce
import OpenCowork.Projection.Stability

/-! # Projecting onto copies

A view and its copy differ in properties that have no value. What is projected onto them
differs in no more than that.
-/

namespace OpenCowork.Projection

open Foundation

variable {α : Type} (found : TaskRun) (toolCall : ToolCall)

theorem Own.clone_spread {entry entry' : Own α} (hentry : entry.clone = entry'.clone)
    (incoming : Own α) : (entry.spread incoming).clone = (entry'.spread incoming).clone := by
  cases incoming with
  | absent => exact hentry
  | undefined | value => rfl

theorem Own.spread_self (own : Own α) : own.spread own = own := by
  cases own <;> rfl

theorem TaskRun.clone_clone (taskRun : TaskRun) : taskRun.clone.clone = taskRun.clone := by
  simp only [TaskRun.clone, Own.clone_clone]

theorem SessionArtifact.clone_clone (artifact : SessionArtifact) :
    artifact.clone.clone = artifact.clone := by
  simp only [SessionArtifact.clone, Own.clone_clone]

theorem CloudSessionProjectionView.clone_clone (view : CloudSessionProjectionView) :
    view.clone.clone = view.clone := by
  have hruns : TaskRun.clone ∘ TaskRun.clone = TaskRun.clone := funext TaskRun.clone_clone
  have hartifacts : SessionArtifact.clone ∘ SessionArtifact.clone = SessionArtifact.clone :=
    funext SessionArtifact.clone_clone
  simp only [clone, List.map_map, hruns, hartifacts]

theorem CloudSessionProjectionView.eq_of_clone_eq {first second : CloudSessionProjectionView}
    (h : first.clone = second.clone) :
    second = { first with
      taskRuns := second.taskRuns
      artifacts := second.artifacts } :=
  congrArg (fun view : CloudSessionProjectionView =>
    { view with
      taskRuns := second.taskRuns
      artifacts := second.artifacts }) h.symm

theorem CloudSessionProjectionView.clone_with {view : CloudSessionProjectionView}
    {taskRuns : List TaskRun} {artifacts : List SessionArtifact}
    (hruns : view.taskRuns.map TaskRun.clone = taskRuns.map TaskRun.clone)
    (hartifacts : view.artifacts.map SessionArtifact.clone = artifacts.map SessionArtifact.clone) :
    view.clone =
      CloudSessionProjectionView.clone
        { view with
          taskRuns := taskRuns
          artifacts := artifacts } := by
  simp only [clone, hruns, hartifacts]

theorem TaskRun.clone_merge_congr {found found' : TaskRun} (h : found.clone = found'.clone)
    (incoming : TaskRun) : (found.merge incoming).clone = (found'.merge incoming).clone := by
  have horder : found.clone.order = found'.clone.order := congrArg TaskRun.order h
  have hreasoning : found.reasoning.clone = found'.reasoning.clone := congrArg TaskRun.reasoning h
  change ({ incoming with
    reasoning := (found.reasoning.spread incoming.reasoning).clone
    order := found.clone.order } : TaskRun) = _
  rw [Own.clone_spread hreasoning, horder]
  rfl

theorem SessionArtifact.clone_merge_congr {found found' : SessionArtifact}
    (h : found.clone = found'.clone) (incoming : SessionArtifact) :
    (found.merge incoming).clone = (found'.merge incoming).clone := by
  have horder : found.clone.order = found'.clone.order := congrArg SessionArtifact.order h
  have hsize : found.clone.size = found'.clone.size := congrArg SessionArtifact.size h
  have hmime : found.mime.clone = found'.mime.clone := congrArg SessionArtifact.mime h
  have hcreated : found.createdAt.clone = found'.createdAt.clone :=
    congrArg SessionArtifact.createdAt h
  have hupdated : found.updatedAt.clone = found'.updatedAt.clone :=
    congrArg SessionArtifact.updatedAt h
  have hkind : found.kind.clone = found'.kind.clone := congrArg SessionArtifact.kind h
  have hstatus : found.status.clone = found'.status.clone := congrArg SessionArtifact.status h
  change ({ incoming with
    order := found.clone.order
    mime := (found.mime.spread incoming.mime).clone
    size := incoming.size.or found.clone.size
    createdAt := (found.createdAt.spread incoming.createdAt).clone
    updatedAt := (found.updatedAt.spread incoming.updatedAt).clone
    kind := (found.kind.spread incoming.kind).clone
    status := (found.status.spread incoming.status).clone } : SessionArtifact) = _
  rw [Own.clone_spread hmime, Own.clone_spread hcreated, Own.clone_spread hupdated,
    Own.clone_spread hkind, Own.clone_spread hstatus, horder, hsize]
  rfl

theorem TaskRun.merge_withToolCall :
    found.merge (found.withToolCall toolCall) = found.withToolCall toolCall := by
  unfold TaskRun.merge
  rw [show (found.withToolCall toolCall).reasoning = found.reasoning from rfl, Own.spread_self]
  rfl

theorem TaskRun.clone_withToolCall :
    (found.withToolCall toolCall).clone = found.clone.withToolCall toolCall := rfl

theorem find?_taskRun_congr {entries entries' : List TaskRun}
    (hentries : entries.map TaskRun.clone = entries'.map TaskRun.clone) (id : String) :
    (entries.find? fun entry => decide (entry.id.val = id)).map TaskRun.clone =
      (entries'.find? fun entry => decide (entry.id.val = id)).map TaskRun.clone := by
  refine map_find?_congr ?_ hentries
  intro first second hsame
  have hid : first.clone.id = second.clone.id := congrArg TaskRun.id hsame
  exact congrArg (fun found : NonBlank => decide (found.val = id)) hid

section Upserts

theorem map_upsertById_congr (id : α → NonBlank) (merge : α → α → α) (clone : α → α)
    (hid : ∀ item, id (clone item) = id item)
    (hmerge : ∀ {found found' : α}, clone found = clone found' → ∀ incoming,
      clone (merge found incoming) = clone (merge found' incoming))
    {entries entries' : List α} (hentries : entries.map clone = entries'.map clone)
    (incoming : α) : (upsertById id merge entries incoming).map clone =
      (upsertById id merge entries' incoming).map clone := by
  refine map_upsertFirst_congr ?_ rfl ?_ hentries
  · intro first second hsame
    have hids : id first = id second := by rw [← hid, hsame, hid]
    exact congrArg (fun found => decide (found = id incoming)) hids
  · intro _ _ _ _ hsame
    exact hmerge hsame incoming

theorem find?_taskRun_self {entries : List TaskRun} {id : String} {found : TaskRun}
    (hfound : (entries.find? fun entry => decide (entry.id.val = id)) = some found) :
    (entries.find? fun entry => decide (entry.id = found.id)) = some found := by
  have hid : found.id.val = id := by simpa using List.find?_some hfound
  have htest : (fun entry : TaskRun => decide (entry.id = found.id)) =
      fun entry => decide (entry.id.val = id) := by
    funext entry
    rw [decide_eq_decide, ← hid, Subtype.ext_iff]
  rw [htest, hfound]

end Upserts

section Events

variable (env : ProjectionEnvironment) (session : CloudProjectionSessionRecord)
  {first second : CloudSessionProjectionView} (payload : List (String × Json))
  (event : CloudProjectionEventRecord)
  (hruns : first.taskRuns.map TaskRun.clone = second.taskRuns.map TaskRun.clone)
include hruns

theorem withTaskRunToolCall_congr (taskRunId : Trimmed) (toolCall : ToolCall) :
    (withTaskRunToolCall session first payload event taskRunId toolCall).map TaskRun.clone =
      (withTaskRunToolCall session second payload event taskRunId toolCall).map TaskRun.clone := by
  have hfind := find?_taskRun_congr hruns taskRunId.val
  unfold withTaskRunToolCall
  cases hfound : first.taskRuns.find? fun entry => decide (entry.id.val = taskRunId.val) with
  | none =>
    rw [hfound, Option.map_none, eq_comm, Option.map_eq_none_iff] at hfind
    rw [hfind]
    exact map_upsertById_congr _ _ TaskRun.clone (fun _ => rfl) TaskRun.clone_merge_congr hruns _
  | some found =>
    rw [hfound, Option.map_some, eq_comm, Option.map_eq_some_iff] at hfind
    obtain ⟨found', hfound', hsame⟩ := hfind
    have hid : found'.clone.id = found.clone.id := congrArg TaskRun.id hsame
    have hupdate : (found.withToolCall toolCall).clone = (found'.withToolCall toolCall).clone := by
      rw [TaskRun.clone_withToolCall, TaskRun.clone_withToolCall, hsame]
    have htest : (fun entry : TaskRun => decide (entry.id = (found'.withToolCall toolCall).id)) =
        fun entry => decide (entry.id = (found.withToolCall toolCall).id) :=
      congrArg (fun id => fun entry : TaskRun => decide (entry.id = id)) hid
    rw [hfound']
    simp only [Option.getD_some, upsertById]
    rw [htest]
    refine map_upsertFirst_congr ?_ hupdate ?_ hruns
    · intro one other hone
      have hsameId : one.clone.id = other.clone.id := congrArg TaskRun.id hone
      exact congrArg (fun id => decide (id = found.id)) hsameId
    · intro one other hone hother _
      -- each list finds the run that its update was made from
      rw [← htest] at hother
      obtain rfl := Option.some.inj ((find?_taskRun_self hfound).symm.trans hone)
      obtain rfl := Option.some.inj ((find?_taskRun_self hfound').symm.trans hother)
      rw [TaskRun.merge_withToolCall, TaskRun.merge_withToolCall, hupdate]

omit hruns in
theorem reduceArtifact_clone_congr {taskRuns : List TaskRun} {artifacts : List SessionArtifact}
    (hruns : first.taskRuns.map TaskRun.clone = taskRuns.map TaskRun.clone)
    (hartifacts : first.artifacts.map SessionArtifact.clone =
      artifacts.map SessionArtifact.clone) :
    (reduceArtifact first payload event).clone =
      (reduceArtifact
        { first with
          taskRuns := taskRuns
          artifacts := artifacts } payload event).clone := by
  unfold reduceArtifact
  cases normalizeSessionArtifact (.obj payload) event.sequence with
  | none => exact CloudSessionProjectionView.clone_with hruns hartifacts
  | some =>
    exact CloudSessionProjectionView.clone_with hruns
      (map_upsertById_congr _ _ SessionArtifact.clone (fun _ => rfl)
        SessionArtifact.clone_merge_congr hartifacts _)

theorem findTaskRunToolCall_congr (taskRunId : Trimmed) (toolCallId : NonBlank) :
    findTaskRunToolCall first taskRunId toolCallId =
      findTaskRunToolCall second taskRunId toolCallId := by
  have hseen : ∀ view : CloudSessionProjectionView, findTaskRunToolCall view taskRunId toolCallId =
      ((view.taskRuns.find? fun entry => decide (entry.id.val = taskRunId.val)).map
        TaskRun.clone).bind fun taskRun =>
          taskRun.toolCalls.find? fun entry => decide (entry.id = toolCallId) := by
    intro view
    rw [Option.bind_map]
    rfl
  rw [hseen, hseen, find?_taskRun_congr hruns]

omit hruns

theorem reduceProjectedEvent_clone_congr (h : first.clone = second.clone)
    (type : CloudProjectedSessionEventType) :
    (reduceProjectedEvent env session first payload event type).clone =
      (reduceProjectedEvent env session second payload event type).clone := by
  have hruns : first.taskRuns.map TaskRun.clone = second.taskRuns.map TaskRun.clone :=
    congrArg CloudSessionProjectionView.taskRuns h
  have hartifacts : first.artifacts.map SessionArtifact.clone =
      second.artifacts.map SessionArtifact.clone :=
    congrArg CloudSessionProjectionView.artifacts h
  have hcalls := withTaskRunToolCall_congr session payload event hruns
  have hfind := findTaskRunToolCall_congr hruns
  have hrest := CloudSessionProjectionView.eq_of_clone_eq h
  generalize second.taskRuns = taskRuns at *
  generalize second.artifacts = artifacts at *
  subst hrest
  cases type with
  | toolCall =>
    simp only [reduceProjectedEvent, reduceToolCall]
    cases Json.readTrimmed (Json.findField "taskRunId" payload) with
    | none => exact CloudSessionProjectionView.clone_with hruns hartifacts
    | some taskRunId =>
      simp only [hfind]
      exact CloudSessionProjectionView.clone_with (hcalls taskRunId _) hartifacts
  | taskRun =>
    exact CloudSessionProjectionView.clone_with
      (map_upsertById_congr _ _ TaskRun.clone (fun _ => rfl) TaskRun.clone_merge_congr hruns _)
      hartifacts
  | artifactCreated | artifactUpdated =>
    exact reduceArtifact_clone_congr payload event hruns hartifacts
  | _ => exact CloudSessionProjectionView.clone_with hruns hartifacts

theorem reduce_clone_congr (h : first.clone = second.clone) :
    (reduceCloudSessionProjectionEvent env session first event).clone =
      (reduceCloudSessionProjectionEvent env session second event).clone := by
  unfold reduceCloudSessionProjectionEvent
  cases CloudProjectedSessionEventType.ofName? event.type with
  | none => exact h
  | some type => exact reduceProjectedEvent_clone_congr env session _ event h type

end Events

/-! ## Views that are no copies -/

/-- A view that was projected event by event: no task run has a reasoning property, and
every artifact has all of its properties. -/
structure CloudSessionProjectionView.Original (view : CloudSessionProjectionView) : Prop where
  taskRuns : ∀ taskRun ∈ view.taskRuns, taskRun.reasoning = .absent
  artifacts : ∀ artifact ∈ view.artifacts, artifact.owned = artifact

section Events

variable (env : ProjectionEnvironment) (session : CloudProjectionSessionRecord)
  {view : CloudSessionProjectionView} (payload : List (String × Json))
  (event : CloudProjectionEventRecord)

theorem create_original : (createCloudSessionProjectionView session).Original :=
  ⟨by simp [createCloudSessionProjectionView], by simp [createCloudSessionProjectionView]⟩

theorem withTaskRunToolCall_original
    (horiginal : ∀ taskRun ∈ view.taskRuns, taskRun.reasoning = .absent)
    (taskRunId : Trimmed) (toolCall : ToolCall) :
    ∀ taskRun ∈ withTaskRunToolCall session view payload event taskRunId toolCall,
      taskRun.reasoning = .absent := by
  unfold withTaskRunToolCall
  generalize hfound : (view.taskRuns.find? fun entry => decide (entry.id.val = taskRunId.val)) =
    existing
  have hrun : (existing.getD (taskRunFromPayload session
      ([("id", .str taskRunId.val), ("status", .str TaskStatus.running.name)] ++ payload)
        event)).reasoning = .absent := by
    cases existing with
    | none => rfl
    | some found => exact horiginal found (List.mem_of_find?_eq_some hfound)
  refine forall_mem_upsertFirst horiginal hrun fun found hmem => ?_
  change found.reasoning.spread (TaskRun.withToolCall _ _).reasoning = _
  rw [show (TaskRun.withToolCall _ toolCall).reasoning = _ from hrun]
  exact horiginal found hmem

theorem normalizeSessionArtifact_owned {value : Json} {order : ℚ} {artifact : SessionArtifact}
    (hread : normalizeSessionArtifact value order = some artifact) : artifact.owned = artifact := by
  obtain ⟨_, -, hread⟩ := Option.bind_eq_some_iff.mp hread
  obtain rfl := Option.some.inj hread
  simp only [SessionArtifact.owned, Own.toOption_ofOption]

theorem merge_owned {incoming : SessionArtifact} (hincoming : incoming.owned = incoming)
    (found : SessionArtifact) : (found.merge incoming).owned = found.merge incoming := by
  have hmerge : found.merge incoming =
      { incoming with
        order := found.order
        size := incoming.size.or found.size } := by
    rw [← hincoming]
    simp only [SessionArtifact.merge, SessionArtifact.owned, Own.spread_ofOption]
  rw [hmerge]
  exact congrArg (fun artifact : SessionArtifact =>
    { artifact with
      order := found.order
      size := incoming.size.or found.size }) hincoming

theorem reduceArtifact_original (horiginal : view.Original) :
    (reduceArtifact view payload event).Original := by
  refine ⟨horiginal.taskRuns, ?_⟩
  unfold reduceArtifact
  cases hread : normalizeSessionArtifact (.obj payload) event.sequence with
  | none => exact horiginal.artifacts
  | some =>
    have howned := normalizeSessionArtifact_owned hread
    exact forall_mem_upsertFirst horiginal.artifacts howned fun found _ =>
      merge_owned howned found

theorem reduce_original (horiginal : view.Original) :
    (reduceCloudSessionProjectionEvent env session view event).Original := by
  unfold reduceCloudSessionProjectionEvent
  cases CloudProjectedSessionEventType.ofName? event.type with
  | none => exact horiginal
  | some type =>
    cases type with
    | toolCall =>
      simp only [reduceProjectedEvent, reduceToolCall]
      cases Json.readTrimmed (Json.findField "taskRunId" _) with
      | none => exact ⟨horiginal.taskRuns, horiginal.artifacts⟩
      | some taskRunId =>
        exact ⟨withTaskRunToolCall_original session _ event horiginal.taskRuns taskRunId _,
          horiginal.artifacts⟩
    | taskRun =>
      refine ⟨?_, horiginal.artifacts⟩
      exact forall_mem_upsertFirst horiginal.taskRuns rfl fun found hmem =>
        horiginal.taskRuns found hmem
    | artifactCreated | artifactUpdated => exact reduceArtifact_original _ event horiginal
    | _ => exact ⟨horiginal.taskRuns, horiginal.artifacts⟩

end Events

namespace CloudSessionProjectionView

theorem map_clone_taskRuns {taskRuns : List TaskRun}
    (habsent : ∀ taskRun ∈ taskRuns, taskRun.reasoning = .absent) :
    taskRuns.map TaskRun.clone = taskRuns := by
  refine (List.map_congr_left fun taskRun hmem => ?_).trans (List.map_id taskRuns)
  unfold TaskRun.clone
  rw [habsent taskRun hmem]
  exact congrArg (fun reasoning => { taskRun with reasoning := reasoning })
    (habsent taskRun hmem).symm

theorem map_owned_clone {artifacts : List SessionArtifact}
    (howned : ∀ artifact ∈ artifacts, artifact.owned = artifact) :
    (artifacts.map SessionArtifact.clone).map SessionArtifact.owned = artifacts := by
  rw [List.map_map]
  refine (List.map_congr_left fun artifact hmem => ?_).trans (List.map_id artifacts)
  change artifact.clone.owned = artifact
  refine Eq.trans ?_ (howned artifact hmem)
  simp only [SessionArtifact.owned, SessionArtifact.clone, Own.toOption_clone]

theorem Original.eq_of_clone_eq {first second : CloudSessionProjectionView}
    (hfirst : first.Original)
    (hsecond : second.Original) (h : first.clone = second.clone) : first = second := by
  have hruns : first.taskRuns.map TaskRun.clone = second.taskRuns.map TaskRun.clone :=
    congrArg CloudSessionProjectionView.taskRuns h
  have hartifacts : first.artifacts.map SessionArtifact.clone =
      second.artifacts.map SessionArtifact.clone :=
    congrArg CloudSessionProjectionView.artifacts h
  rw [map_clone_taskRuns hfirst.taskRuns, map_clone_taskRuns hsecond.taskRuns] at hruns
  have hsame := congrArg (List.map SessionArtifact.owned) hartifacts
  rw [map_owned_clone hfirst.artifacts, map_owned_clone hsecond.artifacts] at hsame
  rw [CloudSessionProjectionView.eq_of_clone_eq h, ← hruns, ← hsame]

/-- Settled, and without the task runs that normalizing would give a reasoning property. -/
structure Plain (env : ProjectionEnvironment) (session : CloudProjectionSessionRecord)
    (view : CloudSessionProjectionView) : Prop where
  settled : view.Settled env session
  taskRuns : view.taskRuns = []

theorem normalize_eq_of_plain {env : ProjectionEnvironment} {session : CloudProjectionSessionRecord}
    {view original : CloudSessionProjectionView} (horiginal : original.Original)
    (hplain : view.Plain env session) (h : view.clone = original.clone) (now : NonBlank) :
    normalizeCloudSessionProjectionView env now (some view.encode) session = original := by
  have hclone := (view.clone_normalize_iff env now session).mpr hplain.settled
  refine Original.eq_of_clone_eq ⟨?_, ?_⟩ horiginal (hclone.trans h)
  · rw [normalize_encode, hplain.taskRuns]
    simp [Json.readItems]
  · rw [normalize_encode]
    intro _ hmem
    obtain ⟨_, -, rfl⟩ := List.mem_map.mp hmem
    simp only [SessionArtifact.owned, Own.toOption_ofOption]

end CloudSessionProjectionView

end OpenCowork.Projection
