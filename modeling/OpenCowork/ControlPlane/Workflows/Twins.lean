import OpenCowork.ControlPlane.Workflows.Objects

/-! # Domains that no operation tells apart

Two workflows domains are twins when they hold the same contents and share the
objects of their live runs in the same places. Objects of finished runs may be
shared in one and copied in the other, since nothing mutates them. Every operation
answers the same on twins and leaves twins.
-/

namespace OpenCowork.ControlPlane

open Foundation OrderedMap

namespace WorkflowsDomain

def LiveAt (domain : WorkflowsDomain) (object : RunObject) : Prop :=
  ∃ run, domain.objects object = some run ∧ run.live = true

/-- Two listed objects with the same contents, which are the objects of the same live
table entries. -/
structure ObjectsAlike (first second : WorkflowsDomain) (one other : RunObject) : Prop where
  contents : first.objects one = second.objects other
  shared : ∀ runKey held held', first.workflowRuns.get runKey = some held →
    second.workflowRuns.get runKey = some held' → first.LiveAt held →
      (one = held ↔ other = held')

structure Similar (first second : WorkflowsDomain) : Prop where
  workflows : OrderedMap.Alike (fun workflow workflow' => workflow.record = workflow'.record ∧
    List.Forall₂ (ObjectsAlike first second) workflow.runs workflow'.runs)
    first.workflows second.workflows
  runs : OrderedMap.Alike (fun held held' => first.objects held = second.objects held')
    first.workflowRuns second.workflowRuns
  secrets : first.workflowWebhookSecrets = second.workflowWebhookSecrets

/-- Every entry of the run table holds a run with its key, every workflow stands under
its own key, and the objects that were created have numbers below the next one. -/
structure Tidy (domain : WorkflowsDomain) : Prop where
  named : ∀ workflowKey workflow, domain.workflows.get workflowKey = some workflow →
    workflow.record.key = workflowKey
  keyed : ∀ runKey held, domain.workflowRuns.get runKey = some held →
    ∃ run, domain.objects held = some run ∧ run.tableKey = runKey
  tableBelow : ∀ runKey number, domain.workflowRuns.get runKey = some (.created number) →
    number < domain.nextObject
  listedBelow : ∀ workflowKey workflow, domain.workflows.get workflowKey = some workflow →
    ∀ number, RunObject.created number ∈ workflow.runs → number < domain.nextObject

structure Twins (first second : WorkflowsDomain) : Prop where
  similar : Similar first second
  tidy : Tidy first
  tidy' : Tidy second

section Tidy

variable {domain : WorkflowsDomain}

theorem empty_tidy : Tidy empty := by
  constructor <;> simp [empty]

variable (htidy : Tidy domain)
include htidy

theorem Tidy.key_unique {runKey other : String} {held : RunObject}
    (hget : domain.workflowRuns.get runKey = some held)
    (hother : domain.workflowRuns.get other = some held) : runKey = other := by
  obtain ⟨_, hrun, rfl⟩ := htidy.keyed runKey held hget
  obtain ⟨_, hrun', rfl⟩ := htidy.keyed other held hother
  obtain rfl := Option.mem_unique hrun hrun'
  rfl

theorem Tidy.updateRun (runKey : String) (update : CloudWorkflowRunRecord → CloudWorkflowRunRecord)
    (hkey : ∀ run, (update run).tableKey = run.tableKey) : Tidy
    (domain.updateRun runKey update) := by
  unfold WorkflowsDomain.updateRun
  split
  · exact htidy
  next _ _ =>
    refine ⟨htidy.named, ?_, htidy.tableBelow, htidy.listedBelow⟩
    intro other object hget
    obtain ⟨run, hrun, hrunKey⟩ := htidy.keyed other object hget
    simp only
    split
    next h =>
      subst h
      exact ⟨update run, by rw [hrun, Option.map_some], (hkey run).trans hrunKey⟩
    · exact ⟨run, hrun, hrunKey⟩

theorem Tidy.setWorkflow {workflowKey : String} {workflow : WorkflowState}
    (hkey : workflow.record.key = workflowKey)
    (hruns : ∀ number, RunObject.created number ∈ workflow.runs → number < domain.nextObject)
    (secrets : OrderedMap String CloudWorkflowWebhookSecretRecord) :
    Tidy { domain with
      workflows := domain.workflows.set workflowKey workflow
      workflowWebhookSecrets := secrets } := by
  refine ⟨?_, htidy.keyed, htidy.tableBelow, ?_⟩
  · intro other found hfound
    simp only [get_set] at hfound
    split at hfound
    next h => exact Option.some.inj hfound ▸ hkey.trans h
    · exact htidy.named other found hfound
  · intro other found hfound
    simp only [get_set] at hfound
    split at hfound
    · exact Option.some.inj hfound ▸ hruns
    · exact htidy.listedBelow other found hfound

theorem Tidy.updateWorkflow (workflowKey : String)
    (update : CloudWorkflowRecord → CloudWorkflowRecord)
    (hkey : ∀ record, (update record).key = record.key) :
    Tidy (domain.updateWorkflow workflowKey update) := by
  unfold WorkflowsDomain.updateWorkflow
  split
  · exact htidy
  next workflow hget =>
    apply htidy.setWorkflow
    · exact (hkey workflow.record).trans (htidy.named workflowKey workflow hget)
    · exact htidy.listedBelow workflowKey workflow hget

theorem Tidy.addRun (workflowKey : String) (run : CloudWorkflowRunRecord) :
    Tidy (domain.addRun workflowKey run) := by
  unfold WorkflowsDomain.addRun
  split
  · exact htidy
  next workflow hget =>
    constructor
    · intro other found hfound
      simp only [get_set] at hfound
      split at hfound
      next h =>
        obtain rfl := Option.some.inj hfound
        exact (htidy.named workflowKey workflow hget).trans h
      · exact htidy.named other found hfound
    · intro runKey held hheld
      simp only at hheld ⊢
      rw [get_set] at hheld
      split at hheld
      next h =>
        obtain rfl := Option.some.inj hheld
        exact ⟨run, if_pos rfl, h⟩
      · obtain ⟨other, hother, hkey⟩ := htidy.keyed runKey held hheld
        refine ⟨other, ?_, hkey⟩
        rw [if_neg, hother]
        rintro rfl
        exact Nat.lt_irrefl _ (htidy.tableBelow runKey _ hheld)
    · intro runKey number hheld
      simp only at hheld ⊢
      rw [get_set] at hheld
      split at hheld
      · obtain rfl := RunObject.created.inj (Option.some.inj hheld)
        exact Nat.lt_succ_self _
      · exact Nat.lt_succ_of_lt (htidy.tableBelow runKey number hheld)
    · intro other found hfound number hnumber
      simp only at hfound ⊢
      rw [get_set] at hfound
      split at hfound
      · obtain rfl := Option.some.inj hfound
        rcases List.mem_append.mp hnumber with h | h
        · exact Nat.lt_succ_of_lt (htidy.listedBelow workflowKey workflow hget number h)
        · obtain rfl := RunObject.created.inj (List.mem_singleton.mp h)
          exact Nat.lt_succ_self _
      · exact Nat.lt_succ_of_lt (htidy.listedBelow other found hfound number hnumber)

theorem Tidy.restore (failed : WorkflowsDomain) : Tidy (failed.restore domain.snapshot) := by
  constructor
  · intro workflowKey workflow hget
    simp only [WorkflowsDomain.restore, snapshot, mapWithKey_map,
      get_mapWithKey, Option.map_eq_some_iff] at hget
    obtain ⟨found, hfound, rfl⟩ := hget
    exact htidy.named workflowKey found hfound
  · intro runKey _ hheld
    simp only [WorkflowsDomain.restore, snapshot, mapWithKey_map, get_mapWithKey] at hheld
    cases hget : domain.workflowRuns.get runKey with
    | none =>
      rw [hget] at hheld
      simp at hheld
    | some object =>
      rw [hget] at hheld
      obtain rfl := Option.some.inj hheld
      obtain ⟨run, hrun, hkey⟩ := htidy.keyed runKey object hget
      refine ⟨run, ?_, hkey⟩
      simp [WorkflowsDomain.restore, snapshot, get_map, hget, hrun]
  · intro runKey number hheld
    simp only [WorkflowsDomain.restore, get_mapWithKey, Option.map_eq_some_iff] at hheld
    obtain ⟨_, _, h⟩ := hheld
    simp at h
  · intro workflowKey workflow hget number hmem
    simp only [WorkflowsDomain.restore, get_mapWithKey, Option.map_eq_some_iff] at hget
    obtain ⟨_, _, rfl⟩ := hget
    simp at hmem

end Tidy

section Reads

variable {first second : WorkflowsDomain} (hsimilar : Similar first second)
include hsimilar

theorem Similar.contents_eq :
    first.workflowRuns.map first.objects = second.workflowRuns.map second.objects :=
  hsimilar.runs.map_eq _ _ fun _ _ h => h

theorem Similar.allRuns : first.allRuns = second.allRuns := by
  unfold WorkflowsDomain.allRuns
  rw [hsimilar.contents_eq]

theorem Similar.run? (runKey : String) : first.run? runKey = second.run? runKey := by
  have h := congrArg (fun contents => (contents.get runKey).bind id) hsimilar.contents_eq
  simpa [get_map, Option.bind_map, WorkflowsDomain.run?] using h

omit hsimilar

theorem contents_of_alike {runs runs' : List RunObject}
    (halike : List.Forall₂ (ObjectsAlike first second) runs runs') :
    runs.map first.objects = runs'.map second.objects := by
  induction halike with
  | nil => rfl
  | cons hobjects _ ih => rw [List.map_cons, List.map_cons, hobjects.contents, ih]

theorem runsOf_of_alike {workflow workflow' : WorkflowState}
    (halike : List.Forall₂ (ObjectsAlike first second) workflow.runs workflow'.runs) :
    first.runsOf workflow = second.runsOf workflow' := by
  rw [runsOf, runsOf, contents_of_alike halike]

variable (hsimilar : Similar first second)
include hsimilar

theorem Similar.records :
    first.workflows.map WorkflowState.record = second.workflows.map WorkflowState.record :=
  hsimilar.workflows.map_eq _ _ fun _ _ h => h.1

theorem Similar.workflow (workflowKey : String) :
    (first.workflows.get workflowKey = none ∧ second.workflows.get workflowKey = none) ∨
      ∃ record runs runs', first.workflows.get workflowKey = some ⟨record, runs⟩ ∧
        second.workflows.get workflowKey = some ⟨record, runs'⟩ ∧
        List.Forall₂ (ObjectsAlike first second) runs runs' := by
  rcases hsimilar.workflows.get workflowKey with
    h | ⟨workflow, workflow', hget, hget', hrecord, hruns⟩
  · exact .inl h
  · obtain ⟨record, runs⟩ := workflow
    obtain ⟨record', runs'⟩ := workflow'
    obtain rfl : record = record' := hrecord
    exact .inr ⟨record, runs, runs', hget, hget', hruns⟩

theorem Similar.listed :
    (first.workflows.map fun workflow => (workflow.record, first.runsOf workflow)) =
      second.workflows.map fun workflow => (workflow.record, second.runsOf workflow) :=
  hsimilar.workflows.map_eq _ _ fun _ _ h => by rw [h.1, runsOf_of_alike h.2]

theorem Similar.snapshot : first.snapshot = second.snapshot := by
  have hworkflows := hsimilar.workflows.map_eq
    (fun workflow => (workflow.record, workflow.runs.map first.objects))
    (fun workflow => (workflow.record, workflow.runs.map second.objects))
    fun _ _ h => by rw [h.1, contents_of_alike h.2]
  simp only [WorkflowsDomain.snapshot, hworkflows, hsimilar.contents_eq, hsimilar.secrets]

end Reads

section Updates

variable {first second : WorkflowsDomain} {α β : Type} {xs : List α} {domain : WorkflowsDomain}

theorem forall₂_mono_mem {narrow wide : α → β → Prop} {ys : List β}
    (hall : List.Forall₂ narrow xs ys)
    (h : ∀ x ∈ xs, ∀ y ∈ ys, narrow x y → wide x y) : List.Forall₂ wide xs ys := by
  induction hall with
  | nil => exact .nil
  | cons hhead _ ih =>
    refine .cons (h _ (.head _) _ (.head _) hhead) (ih ?_)
    exact fun x hx y hy => h x (.tail _ hx) y (.tail _ hy)

theorem Similar.of_eq (hobjects : first.objects = second.objects)
    (hworkflows : first.workflows = second.workflows)
    (hruns : first.workflowRuns = second.workflowRuns)
    (hsecrets : first.workflowWebhookSecrets = second.workflowWebhookSecrets) :
    Similar first second := by
  have hself : ∀ object, ObjectsAlike first second object object := by
    intro object
    refine ⟨by rw [hobjects], ?_⟩
    intro _ held held' hheld hheld' _
    rw [← hruns, hheld] at hheld'
    rw [Option.some.inj hheld']
  refine ⟨?_, ?_, hsecrets⟩
  · have h := OrderedMap.Alike.mapWithKey
      (fun workflow workflow' => workflow.record = workflow'.record ∧
        List.Forall₂ (ObjectsAlike first second) workflow.runs workflow'.runs)
      first.workflows (fun _ workflow => workflow)
      (fun _ workflow _ => ⟨rfl, List.forall₂_same.mpr fun object _ => hself object⟩)
    have hid : first.workflows.mapWithKey (fun _ workflow => workflow) = second.workflows := by
      rw [← hworkflows]
      exact ext_entries (by simp [OrderedMap.mapWithKey])
    exact hid ▸ h
  · have h := OrderedMap.Alike.mapWithKey
      (fun held held' => first.objects held = second.objects held')
      first.workflowRuns (fun _ held => held) (fun _ held _ => by rw [hobjects])
    have hid : first.workflowRuns.mapWithKey (fun _ held => held) = second.workflowRuns := by
      rw [← hruns]
      exact ext_entries (by simp [OrderedMap.mapWithKey])
    exact hid ▸ h

theorem Twins.refl (htidy : Tidy domain) : Twins domain domain :=
  ⟨Similar.of_eq rfl rfl rfl rfl, htidy, htidy⟩

section

variable (htwins : Twins first second)
include htwins

theorem Twins.updateRun {runKey : String}
    {run : CloudWorkflowRunRecord} (hrun : first.run? runKey = some run) (hlive : run.live = true)
    (update : CloudWorkflowRunRecord → CloudWorkflowRunRecord)
    (hkey : ∀ run, (update run).tableKey = run.tableKey) :
    Twins (first.updateRun runKey update) (second.updateRun runKey update) := by
  refine ⟨?_, htwins.tidy.updateRun runKey update hkey, htwins.tidy'.updateRun runKey update hkey⟩
  obtain ⟨hsimilar, htidy, htidy'⟩ := htwins
  rcases hsimilar.runs.get runKey with ⟨hnone, -⟩ | ⟨held, held', hheld, hheld', hsame⟩
  · rw [WorkflowsDomain.run?, hnone] at hrun
    simp at hrun
  have hcontents : first.objects held = some run := by
    rw [WorkflowsDomain.run?, hheld] at hrun
    exact hrun
  have hliveAt : first.LiveAt held := ⟨run, hcontents, hlive⟩
  unfold WorkflowsDomain.updateRun
  rw [hheld, hheld']
  -- Objects that are the mutated one in both or in neither keep the same contents.
  have hmutated : ∀ object object', first.objects object = second.objects object' →
      (object = held ↔ object' = held') →
      (if object = held then (first.objects held).map update else first.objects object) =
        if object' = held' then (second.objects held').map update
        else second.objects object' := by
    intro object object' hobjects hboth
    by_cases h : object = held
    · rw [if_pos h, if_pos (hboth.mp h), hsame]
    · rw [if_neg h, if_neg fun h' => h (hboth.mpr h'), hobjects]
  have htable : ∀ other object object', first.workflowRuns.get other = some object →
      second.workflowRuns.get other = some object' → (object = held ↔ object' = held') := by
    intro other object object' hobject hobject'
    constructor
    · rintro rfl
      obtain rfl := htidy.key_unique hheld hobject
      exact Option.mem_unique hobject' hheld'
    · rintro rfl
      obtain rfl := htidy'.key_unique hheld' hobject'
      exact Option.mem_unique hobject hheld
  refine ⟨?_, ?_, hsimilar.secrets⟩
  · refine hsimilar.workflows.mono fun _ _ _ _ _ hworkflow => ?_
    refine ⟨hworkflow.1, forall₂_mono_mem hworkflow.2 fun object _ object' _ halike => ?_⟩
    refine ⟨hmutated object object' halike.contents
      (halike.shared runKey held held' hheld hheld' hliveAt), ?_⟩
    intro other entry entry' hentry hentry' hlive'
    apply halike.shared other entry entry' hentry hentry'
    by_cases h : entry = held
    · exact h ▸ hliveAt
    · obtain ⟨found, hfound, hfoundLive⟩ := hlive'
      simp only [if_neg h] at hfound
      exact ⟨found, hfound, hfoundLive⟩
  · refine hsimilar.runs.mono fun other object object' hobject hobject' hobjects => ?_
    exact hmutated object object' hobjects (htable other object object' hobject hobject')

theorem Twins.updateWorkflow (workflowKey : String)
    (update : CloudWorkflowRecord → CloudWorkflowRecord)
    (hkey : ∀ record, (update record).key = record.key) :
    Twins (first.updateWorkflow workflowKey update) (second.updateWorkflow workflowKey update) := by
  refine ⟨?_, htwins.tidy.updateWorkflow workflowKey update hkey,
    htwins.tidy'.updateWorkflow workflowKey update hkey⟩
  obtain ⟨hsimilar, -, -⟩ := htwins
  unfold WorkflowsDomain.updateWorkflow
  rcases hsimilar.workflows.get workflowKey with
    ⟨hnone, hnone'⟩ | ⟨workflow, workflow', hget, hget', hrecord, hruns⟩
  · rw [hnone, hnone']
    exact hsimilar
  · simp only [hget, hget']
    -- The objects and the run table are the ones there were.
    have hkept := hsimilar.workflows.set workflowKey
      (show _ ∧ List.Forall₂ (ObjectsAlike first second)
        (WorkflowState.mk (update workflow.record) workflow.runs).runs
        (WorkflowState.mk (update workflow'.record) workflow'.runs).runs from
        ⟨by rw [hrecord], hruns⟩)
    refine ⟨hkept.mono fun _ _ _ _ _ h => ⟨h.1, h.2.imp fun _ _ halike => ?_⟩, hsimilar.runs,
      hsimilar.secrets⟩
    exact ⟨halike.contents, halike.shared⟩

theorem Twins.setWorkflow {workflowKey : String}
    {record : CloudWorkflowRecord} (hkey : record.key = workflowKey)
    (secrets : OrderedMap String CloudWorkflowWebhookSecretRecord) :
    Twins
      { first with
        workflows := first.workflows.set workflowKey ⟨record, []⟩
        workflowWebhookSecrets := secrets }
      { second with
        workflows := second.workflows.set workflowKey ⟨record, []⟩
        workflowWebhookSecrets := secrets } := by
  obtain ⟨hsimilar, htidy, htidy'⟩ := htwins
  refine ⟨⟨?_, hsimilar.runs, rfl⟩, htidy.setWorkflow hkey (by simp) secrets,
    htidy'.setWorkflow hkey (by simp) secrets⟩
  have hset := hsimilar.workflows.set workflowKey
    (show _ ∧ List.Forall₂ (ObjectsAlike first second) (WorkflowState.mk record []).runs
      (WorkflowState.mk record []).runs from ⟨rfl, .nil⟩)
  refine hset.mono fun _ _ _ _ _ h => ⟨h.1, h.2.imp fun _ _ halike => ?_⟩
  exact ⟨halike.contents, halike.shared⟩

theorem Twins.withSecrets (secrets : OrderedMap String CloudWorkflowWebhookSecretRecord) :
    Twins { first with workflowWebhookSecrets := secrets }
      { second with workflowWebhookSecrets := secrets } := by
  obtain ⟨⟨hworkflows, hruns, -⟩, htidy, htidy'⟩ := htwins
  refine ⟨⟨?_, hruns, rfl⟩, ⟨htidy.named, htidy.keyed, htidy.tableBelow, htidy.listedBelow⟩,
    ⟨htidy'.named, htidy'.keyed, htidy'.tableBelow, htidy'.listedBelow⟩⟩
  refine hworkflows.mono fun _ _ _ _ _ h => ⟨h.1, h.2.imp fun _ _ halike => ?_⟩
  exact ⟨halike.contents, halike.shared⟩

theorem Twins.addRun (workflowKey : String) (run : CloudWorkflowRunRecord) :
    Twins (first.addRun workflowKey run) (second.addRun workflowKey run) := by
  refine ⟨?_, htwins.tidy.addRun workflowKey run, htwins.tidy'.addRun workflowKey run⟩
  obtain ⟨hsimilar, htidy, htidy'⟩ := htwins
  unfold WorkflowsDomain.addRun
  rcases hsimilar.workflows.get workflowKey with
    ⟨hnone, hnone'⟩ | ⟨workflow, workflow', hget, hget', hrecord, hruns⟩
  · rw [hnone, hnone']
    exact hsimilar
  · simp only [hget, hget']
    have hold : ∀ object object', object ≠ .created first.nextObject →
        object' ≠ .created second.nextObject → ObjectsAlike first second object object' →
        ObjectsAlike (first.addRun workflowKey run) (second.addRun workflowKey run) object
          object' := by
      intro object object' hne hne' halike
      simp only [WorkflowsDomain.addRun, hget, hget']
      refine ⟨by simp only [if_neg hne, if_neg hne', halike.contents], ?_⟩
      intro runKey held held' hheld hheld' hlive
      simp only [get_set] at hheld hheld'
      split at hheld
      next h =>
        rw [if_pos h] at hheld'
        obtain rfl := Option.some.inj hheld
        obtain rfl := Option.some.inj hheld'
        exact ⟨fun heq => absurd heq hne, fun heq => absurd heq hne'⟩
      next h =>
        rw [if_neg h] at hheld'
        apply halike.shared runKey held held' hheld hheld'
        obtain ⟨found, hfound, hfoundLive⟩ := hlive
        simp only at hfound
        rw [if_neg] at hfound
        · exact ⟨found, hfound, hfoundLive⟩
        · rintro rfl
          exact Nat.lt_irrefl _ (htidy.tableBelow runKey _ hheld)
    have hnew : ObjectsAlike (first.addRun workflowKey run) (second.addRun workflowKey run)
        (.created first.nextObject) (.created second.nextObject) := by
      simp only [WorkflowsDomain.addRun, hget, hget']
      refine ⟨by simp only [if_true], ?_⟩
      intro runKey held held' hheld hheld' _
      simp only [get_set] at hheld hheld'
      split at hheld
      next h =>
        rw [if_pos h] at hheld'
        exact ⟨fun _ => Option.some.inj hheld', fun _ => Option.some.inj hheld⟩
      next h =>
        rw [if_neg h] at hheld'
        constructor
        · rintro rfl
          exact absurd (htidy.tableBelow runKey _ hheld) (Nat.lt_irrefl _)
        · rintro rfl
          exact absurd (htidy'.tableBelow runKey _ hheld') (Nat.lt_irrefl _)
    simp only [WorkflowsDomain.addRun, hget, hget'] at hold hnew
    have hlisted : ∀ key found found', first.workflows.get key = some found →
        second.workflows.get key = some found' →
        List.Forall₂ (ObjectsAlike first second) found.runs found'.runs →
        List.Forall₂ (ObjectsAlike _ _) found.runs found'.runs :=
      fun key found found' hfound hfound' halike =>
        forall₂_mono_mem halike fun object hmem object' hmem' h =>
          hold object object'
            (fun heq => Nat.lt_irrefl _ (htidy.listedBelow key found hfound _ (heq ▸ hmem)))
            (fun heq => Nat.lt_irrefl _ (htidy'.listedBelow key found' hfound' _ (heq ▸ hmem'))) h
    refine ⟨?_, ?_, hsimilar.secrets⟩
    · apply OrderedMap.Alike.set
      · exact hsimilar.workflows.mono fun key found found' hfound hfound' h =>
          ⟨h.1, hlisted key found found' hfound hfound' h.2⟩
      · exact ⟨hrecord, List.rel_append (hlisted workflowKey workflow workflow' hget hget' hruns)
          (.cons hnew .nil)⟩
    · apply OrderedMap.Alike.set
      · refine hsimilar.runs.mono fun runKey held held' hheld hheld' hcontents => ?_
        have hne : held ≠ .created first.nextObject := by
          rintro rfl
          exact Nat.lt_irrefl _ (htidy.tableBelow runKey _ hheld)
        have hne' : held' ≠ .created second.nextObject := by
          rintro rfl
          exact Nat.lt_irrefl _ (htidy'.tableBelow runKey _ hheld')
        simp only [if_neg hne, if_neg hne', hcontents]
      · simp only [if_true]

end

theorem forall₂_range {related : α → β → Prop} {f : Nat → β}
    (h : ∀ position x, xs[position]? = some x → related x (f position)) :
    List.Forall₂ related xs ((List.range xs.length).map f) := by
  refine List.forall₂_iff_get.mpr ⟨by simp, fun position hleft _ => ?_⟩
  simpa using h position xs[position] (List.getElem?_eq_getElem hleft)

theorem Similar.restore_of_no_live (failed : WorkflowsDomain)
    (hfinished : ∀ runKey held, domain.workflowRuns.get runKey = some held →
      ¬domain.LiveAt held) : Similar domain (failed.restore domain.snapshot) := by
  refine ⟨?_, ?_, rfl⟩
  · simp only [WorkflowsDomain.restore, WorkflowsDomain.snapshot, mapWithKey_map]
    refine OrderedMap.Alike.mapWithKey _ _ _ fun _ _ hget => ⟨rfl, ?_⟩
    rw [List.length_map]
    refine forall₂_range fun _ _ hobject => ⟨?_, ?_⟩
    · simp [get_map, hget, hobject]
    · exact fun runKey held _ hheld _ hlive => absurd hlive (hfinished runKey held hheld)
  · simp only [WorkflowsDomain.restore, WorkflowsDomain.snapshot, mapWithKey_map]
    refine OrderedMap.Alike.mapWithKey _ _ _ fun _ _ hget => ?_
    simp [get_map, hget]

theorem Twins.restore (htwins : Twins first second) (failed failed' : WorkflowsDomain) :
    Twins (failed.restore first.snapshot) (failed'.restore second.snapshot) := by
  refine ⟨?_, htwins.tidy.restore failed, htwins.tidy'.restore failed'⟩
  rw [htwins.similar.snapshot]
  exact Similar.of_eq rfl rfl rfl rfl

end Updates

end WorkflowsDomain

end OpenCowork.ControlPlane
