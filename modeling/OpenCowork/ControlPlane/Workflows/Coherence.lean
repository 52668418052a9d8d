import OpenCowork.ControlPlane.Workflows.Edits

/-! # The two ways to a run lead to the same run

A run of a workflow's list is the one that the run table has under its key, and as
long as it is live both are one object.
-/

namespace OpenCowork.ControlPlane

open Foundation OrderedMap

namespace WorkflowsDomain

/-- Two objects with the same contents, which are one object while the run is live. -/
structure SameRun (domain : WorkflowsDomain) (run : CloudWorkflowRunRecord)
    (object other : RunObject) : Prop where
  contents : domain.objects object = some run
  contents' : domain.objects other = some run
  shared : run.live = true → object = other

structure Coherent (domain : WorkflowsDomain) : Prop where
  listed : ∀ workflowKey workflow, domain.workflows.get workflowKey = some workflow →
    ∀ object ∈ workflow.runs, ∃ run held, run.workflowKey = workflowKey ∧
      domain.workflowRuns.get run.tableKey = some held ∧ SameRun domain run object held
  tabled : ∀ runKey held, domain.workflowRuns.get runKey = some held →
    ∃ run workflow, domain.workflows.get run.workflowKey = some workflow ∧
      ∃ object ∈ workflow.runs, SameRun domain run object held
  distinct : ∀ workflowKey workflow, domain.workflows.get workflowKey = some workflow →
    ((domain.runsOf workflow).map CloudWorkflowRunRecord.tableKey).Nodup

variable {domain : WorkflowsDomain} {workflow : WorkflowState}

theorem empty_coherent : Coherent empty := by
  constructor <;> simp [empty]

theorem mem_runsOf {run : CloudWorkflowRunRecord} :
    run ∈ domain.runsOf workflow ↔ ∃ object ∈ workflow.runs, domain.objects object = some run := by
  simp [runsOf]

theorem keys_runsOf (domain : WorkflowsDomain) (workflow : WorkflowState) :
    (domain.runsOf workflow).map CloudWorkflowRunRecord.tableKey =
      workflow.runs.filterMap fun object =>
        (domain.objects object).map CloudWorkflowRunRecord.tableKey := by
  rw [runsOf, List.filterMap_map, List.map_filterMap]
  rfl

theorem Coherent.perm (hcoherent : Coherent domain) (htidy : Tidy domain) {workflowKey : String}
    (hget : domain.workflows.get workflowKey = some workflow) :
    (domain.runsOf workflow).Perm
      (domain.allRuns.filter fun run => decide (run.workflowKey = workflowKey)) := by
  have hlisted : (domain.runsOf workflow).Nodup :=
    (hcoherent.distinct workflowKey workflow hget).of_map _
  have htabled : domain.allRuns.Nodup :=
    htidy.pairwise_allRuns.imp fun hne heq => hne (congrArg _ heq)
  refine (List.perm_ext_iff_of_nodup hlisted (htabled.filter _)).mpr fun run => ?_
  rw [List.mem_filter, htidy.mem_allRuns, decide_eq_true_iff, mem_runsOf]
  constructor
  · rintro ⟨object, hmem, hcontents⟩
    obtain ⟨found, held, hkey, hheld, hsame⟩ :=
      hcoherent.listed workflowKey workflow hget object hmem
    obtain rfl := Option.mem_unique hcontents hsame.contents
    exact ⟨by rw [run?, hheld, Option.bind_some, hsame.contents'], hkey⟩
  · rintro ⟨hrun, rfl⟩
    obtain ⟨held, hheld, hcontents⟩ := Option.bind_eq_some_iff.mp hrun
    obtain ⟨_, _, hother, object, hmem, hsame⟩ := hcoherent.tabled _ held hheld
    obtain rfl := Option.mem_unique hcontents hsame.contents'
    obtain rfl := Option.mem_unique hget hother
    exact ⟨object, hmem, hsame.contents⟩

section Edits

variable {workflowKey : String} {run : CloudWorkflowRunRecord} (hcoherent : Coherent domain)
include hcoherent

theorem Coherent.setWorkflow (record : CloudWorkflowRecord) {runs : List RunObject}
    (hruns : (domain.workflows.get workflowKey = none ∧ runs = []) ∨
      ∃ old, domain.workflows.get workflowKey = some old ∧ runs = old.runs)
    (secrets : OrderedMap String CloudWorkflowWebhookSecretRecord) :
    Coherent { domain with
      workflows := domain.workflows.set workflowKey ⟨record, runs⟩
      workflowWebhookSecrets := secrets } := by
  have hkept : ∀ key workflow, (domain.workflows.set workflowKey ⟨record, runs⟩).get key =
      some workflow → (domain.workflows.get key = none ∧ workflow.runs = []) ∨
        ∃ old, domain.workflows.get key = some old ∧ workflow.runs = old.runs := by
    intro key workflow hget
    rw [get_set] at hget
    split at hget
    next h =>
      subst h
      exact Option.some.inj hget ▸ hruns
    · exact .inr ⟨workflow, hget, rfl⟩
  constructor
  · intro key workflow hget object hmem
    rcases hkept key workflow hget with ⟨-, hnil⟩ | ⟨old, hold, heq⟩
    · exact absurd (hnil ▸ hmem) List.not_mem_nil
    · obtain ⟨run, held, hkey, hheld, hsame⟩ := hcoherent.listed key old hold object (heq ▸ hmem)
      exact ⟨run, held, hkey, hheld, hsame.contents, hsame.contents', hsame.shared⟩
  · intro runKey held hheld
    obtain ⟨run, workflow, hget, object, hmem, hsame⟩ := hcoherent.tabled runKey held hheld
    have hsame' : SameRun { domain with
        workflows := domain.workflows.set workflowKey ⟨record, runs⟩
        workflowWebhookSecrets := secrets } run object held :=
      ⟨hsame.contents, hsame.contents', hsame.shared⟩
    by_cases h : workflowKey = run.workflowKey
    · subst h
      refine ⟨run, ⟨record, runs⟩, get_set_self _ _ _, object, ?_, hsame'⟩
      rcases hruns with ⟨hnone, -⟩ | ⟨old, hold, rfl⟩
      · exact absurd (hnone.symm.trans hget) (by simp)
      · obtain rfl := Option.mem_unique hold hget
        exact hmem
    · exact ⟨run, workflow, (get_set_of_ne _ _ h).trans hget, object, hmem, hsame'⟩
  · intro key workflow hget
    rcases hkept key workflow hget with ⟨-, hnil⟩ | ⟨old, hold, heq⟩
    · simp [runsOf, hnil]
    · have hdistinct := hcoherent.distinct key old hold
      rw [runsOf] at hdistinct ⊢
      exact heq ▸ hdistinct

theorem Coherent.updateWorkflow (workflowKey : String)
    (update : CloudWorkflowRecord → CloudWorkflowRecord)
    (secrets : OrderedMap String CloudWorkflowWebhookSecretRecord) :
    Coherent
      { domain.updateWorkflow workflowKey update with workflowWebhookSecrets := secrets } := by
  unfold WorkflowsDomain.updateWorkflow
  split
  · exact ⟨fun key workflow hget object hmem => by
      obtain ⟨run, held, hkey, hheld, hsame⟩ := hcoherent.listed key workflow hget object hmem
      exact ⟨run, held, hkey, hheld, hsame.contents, hsame.contents', hsame.shared⟩,
      fun runKey held hheld => by
        obtain ⟨run, workflow, hget, object, hmem, hsame⟩ := hcoherent.tabled runKey held hheld
        exact ⟨run, workflow, hget, object, hmem, hsame.contents, hsame.contents', hsame.shared⟩,
      hcoherent.distinct⟩
  next workflow hget => exact hcoherent.setWorkflow _ (.inr ⟨workflow, hget, rfl⟩) secrets

/-- A live run is one object wherever it shows, so it is mutated everywhere. -/
theorem Coherent.updateRun {runKey : String} (hrun : domain.run? runKey = some run)
    (hlive : run.live = true) (update : CloudWorkflowRunRecord → CloudWorkflowRunRecord)
    (hupdate : WorkflowsEdit.KeepsRun update) : Coherent (domain.updateRun runKey update) := by
  obtain ⟨mutated, hmutated, hcontents⟩ := Option.bind_eq_some_iff.mp hrun
  unfold WorkflowsDomain.updateRun
  rw [hmutated]
  -- The same two objects after the mutation, with keys that are kept.
  have hsame' : ∀ found object other, SameRun domain found object other →
      ∃ next, next.tableKey = found.tableKey ∧ next.workflowKey = found.workflowKey ∧
        SameRun { domain with objects := fun other =>
          if other = mutated then (domain.objects mutated).map update else domain.objects other }
          next object other := by
    intro found object other hsame
    by_cases h : object = mutated ∨ other = mutated
    · have hfound : found = run := by
        rcases h with rfl | rfl
        · exact Option.mem_unique hsame.contents hcontents
        · exact Option.mem_unique hsame.contents' hcontents
      subst hfound
      obtain rfl := hsame.shared hlive
      obtain rfl : object = mutated := h.elim id id
      refine ⟨update found, (hupdate found).1, (hupdate found).2, ?_, ?_, fun _ => rfl⟩ <;>
        exact (if_pos rfl).trans (by rw [hcontents, Option.map_some])
    · obtain ⟨hne, hne'⟩ := not_or.mp h
      exact ⟨found, rfl, rfl, (if_neg hne).trans hsame.contents,
        (if_neg hne').trans hsame.contents', hsame.shared⟩
  constructor
  · intro workflowKey workflow hget object hmem
    obtain ⟨found, held, hkey, hheld, hsame⟩ :=
      hcoherent.listed workflowKey workflow hget object hmem
    obtain ⟨next, htable, hworkflow, hnext⟩ := hsame' found object held hsame
    exact ⟨next, held, hworkflow.trans hkey, htable ▸ hheld, hnext⟩
  · intro key held hheld
    obtain ⟨found, workflow, hget, object, hmem, hsame⟩ := hcoherent.tabled key held hheld
    obtain ⟨next, _, hworkflow, hnext⟩ := hsame' found object held hsame
    exact ⟨next, workflow, hworkflow ▸ hget, object, hmem, hnext⟩
  · intro workflowKey workflow hget
    have hdistinct := hcoherent.distinct workflowKey workflow hget
    rw [keys_runsOf] at hdistinct ⊢
    refine (congrArg List.Nodup (List.filterMap_congr fun _ _ => ?_)).mpr hdistinct
    dsimp only
    split
    next h => rw [h, hcontents, Option.map_some, Option.map_some, Option.map_some, (hupdate run).1]
    · rfl

theorem Coherent.addRun (htidy : Tidy domain) (hkey : run.workflowKey = workflowKey)
    (hfresh : domain.run? run.tableKey = none) : Coherent (domain.addRun workflowKey run) := by
  cases hworkflow : domain.workflows.get workflowKey with
  | none =>
    rw [WorkflowsDomain.addRun, hworkflow]
    exact hcoherent
  | some workflow =>
  -- The new domain by its parts.
  have hnew : (domain.addRun workflowKey run).objects (.created domain.nextObject) = some run := by
    simp [WorkflowsDomain.addRun, hworkflow]
  have hold : ∀ object, object ≠ .created domain.nextObject →
      (domain.addRun workflowKey run).objects object = domain.objects object := by
    intro object hne
    simp [WorkflowsDomain.addRun, hworkflow, hne]
  have hworkflows : (domain.addRun workflowKey run).workflows = domain.workflows.set workflowKey
      ⟨workflow.record, workflow.runs ++ [.created domain.nextObject]⟩ := by
    simp [WorkflowsDomain.addRun, hworkflow]
  have htable : (domain.addRun workflowKey run).workflowRuns =
      domain.workflowRuns.set run.tableKey (.created domain.nextObject) := by
    simp [WorkflowsDomain.addRun, hworkflow]
  have hlistedNe : ∀ key found, domain.workflows.get key = some found →
      ∀ object ∈ found.runs, object ≠ .created domain.nextObject := by
    rintro key found hget object hmem rfl
    exact Nat.lt_irrefl _ (htidy.listedBelow key found hget _ hmem)
  have htabledNe : ∀ key held, domain.workflowRuns.get key = some held →
      held ≠ .created domain.nextObject := by
    rintro key held hget rfl
    exact Nat.lt_irrefl _ (htidy.tableBelow key _ hget)
  have hkeyNe : ∀ key held, domain.workflowRuns.get key = some held → run.tableKey ≠ key := by
    rintro key held hget rfl
    obtain ⟨found, hfound, -⟩ := htidy.keyed _ held hget
    rw [run?, hget, Option.bind_some, hfound] at hfresh
    simp at hfresh
  have hsame' : ∀ key found, domain.workflows.get key = some found → ∀ object ∈ found.runs,
      ∀ runKey held, domain.workflowRuns.get runKey = some held → ∀ other,
      SameRun domain other object held →
        SameRun (domain.addRun workflowKey run) other object held := by
    intro key found hget object hmem runKey held hheld other hsame
    refine ⟨?_, ?_, hsame.shared⟩
    · rw [hold object (hlistedNe key found hget object hmem), hsame.contents]
    · rw [hold held (htabledNe runKey held hheld), hsame.contents']
  have hnewSame : SameRun (domain.addRun workflowKey run) run (.created domain.nextObject)
      (.created domain.nextObject) := ⟨hnew, hnew, fun _ => rfl⟩
  constructor
  · intro key found hget object hmem
    have hlisted : ∀ old, domain.workflows.get key = some old → object ∈ old.runs →
        ∃ other held, other.workflowKey = key ∧
          (domain.addRun workflowKey run).workflowRuns.get other.tableKey = some held ∧
            SameRun (domain.addRun workflowKey run) other object held := by
      intro old hgetOld hmemOld
      obtain ⟨other, held, hotherKey, hheld, hsame⟩ :=
        hcoherent.listed key old hgetOld object hmemOld
      refine ⟨other, held, hotherKey, ?_,
        hsame' key old hgetOld object hmemOld _ held hheld other hsame⟩
      rw [htable, get_set_of_ne _ _ (hkeyNe _ held hheld), hheld]
    rw [hworkflows, get_set] at hget
    split at hget
    next h =>
      subst h
      obtain rfl := Option.some.inj hget
      rcases List.mem_append.mp hmem with hmemOld | hmemNew
      · exact hlisted workflow hworkflow hmemOld
      · obtain rfl := List.mem_singleton.mp hmemNew
        refine ⟨run, _, hkey, ?_, hnewSame⟩
        rw [htable, get_set_self]
    · exact hlisted found hget hmem
  · intro runKey held hheld
    rw [htable, get_set] at hheld
    rw [hworkflows]
    split at hheld
    · obtain rfl := Option.some.inj hheld
      subst hkey
      exact ⟨run, _, get_set_self _ _ _, _, List.mem_append_right _
        (List.mem_singleton_self _), hnewSame⟩
    · obtain ⟨other, found, hget, object, hmem, hsame⟩ := hcoherent.tabled runKey held hheld
      have hkeptSame := hsame' _ found hget object hmem runKey held hheld other hsame
      by_cases h : workflowKey = other.workflowKey
      · subst h
        obtain rfl := Option.mem_unique hworkflow hget
        exact ⟨other, _, get_set_self _ _ _, object, List.mem_append_left _ hmem, hkeptSame⟩
      · exact ⟨other, found, (get_set_of_ne _ _ h).trans hget, object, hmem, hkeptSame⟩
  · intro key found hget
    have hkept : ∀ old, domain.workflows.get key = some old →
        (old.runs.filterMap fun object => ((domain.addRun workflowKey run).objects object).map
          CloudWorkflowRunRecord.tableKey) =
            (domain.runsOf old).map CloudWorkflowRunRecord.tableKey := by
      intro old hgetOld
      rw [keys_runsOf]
      refine List.filterMap_congr fun object hmem => ?_
      rw [hold object (hlistedNe key old hgetOld object hmem)]
    rw [hworkflows, get_set] at hget
    split at hget
    next h =>
      subst h
      obtain rfl := Option.some.inj hget
      rw [keys_runsOf, List.filterMap_append, hkept workflow hworkflow]
      simp only [List.filterMap_cons, List.filterMap_nil, hnew, Option.map_some]
      refine (hcoherent.distinct workflowKey workflow hworkflow).append (List.nodup_singleton _) ?_
      intro other hmem hother
      obtain rfl := List.mem_singleton.mp hother
      obtain ⟨found, hfound, htableKey⟩ := List.mem_map.mp hmem
      obtain ⟨object, hobject, hcontents⟩ := mem_runsOf.mp hfound
      obtain ⟨_, held, _, hheld, hsame⟩ :=
        hcoherent.listed workflowKey workflow hworkflow object hobject
      obtain rfl := Option.mem_unique hcontents hsame.contents
      exact hkeyNe _ held hheld htableKey.symm
    · rw [keys_runsOf, hkept found hget]
      exact hcoherent.distinct key found hget

theorem Coherent.restore_of_no_live (failed : WorkflowsDomain)
    (hfinished : ∀ runKey held, domain.workflowRuns.get runKey = some held →
      ¬domain.LiveAt held) : Coherent (failed.restore domain.snapshot) := by
  have hlistCopy : ∀ workflowKey workflow position, domain.workflows.get workflowKey =
    some workflow →
      (failed.restore domain.snapshot).objects (.listCopy workflowKey position) =
        workflow.runs[position]?.bind domain.objects := by
    intro workflowKey workflow position hget
    simp [WorkflowsDomain.restore, snapshot, get_map, hget, Option.bind_map]
  have htableCopy : ∀ runKey held, domain.workflowRuns.get runKey = some held →
      (failed.restore domain.snapshot).objects (.tableCopy runKey) = domain.objects held := by
    intro runKey held hheld
    simp [WorkflowsDomain.restore, snapshot, get_map, hheld]
  have hworkflows : ∀ workflowKey copied,
      (failed.restore domain.snapshot).workflows.get workflowKey = some copied ↔
        ∃ workflow, domain.workflows.get workflowKey = some workflow ∧
          copied = ⟨workflow.record,
            (List.range workflow.runs.length).map (RunObject.listCopy workflowKey)⟩ := by
    intro workflowKey copied
    simp [WorkflowsDomain.restore, snapshot, mapWithKey_map, get_mapWithKey, eq_comm]
  have htable : ∀ runKey copy,
      (failed.restore domain.snapshot).workflowRuns.get runKey = some copy ↔
        (∃ held, domain.workflowRuns.get runKey = some held) ∧ copy = .tableCopy runKey := by
    intro runKey copy
    simp [WorkflowsDomain.restore, snapshot, mapWithKey_map, get_mapWithKey, eq_comm]
  constructor
  · intro workflowKey copied hcopied _ hmem
    obtain ⟨workflow, hget, rfl⟩ := (hworkflows workflowKey copied).mp hcopied
    obtain ⟨position, hposition, rfl⟩ := List.mem_map.mp hmem
    rw [List.mem_range] at hposition
    obtain ⟨run, held, hkey, hheld, hsame⟩ := hcoherent.listed workflowKey workflow hget
      workflow.runs[position] (List.getElem_mem hposition)
    refine ⟨run, .tableCopy run.tableKey, hkey, (htable _ _).mpr ⟨⟨held, hheld⟩, rfl⟩, ?_, ?_, ?_⟩
    · rw [hlistCopy workflowKey workflow position hget, List.getElem?_eq_getElem hposition,
        Option.bind_some, hsame.contents]
    · rw [htableCopy run.tableKey held hheld, hsame.contents']
    · exact fun hlive => absurd ⟨run, hsame.contents', hlive⟩ (hfinished _ held hheld)
  · intro runKey copy hcopy
    obtain ⟨⟨held, hheld⟩, rfl⟩ := (htable runKey copy).mp hcopy
    obtain ⟨run, workflow, hget, _, hmem, hsame⟩ := hcoherent.tabled runKey held hheld
    obtain ⟨position, hposition, rfl⟩ := List.getElem_of_mem hmem
    refine ⟨run, _, (hworkflows _ _).mpr ⟨workflow, hget, rfl⟩, .listCopy run.workflowKey position,
      List.mem_map_of_mem (List.mem_range.mpr hposition), ?_, ?_, ?_⟩
    · rw [hlistCopy _ workflow position hget, List.getElem?_eq_getElem hposition,
        Option.bind_some, hsame.contents]
    · rw [htableCopy runKey held hheld, hsame.contents']
    · exact fun hlive => absurd ⟨run, hsame.contents', hlive⟩ (hfinished _ held hheld)
  · intro workflowKey copied hcopied
    obtain ⟨workflow, hget, rfl⟩ := (hworkflows workflowKey copied).mp hcopied
    have hcontents : ((List.range workflow.runs.length).map (RunObject.listCopy workflowKey)).map
        (failed.restore domain.snapshot).objects = workflow.runs.map domain.objects := by
      refine List.ext_getElem (by simp) fun position hleft _ => ?_
      have hposition : position < workflow.runs.length := by simpa using hleft
      rw [List.getElem_map, List.getElem_map, List.getElem_map, List.getElem_range,
        hlistCopy workflowKey workflow position hget, List.getElem?_eq_getElem hposition,
        Option.bind_some]
    rw [runsOf, hcontents]
    exact hcoherent.distinct workflowKey workflow hget

end Edits

end WorkflowsDomain

open WorkflowsDomain in
theorem Lockstep.coherent {fresh : Prop} (hfresh : fresh)
    {first second first' second' : WorkflowsDomain}
    (hstep : Lockstep fresh first second first' second') (htidy : Tidy first)
    (hcoherent : Coherent first) : Coherent first' := by
  induction hstep with
  | rest => exact hcoherent
  | @edit first _ _ _ edit hallowed _ ih =>
    refine ih (edit_twins (Twins.refl htidy) edit hallowed).tidy ?_
    cases edit with
    | begin => exact hcoherent.setWorkflow _ (.inl ⟨hallowed, rfl⟩) _
    | author => exact hcoherent.updateWorkflow _ _ _
    | mutate _ update workflowKey follow =>
      obtain ⟨⟨run, hrun, hlive⟩, hupdate, -⟩ := hallowed
      exact (hcoherent.updateRun hrun hlive update hupdate).updateWorkflow workflowKey follow _
    | add workflowKey _ follow =>
      obtain ⟨hkey, hnew, -⟩ := hallowed
      exact (hcoherent.addRun htidy hkey (hnew hfresh)).updateWorkflow workflowKey follow _

end OpenCowork.ControlPlane
