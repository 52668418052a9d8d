import OpenCowork.ControlPlane.Workflows.Domain
import OpenCowork.ControlPlane.Workflows.Twins

/-! # What an operation does to the workflows

Every operation leaves the domain alone or makes one of four edits, the reaper one
for each claim. On twins an operation answers the same and makes the same edits.
-/

namespace OpenCowork.ControlPlane

open Foundation OrderedMap

inductive WorkflowsEdit where
  | begin (record : CloudWorkflowRecord)
      (secrets : OrderedMap String CloudWorkflowWebhookSecretRecord)
  | author (workflowKey : String) (update : CloudWorkflowRecord → CloudWorkflowRecord)
      (secrets : OrderedMap String CloudWorkflowWebhookSecretRecord)
  | mutate (runKey : String) (update : CloudWorkflowRunRecord → CloudWorkflowRunRecord)
      (workflowKey : String) (follow : CloudWorkflowRecord → CloudWorkflowRecord)
  | add (workflowKey : String) (run : CloudWorkflowRunRecord)
      (follow : CloudWorkflowRecord → CloudWorkflowRecord)

namespace WorkflowsEdit

def apply (domain : WorkflowsDomain) : WorkflowsEdit → WorkflowsDomain
  | .begin record secrets =>
    { domain with
      workflows := domain.workflows.set record.key ⟨record, []⟩
      workflowWebhookSecrets := secrets }
  | .author workflowKey update secrets =>
    { domain.updateWorkflow workflowKey update with workflowWebhookSecrets := secrets }
  | .mutate runKey update workflowKey follow =>
    (domain.updateRun runKey update).updateWorkflow workflowKey follow
  | .add workflowKey run follow => (domain.addRun workflowKey run).updateWorkflow workflowKey follow

def KeepsWorkflow (update : CloudWorkflowRecord → CloudWorkflowRecord) : Prop :=
  ∀ record, (update record).key = record.key

def KeepsRun (update : CloudWorkflowRunRecord → CloudWorkflowRunRecord) : Prop :=
  ∀ run, (update run).tableKey = run.tableKey ∧ (update run).workflowKey = run.workflowKey

/-- Only live runs are mutated, a new workflow has a new key and, where it is `fresh`,
so has a new run. -/
def Allowed (fresh : Prop) (domain : WorkflowsDomain) : WorkflowsEdit → Prop
  | .begin record _ => domain.workflows.get record.key = none
  | .author _ update _ => KeepsWorkflow update
  | .mutate runKey update _ follow =>
    (∃ run, domain.run? runKey = some run ∧ run.live = true) ∧ KeepsRun update ∧
      KeepsWorkflow follow
  | .add workflowKey run follow =>
    run.workflowKey = workflowKey ∧ (fresh → domain.run? run.tableKey = none) ∧
      KeepsWorkflow follow

end WorkflowsEdit

/-- The same edits, one after the other, in two domains; they are allowed in the first. -/
inductive Lockstep (fresh : Prop) : WorkflowsDomain → WorkflowsDomain → WorkflowsDomain →
    WorkflowsDomain → Prop
  | rest (first second : WorkflowsDomain) : Lockstep fresh first second first second
  | edit {first second first' second' : WorkflowsDomain} (edit : WorkflowsEdit)
      (hallowed : edit.Allowed fresh first)
      (hrest : Lockstep fresh (edit.apply first) (edit.apply second) first' second') :
      Lockstep fresh first second first' second'

namespace Lockstep

variable {fresh : Prop} {first second first' second' : WorkflowsDomain}

theorem begin (record : CloudWorkflowRecord)
    (secrets : OrderedMap String CloudWorkflowWebhookSecretRecord)
    (hnone : first.workflows.get record.key = none) :
    Lockstep fresh first second
      { first with
        workflows := first.workflows.set record.key ⟨record, []⟩
        workflowWebhookSecrets := secrets }
      { second with
        workflows := second.workflows.set record.key ⟨record, []⟩
        workflowWebhookSecrets := secrets } :=
  .edit (.begin record secrets) hnone (.rest _ _)

theorem author (workflowKey : String) (update : CloudWorkflowRecord → CloudWorkflowRecord)
    (secrets : OrderedMap String CloudWorkflowWebhookSecretRecord)
    (hupdate : WorkflowsEdit.KeepsWorkflow update) :
    Lockstep fresh first second
      { first.updateWorkflow workflowKey update with workflowWebhookSecrets := secrets }
      { second.updateWorkflow workflowKey update with workflowWebhookSecrets := secrets } :=
  .edit (.author workflowKey update secrets) hupdate (.rest _ _)

theorem mutate (runKey : String) (update : CloudWorkflowRunRecord → CloudWorkflowRunRecord)
    (workflowKey : String) (follow : CloudWorkflowRecord → CloudWorkflowRecord)
    {run : CloudWorkflowRunRecord} (hrun : first.run? runKey = some run)
    (hlive : run.live = true) (hupdate : WorkflowsEdit.KeepsRun update)
    (hfollow : WorkflowsEdit.KeepsWorkflow follow) :
    Lockstep fresh first second
      ((first.updateRun runKey update).updateWorkflow workflowKey follow)
      ((second.updateRun runKey update).updateWorkflow workflowKey follow) :=
  .edit (.mutate runKey update workflowKey follow) ⟨⟨run, hrun, hlive⟩, hupdate, hfollow⟩
    (.rest _ _)

theorem add (workflowKey : String) (run : CloudWorkflowRunRecord)
    (follow : CloudWorkflowRecord → CloudWorkflowRecord) (hkey : run.workflowKey = workflowKey)
    (hfresh : fresh → first.run? run.tableKey = none)
    (hfollow : WorkflowsEdit.KeepsWorkflow follow) :
    Lockstep fresh first second
      ((first.addRun workflowKey run).updateWorkflow workflowKey follow)
      ((second.addRun workflowKey run).updateWorkflow workflowKey follow) :=
  .edit (.add workflowKey run follow) ⟨hkey, hfresh, hfollow⟩ (.rest _ _)

theorem trans (hstep : Lockstep fresh first second first' second')
    {first'' second'' : WorkflowsDomain} (hnext : Lockstep fresh first' second' first'' second'') :
    Lockstep fresh first second first'' second'' := by
  induction hstep with
  | rest => exact hnext
  | edit edit hallowed _ ih => exact .edit edit hallowed (ih hnext)

theorem edit_twins (htwins : WorkflowsDomain.Twins first second) (edit : WorkflowsEdit)
    (hallowed : edit.Allowed fresh first) :
    WorkflowsDomain.Twins (edit.apply first) (edit.apply second) := by
  cases edit with
  | begin => exact htwins.setWorkflow rfl _
  | author =>
    exact (htwins.updateWorkflow _ _ hallowed).withSecrets _
  | mutate _ update workflowKey follow =>
    obtain ⟨⟨run, hrun, hlive⟩, hupdate, hfollow⟩ := hallowed
    have hmutated := htwins.updateRun hrun hlive update fun run => (hupdate run).1
    exact hmutated.updateWorkflow workflowKey follow hfollow
  | add workflowKey =>
    exact (htwins.addRun workflowKey _).updateWorkflow workflowKey _ hallowed.2.2

theorem twins (hstep : Lockstep fresh first second first' second')
    (htwins : WorkflowsDomain.Twins first second) : WorkflowsDomain.Twins first' second' := by
  induction hstep with
  | rest => exact htwins
  | edit edit hallowed _ ih => exact ih (edit_twins htwins edit hallowed)

end Lockstep

/-- Two outcomes with the same answer after the same edits. -/
structure Together {α : Type} (fresh : Prop) (first second : WorkflowsDomain)
    (one other : Outcome WorkflowsDomain α) : Prop where
  answer : one.1 = other.1
  edits : Lockstep fresh first second one.2 other.2

/-- The same where the neighbours are changed as well. -/
structure TogetherWith {σ α : Type} (fresh : Prop) (first second : WorkflowsDomain)
    (one other : Outcome (σ × WorkflowsDomain) α) : Prop where
  answer : one.1 = other.1
  neighbours : one.2.1 = other.2.1
  edits : Lockstep fresh first second one.2.2 other.2.2

namespace WorkflowsDomain

variable {σ : Type} {env : Environment} {texts : WorkflowsEnvironment} {host : WorkflowsHost σ}
  {first second : WorkflowsDomain} {α : Type} {domain : WorkflowsDomain}
  {run : CloudWorkflowRunRecord} {fresh : Prop}

theorem Together.same (answer : Except StoreError α) :
    Together fresh first second (answer, first) (answer, second) :=
  ⟨rfl, .rest first second⟩

theorem TogetherWith.same (answer : Except StoreError α) (neighbours : σ) :
    TogetherWith fresh first second (answer, neighbours, first) (answer, neighbours, second) :=
  ⟨rfl, rfl, .rest first second⟩

theorem Similar.requireWorkflow (hsimilar : Similar first second) (host : WorkflowsHost σ)
    (tenantId workflowId : String) :
    (∃ thrown, first.requireWorkflow host tenantId workflowId = .error thrown ∧
      second.requireWorkflow host tenantId workflowId = .error thrown) ∨
      ∃ record runs runs', first.requireWorkflow host tenantId workflowId = .ok ⟨record, runs⟩ ∧
        second.requireWorkflow host tenantId workflowId = .ok ⟨record, runs'⟩ ∧
        first.workflows.get (key tenantId workflowId) = some ⟨record, runs⟩ ∧
        List.Forall₂ (ObjectsAlike first second) runs runs' := by
  unfold WorkflowsDomain.requireWorkflow
  cases host.requireTenant tenantId with
  | error thrown => exact .inl ⟨thrown, rfl, rfl⟩
  | ok =>
    rcases hsimilar.workflow (key tenantId workflowId) with
      ⟨hnone, hnone'⟩ | ⟨record, runs, runs', hget, hget', hruns⟩
    · simp only [hnone, hnone']
      exact .inl ⟨_, rfl, rfl⟩
    · simp only [hget, hget']
      exact .inr ⟨record, runs, runs', rfl, rfl, rfl, hruns⟩

variable (htwins : Twins first second)
include htwins

theorem createWorkflow_together (fresh : Prop) (input : CreateWorkflowInput) (now : Instant) :
    Together fresh first second (first.createWorkflow host input now)
      (second.createWorkflow host input now) := by
  unfold createWorkflow
  cases host.requireTenantUser input.tenantId input.userId with
  | error => exact Together.same _
  | ok =>
    rcases htwins.similar.workflow (key input.tenantId input.workflowId) with
      ⟨hnone, hnone'⟩ | ⟨record, runs, runs', hget, hget', hruns⟩
    · simp only [hnone, hnone', htwins.similar.secrets]
      exact ⟨rfl, Lockstep.begin (createdWorkflow input _) _ hnone⟩
    · simp only [hget, hget']
      split <;> exact Together.same _

theorem updateWorkflowStatus_together (fresh : Prop) (input : UpdateWorkflowStatusInput)
    (now : Instant) :
    Together fresh first second (first.updateWorkflowStatus host input now)
      (second.updateWorkflowStatus host input now) := by
  unfold updateWorkflowStatus
  cases host.requireTenantUser input.tenantId input.userId with
  | error => exact Together.same _
  | ok =>
    rcases htwins.similar.workflow (key input.tenantId input.workflowId) with
      ⟨hnone, hnone'⟩ | ⟨record, runs, runs', hget, hget', hruns⟩
    · simp only [hnone, hnone']
      exact Together.same _
    · simp only [hget, hget', htwins.similar.secrets]
      split
      · exact Together.same _
      · split
        · exact Together.same _
        · exact ⟨rfl, Lockstep.author _ _ _ fun _ => rfl⟩

theorem rotateWorkflowWebhookSecret_together (fresh : Prop)
    (input : RotateWorkflowWebhookSecretInput) (now : Instant) :
    Together fresh first second (first.rotateWorkflowWebhookSecret host input now)
      (second.rotateWorkflowWebhookSecret host input now) := by
  unfold rotateWorkflowWebhookSecret
  cases host.requireTenantUser input.tenantId input.userId with
  | error => exact Together.same _
  | ok =>
    rcases htwins.similar.workflow (key input.tenantId input.workflowId) with
      ⟨hnone, hnone'⟩ | ⟨record, runs, runs', hget, hget', hruns⟩
    · simp only [hnone, hnone']
      exact Together.same _
    · simp only [hget, hget', htwins.similar.secrets]
      split
      · exact Together.same _
      · exact ⟨rfl, Lockstep.author _ _ _ fun _ => rfl⟩

omit htwins

theorem Tidy.mem_allRuns (htidy : Tidy domain) (run : CloudWorkflowRunRecord) :
    run ∈ domain.allRuns ↔ domain.run? run.tableKey = some run := by
  constructor
  · intro hmem
    simp only [allRuns, List.mem_filterMap, mem_values_iff, get_map,
      Option.map_eq_some_iff, id_eq] at hmem
    obtain ⟨_, ⟨runKey, held, hheld, rfl⟩, hrun⟩ := hmem
    obtain ⟨_, hfound, hkey⟩ := htidy.keyed runKey held hheld
    obtain rfl := Option.mem_unique hrun hfound
    rw [hkey, run?, hheld, Option.bind_some, hrun]
  · intro hrun
    obtain ⟨held, hheld, hcontents⟩ := Option.bind_eq_some_iff.mp hrun
    simp only [allRuns, List.mem_filterMap, mem_values_iff, get_map, Option.map_eq_some_iff, id_eq]
    exact ⟨some run, ⟨run.tableKey, held, hheld, hcontents⟩, rfl⟩

theorem live_of_idle (hidle : idle host run = true) : run.live = true := by
  unfold idle at hidle
  split at hidle
  · simp [CloudWorkflowRunRecord.live, of_decide_eq_true hidle]
  · exact (Bool.and_eq_true_iff.mp hidle).1

theorem createdRun_keys (texts : WorkflowsEnvironment) (input : CreateWorkflowRunInput)
    (workflow : CloudWorkflowRecord) (nonce : String) (createdAt : Instant) :
    (createdRun texts input workflow nonce createdAt).tableKey = key input.tenantId input.runId ∧
      (createdRun texts input workflow nonce createdAt).workflowKey =
        key input.tenantId input.workflowId := by
  unfold createdRun
  split <;> exact ⟨rfl, rfl⟩

theorem createWorkflowRun_together (htwins : Twins first second) (fresh : Prop)
    (neighbours : σ) (input : CreateWorkflowRunInput) (nonce : String) (now : Instant) :
    TogetherWith fresh first second
      (createWorkflowRun texts host neighbours first input nonce now)
      (createWorkflowRun texts host neighbours second input nonce now) := by
  unfold createWorkflowRun
  cases host.requireTenantUser input.tenantId input.userId with
  | error => exact TogetherWith.same _ _
  | ok =>
  rcases htwins.similar.requireWorkflow host input.tenantId input.workflowId with
    ⟨thrown, h, h'⟩ | ⟨record, runs, runs', h, h', hget, hruns⟩
  · simp only [h, h']
    exact TogetherWith.same _ _
  simp only [h, h', ← htwins.similar.run?, ← htwins.similar.allRuns]
  split
  · exact TogetherWith.same _ _
  rcases assertWorkflowRunnable record with thrown | ⟨⟨⟩⟩
  · exact TogetherWith.same _ _
  cases hrun : first.run? (key input.tenantId input.runId) with
  | some => exact TogetherWith.same _ _
  | none =>
  rcases host.assertWorkflowRunQuota first.allRuns input.tenantId input.quota
    (input.createdAt.getD now) with ⟨thrown | ⟨⟨⟩⟩, after⟩
  · exact TogetherWith.same _ _
  · obtain ⟨htable, hworkflow⟩ := createdRun_keys texts input record nonce
      (input.createdAt.getD now)
    refine ⟨rfl, rfl, ?_⟩
    dsimp only
    refine Lockstep.add _ _ _ hworkflow (fun _ => ?_) ?_
    · rw [htable]
      exact hrun
    · exact fun _ => rfl

variable (hsimilar : Similar first second)
include hsimilar

theorem Similar.retryable (run : CloudWorkflowRunRecord) :
    first.retryable host run = second.retryable host run := by
  have hstatus := congrArg (fun records => (records.get run.workflowKey).map
    CloudWorkflowRecord.status) hsimilar.records
  simp only [get_map, Option.map_map] at hstatus
  unfold WorkflowsDomain.retryable
  exact congrArg (fun status => decide (status = some WorkflowStatus.running) && idle host run &&
    decide (run.claimToken = none)) hstatus

theorem Similar.retryRun : first.retryRun env host = second.retryRun env host := by
  unfold WorkflowsDomain.retryRun
  rw [hsimilar.allRuns, funext hsimilar.retryable]

theorem Similar.dueWorkflow (now : Instant) : first.dueWorkflow now = second.dueWorkflow now := by
  unfold WorkflowsDomain.dueWorkflow
  rw [hsimilar.records]

omit hsimilar

theorem Tidy.retryRun (htidy : Tidy first) (hretry : first.retryRun env host = some run) :
    first.run? run.tableKey = some run ∧ run.live = true := by
  have hmem := List.mem_of_mem_head? hretry
  rw [List.mem_insertionSort, List.mem_filter] at hmem
  refine ⟨(htidy.mem_allRuns run).mp hmem.1, ?_⟩
  simp only [WorkflowsDomain.retryable, Bool.and_eq_true] at hmem
  exact live_of_idle hmem.2.1.2

theorem Tidy.dueWorkflow (htidy : Tidy first) {now : Instant}
    {due : String × CloudWorkflowRecord × Instant} (hdue : first.dueWorkflow now = some due) :
    due.2.1.key = due.1 := by
  have hmem := List.mem_of_mem_head? hdue
  rw [List.mem_insertionSort, List.mem_filterMap] at hmem
  obtain ⟨⟨workflowKey, record⟩, hentry, hchosen⟩ := hmem
  have hget := (get_eq_some_iff _ workflowKey record).mpr hentry
  rw [get_map, Option.map_eq_some_iff] at hget
  obtain ⟨workflow, hworkflow, rfl⟩ := hget
  have hkey := htidy.named workflowKey workflow hworkflow
  split at hchosen
  · split at hchosen
    · exact Option.some.inj hchosen ▸ hkey
    · simp at hchosen
  · simp at hchosen

def RunIdFree (env : Environment) (host : WorkflowsHost σ) (domain : WorkflowsDomain)
    (input : ClaimDueWorkflowRunInput) (now : Instant) : Prop :=
  domain.retryRun env host = none → ∀ due ∈ domain.dueWorkflow now,
    domain.run? (key due.2.1.tenantId input.runId) = none

theorem claimDueWorkflowRun_together (htwins : Twins first second) (fresh : Prop)
    (neighbours : σ) (input : ClaimDueWorkflowRunInput) (nonce : String) (now : Instant)
    (hfresh : fresh → RunIdFree env host first input now) :
    TogetherWith fresh first second
      (claimDueWorkflowRun env texts host neighbours first input nonce now)
      (claimDueWorkflowRun env texts host neighbours second input nonce now) := by
  unfold claimDueWorkflowRun
  simp only [← htwins.similar.retryRun, ← htwins.similar.dueWorkflow, ← htwins.similar.allRuns]
  cases hretry : first.retryRun env host with
  | some run =>
    have hrun := htwins.tidy.retryRun hretry
    rcases htwins.similar.requireWorkflow host run.tenantId run.workflowId with
      ⟨thrown, h, h'⟩ | ⟨record, runs, runs', h, h', hget, hruns⟩
    · simp only [h, h']
      exact TogetherWith.same _ _
    · simp only [h, h']
      refine ⟨rfl, rfl, ?_⟩
      dsimp only
      refine Lockstep.mutate _ _ _ _ hrun.1 hrun.2 ?_ ?_
      · exact fun _ => ⟨rfl, rfl⟩
      · exact fun _ => rfl
  | none =>
    cases hdue : first.dueWorkflow now with
    | none => exact TogetherWith.same _ _
    | some due =>
      have hkey := htwins.tidy.dueWorkflow hdue
      obtain ⟨_, workflow, _⟩ := due
      dsimp only
      rcases host.assertWorkflowRunQuota first.allRuns workflow.tenantId input.quota now with
        ⟨thrown | ⟨⟨⟩⟩, after⟩
      · exact TogetherWith.same _ _
      · refine ⟨rfl, rfl, ?_⟩
        dsimp only
        refine Lockstep.add _ _ _ ?_ ?_ ?_
        · exact hkey
        · exact fun h => hfresh h hretry _ hdue
        · exact fun _ => rfl

@[simp] theorem run?_updateWorkflow (domain : WorkflowsDomain) (workflowKey runKey : String)
    (update : CloudWorkflowRecord → CloudWorkflowRecord) :
    (domain.updateWorkflow workflowKey update).run? runKey = domain.run? runKey := by
  unfold updateWorkflow run?
  split <;> rfl

theorem Tidy.run?_updateRun_of_ne (htidy : Tidy domain)
    {runKey other : String} (hne : other ≠ runKey)
    (update : CloudWorkflowRunRecord → CloudWorkflowRunRecord) :
    (domain.updateRun runKey update).run? other = domain.run? other := by
  unfold WorkflowsDomain.updateRun
  split
  · rfl
  next hheld =>
    unfold WorkflowsDomain.run?
    cases hother : domain.workflowRuns.get other with
    | none => rfl
    | some =>
      refine if_neg ?_
      rintro rfl
      exact hne (htidy.key_unique hother hheld)

theorem reapRun_lockstep (fresh : Prop) (now : Instant) (maxAttempts : Int) (claimToken : String)
    (second : WorkflowsDomain)
    (hrun : first.run? run.tableKey = some run) (hlive : run.live = true) :
    Lockstep fresh first second (reapRun first now maxAttempts run claimToken).2
      (reapRun second now maxAttempts run claimToken).2 := by
  unfold reapRun
  dsimp only
  refine Lockstep.mutate _ _ _ _ hrun hlive ?_ ?_
  · intro _
    unfold CloudWorkflowRunRecord.claimExpired
    split <;> exact ⟨rfl, rfl⟩
  · intro _
    split <;> rfl

theorem reapRuns_lockstep (fresh : Prop) (now : Instant) (maxAttempts : Int)
    (runs : List CloudWorkflowRunRecord) (htwins : Twins first second)
    (hkeys : runs.Pairwise fun run other => run.tableKey ≠ other.tableKey)
    (hruns : ∀ run ∈ runs, first.run? run.tableKey = some run ∧ run.live = true) :
    (reapRuns now maxAttempts runs first).1 = (reapRuns now maxAttempts runs second).1 ∧
      Lockstep fresh first second (reapRuns now maxAttempts runs first).2
        (reapRuns now maxAttempts runs second).2 := by
  induction runs generalizing first second with
  | nil => exact ⟨rfl, .rest first second⟩
  | cons run rest ih =>
    obtain ⟨hothers, hrest⟩ := List.pairwise_cons.mp hkeys
    have hlater : ∀ other ∈ rest, first.run? other.tableKey = some other ∧ other.live = true :=
      fun other hmem => hruns other (.tail _ hmem)
    obtain ⟨hrun, hlive⟩ := hruns run (.head _)
    rcases htwins.similar.workflow run.workflowKey with
      ⟨hnone, hnone'⟩ | ⟨record, listed, listed', hget, hget', _⟩
    · simp only [reapRuns, hnone, hnone']
      exact ih htwins hrest hlater
    cases htoken : run.claimToken with
    | none =>
      simp only [reapRuns, hget, hget', htoken]
      exact ih htwins hrest hlater
    | some claimToken =>
      simp only [reapRuns, hget, hget', htoken]
      have hstep := reapRun_lockstep fresh now maxAttempts claimToken second hrun hlive
      have hnext := ih (hstep.twins htwins) hrest fun other hmem => by
        obtain ⟨hother, hotherLive⟩ := hlater other hmem
        refine ⟨?_, hotherLive⟩
        rw [reapRun, run?_updateWorkflow,
          htwins.tidy.run?_updateRun_of_ne (hothers other hmem).symm, hother]
      exact ⟨congrArg₂ _ rfl hnext.1, hstep.trans hnext.2⟩

theorem Tidy.pairwise_allRuns (htidy : Tidy domain) :
    domain.allRuns.Pairwise fun run other => run.tableKey ≠ other.tableKey := by
  have hkeys := List.pairwise_map.mp domain.workflowRuns.nodupKeys
  have hentries : domain.workflowRuns.entries.Pairwise fun entry other =>
      ∀ run ∈ domain.objects entry.2, ∀ run' ∈ domain.objects other.2,
        run.tableKey ≠ run'.tableKey := by
    refine hkeys.imp_of_mem fun {entry other} hmem hmem' hne run hrun run' hrun' heq => hne ?_
    have hget := (get_eq_some_iff _ entry.1 entry.2).mpr hmem
    have hget' := (get_eq_some_iff _ other.1 other.2).mpr hmem'
    obtain ⟨_, hfound, hkey⟩ := htidy.keyed _ _ hget
    obtain ⟨_, hfound', hkey'⟩ := htidy.keyed _ _ hget'
    obtain rfl := Option.mem_unique hfound hrun
    obtain rfl := Option.mem_unique hfound' hrun'
    exact hkey.symm.trans (heq.trans hkey')
  unfold allRuns OrderedMap.values OrderedMap.map
  rw [List.map_map, List.filterMap_map, List.pairwise_filterMap]
  exact hentries

theorem reapExpiredWorkflowClaims_lockstep (env : Environment) (host : WorkflowsHost σ)
    (htwins : Twins first second) (fresh : Prop) (now : Instant) (maxAttempts limit : Option ℚ) :
    (first.reapExpiredWorkflowClaims env host now maxAttempts limit).1 =
        (second.reapExpiredWorkflowClaims env host now maxAttempts limit).1 ∧
      Lockstep fresh first second
        (first.reapExpiredWorkflowClaims env host now maxAttempts limit).2
        (second.reapExpiredWorkflowClaims env host now maxAttempts limit).2 := by
  unfold reapExpiredWorkflowClaims
  have hclaims : second.expiredClaims env host now limit =
    first.expiredClaims env host now limit := by
    unfold expiredClaims
    rw [htwins.similar.allRuns]
  rw [hclaims]
  apply reapRuns_lockstep fresh now (attemptLimit maxAttempts) _ htwins
  · refine List.Pairwise.take ?_
    refine (List.perm_insertionSort _ _).symm.pairwise ?_ fun h => h.symm
    exact htwins.tidy.pairwise_allRuns.filter _
  · intro run hmem
    have hchosen := List.mem_of_mem_take hmem
    rw [List.mem_insertionSort, List.mem_filter, Bool.and_eq_true] at hchosen
    exact ⟨(htwins.tidy.mem_allRuns run).mp hchosen.1, live_of_idle hchosen.2.2⟩

variable (htwins : Twins first second)
include htwins

theorem attachWorkflowRunSession_together (fresh : Prop) (input : AttachWorkflowRunSessionInput)
    (now : Instant) :
    Together fresh first second (first.attachWorkflowRunSession host input now)
      (second.attachWorkflowRunSession host input now) := by
  unfold attachWorkflowRunSession
  rcases htwins.similar.requireWorkflow host input.tenantId input.workflowId with
    ⟨thrown, h, h'⟩ | ⟨record, runs, runs', h, h', hget, hruns⟩
  · simp only [h, h']
    exact Together.same _
  simp only [h, h', ← htwins.similar.run?]
  cases hrun : first.run? (key input.tenantId input.runId) with
  | none => exact Together.same _
  | some run =>
    dsimp only
    split
    · exact Together.same _
    rcases hattach : attachable run input now with _ | ⟨⟨⟩⟩
    · exact Together.same _
    · have hlive : run.live = true := by
        by_contra hfinished
        rw [attachable, if_pos (by simpa using hfinished)] at hattach
        simp at hattach
      refine ⟨rfl, ?_⟩
      dsimp only
      refine Lockstep.mutate _ _ _ _ hrun hlive ?_ ?_
      · exact fun _ => ⟨rfl, rfl⟩
      · exact fun _ => rfl

theorem finishWorkflowRun_together (fresh : Prop) (input : FinishWorkflowRunInput) (now : Instant) :
    Together fresh first second (first.finishWorkflowRun host input now)
      (second.finishWorkflowRun host input now) := by
  unfold finishWorkflowRun
  rcases htwins.similar.requireWorkflow host input.tenantId input.workflowId with
    ⟨thrown, h, h'⟩ | ⟨record, runs, runs', h, h', hget, hruns⟩
  · simp only [h, h']
    exact Together.same _
  simp only [h, h', ← htwins.similar.run?]
  cases hrun : first.run? (key input.tenantId input.runId) with
  | none => exact Together.same _
  | some run =>
    dsimp only
    split
    · exact Together.same _
    split
    · exact Together.same _
    next hlive =>
      rcases finishable host run input with _ | ⟨⟨⟩⟩
      · exact Together.same _
      · refine ⟨rfl, ?_⟩
        dsimp only
        refine Lockstep.mutate _ _ _ _ hrun (by simpa using hlive) ?_ ?_
        · exact fun _ => ⟨rfl, rfl⟩
        · exact fun _ => rfl

theorem completeWorkflowRun_together (fresh : Prop) (host : WorkflowsHost σ)
    (input : CompleteWorkflowRunInput) (now : Instant) :
    Together fresh first second (first.completeWorkflowRun host input now)
      (second.completeWorkflowRun host input now) :=
  finishWorkflowRun_together htwins fresh _ now

omit htwins

theorem failWorkflowRun_together (texts : WorkflowsEnvironment)
    (htwins : Twins first second) (fresh : Prop)
    (host : WorkflowsHost σ) (input : FailWorkflowRunInput) (now : Instant) :
    Together fresh first second (first.failWorkflowRun texts host input now)
      (second.failWorkflowRun texts host input now) :=
  finishWorkflowRun_together htwins fresh _ now

/-! ### Reads -/

variable (hsimilar : Similar first second)
include hsimilar

theorem Similar.getWorkflow (host : WorkflowsHost σ) (tenantId userId workflowId : String) :
    first.getWorkflow host tenantId userId workflowId =
      second.getWorkflow host tenantId userId workflowId := by
  have hrecord := congrArg (fun records => records.get (key tenantId workflowId)) hsimilar.records
  simp only [get_map] at hrecord
  unfold WorkflowsDomain.getWorkflow
  rw [hrecord]

theorem Similar.getWorkflowRun (host : WorkflowsHost σ) (tenantId runId : String) :
    first.getWorkflowRun host tenantId runId = second.getWorkflowRun host tenantId runId := by
  unfold WorkflowsDomain.getWorkflowRun
  rw [hsimilar.run?]

theorem Similar.getWorkflowRunBySession (host : WorkflowsHost σ) (tenantId sessionId : String) :
    first.getWorkflowRunBySession host tenantId sessionId =
      second.getWorkflowRunBySession host tenantId sessionId := by
  unfold WorkflowsDomain.getWorkflowRunBySession
  rw [hsimilar.allRuns]

theorem Similar.listWorkflowRuns (env : Environment)
    (host : WorkflowsHost σ) (tenantId workflowId : String) (limit : Int) :
    first.listWorkflowRuns env host tenantId workflowId limit =
      second.listWorkflowRuns env host tenantId workflowId limit := by
  unfold WorkflowsDomain.listWorkflowRuns
  rcases hsimilar.requireWorkflow host tenantId workflowId with
    ⟨thrown, h, h'⟩ | ⟨record, runs, runs', h, h', -, hruns⟩
  · rw [h, h']
  · have hlisted : first.runsOf ⟨record, runs⟩ = second.runsOf ⟨record, runs'⟩ :=
      runsOf_of_alike hruns
    rw [h, h']
    dsimp only
    rw [hlisted]

theorem Similar.listWorkflowRunsForWorkflows (env : Environment)
    (host : WorkflowsHost σ) (tenantId userId : String) (workflowIds : List String)
    (limitPerWorkflow limit : Option ℚ) :
    first.listWorkflowRunsForWorkflows env host tenantId userId workflowIds limitPerWorkflow limit =
      second.listWorkflowRunsForWorkflows env host tenantId userId workflowIds limitPerWorkflow
        limit := by
  unfold WorkflowsDomain.listWorkflowRunsForWorkflows
  rw [hsimilar.listed]

end WorkflowsDomain

end OpenCowork.ControlPlane
