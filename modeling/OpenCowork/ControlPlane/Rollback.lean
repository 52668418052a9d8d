import OpenCowork.ControlPlane.Sessions.Steps
import OpenCowork.ControlPlane.ProjectedAppend
import OpenCowork.ControlPlane.Workflows.Coherence

/-! # What a failed projected append leaves behind

The rollback refills the workflows from copies. No later operation can tell the copies
from the originals unless a run was live: then its list and the run table hold
different objects, and an update reaches one of them only.
-/

namespace OpenCowork.ControlPlane

open Foundation WorkflowsDomain

namespace ControlPlaneStore

variable {σ : Type}

def withWorkflows (store : ControlPlaneStore σ) (workflows : WorkflowsDomain) :
    ControlPlaneStore σ := { store with workflows }

/-- The same answer from two stores, which then differ in their workflows only, by the
same edits. -/
structure Follows {α : Type} (fresh : Prop) (first second : ControlPlaneStore σ)
    (one other : α × ControlPlaneStore σ) : Prop where
  answer : one.1 = other.1
  rest : other.2 = one.2.withWorkflows other.2.workflows
  edits : Lockstep fresh first.workflows second.workflows one.2.workflows other.2.workflows

structure Twins (first second : ControlPlaneStore σ) : Prop where
  rest : second = first.withWorkflows second.workflows
  workflows : WorkflowsDomain.Twins first.workflows second.workflows

section Frames

variable (context : StoreContext σ) (store : ControlPlaneStore σ) (workflows : WorkflowsDomain)
  {α : Type} (tenantId sessionId : String) (session : SessionState)

@[simp] theorem withWorkflows_workflows : (store.withWorkflows workflows).workflows = workflows :=
  rfl

@[simp] theorem withWorkflows_neighbours :
    (store.withWorkflows workflows).neighbours = store.neighbours := rfl

@[simp] theorem requireSession_withWorkflows :
    (store.withWorkflows workflows).requireSession context tenantId sessionId =
      store.requireSession context tenantId sessionId := rfl

@[simp] theorem assertSessionBelongsToUser_withWorkflows (tenantId sessionId userId : String) :
    (store.withWorkflows workflows).assertSessionBelongsToUser context tenantId sessionId userId =
      store.assertSessionBelongsToUser context tenantId sessionId userId := rfl

@[simp] theorem putSession_withWorkflows :
    (store.withWorkflows workflows).putSession tenantId sessionId session =
      (store.putSession tenantId sessionId session).withWorkflows workflows := rfl

@[simp] theorem putSession_workflows :
    (store.putSession tenantId sessionId session).workflows = store.workflows := rfl

@[simp] theorem workflowsHost_withWorkflows (now : Instant) :
    (store.withWorkflows workflows).workflowsHost context now =
      store.workflowsHost context now := rfl

/-- The operation reads no workflow and writes none. -/
def SparesWorkflows (operation : ControlPlaneStore σ → α × ControlPlaneStore σ) : Prop :=
  ∀ workflows, operation (store.withWorkflows workflows) =
    ((operation store).1, (operation store).2.withWorkflows workflows)

theorem SparesWorkflows.kept {store : ControlPlaneStore σ}
    {operation : ControlPlaneStore σ → α × ControlPlaneStore σ}
    (hspares : store.SparesWorkflows operation) :
    (operation store).2.workflows = store.workflows :=
  congrArg (fun outcome => outcome.2.workflows) (hspares store.workflows)

theorem onSession_spares (operation : SessionState → Outcome SessionState α) :
    store.SparesWorkflows (·.onSession context tenantId sessionId operation) := by
  intro workflows
  dsimp only [onSession]
  rw [requireSession_withWorkflows]
  cases store.requireSession context tenantId sessionId <;> rfl

section

variable (title : Option (Option String)) (leaseToken : LeaseTokenArgument)
  (updatedAt : Option Instant) (now : Instant)

theorem bindSessionRuntime_spares (opencodeSessionId : String) :
    store.SparesWorkflows (·.bindSessionRuntime context tenantId sessionId opencodeSessionId title
      leaseToken updatedAt now) := by
  intro workflows
  dsimp only [bindSessionRuntime]
  rw [requireSession_withWorkflows]
  rcases store.requireSession context tenantId sessionId with thrown | session
  · rfl
  · dsimp only
    rcases session.assertLeaseTokenIfPresent leaseToken now with thrown | ⟨⟨⟩⟩ <;> rfl

theorem updateSessionStatus_spares (status : SessionStatus) :
    store.SparesWorkflows (·.updateSessionStatus context tenantId sessionId status title leaseToken
      updatedAt now) := by
  intro workflows
  dsimp only [updateSessionStatus]
  rw [requireSession_withWorkflows]
  rcases store.requireSession context tenantId sessionId with thrown | session
  · rfl
  · dsimp only
    rcases session.assertLeaseTokenIfPresent leaseToken now with thrown | ⟨⟨⟩⟩ <;> rfl

end

theorem appendWorkspaceEvent_spares (input : AppendWorkspaceEventInput) (now : Instant) :
    store.SparesWorkflows (·.appendWorkspaceEvent context input now) := by
  intro workflows
  dsimp only [appendWorkspaceEvent]
  simp only [withWorkflows_neighbours, assertSessionBelongsToUser_withWorkflows]
  rcases context.host.requireTenantUser store.neighbours input.tenantId input.userId with
    thrown | ⟨⟨⟩⟩
  · rfl
  cases presentText input.sessionId with
  | none => rfl
  | some sessionId =>
    dsimp only
    rcases store.assertSessionBelongsToUser context input.tenantId sessionId input.userId with
      thrown | ⟨⟨⟩⟩ <;> rfl

theorem appendProjectedWorkspaceEvent_spares
    (input : AppendProjectedSessionEventInput) (event : SessionEventRecord) (now : Instant) :
    store.SparesWorkflows (·.appendProjectedWorkspaceEvent context session input event now) := by
  intro workflows
  dsimp only [appendProjectedWorkspaceEvent]
  rcases input.workspace session.record event with _ | _
  · rfl
  · simp only [store.appendWorkspaceEvent_spares context _ now workflows]
    rfl

end Frames

section Follows

variable {first second : ControlPlaneStore σ} (context : StoreContext σ) {α : Type} {fresh : Prop}

theorem Twins.refl {store : ControlPlaneStore σ} (htidy : store.workflows.Tidy) :
    Twins store store :=
  ⟨rfl, WorkflowsDomain.Twins.refl htidy⟩

theorem Follows.twins {one other : α × ControlPlaneStore σ}
    (hfollows : Follows fresh first second one other) (htwins : Twins first second) :
    Twins one.2 other.2 :=
  ⟨hfollows.rest, hfollows.edits.twins htwins.workflows⟩

section

variable (htwins : Twins first second)
include htwins

theorem Follows.whole
    (wrap : α → StoreAnswer) {operation : ControlPlaneStore σ → Outcome (ControlPlaneStore σ) α}
    (hspares : first.SparesWorkflows operation) :
    Follows fresh first second (whole wrap (operation first)) (whole wrap (operation second)) := by
  rw [htwins.rest, hspares second.workflows]
  refine ⟨rfl, rfl, ?_⟩
  simp only [ControlPlaneStore.whole, withWorkflows_workflows, hspares.kept]
  exact .rest _ _

theorem Follows.read (answer : α) : Follows fresh first second (answer, first) (answer, second) :=
  ⟨rfl, htwins.rest, .rest _ _⟩

variable (wrap : α → StoreAnswer)
include wrap

theorem Follows.within {one other : Outcome WorkflowsDomain α}
    (htogether : Together fresh first.workflows second.workflows one other) :
    Follows fresh first second (within wrap first one) (within wrap second other) := by
  refine ⟨congrArg (reply wrap) htogether.answer, ?_, htogether.edits⟩
  rw [htwins.rest]
  rfl

theorem Follows.withinQuota {one other : Outcome (σ × WorkflowsDomain) α}
    (htogether : TogetherWith fresh first.workflows second.workflows one other) :
    Follows fresh first second (withinQuota wrap first one) (withinQuota wrap second other) := by
  refine ⟨congrArg (reply wrap) htogether.answer, ?_, htogether.edits⟩
  rw [htwins.rest]
  simp only [ControlPlaneStore.withinQuota, htogether.neighbours]
  rfl

theorem Follows.workflowRead {one other : Except StoreError α} (h : one = other) :
    Follows fresh first second (reply wrap one, first) (reply wrap other, second) :=
  h ▸ Follows.read htwins _

end

section

variable (fresh) (htwins : Twins first second)
include htwins

theorem applyTerminal_follows (terminal : Option WorkflowTerminal) (now : Instant) :
    Follows fresh first second (first.applyTerminal context terminal now)
      (second.applyTerminal context terminal now) := by
  have hhost : second.workflowsHost context now = first.workflowsHost context now := by
    rw [htwins.rest, workflowsHost_withWorkflows]
  unfold applyTerminal
  rw [hhost]
  rcases terminal with _ | input | input
  · exact Follows.read htwins _
  · have htogether := completeWorkflowRun_together htwins.workflows fresh
      (first.workflowsHost context now) input now
    refine ⟨congrArg (Except.map _) htogether.answer, ?_, htogether.edits⟩
    rw [htwins.rest]
    rfl
  · have htogether := failWorkflowRun_together context.texts htwins.workflows fresh
      (first.workflowsHost context now) input now
    refine ⟨congrArg (Except.map _) htogether.answer, ?_, htogether.edits⟩
    rw [htwins.rest]
    rfl

theorem projectSessionEvent_follows
    (session : SessionState) (input : AppendProjectedSessionEventInput) (now : Instant) :
    Follows fresh first second (first.projectSessionEvent context session input now)
      (second.projectSessionEvent context session input now) := by
  obtain ⟨hrest, hworkflows⟩ := htwins
  generalize second.workflows = workflows at hrest hworkflows
  subst hrest
  have hself : Twins first (first.withWorkflows workflows) := ⟨rfl, hworkflows⟩
  unfold projectSessionEvent
  rcases session.appendSessionEvent context.env input.toAppendEventInput now with
    ⟨thrown | event, appended⟩
  · exact Follows.read hself _
  have hspares := appendProjectedWorkspaceEvent_spares context
    (first.putSession input.tenantId input.sessionId appended) appended input event now
  have hkept := hspares.kept
  simp only [putSession_withWorkflows, hspares workflows]
  rcases hworkspace : (first.putSession input.tenantId input.sessionId
    appended).appendProjectedWorkspaceEvent context appended input event now with
    ⟨thrown | ⟨workspaceEvent, workspaceExisted⟩, store⟩
  all_goals
    simp only [hworkspace, putSession_workflows] at hkept
    dsimp only
  · exact ⟨rfl, rfl, hkept ▸ .rest _ _⟩
  have heffects : ∀ projected updatedAt, Follows fresh first (first.withWorkflows workflows)
      (store.applyProjectedEventEffects context projected input updatedAt now)
      ((store.withWorkflows workflows).applyProjectedEventEffects context projected input
        updatedAt now) := by
    intro projected updatedAt
    unfold applyProjectedEventEffects
    have hnext : Twins (store.putSession input.tenantId input.sessionId
        (projected.applyStatus input.sessionStatus updatedAt))
        ((store.withWorkflows workflows).putSession input.tenantId input.sessionId
          (projected.applyStatus input.sessionStatus updatedAt)) :=
      ⟨rfl, by simpa [hkept] using hworkflows⟩
    have happlied := applyTerminal_follows context fresh hnext input.workflowTerminal now
    refine ⟨happlied.answer, happlied.rest, ?_⟩
    have hedits := happlied.edits
    rw [putSession_workflows, hkept] at hedits
    exact hedits
  have hconcluding : ∀ projected updatedAt (result : AppendProjectedSessionEventResult),
      Follows fresh first (first.withWorkflows workflows)
        (concluding (store.applyProjectedEventEffects context projected input updatedAt now) result)
        (concluding ((store.withWorkflows workflows).applyProjectedEventEffects context projected
          input updatedAt now) result) := by
    intro projected updatedAt result
    obtain ⟨hanswer, hrest, hedits⟩ := heffects projected updatedAt
    exact ⟨congrArg (Except.map _) hanswer, hrest, hedits⟩
  split
  · exact hconcluding _ _ _
  · rcases input.project appended.record event appended.projection with
      thrown | ⟨view, updatedAt⟩
    · exact ⟨rfl, rfl, hkept ▸ .rest _ _⟩
    dsimp only
    rcases appended.writeSessionProjection context.env _ now with
      ⟨thrown | projection, projected⟩
    · exact ⟨rfl, rfl, hkept ▸ .rest _ _⟩
    · exact hconcluding _ _ _

theorem performWorkflow_follows (now : Instant) (nonce : String) (operation : WorkflowOperation)
    (hfresh : fresh → ∀ input, operation = .claimDueWorkflowRun input →
      WorkflowsDomain.RunIdFree context.env (first.workflowsHost context now) first.workflows
        input now) :
    Follows fresh first second (first.performWorkflow context now nonce operation)
      (second.performWorkflow context now nonce operation) := by
  have hhost : second.workflowsHost context now = first.workflowsHost context now := by
    rw [htwins.rest, workflowsHost_withWorkflows]
  have hneighbours : second.neighbours = first.neighbours := by
    rw [htwins.rest]
    rfl
  have hsimilar := htwins.workflows.similar
  unfold performWorkflow
  simp only [hhost, hneighbours]
  cases operation with
  | createWorkflow input =>
    exact .within htwins _ (createWorkflow_together htwins.workflows fresh input now)
  | updateWorkflowStatus input =>
    exact .within htwins _ (updateWorkflowStatus_together htwins.workflows fresh input now)
  | rotateWorkflowWebhookSecret input =>
    exact .within htwins _ (rotateWorkflowWebhookSecret_together htwins.workflows fresh input now)
  | createWorkflowRun input =>
    exact .withinQuota htwins _ (createWorkflowRun_together htwins.workflows fresh
      first.neighbours input nonce now)
  | claimDueWorkflowRun input =>
    exact .withinQuota htwins _ (claimDueWorkflowRun_together htwins.workflows
      fresh first.neighbours input nonce now fun h => hfresh h input rfl)
  | reapExpiredWorkflowClaims maxAttempts limit =>
    obtain ⟨hanswer, hedits⟩ := reapExpiredWorkflowClaims_lockstep
      context.env (first.workflowsHost context now) htwins.workflows fresh now maxAttempts limit
    refine ⟨congrArg StoreAnswer.reaped hanswer, ?_, hedits⟩
    rw [htwins.rest]
    rfl
  | attachWorkflowRunSession input =>
    exact .within htwins _ (attachWorkflowRunSession_together htwins.workflows fresh input now)
  | completeWorkflowRun input =>
    exact .within htwins _ (completeWorkflowRun_together htwins.workflows fresh _ input now)
  | failWorkflowRun input =>
    exact .within htwins _ (failWorkflowRun_together _ htwins.workflows fresh _ input now)
  | getWorkflow =>
    exact .workflowRead htwins _ (hsimilar.getWorkflow _ _ _ _)
  | getWorkflowRun =>
    exact .workflowRead htwins _ (hsimilar.getWorkflowRun _ _ _)
  | getWorkflowRunBySession =>
    exact .workflowRead htwins _ (hsimilar.getWorkflowRunBySession _ _ _)
  | listWorkflowRuns =>
    exact .workflowRead htwins _ (hsimilar.listWorkflowRuns _ _ _ _ _)
  | listWorkflowRunsForWorkflows =>
    exact .workflowRead htwins _ (hsimilar.listWorkflowRunsForWorkflows _ _ _ _ _ _ _)

theorem perform_follows (request : StoreRequest)
    (hother : ∀ input, request.operation ≠ .appendProjectedSessionEvent input)
    (hfresh : fresh → ∀ input, request.operation = .workflow (.claimDueWorkflowRun input) →
      WorkflowsDomain.RunIdFree context.env (first.workflowsHost context request.now)
        first.workflows input request.now) :
    Follows fresh first second (first.perform context request)
      (second.perform context request) := by
  obtain ⟨now, nonce, operation⟩ := request
  unfold perform
  cases operation with
  | appendProjectedSessionEvent input => exact absurd rfl (hother input)
  | workflow =>
    exact performWorkflow_follows context fresh htwins now nonce _ fun h input heq => hfresh h input
      (congrArg _ heq)
  | bindSessionRuntime =>
    exact .whole htwins _ (first.bindSessionRuntime_spares context _ _ _ _ _ now _)
  | updateSessionStatus =>
    exact .whole htwins _ (first.updateSessionStatus_spares context _ _ _ _ _ now _)
  | appendSessionEvent | writeSessionProjection =>
    exact .whole htwins _ (first.onSession_spares context _ _ _)
  | appendWorkspaceEvent input =>
    exact .whole htwins _ (first.appendWorkspaceEvent_spares context input now)
  | session | pruneExpiredSessionEvents | pruneExpiredWorkspaceEvents | getSession
  | listSessionEvents | getSessionProjection | listWorkspaceEvents =>
    rw [htwins.rest]
    exact ⟨rfl, rfl, .rest _ _⟩

end

variable (htwins : Twins first second)
include htwins

theorem appendProjectedSessionEvent_twins (input : AppendProjectedSessionEventInput)
    (now : Instant) :
    (first.appendProjectedSessionEvent context input now).1 =
        (second.appendProjectedSessionEvent context input now).1 ∧
      Twins (first.appendProjectedSessionEvent context input now).2
        (second.appendProjectedSessionEvent context input now).2 := by
  have hsession : second.requireSession context input.tenantId input.sessionId =
      first.requireSession context input.tenantId input.sessionId := by
    rw [htwins.rest, requireSession_withWorkflows]
  unfold appendProjectedSessionEvent
  rw [hsession]
  rcases first.requireSession context input.tenantId input.sessionId with _ | session
  · exact ⟨rfl, htwins⟩
  have hfollows := projectSessionEvent_follows context True htwins session input now
  have hafter := hfollows.twins htwins
  obtain ⟨hanswer, -, -⟩ := hfollows
  dsimp only
  generalize first.projectSessionEvent context session input now = one,
    second.projectSessionEvent context session input now = other at hanswer hafter
  obtain ⟨answer, failed⟩ := one
  obtain ⟨answer', failed'⟩ := other
  obtain rfl : answer = answer' := hanswer
  cases answer with
  | ok => exact ⟨rfl, hafter⟩
  | error =>
    refine ⟨rfl, ?_, htwins.workflows.restore failed.workflows failed'.workflows⟩
    have hrest : failed' = failed.withWorkflows failed'.workflows := hafter.rest
    change second.rollback failed' input.tenantId input.sessionId session =
      (first.rollback failed input.tenantId input.sessionId session).withWorkflows
        (failed'.workflows.restore second.workflows.snapshot)
    rw [hrest, htwins.rest]
    rfl

theorem perform_twins (request : StoreRequest) :
    (first.perform context request).1 = (second.perform context request).1 ∧
      Twins (first.perform context request).2 (second.perform context request).2 := by
  by_cases happend : ∃ input, request.operation = .appendProjectedSessionEvent input
  · obtain ⟨input, hinput⟩ := happend
    obtain ⟨hanswer, hafter⟩ := appendProjectedSessionEvent_twins context htwins input request.now
    unfold perform
    rw [hinput]
    exact ⟨congrArg (reply StoreAnswer.projected) hanswer, hafter⟩
  · have hfollows := perform_follows context False htwins request
      (fun input h => happend ⟨input, h⟩) (fun h => h.elim)
    exact ⟨hfollows.answer, hfollows.twins htwins⟩

def answers (store : ControlPlaneStore σ) (requests : List StoreRequest) : List StoreAnswer :=
  ((machine context).history store requests).map Moment.output

theorem answers_twins (requests : List StoreRequest) :
    first.answers context requests = second.answers context requests := by
  induction requests generalizing first second with
  | nil => rfl
  | cons request _ ih =>
    obtain ⟨hanswer, hafter⟩ := perform_twins context htwins request
    exact congrArg₂ List.cons hanswer (ih hafter)

end Follows

section Atomicity

variable (context : StoreContext σ) (store : ControlPlaneStore σ) {tenantId sessionId : String}
  (session : SessionState) (input : AppendProjectedSessionEventInput) (now : Instant)

def OnlySession (tenantId sessionId : String) (before after : ControlPlaneStore σ) : Prop :=
  ∀ state, (after.putSession tenantId sessionId state).toSessionsDomain =
    (before.putSession tenantId sessionId state).toSessionsDomain

theorem OnlySession.put {before after : ControlPlaneStore σ}
    (honly : OnlySession tenantId sessionId before after) (written : SessionState)
    {next : ControlPlaneStore σ} (hnext : next.toSessionsDomain =
    (after.putSession tenantId sessionId written).toSessionsDomain) :
    OnlySession tenantId sessionId before next := by
  intro state
  rw [← honly state]
  simp only [ControlPlaneStore.putSession, hnext, SessionsDomain.putSession, OrderedMap.set_set]

theorem appendProjectedWorkspaceEvent_sessions (event : SessionEventRecord) (now : Instant) :
    (store.appendProjectedWorkspaceEvent context session input event now).2.toSessionsDomain =
      store.toSessionsDomain := by
  unfold appendProjectedWorkspaceEvent appendWorkspaceEvent
  split
  · rfl
  · dsimp only
    split
    · rfl
    · split <;> rfl

/-- The workspace event leaves the sessions with the appended one. -/
theorem sessions_of_workspaceEvent {appended : SessionState} {event : SessionEventRecord}
    {now : Instant} {answer : Except StoreError (WorkspaceEventRecord × Bool)}
    {written : ControlPlaneStore σ}
    (h : (store.putSession input.tenantId input.sessionId appended).appendProjectedWorkspaceEvent
      context appended input event now = (answer, written)) : written.toSessionsDomain =
      (store.putSession input.tenantId input.sessionId appended).toSessionsDomain := by
  have hsessions := appendProjectedWorkspaceEvent_sessions context
    (store.putSession input.tenantId input.sessionId appended) appended input event now
  rwa [h] at hsessions

theorem applyProjectedEventEffects_sessions (updatedAt now : Instant) :
    (store.applyProjectedEventEffects context session input updatedAt now).2.toSessionsDomain =
      (store.putSession input.tenantId input.sessionId
        (session.applyStatus input.sessionStatus updatedAt)).toSessionsDomain := by
  unfold applyProjectedEventEffects applyTerminal
  split <;> rfl

theorem projectSessionEvent_sessions :
    OnlySession input.tenantId input.sessionId store
      (store.projectSessionEvent context session input now).2 := by
  have hprojecting := store.projectSessionEvent_projecting context session input now
  generalize store.projectSessionEvent context session input now = guarded at hprojecting
  cases hprojecting with
  | refused => exact fun _ => rfl
  | stopped _ hworkspace =>
    exact .put (fun _ => rfl) _ (sessions_of_workspaceEvent context store input hworkspace)
  | finished _ hworkspace =>
    exact (OnlySession.put (fun _ => rfl) _
      (sessions_of_workspaceEvent context store input hworkspace)).put _ (applyProjectedEventEffects_sessions context _ _ input
      _ now)

theorem sessions_restored {session : SessionState}
    (hsession : store.requireSession context tenantId sessionId = .ok session)
    {after : ControlPlaneStore σ} (honly : OnlySession tenantId sessionId store after) :
    (after.putSession tenantId sessionId session).toSessionsDomain = store.toSessionsDomain := by
  have hget := store.toSessionsDomain.requireSession_eq_ok context.host hsession
  rw [honly session]
  simp only [ControlPlaneStore.putSession, SessionsDomain.putSession,
    OrderedMap.set_get_self _ hget]

/-- Whether the call reaches its `catch` block. -/
def rollsBack : Bool :=
  match store.requireSession context input.tenantId input.sessionId with
  | .error _ => false
  | .ok session =>
    match (store.projectSessionEvent context session input now).1 with
    | .error _ => true
    | .ok _ => false

/-- The condition on one step: a projected append rolls back only while no run is live,
and a scheduled run gets an id that no run has. -/
def StepKeepsRuns (request : StoreRequest) : Prop :=
  match request.operation with
  | .appendProjectedSessionEvent input =>
    store.rollsBack context input request.now = true →
      ∀ run ∈ store.workflows.allRuns, run.live = false
  | .workflow (.claimDueWorkflowRun input) =>
    WorkflowsDomain.RunIdFree context.env (store.workflowsHost context request.now)
      store.workflows input request.now
  | _ => True

theorem no_liveAt {domain : WorkflowsDomain} (htidy : domain.Tidy)
    (hfinished : ∀ run ∈ domain.allRuns, run.live = false) (runKey : String) (held : RunObject)
    (hheld : domain.workflowRuns.get runKey = some held) : ¬domain.LiveAt held := by
  rintro ⟨run, hrun, hlive⟩
  obtain ⟨_, hfound, rfl⟩ := htidy.keyed runKey held hheld
  obtain rfl := Option.mem_unique hrun hfound
  have hmem := (htidy.mem_allRuns run).mpr (by
    rw [WorkflowsDomain.run?, hheld, Option.bind_some, hrun])
  rw [hfinished run hmem] at hlive
  simp at hlive

theorem throw_twins {store : ControlPlaneStore σ} (htidy : store.workflows.Tidy)
    (input : AppendProjectedSessionEventInput)
    (now : Instant) {thrown : StoreError} {failed : ControlPlaneStore σ}
    (hthrow : store.appendProjectedSessionEvent context input now = (.error thrown, failed))
    (hfinished : store.rollsBack context input now = true →
      ∀ run ∈ store.workflows.allRuns, run.live = false) :
    Twins store failed := by
  unfold appendProjectedSessionEvent at hthrow
  unfold rollsBack at hfinished
  rcases hsession : store.requireSession context input.tenantId input.sessionId with
    error | session
  · rw [hsession] at hthrow
    obtain rfl : store = failed := congrArg Prod.snd hthrow
    exact Twins.refl htidy
  have honly := projectSessionEvent_sessions context store session input now
  simp only [hsession] at hthrow hfinished
  generalize store.projectSessionEvent context session input now = guarded at hthrow hfinished honly
  obtain ⟨_ | _, after⟩ := guarded
  · obtain rfl : store.rollback after input.tenantId input.sessionId session = failed :=
      congrArg Prod.snd hthrow
    have hsame := sessions_restored context store hsession honly
    refine ⟨?_, WorkflowsDomain.Similar.restore_of_no_live after.workflows
      (no_liveAt htidy (hfinished rfl)), htidy, htidy.restore after.workflows⟩
    simp only [rollback, withWorkflows, hsame]
  · exact absurd (congrArg Prod.fst hthrow) (by simp)

/-- The workflows part of the invariant: tables in order and runs that are one run. -/
structure RunsTogether (workflows : WorkflowsDomain) : Prop where
  tidy : workflows.Tidy
  coherent : workflows.Coherent

theorem perform_runsTogether {store : ControlPlaneStore σ}
    (htogether : RunsTogether store.workflows) (request : StoreRequest)
    (hstep : store.StepKeepsRuns context request) :
    RunsTogether (store.perform context request).2.workflows := by
  obtain ⟨htidy, hcoherent⟩ := htogether
  have hself := Twins.refl htidy
  refine ⟨(perform_twins context hself request).2.workflows.tidy, ?_⟩
  obtain ⟨now, nonce, operation⟩ := request
  by_cases happend : ∃ input, operation = .appendProjectedSessionEvent input
  · obtain ⟨input, rfl⟩ := happend
    change (store.appendProjectedSessionEvent context input now).2.workflows.Coherent
    have hfinished : store.rollsBack context input now = true →
      ∀ run ∈ store.workflows.allRuns, run.live = false := hstep
    unfold appendProjectedSessionEvent
    unfold rollsBack at hfinished
    rcases hsession : store.requireSession context input.tenantId input.sessionId with
      error | session
    · exact hcoherent
    have hedits := (projectSessionEvent_follows context True hself session input now).edits
    simp only [hsession] at hfinished
    dsimp only
    generalize store.projectSessionEvent context session input now = guarded at hfinished hedits
    obtain ⟨_ | _, after⟩ := guarded
    · exact hcoherent.restore_of_no_live after.workflows (no_liveAt htidy (hfinished rfl))
    · exact hedits.coherent trivial htidy hcoherent
  · have hfollows := perform_follows context True hself ⟨now, nonce, operation⟩
      (fun input h => happend ⟨input, h⟩) fun _ input h => by
        obtain rfl : operation = .workflow (.claimDueWorkflowRun input) := h
        exact hstep
    exact hfollows.edits.coherent trivial htidy hcoherent

/-- After any run whose steps keep runs together, the list of a workflow and the run table
hold the same runs, and a projected append that throws cannot be told from one that was
never made. -/
theorem run_atomic (neighbours : σ) (requests : List StoreRequest)
    (hsteps : ∀ moment ∈ (machine context).history (initial neighbours) requests,
      moment.before.StepKeepsRuns context moment.input) :
    let store := (machine context).run (initial neighbours) requests
    (store.workflows.Coherent ∧ ∀ workflowKey workflow,
        store.workflows.workflows.get workflowKey = some workflow →
          (store.workflows.runsOf workflow).Perm
            (store.workflows.allRuns.filter fun run => decide (run.workflowKey = workflowKey))) ∧
      ∀ input now nonce thrown failed,
        store.StepKeepsRuns context ⟨now, nonce, .appendProjectedSessionEvent input⟩ →
        store.appendProjectedSessionEvent context input now = (.error thrown, failed) →
          ∀ later, failed.answers context later = store.answers context later := by
  intro store
  have htogether : RunsTogether store.workflows :=
    (machine context).history_invariant_of
      (fun moment => moment.before.StepKeepsRuns context moment.input)
      (fun _ store => RunsTogether store.workflows)
      (fun _ _ request htogether hstep => perform_runsTogether context htogether request hstep)
      (initial neighbours) ⟨empty_tidy, empty_coherent⟩ requests
      hsteps
  refine ⟨⟨htogether.coherent, fun workflowKey workflow hget =>
    htogether.coherent.perm htogether.tidy hget⟩, ?_⟩
  intro input now nonce thrown failed hstep hthrow later
  exact (answers_twins context
    (throw_twins context htogether.tidy input now hthrow hstep) later).symm

end Atomicity

/-! ### Concrete runs -/

/-- A workflow with one run, and a session, of the single tenant. -/
def workflowRequests : List StoreRequest :=
  [⟨0, "", .workflow (.createWorkflow
      { tenantId := "t"
        userId := "u"
        workflowId := "w"
        title := "Daily"
        authored := .null
        triggers := []
        webhookSecrets := []
        nextRunAt := none
        createdAt := none })⟩,
    ⟨0, "", .workflow (.createWorkflowRun
      { tenantId := "t"
        userId := "u"
        workflowId := "w"
        runId := "r"
        sessionId := some "s"
        triggerType := .manual
        triggerPayload := none
        claimedBy := none
        leaseTtlMs := none
        createdAt := none
        quota := none })⟩,
    ⟨0, "", .session (openSession "t" "u" "s")⟩]

/-- A projected append whose workspace callback throws. -/
def refusedAppend : AppendProjectedSessionEventInput where
  tenantId := "t"
  sessionId := "s"
  eventId := some "e"
  type := "session.idle"
  payload := none
  leaseToken := none
  createdAt := none
  sessionStatus := none
  workflowTerminal := none
  workspace := fun _ _ => .error (.error "refused")
  project := fun _ _ _ => .ok (.null, none)

def failThenList : List StoreRequest :=
  [⟨1, "", .workflow (.failWorkflowRun
      { tenantId := "t"
        workflowId := "w"
        runId := "r"
        error := "broken"
        nextStatus := .active
        nextRunAt := none
        leaseToken := none
        finishedAt := none })⟩,
    ⟨1, "", .workflow (.listWorkflowRuns "t" "w" 25)⟩]

def listedStatuses (answers : List StoreAnswer) : List WorkflowRunStatus :=
  match answers.getLast? with
  | some (.runs runs) => runs.map CloudWorkflowRunRecord.status
  | _ => []

/-- A projected append that throws while a run is queued: the failure of the run that
follows does not reach the list. -/
theorem refused_append_splits_run :
    ¬∀ (requests later : List StoreRequest) (input : AppendProjectedSessionEventInput)
      (now : Instant) (thrown : StoreError) (failed : ControlPlaneStore Neighbours),
      ((machine plainContext).run (initial (Neighbours.single "t" "u"))
          requests).appendProjectedSessionEvent plainContext input now = (.error thrown, failed) →
        failed.answers plainContext later =
          ((machine plainContext).run (initial (Neighbours.single "t" "u")) requests).answers
            plainContext later := by
  intro h
  have hanswers := h workflowRequests failThenList refusedAppend 0 (.error "refused") _ rfl
  have hstatuses := congrArg listedStatuses hanswers
  exact absurd hstatuses (by decide +kernel)

def finishedStore : ControlPlaneStore Neighbours :=
  (machine plainContext).run (initial (Neighbours.single "t" "u"))
    (workflowRequests ++ failThenList)

/-- Once the run is over, the same append is undone without a trace. -/
theorem refused_append_after_run :
    (finishedStore.appendProjectedSessionEvent plainContext refusedAppend 2).2.answers plainContext
      failThenList = finishedStore.answers plainContext failThenList := by
  have hsteps : ∀ moment ∈ (machine plainContext).history (initial (Neighbours.single "t" "u"))
      (workflowRequests ++ failThenList), moment.before.StepKeepsRuns plainContext
        moment.input := by
    repeat' first
      | exact List.forall_mem_nil _
      | refine List.forall_mem_cons.mpr ⟨trivial, ?_⟩
  have hfinished : ∀ run ∈ finishedStore.workflows.allRuns, run.live = false := by
    decide +kernel
  exact (run_atomic plainContext (Neighbours.single "t" "u") (workflowRequests ++ failThenList)
    hsteps).2 refusedAppend 2 "" (.error "refused") _ (fun _ => hfinished) rfl failThenList

end ControlPlaneStore

end OpenCowork.ControlPlane
