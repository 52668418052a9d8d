import OpenCowork.ControlPlane.Store

/-! # How far a projected append gets

The guarded body appends the session event, then the workspace event, then projects and
applies the effects. It stops where something throws.
-/

namespace OpenCowork.ControlPlane

open Foundation

namespace SessionState

/-- The session after its projection covers an event: it did before, or it is written. -/
inductive Projects (env : Environment) (now : Instant) (event : SessionEventRecord)
    (appended : SessionState) : SessionState → Prop where
  | covered {current : SessionProjectionRecord} (hcurrent : appended.projection = some current)
      (hcovers : event.sequence ≤ current.sequence) : Projects env now event appended appended
  | written {input : WriteProjectionInput} {projection : SessionProjectionRecord}
      {projected : SessionState} (hsequence : input.sequence = event.sequence)
      (hwrite : appended.writeSessionProjection env input now = (.ok projection, projected)) :
      Projects env now event appended projected

variable {env : Environment} {now : Instant}

theorem writeSessionProjection_eq_ok {session projected : SessionState}
    {input : WriteProjectionInput} {projection : SessionProjectionRecord}
    (hwrite : session.writeSessionProjection env input now = (.ok projection, projected)) :
    projected.projection = some projection ∧ projection.sequence = input.sequence := by
  unfold writeSessionProjection at hwrite
  split at hwrite
  · exact absurd (congrArg Prod.fst hwrite) (by simp)
  · unfold storeProjection at hwrite
    split at hwrite
    · exact absurd (congrArg Prod.fst hwrite) (by simp)
    · split at hwrite
      next hstored =>
        obtain ⟨hprojection, hsequence⟩ := Option.filter_eq_some_iff.mp hstored
        split at hwrite
        · exact absurd (congrArg Prod.fst hwrite) (by simp)
        · obtain rfl := Except.ok.inj (congrArg Prod.fst hwrite)
          obtain rfl := congrArg Prod.snd hwrite
          exact ⟨hprojection, of_decide_eq_true hsequence⟩
      · obtain rfl := Except.ok.inj (congrArg Prod.fst hwrite)
        obtain rfl := congrArg Prod.snd hwrite
        exact ⟨rfl, rfl⟩

theorem Projects.covers {event : SessionEventRecord} {appended projected : SessionState}
    (hprojects : Projects env now event appended projected) :
    ∃ projection, projected.projection = some projection ∧
      event.sequence ≤ projection.sequence := by
  cases hprojects with
  | covered hcurrent hcovers => exact ⟨_, hcurrent, hcovers⟩
  | written hsequence hwrite =>
    obtain ⟨hprojection, heq⟩ := writeSessionProjection_eq_ok hwrite
    exact ⟨_, hprojection, Nat.le_of_eq (hsequence.symm.trans heq.symm)⟩

end SessionState

namespace ControlPlaneStore

variable {σ : Type} (context : StoreContext σ) (store : ControlPlaneStore σ)

theorem map_eq_ok {α β : Type} {outcome : Except StoreError α} {f : α → β} {value : β}
    (h : outcome.map f = .ok value) : ∃ found, outcome = .ok found ∧ f found = value := by
  cases outcome with
  | error => simp [Except.map] at h
  | ok found => exact ⟨found, rfl, Except.ok.inj h⟩

/-- The ways the guarded body ends. -/
inductive Projecting (session : SessionState) (input : AppendProjectedSessionEventInput)
    (now : Instant) : Outcome (ControlPlaneStore σ) AppendProjectedSessionEventResult → Prop where
  | refused {thrown : StoreError} {kept : SessionState}
      (hevent : session.appendSessionEvent context.env input.toAppendEventInput now =
        (.error thrown, kept)) : Projecting session input now (.error thrown, store)
  | stopped {event : SessionEventRecord} {appended : SessionState}
      {answer : Except StoreError (WorkspaceEventRecord × Bool)} {written : ControlPlaneStore σ}
      (hevent : session.appendSessionEvent context.env input.toAppendEventInput now =
        (.ok event, appended))
      (hworkspace : (store.putSession input.tenantId input.sessionId
        appended).appendProjectedWorkspaceEvent context appended input event now =
          (answer, written)) (thrown : StoreError) :
      Projecting session input now (.error thrown, written)
  | finished {event : SessionEventRecord} {appended projected : SessionState}
      {workspaceEvent : WorkspaceEventRecord} {existed : Bool} {written : ControlPlaneStore σ}
      {answer : Except StoreError AppendProjectedSessionEventResult}
      (hevent : session.appendSessionEvent context.env input.toAppendEventInput now =
        (.ok event, appended))
      (hworkspace : (store.putSession input.tenantId input.sessionId
        appended).appendProjectedWorkspaceEvent context appended input event now =
          (.ok (workspaceEvent, existed), written))
      (hprojects : SessionState.Projects context.env now event appended projected)
      (hanswer : ∀ result, answer = .ok result →
        result.event = event ∧ result.workspaceEvent = workspaceEvent) (updatedAt : Instant) :
      Projecting session input now
        (answer, (written.applyProjectedEventEffects context projected input updatedAt now).2)

theorem projectSessionEvent_projecting (session : SessionState)
    (input : AppendProjectedSessionEventInput) (now : Instant) :
    Projecting context store session input now
      (store.projectSessionEvent context session input now) := by
  unfold projectSessionEvent
  rcases hevent : session.appendSessionEvent context.env input.toAppendEventInput now with
    ⟨thrown | event, appended⟩
  · exact .refused hevent
  dsimp only
  rcases hworkspace : (store.putSession input.tenantId input.sessionId
    appended).appendProjectedWorkspaceEvent context appended input event now with
    ⟨thrown | ⟨workspaceEvent, existed⟩, written⟩
  · exact .stopped hevent hworkspace thrown
  -- The effects are applied to the session as it is then.
  have heffects : ∀ projected updatedAt result, result.event = event →
      result.workspaceEvent = workspaceEvent →
      SessionState.Projects context.env now event appended projected →
      Projecting context store session input now
        (concluding (written.applyProjectedEventEffects context projected input updatedAt now)
          result) := by
    intro projected updatedAt result hresult hresult' hprojects
    refine .finished hevent hworkspace hprojects (fun _ h => ?_) updatedAt
    obtain ⟨_, _, rfl⟩ := map_eq_ok h
    exact ⟨hresult, hresult'⟩
  dsimp only
  split
  next hcurrent =>
    obtain ⟨hprojection, hcovers⟩ := Option.filter_eq_some_iff.mp hcurrent
    exact heffects appended event.createdAt _ rfl rfl
      (.covered hprojection (of_decide_eq_true hcovers))
  · rcases input.project appended.record event appended.projection with thrown | ⟨view, updatedAt⟩
    · exact .stopped hevent hworkspace thrown
    dsimp only
    rcases hwrite : appended.writeSessionProjection context.env
      { tenantId := input.tenantId
        sessionId := input.sessionId
        sequence := event.sequence
        view := view
        leaseToken := input.leaseToken
        updatedAt := some (updatedAt.getD event.createdAt) } now with
      ⟨thrown | projection, projected⟩
    · exact .stopped hevent hworkspace thrown
    · exact heffects projected projection.updatedAt _ rfl rfl (.written rfl hwrite)

end ControlPlaneStore

end OpenCowork.ControlPlane
