import OpenCowork.ControlPlane.SessionFrames

/-! # How the event logs and the projections evolve

A session is never dropped and never changes hands, its projection never goes back, and
the ids in its event log and in a workspace stream are distinct, whatever is appended,
projected, rolled back or pruned.
-/

namespace OpenCowork.ControlPlane

open Foundation

namespace SessionState

variable (env : Environment) (session : SessionState) {before after : SessionState} {now : Instant}

/-- What every operation preserves of a session. -/
structure Grows (before after : SessionState) : Prop where
  userId : after.record.userId = before.record.userId
  projected : ∀ projection, before.projection = some projection →
    ∃ next, after.projection = some next ∧ projection.sequence ≤ next.sequence
  distinct : (before.events.map SessionEventRecord.eventId).Nodup →
    (after.events.map SessionEventRecord.eventId).Nodup

theorem Grows.refl : Grows session session := ⟨rfl, fun projection h => ⟨projection, h, le_rfl⟩, id⟩

theorem Grows.trans {first second third : SessionState} (hfirst : Grows first second)
    (hsecond : Grows second third) : Grows first third := by
  refine ⟨hsecond.userId.trans hfirst.userId, ?_, hsecond.distinct ∘ hfirst.distinct⟩
  intro projection h
  obtain ⟨middle, hmiddle, hle⟩ := hfirst.projected projection h
  obtain ⟨last, hlast, hle'⟩ := hsecond.projected middle hmiddle
  exact ⟨last, hlast, hle.trans hle'⟩

theorem Grows.of_same (huser : after.record.userId = before.record.userId)
    (hprojection : after.projection = before.projection) (hevents : after.events = before.events) :
    Grows before after := by
  refine ⟨huser, ?_, ?_⟩
  · intro projection h
    exact ⟨projection, hprojection.trans h, le_rfl⟩
  · rw [hevents]
    exact id

theorem SessionStep.grows {sessionKey : String} {change : SessionChange}
    (hstep : SessionStep sessionKey now change before after) : Grows before after := by
  cases hstep <;> exact Grows.of_same rfl rfl rfl

theorem applyStatus_grows (status : Option SessionStatus)
    (updatedAt : Instant) : Grows session (session.applyStatus status updatedAt) := by
  unfold applyStatus
  split <;> exact Grows.of_same rfl rfl rfl

theorem appendSessionEvent_grows (input : AppendEventInput) (now : Instant) :
    Grows session (session.appendSessionEvent env input now).2 := by
  unfold appendSessionEvent
  split
  · exact .refl session
  · dsimp only
    split
    · split <;> exact .refl session
    next hnone =>
      refine ⟨rfl, (Grows.refl session).projected, fun hdistinct => ?_⟩
      rw [pushEvent, List.map_append]
      refine hdistinct.append (List.nodup_singleton _) ?_
      intro _ hmem hnew
      obtain rfl := List.mem_singleton.mp hnew
      obtain ⟨event, hevent, heq⟩ := List.mem_map.mp hmem
      exact absurd (List.find?_eq_none.mp hnone event hevent) (by simpa using heq)

theorem writeSessionProjection_grows (input : WriteProjectionInput) (now : Instant) :
    Grows session (session.writeSessionProjection env input now).2 := by
  unfold writeSessionProjection
  split
  · exact .refl session
  · unfold storeProjection
    split
    · exact .refl session
    next hmonotone =>
      split
      · split <;> exact .refl session
      · refine ⟨rfl, fun _ h => ⟨_, rfl, ?_⟩, id⟩
        have hle := Nat.not_lt.mp hmonotone
        rw [projectionSequence, h] at hle
        exact hle

theorem grows_frame : Frame env Grows where
  refl := .refl
  trans := .trans
  step := SessionStep.grows
  described _ _ _ _ _ := .of_same rfl rfl rfl
  appended := appendSessionEvent_grows env
  projected := writeSessionProjection_grows env
  pruned session _ :=
    ⟨rfl, (Grows.refl session).projected,
      fun hdistinct => hdistinct.sublist (List.filter_sublist.map _)⟩

theorem Projects.grows {env : Environment} {event : SessionEventRecord}
    {appended projected : SessionState} (hprojects : Projects env now event appended projected) :
    Grows appended projected :=
  (grows_frame env).projects hprojects

end SessionState

/-- No session is lost, and a new one has distinct event ids. -/
structure SessionsGrow (before after : OrderedMap String SessionState) : Prop where
  kept : ∀ sessionKey session, before.get sessionKey = some session →
    ∃ next, after.get sessionKey = some next ∧ session.Grows next
  fresh : ∀ sessionKey session, before.get sessionKey = none →
    after.get sessionKey = some session →
      (session.events.map SessionEventRecord.eventId).Nodup

namespace SessionsGrow

theorem refl (sessions : OrderedMap String SessionState) : SessionsGrow sessions sessions :=
  ⟨fun _ session hget => ⟨session, hget, .refl session⟩,
    fun _ _ hnone hget => absurd (hnone.symm.trans hget) (by simp)⟩

theorem trans {first second third : OrderedMap String SessionState}
    (hfirst : SessionsGrow first second) (hsecond : SessionsGrow second third) :
    SessionsGrow first third := by
  constructor
  · intro sessionKey session hget
    obtain ⟨middle, hmiddle, hgrows⟩ := hfirst.kept sessionKey session hget
    obtain ⟨last, hlast, hgrows'⟩ := hsecond.kept sessionKey middle hmiddle
    exact ⟨last, hlast, hgrows.trans hgrows'⟩
  · intro sessionKey session hnone hget
    cases hmiddle : second.get sessionKey with
    | none => exact hsecond.fresh sessionKey session hmiddle hget
    | some middle =>
      obtain ⟨_, hlast, hgrows⟩ := hsecond.kept sessionKey middle hmiddle
      obtain rfl := Option.mem_unique hget hlast
      exact hgrows.distinct (hfirst.fresh sessionKey middle hnone hmiddle)

end SessionsGrow

namespace ControlPlaneStore

variable {σ : Type} (context : StoreContext σ) (store : ControlPlaneStore σ)

theorem perform_grows (request : StoreRequest) :
    SessionsGrow store.sessions (store.perform context request).2.sessions := by
  have hkept := store.perform_kept context (SessionState.grows_frame context.env) request
  refine ⟨hkept.kept, ?_⟩
  intro sessionKey session hnone hget
  obtain ⟨_, _, -, rfl⟩ := hkept.fresh sessionKey session hnone hget
  exact List.nodup_nil

theorem run_grows (requests : List StoreRequest) :
    SessionsGrow store.sessions ((machine context).run store requests).sessions := by
  induction requests generalizing store with
  | nil => exact .refl _
  | cons request _ ih => exact (store.perform_grows context request).trans (ih _)

theorem run_eventIds (neighbours : σ) (requests : List StoreRequest) (sessionKey : String)
    (session : SessionState)
    (hget : ((machine context).run (initial neighbours) requests).sessions.get sessionKey =
      some session) : (session.events.map SessionEventRecord.eventId).Nodup :=
  ((initial neighbours).run_grows context requests).fresh sessionKey session rfl hget

end ControlPlaneStore

namespace WorkspaceEvents

variable {log : WorkspaceEvents}

def StreamsDistinct (log : WorkspaceEvents) : Prop :=
  ∀ workspaceKey state, log.get workspaceKey = some state →
    (state.events.map WorkspaceEventRecord.eventId).Nodup

theorem StreamsDistinct.stateOf (hdistinct : log.StreamsDistinct) (tenantId userId : String) :
    ((log.stateOf tenantId userId).events.map WorkspaceEventRecord.eventId).Nodup := by
  unfold WorkspaceEvents.stateOf
  cases hget : log.get (workspaceKey tenantId userId) with
  | none => exact List.nodup_nil
  | some state => exact hdistinct _ state hget

theorem append_distinct (env : Environment)
    (hdistinct : log.StreamsDistinct) (input : AppendWorkspaceEventInput) (now : Instant) :
    (log.append env input now).2.StreamsDistinct := by
  unfold append
  dsimp only
  split
  · split <;> exact hdistinct
  next hnone =>
    intro _ state hget
    rw [OrderedMap.get_set] at hget
    split at hget
    · obtain rfl := Option.some.inj hget
      have hstream := hdistinct.stateOf input.tenantId input.userId
      rw [List.map_append]
      refine hstream.append (List.nodup_singleton _) ?_
      intro _ hmem hnew
      obtain rfl := List.mem_singleton.mp hnew
      obtain ⟨event, hevent, heq⟩ := List.mem_map.mp hmem
      exact absurd (List.find?_eq_none.mp hnone event hevent) (by simpa using heq)
    · exact hdistinct _ state hget

theorem prune_distinct (hdistinct : log.StreamsDistinct) (olderThan : Instant) (limit : Nat) :
    (log.pruneExpiredWorkspaceEvents olderThan limit).2.StreamsDistinct := by
  intro workspaceKey _ hget
  have hmapped := (OrderedMap.get_mapWithKey _ _ _).symm.trans hget
  obtain ⟨old, hold, rfl⟩ := Option.map_eq_some_iff.mp hmapped
  exact (hdistinct workspaceKey old hold).sublist (List.filter_sublist.map _)

theorem append_eq_ok {env : Environment} {after : WorkspaceEvents}
    {input : AppendWorkspaceEventInput} {now : Instant} {record : WorkspaceEventRecord}
    (happend : log.append env input now = (.ok record, after)) :
    sameContent env input record (draftOf (log.stateOf input.tenantId input.userId) input now) =
        true ∧
      record.eventId =
        (draftOf (log.stateOf input.tenantId input.userId) input now).eventId := by
  unfold append at happend
  dsimp only at happend
  split at happend
  next hfind =>
    split at happend
    next hsame =>
      obtain rfl := Except.ok.inj (congrArg Prod.fst happend)
      have heventId := List.find?_some hfind
      exact ⟨hsame, of_decide_eq_true heventId⟩
    · exact absurd (congrArg Prod.fst happend) (by simp)
  · obtain rfl := Except.ok.inj (congrArg Prod.fst happend)
    refine ⟨?_, rfl⟩
    simp [sameContent, draftOf, presentText, Option.filter_filter]

end WorkspaceEvents

namespace ControlPlaneStore

variable {σ : Type} (context : StoreContext σ) (store : ControlPlaneStore σ)
  (hdistinct : store.workspaceEvents.StreamsDistinct)
include hdistinct

theorem appendWorkspaceEvent_distinct (input : AppendWorkspaceEventInput) (now : Instant) :
    (store.appendWorkspaceEvent context input now).2.workspaceEvents.StreamsDistinct := by
  unfold appendWorkspaceEvent
  split
  · exact hdistinct
  · dsimp only
    split
    · exact hdistinct
    · exact WorkspaceEvents.append_distinct context.env hdistinct input now

theorem projectSessionEvent_distinct (session : SessionState)
    (input : AppendProjectedSessionEventInput) (now : Instant) :
    (store.projectSessionEvent context session input now).2.workspaceEvents.StreamsDistinct := by
  have hprojecting := store.projectSessionEvent_projecting context session input now
  generalize store.projectSessionEvent context session input now = guarded at hprojecting
  have hwritten : ∀ event appended answer written,
      (store.putSession input.tenantId input.sessionId appended).appendProjectedWorkspaceEvent
        context appended input event now = (answer, written) →
      written.workspaceEvents.StreamsDistinct := by
    intro event appended answer written hworkspace
    unfold appendProjectedWorkspaceEvent at hworkspace
    split at hworkspace
    · obtain rfl := congrArg Prod.snd hworkspace
      exact hdistinct
    · obtain rfl := congrArg Prod.snd hworkspace
      exact appendWorkspaceEvent_distinct context
        (store.putSession input.tenantId input.sessionId appended) hdistinct _ now
  cases hprojecting with
  | refused => exact hdistinct
  | stopped _ hworkspace => exact hwritten _ _ _ _ hworkspace
  | finished _ hworkspace =>
    have hstreams := hwritten _ _ _ _ hworkspace
    unfold applyProjectedEventEffects applyTerminal
    split <;> exact hstreams

/-- No operation writes two workspace events of one id into a stream. -/
theorem perform_distinct (request : StoreRequest) :
    (store.perform context request).2.workspaceEvents.StreamsDistinct := by
  obtain ⟨now, _, operation⟩ := request
  have honSession : ∀ {α : Type} (tenantId sessionId : String)
      (run : SessionState → Outcome SessionState α),
      (store.onSession context tenantId sessionId run).2.workspaceEvents.StreamsDistinct := by
    intro α tenantId sessionId run
    unfold onSession
    split <;> exact hdistinct
  cases operation with
  | appendProjectedSessionEvent input =>
    change (store.appendProjectedSessionEvent context input now).2.workspaceEvents.StreamsDistinct
    unfold appendProjectedSessionEvent
    split
    · exact hdistinct
    next session _ =>
      have hguarded := store.projectSessionEvent_distinct context hdistinct session input now
      generalize store.projectSessionEvent context session input now = guarded at hguarded
      obtain ⟨_ | _, _⟩ := guarded
      · exact hdistinct
      · exact hguarded
  | appendWorkspaceEvent input =>
    exact store.appendWorkspaceEvent_distinct context hdistinct input now
  | pruneExpiredWorkspaceEvents =>
    exact WorkspaceEvents.prune_distinct hdistinct _ _
  | appendSessionEvent | writeSessionProjection => exact honSession _ _ _
  | bindSessionRuntime tenantId sessionId opencodeSessionId title leaseToken updatedAt =>
    change (store.bindSessionRuntime context tenantId sessionId opencodeSessionId title leaseToken
      updatedAt now).2.workspaceEvents.StreamsDistinct
    unfold bindSessionRuntime
    split
    · exact hdistinct
    · split <;> exact hdistinct
  | updateSessionStatus tenantId sessionId status title leaseToken updatedAt =>
    change (store.updateSessionStatus context tenantId sessionId status title leaseToken
      updatedAt now).2.workspaceEvents.StreamsDistinct
    unfold updateSessionStatus
    split
    · exact hdistinct
    · split <;> exact hdistinct
  | workflow operation => cases operation <;> exact hdistinct
  | session | pruneExpiredSessionEvents | getSession | listSessionEvents | getSessionProjection
  | listWorkspaceEvents => exact hdistinct

omit hdistinct

theorem run_distinct (neighbours : σ) (requests : List StoreRequest) :
    ((machine context).run (initial neighbours) requests).workspaceEvents.StreamsDistinct :=
  (machine context).run_invariant (fun store => store.workspaceEvents.StreamsDistinct)
    (fun store request hdistinct => store.perform_distinct context hdistinct request)
    (initial neighbours) (fun _ _ h => absurd h (by simp [initial])) requests

end ControlPlaneStore

end OpenCowork.ControlPlane
