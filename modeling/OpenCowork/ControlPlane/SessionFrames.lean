import OpenCowork.ControlPlane.Rollback

/-! # What an operation of the store leaves of a session

A session is never dropped, and a new one starts out empty under its own key. What every
single change of a session keeps, every operation of the store keeps of every session.
-/

namespace OpenCowork.ControlPlane

open Foundation

namespace SessionState

/-- A relation between a session and what becomes of it that every single change keeps,
pruning apart. -/
structure UnprunedFrame (env : Environment) (related : SessionState → SessionState → Prop) :
    Prop where
  refl : ∀ session, related session session
  trans : ∀ {first second third}, related first second → related second third →
    related first third
  step : ∀ {sessionKey now change before after}, SessionStep sessionKey now change before after →
    related before after
  described : ∀ (session : SessionState) (opencodeSessionId : String) (status : SessionStatus)
    (title : Option String) (updatedAt : Instant),
    related session
      { session with
        record :=
          { session.record with
            opencodeSessionId := opencodeSessionId
            status := status
            title := title
            updatedAt := updatedAt } }
  appended : ∀ (session : SessionState) (input : AppendEventInput) (now : Instant),
    related session (session.appendSessionEvent env input now).2
  projected : ∀ (session : SessionState) (input : WriteProjectionInput) (now : Instant),
    related session (session.writeSessionProjection env input now).2

/-- A relation between a session and what becomes of it that every single change keeps. -/
structure Frame (env : Environment) (related : SessionState → SessionState → Prop) : Prop
    extends UnprunedFrame env related where
  pruned : ∀ (session : SessionState) (keep : SessionEventRecord → Bool),
    related session { session with events := session.events.filter keep }

namespace UnprunedFrame

variable {env : Environment} {related : SessionState → SessionState → Prop}

theorem applied (frame : UnprunedFrame env related) (session : SessionState)
    (status : Option SessionStatus) (updatedAt : Instant) :
    related session (session.applyStatus status updatedAt) := by
  unfold applyStatus
  split
  · exact frame.refl session
  · exact frame.described session session.record.opencodeSessionId _ session.record.title updatedAt

theorem projects (frame : UnprunedFrame env related) {now : Instant} {event : SessionEventRecord}
    {appended projected : SessionState} (hprojects : Projects env now event appended projected) :
    related appended projected := by
  cases hprojects with
  | covered => exact frame.refl appended
  | @written input _ _ hsequence hwrite =>
    have hkept := frame.projected appended input now
    rw [hwrite] at hkept
    exact hkept

end UnprunedFrame

end SessionState

/-- Every session of the table is still there, related to what it was; a new one is empty
and stored under its own key. -/
structure SessionsKept (related : SessionState → SessionState → Prop)
    (before after : OrderedMap String SessionState) : Prop where
  kept : ∀ sessionKey session, before.get sessionKey = some session →
    ∃ next, after.get sessionKey = some next ∧ related session next
  fresh : ∀ sessionKey session, before.get sessionKey = none →
    after.get sessionKey = some session → ∃ input createdAt,
      sessionKey = key input.tenantId input.sessionId ∧
        session = SessionsDomain.newSession input createdAt

namespace SessionsKept

variable {env : Environment} {related : SessionState → SessionState → Prop}
  (frame : SessionState.UnprunedFrame env related)
include frame

theorem refl (sessions : OrderedMap String SessionState) : SessionsKept related sessions sessions :=
  ⟨fun _ session hget => ⟨session, hget, frame.refl session⟩,
    fun _ _ hnone hget => absurd (hnone.symm.trans hget) (by simp)⟩

theorem put {sessions after : OrderedMap String SessionState} {sessionKey : String}
    {session next : SessionState} (hget : sessions.get sessionKey = some session)
    (hrelated : related session next) (hafter : after = sessions.set sessionKey next) :
    SessionsKept related sessions after := by
  subst hafter
  constructor
  · intro other found hfound
    rw [OrderedMap.get_set]
    split
    next h =>
      subst h
      obtain rfl := Option.mem_unique hget hfound
      exact ⟨next, rfl, hrelated⟩
    · exact ⟨found, hfound, frame.refl found⟩
  · intro other found hnone hfound
    rw [OrderedMap.get_set] at hfound
    split at hfound
    next h =>
      subst h
      exact absurd (hget.symm.trans hnone) (by simp)
    · exact absurd (hnone.symm.trans hfound) (by simp)

end SessionsKept

namespace SessionsDomain

variable {σ : Type} (host : SessionsHost σ) (domain : SessionsDomain σ)

theorem createSession_get_new {input : CreateSessionInput} {now : Instant} {sessionKey : String}
    {session : SessionState} (hnone : domain.sessions.get sessionKey = none)
    (hget : (domain.createSession host input now).2.sessions.get sessionKey = some session) :
    sessionKey = key input.tenantId input.sessionId := by
  unfold createSession at hget
  split at hget
  · exact absurd (hnone.symm.trans hget) (by simp)
  · split at hget
    · exact absurd (hnone.symm.trans hget) (by simp)
    · split at hget
      · exact absurd (hnone.symm.trans hget) (by simp)
      · by_contra hne
        have hother := OrderedMap.get_set_of_ne domain.sessions
          (newSession input (input.createdAt.getD now)) (Ne.symm hne)
        exact absurd ((hother.trans hnone).symm.trans hget) (by simp)

end SessionsDomain

namespace ControlPlaneStore

variable {σ : Type} (context : StoreContext σ) (store : ControlPlaneStore σ)
  {session : SessionState}

theorem requireSession_get {tenantId sessionId : String}
    (hsession : store.requireSession context tenantId sessionId = .ok session) :
    store.sessions.get (key tenantId sessionId) = some session :=
  store.toSessionsDomain.requireSession_eq_ok context.host hsession

theorem performWorkflow_sessions (now : Instant) (nonce : String) (operation : WorkflowOperation) :
    (store.performWorkflow context now nonce operation).2.sessions = store.sessions := by
  cases operation <;> rfl

variable {related : SessionState → SessionState → Prop}
  (frame : SessionState.UnprunedFrame context.env related)

include frame

theorem sessionOperation_kept (request : SessionRequest) :
    SessionsKept related store.sessions
      (store.toSessionsDomain.perform context.env context.host request).2.sessions := by
  constructor
  · intro sessionKey session hget
    have hexplained := store.toSessionsDomain.perform_explained context.env context.host request
      sessionKey
    rw [hget] at hexplained
    generalize (store.toSessionsDomain.perform context.env context.host request).2.sessions.get
      sessionKey = after at hexplained
    cases hexplained with
    | changed _ _ after hstep => exact ⟨after, rfl, frame.step hstep⟩
  · intro sessionKey session hnone hget
    have hexplained := store.toSessionsDomain.perform_explained context.env context.host request
      sessionKey
    rw [hnone, hget] at hexplained
    obtain ⟨_, operation⟩ := request
    cases hexplained with
    | created input createdAt hoperation =>
      obtain rfl : operation = .createSession input := hoperation
      exact ⟨input, createdAt,
        store.toSessionsDomain.createSession_get_new context.host hnone hget, rfl⟩

theorem onSession_kept {α : Type} (tenantId sessionId : String)
    (operation : SessionState → Outcome SessionState α)
    (hrelated : ∀ session : SessionState, related session (operation session).2) :
    SessionsKept related store.sessions
      (store.onSession context tenantId sessionId operation).2.sessions := by
  unfold onSession
  cases hsession : store.requireSession context tenantId sessionId with
  | error => exact .refl frame _
  | ok session =>
    exact .put frame (store.requireSession_get context hsession) (hrelated session) rfl

section

variable (title : Option (Option String)) (leaseToken : LeaseTokenArgument)
  (updatedAt : Option Instant) (now : Instant) (tenantId sessionId : String)

theorem bindSessionRuntime_kept (opencodeSessionId : String) :
    SessionsKept related store.sessions (store.bindSessionRuntime context tenantId sessionId
      opencodeSessionId title leaseToken updatedAt now).2.sessions := by
  unfold bindSessionRuntime
  cases hsession : store.requireSession context tenantId sessionId with
  | error => exact .refl frame _
  | ok session =>
    dsimp only
    split
    · exact .refl frame _
    · exact .put frame (store.requireSession_get context hsession)
        (frame.described session opencodeSessionId session.record.status _ _) rfl

theorem updateSessionStatus_kept (status : SessionStatus) :
    SessionsKept related store.sessions (store.updateSessionStatus context tenantId sessionId status
      title leaseToken updatedAt now).2.sessions := by
  unfold updateSessionStatus
  cases hsession : store.requireSession context tenantId sessionId with
  | error => exact .refl frame _
  | ok session =>
    dsimp only
    split
    · exact .refl frame _
    · exact .put frame (store.requireSession_get context hsession)
        (frame.described session session.record.opencodeSessionId status _ _) rfl

end

theorem projectSessionEvent_kept (input : AppendProjectedSessionEventInput) (now : Instant)
    (hget : store.sessions.get (key input.tenantId input.sessionId) = some session) :
    SessionsKept related store.sessions
      (store.projectSessionEvent context session input now).2.sessions := by
  have hprojecting := store.projectSessionEvent_projecting context session input now
  generalize store.projectSessionEvent context session input now = guarded at hprojecting
  have happended : ∀ event appended, session.appendSessionEvent context.env
      input.toAppendEventInput now = (.ok event, appended) → related session appended := by
    intro event appended hevent
    have hrelated := frame.appended session input.toAppendEventInput now
    rw [hevent] at hrelated
    exact hrelated
  cases hprojecting with
  | refused => exact .refl frame _
  | stopped hevent hworkspace =>
    exact .put frame hget (happended _ _ hevent) (congrArg SessionsDomain.sessions
      (sessions_of_workspaceEvent context store input hworkspace))
  | finished hevent hworkspace hprojects _ updatedAt =>
    apply SessionsKept.put frame hget (frame.trans (happended _ _ hevent)
      (frame.trans (frame.projects hprojects) (frame.applied _ input.sessionStatus updatedAt)))
    rw [applyProjectedEventEffects_sessions]
    change OrderedMap.set _ _ _ = _
    have hwritten := sessions_of_workspaceEvent context store input hworkspace
    rw [congrArg SessionsDomain.sessions hwritten]
    exact OrderedMap.set_set _ _ _ _

theorem appendProjectedSessionEvent_kept (input : AppendProjectedSessionEventInput)
    (now : Instant) :
    SessionsKept related store.sessions
      (store.appendProjectedSessionEvent context input now).2.sessions := by
  unfold appendProjectedSessionEvent
  cases hsession : store.requireSession context input.tenantId input.sessionId with
  | error => exact .refl frame _
  | ok session =>
    have hkept := store.projectSessionEvent_kept context frame input now
      (store.requireSession_get context hsession)
    have honly := projectSessionEvent_sessions context store session input now
    dsimp only
    generalize store.projectSessionEvent context session input now = guarded at hkept honly
    obtain ⟨_ | _, after⟩ := guarded
    · have hsame := sessions_restored context store hsession honly
      change SessionsKept related store.sessions
        (after.putSession input.tenantId input.sessionId session).sessions
      rw [hsame]
      exact .refl frame _
    · exact hkept

theorem perform_kept_unpruned (request : StoreRequest)
    (hunpruned : ∀ olderThan limit,
      request.operation ≠ .pruneExpiredSessionEvents olderThan limit) :
    SessionsKept related store.sessions (store.perform context request).2.sessions := by
  obtain ⟨now, nonce, operation⟩ := request
  cases operation with
  | session operation => exact store.sessionOperation_kept context frame ⟨now, operation⟩
  | bindSessionRuntime =>
    exact store.bindSessionRuntime_kept context frame _ _ _ now _ _ _
  | updateSessionStatus =>
    exact store.updateSessionStatus_kept context frame _ _ _ now _ _ _
  | appendSessionEvent input =>
    exact store.onSession_kept context frame input.tenantId input.sessionId _
      fun session => frame.appended session input now
  | writeSessionProjection input =>
    exact store.onSession_kept context frame input.tenantId input.sessionId _
      fun session => frame.projected session input now
  | appendProjectedSessionEvent input =>
    exact store.appendProjectedSessionEvent_kept context frame input now
  | pruneExpiredSessionEvents => exact absurd rfl (hunpruned _ _)
  | appendWorkspaceEvent input =>
    change SessionsKept related store.sessions
      (store.appendWorkspaceEvent context input now).2.sessions
    unfold appendWorkspaceEvent
    split
    · exact .refl frame _
    · dsimp only
      split <;> exact .refl frame _
  | workflow operation =>
    change SessionsKept related store.sessions
      (store.performWorkflow context now nonce operation).2.sessions
    rw [performWorkflow_sessions]
    exact .refl frame _
  | pruneExpiredWorkspaceEvents | getSession | listSessionEvents | getSessionProjection
  | listWorkspaceEvents => exact .refl frame _

omit frame

theorem pruneExpiredSessionEvents_kept (frame : SessionState.Frame context.env related)
    (olderThan : Instant) (limit : Nat) :
    SessionsKept related store.sessions
      (store.pruneExpiredSessionEvents olderThan limit).2.sessions := by
  constructor
  · intro sessionKey session hget
    exact ⟨_, (OrderedMap.get_mapWithKey _ _ _).trans (congrArg (Option.map _) hget),
      frame.pruned session _⟩
  · intro sessionKey session hnone hget
    have hmapped := (OrderedMap.get_mapWithKey _ _ _).symm.trans hget
    rw [hnone] at hmapped
    simp at hmapped

theorem perform_kept (frame : SessionState.Frame context.env related) (request : StoreRequest) :
    SessionsKept related store.sessions (store.perform context request).2.sessions := by
  by_cases hprunes : ∃ olderThan limit,
      request.operation = .pruneExpiredSessionEvents olderThan limit
  · obtain ⟨olderThan, limit, hprunes⟩ := hprunes
    obtain ⟨_, _, operation⟩ := request
    obtain rfl : operation = _ := hprunes
    exact store.pruneExpiredSessionEvents_kept context frame olderThan limit
  · apply store.perform_kept_unpruned context frame.toUnprunedFrame
    intro olderThan limit hoperation
    exact hprunes ⟨olderThan, limit, hoperation⟩

end ControlPlaneStore

/-- The ids under which a session is stored and listed stay what they were. -/
def SessionState.SameIdentity (before after : SessionState) : Prop :=
  after.record.tenantId = before.record.tenantId ∧
    after.record.sessionId = before.record.sessionId

theorem SessionState.sameIdentity_frame (env : Environment) :
    SessionState.Frame env SessionState.SameIdentity where
  refl session := ⟨rfl, rfl⟩
  trans hfirst hsecond := ⟨hsecond.1.trans hfirst.1, hsecond.2.trans hfirst.2⟩
  step hstep := by cases hstep <;> exact ⟨rfl, rfl⟩
  described session _ _ _ _ := ⟨rfl, rfl⟩
  appended session input now := by
    unfold appendSessionEvent
    split
    · exact ⟨rfl, rfl⟩
    · dsimp only
      split
      · split <;> exact ⟨rfl, rfl⟩
      · exact ⟨rfl, rfl⟩
  projected session input now := by
    unfold writeSessionProjection storeProjection
    split
    · exact ⟨rfl, rfl⟩
    · split
      · exact ⟨rfl, rfl⟩
      · split
        · split <;> exact ⟨rfl, rfl⟩
        · exact ⟨rfl, rfl⟩
  pruned session _ := ⟨rfl, rfl⟩

/-- Every session is stored under the key of its own ids. -/
def SessionsKeyed (sessions : OrderedMap String SessionState) : Prop :=
  ∀ sessionKey session, sessions.get sessionKey = some session →
    sessionKey = key session.record.tenantId session.record.sessionId

namespace ControlPlaneStore

variable {σ : Type} (context : StoreContext σ)

theorem perform_keyed {store : ControlPlaneStore σ} (hkeyed : SessionsKeyed store.sessions)
    (request : StoreRequest) : SessionsKeyed (store.perform context request).2.sessions := by
  have hkept := store.perform_kept context (SessionState.sameIdentity_frame context.env) request
  intro sessionKey session hget
  cases hbefore : store.sessions.get sessionKey with
  | none =>
    obtain ⟨_, _, hkey, rfl⟩ := hkept.fresh sessionKey session hbefore hget
    exact hkey
  | some before =>
    obtain ⟨_, hnext, htenant, hsession⟩ := hkept.kept sessionKey before hbefore
    obtain rfl := Option.mem_unique hget hnext
    rw [htenant, hsession]
    exact hkeyed sessionKey before hbefore

theorem run_keyed (neighbours : σ) (requests : List StoreRequest) :
    SessionsKeyed ((machine context).run (initial neighbours) requests).sessions := by
  apply (machine context).run_invariant (fun store => SessionsKeyed store.sessions)
  · intro store request hkeyed
    exact perform_keyed context hkeyed request
  · intro _ _ hget
    simp [initial, SessionsDomain.initial] at hget

end ControlPlaneStore

end OpenCowork.ControlPlane
