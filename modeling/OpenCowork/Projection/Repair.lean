import OpenCowork.Projection.Headings
import OpenCowork.Projection.Service
import OpenCowork.Projection.WarmCold

/-! # Repairing a projection

A session whose events were all projected as they came stores the view that its log makes of
the record it was opened with. Repairing projects the log again, from the record as it is
now.
-/

namespace OpenCowork.Projection

open Foundation CloudSessionProjectionView
open ControlPlane (SessionStatus)

namespace ProjectedSession

variable (context : ProjectionContext)
  (moment : Moment ProjectedSession (NonBlank × ProjectionRequest) ProjectionAnswer)
  {session : ProjectedSession}

def log (session : ProjectedSession) : List CloudProjectionEventRecord :=
  session.events.map SessionEventRecord.toCloudProjectionEventRecord

def nextView (session : ProjectedSession) (input : AppendProjectedEventInput) (now : NonBlank) :
    CloudSessionProjectionView :=
  let appended := session.withEvent (session.nextEvent input)
  reduceCloudSessionProjectionEvent context.env appended.record
    (appended.currentView context now) (session.nextEvent input).toCloudProjectionEventRecord

def projectedNext (session : ProjectedSession) (input : AppendProjectedEventInput)
    (now : NonBlank) : ProjectedSession :=
  let event := session.nextEvent input
  let view := session.nextView context input now
  let projected := (session.withEvent event).withProjection ⟨event.sequence, view, event.createdAt⟩
  (projected.applyStatus input.sessionStatus event.createdAt).withCachedView ⟨event.sequence, view⟩

def replayed (session : ProjectedSession) (input : AppendProjectedEventInput)
    (event : SessionEventRecord) (current : SessionProjectionRecord) (now : NonBlank) :
    ProjectedSession :=
  let after := session.applyStatus input.sessionStatus event.createdAt
  after.withCachedView ⟨current.sequence,
    normalizeCloudSessionProjectionView context.env now (some current.view.encode) after.record⟩

structure CaughtUp (session : ProjectedSession) : Prop where
  events : ∀ event ∈ session.events, ∃ current, session.projection = some current ∧
    event.sequence ≤ current.sequence
  projection : ∀ current, session.projection = some current →
    current.sequence ≤ session.nextEventSequence

theorem writeSessionProjection_new {sequence : Nat}
    (hnew : ∀ current, session.projection = some current → current.sequence < sequence)
    (view : CloudSessionProjectionView) (updatedAt : NonBlank) :
    session.writeSessionProjection context sequence view updatedAt =
      (.ok ⟨sequence, view, updatedAt⟩, session.withProjection ⟨sequence, view, updatedAt⟩) := by
  unfold writeSessionProjection
  cases hcurrent : session.projection with
  | none => rfl
  | some current =>
    have hless := hnew current hcurrent
    simp only [if_neg hless.not_gt, if_neg hless.ne']

/-- An append throws, meets an event that was projected before, or projects the next one. -/
theorem appendProjectedEvent_cases (hcaught : session.CaughtUp) (input : AppendProjectedEventInput)
    (refused : Option String) (now : NonBlank) :
    (∃ thrown next, session.appendProjectedEvent context input refused now =
        (.error thrown, next) ∧ (next = session ∨ next = session.restored)) ∨
      (∃ event current, session.findEvent (session.eventIdOf input) = some event ∧
        session.projection = some current ∧
        session.appendProjectedEvent context input refused now =
          (.ok event, session.replayed context input event current now)) ∨
      (session.findEvent (session.eventIdOf input) = none ∧
        (session.nextEvent input).projectedType?.isSome ∧
        session.appendProjectedEvent context input refused now =
          (.ok (session.nextEvent input), session.projectedNext context input now)) := by
  unfold appendProjectedEvent
  by_cases htype : CloudProjectedSessionEventType.ofName? input.type = none
  · rw [if_pos htype]
    exact .inl ⟨_, _, rfl, .inl rfl⟩
  rw [if_neg htype]
  unfold appendSessionEvent
  cases hfind : session.findEvent (session.eventIdOf input) with
  | some event =>
    by_cases hreused : event.type ≠ input.type ∨
        context.platform.stableJson event.payload ≠ context.platform.stableJson input.payload
    · simp only [if_pos hreused]
      exact .inl ⟨_, _, rfl, .inr rfl⟩
    · simp only [if_neg hreused]
      cases refused with
      | some => exact .inl ⟨_, _, rfl, .inr rfl⟩
      | none =>
        obtain ⟨current, hcurrent, hsequence⟩ :=
          hcaught.events event (List.mem_of_find?_eq_some hfind)
        refine .inr (.inl ⟨event, current, rfl, hcurrent, ?_⟩)
        simp only [hcurrent, Option.filter_some, decide_eq_true hsequence, if_true]
        rfl
  | none =>
    cases refused with
    | some => exact .inl ⟨_, _, rfl, .inr rfl⟩
    | none =>
      refine .inr (.inr ⟨rfl, ?_, ?_⟩)
      · exact Option.ne_none_iff_isSome.mp htype
      · have hnew : ∀ current, (session.withEvent (session.nextEvent input)).projection =
            some current → current.sequence < (session.nextEvent input).sequence :=
          fun current hcurrent => Nat.lt_succ_of_le (hcaught.projection current hcurrent)
        have hfilter : (session.withEvent (session.nextEvent input)).projection.filter
            (fun current => decide
              ((session.nextEvent input).sequence ≤ current.sequence)) = none := by
          rw [Option.filter_eq_none_iff]
          intro current hcurrent
          exact (decide_eq_false (hnew current hcurrent).not_ge).trans_ne Bool.false_ne_true
        simp only [hfilter, writeSessionProjection_new context hnew]
        rfl

/-! ## What an incremental projection keeps -/

structure Unstarted (session : ProjectedSession) : Prop where
  events : session.events = []
  projection : session.projection = none

/-- The stored view is the one that the log makes of the record at the opening, or a copy of
it; a cached view at the same sequence is that view itself. -/
structure Follows (opening : CloudProjectionSessionRecord) (session : ProjectedSession) : Prop where
  started : session.log ≠ []
  sessionId : opening.sessionId = session.record.sessionId
  profileName : opening.profileName = session.record.profileName
  projectedTypes : ∀ event ∈ session.log, event.projectedType?.isSome
  latest : session.events.getLast?.map (fun event => event.sequence) =
    some session.nextEventSequence
  numbered : ∀ event ∈ session.events, event.sequence ≤ session.nextEventSequence
  stored : ∃ projection, session.projection = some projection ∧
    projection.sequence = session.nextEventSequence ∧
      (projection.view = projectEvents context.env opening session.log ∨
        projection.view = (projectEvents context.env opening session.log).clone)
  cached : ∀ cached, session.viewCache = some cached →
    cached.sequence = session.nextEventSequence →
      cached.view = projectEvents context.env opening session.log

section Steps

variable {context} {opening : CloudProjectionSessionRecord} {session : ProjectedSession}
variable {record : CloudProjectionSessionRecord} {projection : SessionProjectionRecord}
variable {input : AppendProjectedEventInput}

theorem Unstarted.caughtUp (hfresh : session.Unstarted) : session.CaughtUp where
  events event hmem := absurd hmem (by simp [hfresh.events])
  projection current hcurrent := absurd hcurrent (by simp [hfresh.projection])

section

variable (hfollows : session.Follows context opening)
include hfollows

theorem Follows.caughtUp : session.CaughtUp := by
  obtain ⟨projection, hprojection, hsequence, -⟩ := hfollows.stored
  refine ⟨fun event hmem => ⟨projection, hprojection, ?_⟩, fun _ hcurrent => ?_⟩
  · exact (hfollows.numbered event hmem).trans hsequence.ge
  · obtain rfl := Option.mem_unique hprojection hcurrent
    exact hsequence.le

theorem Follows.withRecord (hsession : record.sessionId = session.record.sessionId)
    (hprofile : record.profileName = session.record.profileName) :
    ({ session with record := record } : ProjectedSession).Follows context opening :=
  { hfollows with
    sessionId := hfollows.sessionId.trans hsession.symm
    profileName := hfollows.profileName.trans hprofile.symm }

theorem Follows.applyStatus (status : Option SessionStatus) (updatedAt : NonBlank) :
    (session.applyStatus status updatedAt).Follows context opening := by
  cases status with
  | none => exact hfollows
  | some => exact hfollows.withRecord rfl rfl

theorem Follows.restored : session.restored.Follows context opening := by
  obtain ⟨projection, hprojection, hsequence, hview⟩ := hfollows.stored
  refine { hfollows with stored := ⟨_, congrArg (Option.map _) hprojection, hsequence, .inr ?_⟩ }
  rcases hview with hview | hview
  · exact congrArg CloudSessionProjectionView.clone hview
  · change projection.view.clone = _
    rw [hview, clone_clone]
    rfl

theorem Follows.clone_stored (hprojection : session.projection = some projection) :
    projection.view.clone = (projectEvents context.env opening session.log).clone := by
  obtain ⟨stored, hstored, -, hview⟩ := hfollows.stored
  obtain rfl := Option.mem_unique hprojection hstored
  rcases hview with hview | hview
  · rw [hview]
  · rw [hview, clone_clone]

end

theorem projectEvents_original (env : ProjectionEnvironment)
    (session : CloudProjectionSessionRecord) (events : List CloudProjectionEventRecord) :
    (projectEvents env session events).Original := by
  unfold projectEvents
  induction events using List.reverseRecOn with
  | nil => exact create_original session
  | append_singleton _ event ih =>
    rw [List.foldl_append]
    exact reduce_original env session event ih

theorem plain_congr {env : ProjectionEnvironment} {record' : CloudProjectionSessionRecord}
    (hsession : record'.sessionId = record.sessionId) (htitle : record'.title = record.title)
    (hprofile : record'.profileName = record.profileName) {view : CloudSessionProjectionView}
    (hplain : view.Plain env record) : view.Plain env record' := by
  have hshown : record'.shownTitle = record.shownTitle := by
    unfold CloudProjectionSessionRecord.shownTitle
    rw [htitle]
  refine ⟨{ hplain.settled with sessionId := ?_, title := ?_, profileName := ?_ }, hplain.taskRuns⟩
  · rw [hsession]
    exact hplain.settled.sessionId
  · rw [hshown]
    exact hplain.settled.title
  · rw [hprofile]
    exact hplain.settled.profileName

def StoredPlain (context : ProjectionContext) (session : ProjectedSession) : Prop :=
  ∀ projection, session.projection = some projection →
    projection.view.Plain context.env session.record

theorem Follows.normalize_stored (hfollows : session.Follows context opening)
    (hprojection : session.projection = some projection)
    (hplain : projection.view.Plain context.env record) (now : NonBlank) :
    normalizeCloudSessionProjectionView context.env now (some projection.view.encode) record =
      projectEvents context.env opening session.log :=
  normalize_eq_of_plain (projectEvents_original _ _ _) hplain
    (hfollows.clone_stored hprojection) now

/-- Whether the view of the stored sequence is still cached. -/
def isWarm (session : ProjectedSession) : Bool :=
  session.viewCache.any fun cached =>
    session.projection.any fun projection => decide (cached.sequence = projection.sequence)

theorem Follows.currentView_eq (hfollows : session.Follows context opening)
    {later : ProjectedSession} (hprojection : later.projection = session.projection)
    (hcache : later.viewCache = session.viewCache)
    (hsession : later.record.sessionId = session.record.sessionId)
    (htitle : later.record.title = session.record.title)
    (hprofile : later.record.profileName = session.record.profileName)
    (hplain : session.isWarm = false → session.StoredPlain context) (now : NonBlank) :
    later.currentView context now = projectEvents context.env opening session.log := by
  obtain ⟨projection, hstored, hsequence, -⟩ := hfollows.stored
  have hcold : session.isWarm = false →
      normalizeCloudSessionProjectionView context.env now (some projection.view.encode)
        later.record = projectEvents context.env opening session.log := fun hcold =>
    hfollows.normalize_stored hstored
      (plain_congr hsession htitle hprofile (hplain hcold projection hstored)) now
  unfold currentView
  simp only [hprojection, hcache, hstored]
  cases hfound : session.viewCache with
  | none => exact hcold (by simp [isWarm, hfound])
  | some cached =>
    by_cases hwarm : cached.sequence = projection.sequence
    · rw [Option.filter_some, if_pos (decide_eq_true hwarm)]
      exact hfollows.cached cached hfound (hwarm.trans hsequence)
    · rw [Option.filter_some, if_neg (by simpa using hwarm)]
      exact hcold (by simp [isWarm, hfound, hstored, hwarm])

theorem log_withEvent (session : ProjectedSession) (event : SessionEventRecord) :
    (session.withEvent event).log = session.log ++ [event.toCloudProjectionEventRecord] :=
  List.map_append

theorem applyStatus_withCachedView (session : ProjectedSession) (status : Option SessionStatus)
    (updatedAt : NonBlank) (cached : CachedView) :
    (session.applyStatus status updatedAt).withCachedView cached =
      (session.withCachedView cached).applyStatus status updatedAt := by
  cases status <;> rfl

theorem projectEvents_snoc (env : ProjectionEnvironment) (session : CloudProjectionSessionRecord)
    (events : List CloudProjectionEventRecord) (event : CloudProjectionEventRecord) :
    projectEvents env session (events ++ [event]) =
      reduceCloudSessionProjectionEvent env session (projectEvents env session events) event :=
  List.foldl_concat ..

theorem follows_projectedNext {now : NonBlank}
    (hsession : opening.sessionId = session.record.sessionId)
    (hprofile : opening.profileName = session.record.profileName)
    (hprojected : ∀ event ∈ session.log, event.projectedType?.isSome)
    (hnumbered : ∀ event ∈ session.events, event.sequence ≤ session.nextEventSequence)
    (htype : (session.nextEvent input).projectedType?.isSome)
    (hview : session.nextView context input now = projectEvents context.env opening
      (session.log ++ [(session.nextEvent input).toCloudProjectionEventRecord])) :
    (session.projectedNext context input now).Follows context opening := by
  unfold projectedNext
  simp only [applyStatus_withCachedView]
  refine Follows.applyStatus ?_ _ _
  refine ⟨?_, hsession, hprofile, ?_, ?_, ?_, ⟨_, rfl, rfl, .inl ?_⟩, ?_⟩
  · exact (log_withEvent session _).trans_ne (by simp)
  · intro event hmem
    rcases List.mem_append.mp ((log_withEvent session _) ▸ hmem) with hmem | hmem
    · exact hprojected event hmem
    · exact List.mem_singleton.mp hmem ▸ htype
  · exact congrArg _ List.getLast?_concat
  · intro event hmem
    rcases List.mem_append.mp hmem with hmem | hmem
    · exact (hnumbered event hmem).trans (Nat.le_succ _)
    · exact (List.mem_singleton.mp hmem ▸ rfl : event.sequence = _).le
  · exact hview.trans (congrArg _ (log_withEvent session _).symm)
  · rintro _ hcached -
    obtain rfl := Option.some.inj hcached
    exact hview.trans (congrArg _ (log_withEvent session _).symm)

theorem Follows.projectedNext (hfollows : session.Follows context opening)
    (htype : (session.nextEvent input).projectedType?.isSome)
    (hplain : session.isWarm = false → session.StoredPlain context) (now : NonBlank) :
    (session.projectedNext context input now).Follows context opening := by
  refine follows_projectedNext hfollows.sessionId hfollows.profileName hfollows.projectedTypes
    hfollows.numbered htype ?_
  have hprojection : (session.withEvent (session.nextEvent input)).projection =
      session.projection := rfl
  have hcurrent := hfollows.currentView_eq hprojection rfl rfl rfl rfl hplain now
  rw [projectEvents_snoc, nextView, hcurrent]
  exact reduce_session_congr _ _ _ hfollows.sessionId.symm

theorem Unstarted.projectedNext (hfresh : session.Unstarted)
    (htype : (session.nextEvent input).projectedType?.isSome) (now : NonBlank) :
    (session.projectedNext context input now).Follows context session.record := by
  have hlog : session.log = [] := by
    rw [log, hfresh.events, List.map_nil]
  refine follows_projectedNext rfl rfl (by simp [hlog]) (by simp [hfresh.events]) htype ?_
  obtain ⟨_, hprojected⟩ := Option.isSome_iff_exists.mp htype
  have hcurrent : (session.withEvent (session.nextEvent input)).currentView context now =
      { createCloudSessionProjectionView session.record with
        updatedAt := input.createdAt } := by
    unfold currentView
    rw [show (session.withEvent (session.nextEvent input)).projection = none from hfresh.projection]
    rfl
  have hreduce := reduce_withTime context.env session.record
    (createCloudSessionProjectionView session.record)
    (session.nextEvent input).toCloudProjectionEventRecord hprojected input.createdAt
  rw [hlog, projectEvents_snoc, nextView, hcurrent]
  refine Eq.trans ?_ hreduce
  exact reduce_session_congr _ _ _ rfl

variable (hfollows : session.Follows context opening)
include hfollows

theorem Follows.withCachedView {cached : CachedView}
    (hview : cached.view = projectEvents context.env opening session.log) :
    (session.withCachedView cached).Follows context opening :=
  { hfollows with
    cached := fun found hfound _ => by
      obtain rfl := Option.some.inj hfound
      exact hview }

theorem Follows.replayed (hplain : session.StoredPlain context) (input : AppendProjectedEventInput)
    (event : SessionEventRecord) {current : SessionProjectionRecord}
    (hcurrent : session.projection = some current) (now : NonBlank) :
    (session.replayed context input event current now).Follows context opening := by
  have hplain' : current.view.Plain context.env
      (session.applyStatus input.sessionStatus event.createdAt).record := by
    refine plain_congr ?_ ?_ ?_ (hplain current hcurrent)
    all_goals cases input.sessionStatus <;> rfl
  unfold ProjectedSession.replayed
  rw [applyStatus_withCachedView]
  exact (hfollows.withCachedView (hfollows.normalize_stored hcurrent hplain' now)).applyStatus _ _

theorem Follows.repair_eq (hprojection : session.projection = some projection) (now : NonBlank) :
    (session.repairSessionProjection context now).2 = session ∧
      ((∃ result, (session.repairSessionProjection context now).1 = .ok result) ↔
        projection.view.stable context.platform =
          (session.repairedView context now).stable context.platform) := by
  obtain ⟨stored, hstored, hsequence, -⟩ := hfollows.stored
  obtain rfl := Option.mem_unique hprojection hstored
  obtain ⟨latest, hlatest, hnumber⟩ := Option.map_eq_some_iff.mp hfollows.latest
  have hsame : latest.sequence = projection.sequence := hnumber.trans hsequence.symm
  unfold repairSessionProjection writeSessionProjection
  simp only [hlatest, hprojection, hsame, lt_irrefl, if_false, if_true]
  by_cases hcontent : projection.view.stable context.platform =
      (session.repairedView context now).stable context.platform
  · simp [hcontent]
  · simp [hcontent]

end Steps

/-! ## Runs -/

/-- An append that normalizes the stored view finds it plain: when the view is no longer
cached, and when the event came before. -/
def FindsPlain : Prop :=
  ∀ input refused, moment.input.2 = .appendProjectedEvent input refused →
    (∃ event, moment.output = .event event) →
      moment.before.isWarm = false ∨
          (moment.before.findEvent (moment.before.eventIdOf input)).isSome →
        moment.before.StoredPlain context

/-- The moment in which the log gets its first event. -/
def opens :
    Bool :=
  moment.before.events.isEmpty && !moment.after.events.isEmpty

def openingRecord
    (history : List (Moment ProjectedSession (NonBlank × ProjectionRequest) ProjectionAnswer)) :
    Option CloudProjectionSessionRecord :=
  (history.find? opens).map fun moment => moment.before.record

section Runs

variable {context} {opening : CloudProjectionSessionRecord} {session : ProjectedSession}
variable {projection : SessionProjectionRecord}

theorem Follows.handle (hfollows : session.Follows context opening) (now : NonBlank)
    (request : ProjectionRequest)
    (hplain : FindsPlain context ((machine context).moment session (now, request))) :
    (session.handle context now request).2.Follows context opening := by
  cases request with
  | bindSessionRuntime | updateSessionStatus => exact hfollows.withRecord rfl rfl
  | evictCachedView => exact { hfollows with cached := fun _ hcached => nomatch hcached }
  | repairSessionProjection =>
    obtain ⟨_, hprojection, -⟩ := hfollows.stored
    change (session.repairSessionProjection context now).2.Follows context opening
    rw [(hfollows.repair_eq hprojection now).1]
    exact hfollows
  | appendProjectedEvent input refused =>
    have hguard := hplain input refused rfl
    -- the answer as the moment keeps it
    have hanswer : ∀ answer : Except String SessionEventRecord × ProjectedSession,
        session.appendProjectedEvent context input refused now = answer →
          ((machine context).moment session (now, .appendProjectedEvent input refused)).output =
            reply .event answer.1 := fun _ happend => happend ▸ rfl
    change (session.appendProjectedEvent context input refused now).2.Follows context opening
    rcases appendProjectedEvent_cases context hfollows.caughtUp input refused now with
      ⟨thrown, next, happend, rfl | rfl⟩ | ⟨event, current, hfind, hcurrent, happend⟩ |
        ⟨hfind, htype, happend⟩
    · rw [happend]
      exact hfollows
    · rw [happend]
      exact hfollows.restored
    · have hfound := hguard ⟨event, hanswer _ happend⟩ (.inr (Option.isSome_of_eq_some hfind))
      rw [happend]
      exact hfollows.replayed hfound input event hcurrent now
    · have hcold : session.isWarm = false → session.StoredPlain context :=
        fun hcold => hguard ⟨_, hanswer _ happend⟩ (.inl hcold)
      rw [happend]
      exact hfollows.projectedNext htype hcold now

theorem Unstarted.handle (hfresh : session.Unstarted) (now : NonBlank)
    (request : ProjectionRequest) :
    (session.handle context now request).2.Unstarted ∨
      (session.handle context now request).2.Follows context session.record := by
  cases request with
  | bindSessionRuntime | updateSessionStatus | evictCachedView =>
    exact .inl ⟨hfresh.events, hfresh.projection⟩
  | repairSessionProjection =>
    have hrepair : (session.repairSessionProjection context now).2 = session := by
      unfold repairSessionProjection
      rw [hfresh.events]
      rfl
    exact .inl (hrepair.symm ▸ hfresh)
  | appendProjectedEvent input refused =>
    change (session.appendProjectedEvent context input refused now).2.Unstarted ∨
      (session.appendProjectedEvent context input refused now).2.Follows context session.record
    rcases appendProjectedEvent_cases context hfresh.caughtUp input refused now with
      ⟨thrown, next, happend, rfl | rfl⟩ | ⟨event, current, hfind, hcurrent, happend⟩ |
        ⟨hfind, htype, happend⟩
    · rw [happend]
      exact .inl hfresh
    · rw [happend]
      exact .inl ⟨hfresh.events, congrArg (Option.map _) hfresh.projection⟩
    · exact absurd (hcurrent.symm.trans hfresh.projection) (by simp)
    · rw [happend]
      exact .inr (hfresh.projectedNext htype now)

theorem run_follows (record : CloudProjectionSessionRecord)
    (requests : List (NonBlank × ProjectionRequest))
    (hplain : ∀ moment ∈ (machine context).history (new record) requests,
      FindsPlain context moment) :
    (((machine context).run (new record) requests).Unstarted ∧
        openingRecord ((machine context).history (new record) requests) = none) ∨
      ∃ opening, openingRecord ((machine context).history (new record) requests) = some opening ∧
        ((machine context).run (new record) requests).Follows context opening := by
  refine (machine context).history_invariant_of (FindsPlain context)
    (fun past state => (state.Unstarted ∧ openingRecord past = none) ∨
      ∃ opening, openingRecord past = some opening ∧ state.Follows context opening)
    ?_ (new record) (.inl ⟨⟨rfl, rfl⟩, rfl⟩) requests hplain
  intro past state request hstate hguard
  have hopening : openingRecord (past ++ [(machine context).moment state request]) =
      (openingRecord past).or (openingRecord [(machine context).moment state request]) := by
    unfold openingRecord
    rw [List.find?_append, Option.map_or]
  rcases hstate with ⟨hfresh, hnone⟩ | ⟨opening, hsome, hfollows⟩
  · have hstep : ((machine context).step state request).2.Unstarted ∨
        ((machine context).step state request).2.Follows context state.record :=
      hfresh.handle request.1 request.2
    rcases hstep with hnext | hnext
    · have hclosed : opens ((machine context).moment state request) = false := by
        have hafter : ((machine context).moment state request).after.events = [] := hnext.events
        rw [opens, hafter, List.isEmpty_nil, Bool.not_true, Bool.and_false]
      refine .inl ⟨hnext, ?_⟩
      rw [hopening, hnone, Option.none_or, openingRecord, List.find?_singleton, hclosed]
      rfl
    · have hopens : opens ((machine context).moment state request) = true := by
        have hbefore : ((machine context).moment state request).before.events = [] := hfresh.events
        have hafter : ((machine context).moment state request).after.events ≠ [] :=
          fun hempty => hnext.started (congrArg (List.map _) hempty)
        rw [opens, hbefore, List.isEmpty_nil, Bool.true_and, List.isEmpty_eq_false_iff.mpr hafter]
        rfl
      refine .inr ⟨state.record, ?_, hnext⟩
      rw [hopening, hnone, Option.none_or, openingRecord, List.find?_singleton, hopens]
      rfl
  · exact .inr ⟨opening, by rw [hopening, hsome, Option.some_or],
      hfollows.handle request.1 request.2 hguard⟩

theorem repairedView_eq (context : ProjectionContext) (session : ProjectedSession)
    (now : NonBlank) :
    session.repairedView context now =
      projectEvents context.env session.record session.log := by
  unfold repairedView projectEvents log
  rw [List.foldl_map, normalize_none]

/-- The condition under which a repair changes nothing: the events leave the record of the
opening and the record of now with one heading, and the stored view is no copy that a
refused append put back without some property of an artifact. -/
structure Repairable (opening : CloudProjectionSessionRecord) (session : ProjectedSession) :
    Prop where
  headings : HeadingsMeet opening session.record session.log
  artifacts : ∀ projection, session.projection = some projection →
    ∀ artifact ∈ projection.view.artifacts, artifact.owned = artifact

section

variable (hfollows : session.Follows context opening)
  (hprojection : session.projection = some projection)
include hfollows hprojection

theorem Follows.view_eq_iff
    (hartifacts : ∀ artifact ∈ projection.view.artifacts, artifact.owned = artifact) :
    projection.view = projectEvents context.env opening session.log := by
  obtain ⟨stored, hstored, -, hview⟩ := hfollows.stored
  obtain rfl := Option.mem_unique hprojection hstored
  have horiginal := projectEvents_original context.env opening session.log
  refine CloudSessionProjectionView.Original.eq_of_clone_eq ⟨?_, hartifacts⟩ horiginal
    (hfollows.clone_stored hprojection)
  rcases hview with hview | hview
  · rw [hview]
    exact horiginal.taskRuns
  · rw [hview]
    intro _ hmem
    obtain ⟨run, hrun, rfl⟩ := List.mem_map.mp hmem
    exact congrArg Own.clone (horiginal.taskRuns run hrun)

theorem Follows.repairedView_eq_iff (now : NonBlank) :
    projection.view = session.repairedView context now ↔ session.Repairable opening := by
  have hmeet : projectEvents context.env opening session.log = session.repairedView context now ↔
      HeadingsMeet opening session.record session.log := by
    rw [repairedView_eq, projectEvents_eq_iff context.env hfollows.sessionId hfollows.profileName
      hfollows.started hfollows.projectedTypes, afterAll_heading_eq_iff]
  constructor
  · intro hsame
    have hartifacts : ∀ artifact ∈ projection.view.artifacts, artifact.owned = artifact := by
      rw [hsame, repairedView_eq]
      exact (projectEvents_original _ _ _).artifacts
    refine ⟨hmeet.mp ((hfollows.view_eq_iff hprojection hartifacts).symm.trans hsame), ?_⟩
    intro _ hstored
    obtain rfl := Option.mem_unique hprojection hstored
    exact hartifacts
  · intro hrepairable
    exact (hfollows.view_eq_iff hprojection (hrepairable.artifacts projection hprojection)).trans
      (hmeet.mpr hrepairable.headings)

theorem Follows.eq_of_stable_eq
    {now : NonBlank} (hstable : projection.view.stable context.platform =
      (session.repairedView context now).stable context.platform) :
    projection.view = session.repairedView context now := by
  have hartifacts : projection.view.artifacts = (session.repairedView context now).artifacts := by
    have hsame := congrArg CloudSessionProjectionView.artifacts hstable
    exact hsame
  have hheading : projection.view.heading = (session.repairedView context now).heading := by
    have hsame := congrArg CloudSessionProjectionView.heading hstable
    exact hsame
  rw [repairedView_eq] at hartifacts hheading ⊢
  have hview := hfollows.view_eq_iff hprojection
    (hartifacts ▸ (projectEvents_original _ _ _).artifacts)
  rw [hview] at hheading ⊢
  rw [projectEvents_eq_iff context.env hfollows.sessionId hfollows.profileName hfollows.started
    hfollows.projectedTypes, ← heading_projectEvents context.env hfollows.started
    hfollows.projectedTypes, hheading, heading_projectEvents context.env hfollows.started
    hfollows.projectedTypes]

end

/-- A repair finds the view it computes stored at the same sequence, is not rejected, and
leaves the session as it is, so that repairing again gives the same. -/
structure RepairAgrees (context : ProjectionContext) (now : NonBlank)
    (session : ProjectedSession) : Prop where
  stored : ∃ projection, session.projection = some projection ∧
    session.events.getLast?.map (fun event => event.sequence) = some projection.sequence ∧
      projection.view = session.repairedView context now
  accepted : ∃ result, (session.repairSessionProjection context now).1 = .ok result
  again : (session.repairSessionProjection context now).2.repairSessionProjection context now =
    session.repairSessionProjection context now

end Runs

/-- In a run whose appends normalize plain views only, a repair agrees with the stored
projection exactly when the session is repairable, and else it is rejected. -/
theorem run_repair_agrees (context : ProjectionContext) (record : CloudProjectionSessionRecord)
    (requests : List (NonBlank × ProjectionRequest)) (opening : CloudProjectionSessionRecord)
    (hopening : openingRecord ((machine context).history (new record) requests) = some opening)
    (hplain : ∀ moment ∈ (machine context).history (new record) requests,
      FindsPlain context moment) (now : NonBlank) :
    (RepairAgrees context now ((machine context).run (new record) requests) ↔
        ((machine context).run (new record) requests).Repairable opening) ∧
      ((∃ result, (((machine context).run (new record) requests).repairSessionProjection
          context now).1 = .ok result) ↔
        ((machine context).run (new record) requests).Repairable opening) := by
  rcases run_follows record requests hplain with ⟨-, hnone⟩ | ⟨found, hfound, hfollows⟩
  · exact absurd (hopening.symm.trans hnone) (by simp)
  obtain rfl := Option.mem_unique hopening hfound
  generalize (machine context).run (new record) requests = session at hfollows ⊢
  obtain ⟨projection, hprojection, hsequence, -⟩ := hfollows.stored
  have hiff := hfollows.repairedView_eq_iff hprojection now
  obtain ⟨hsame, haccepted⟩ := hfollows.repair_eq hprojection now
  constructor
  · constructor
    · rintro ⟨⟨stored, hstored, -, hview⟩, -, -⟩
      obtain rfl := Option.mem_unique hprojection hstored
      exact hiff.mp hview
    · intro hrepairable
      have hview := hiff.mpr hrepairable
      refine ⟨⟨projection, hprojection, hfollows.latest.trans (congrArg some hsequence.symm),
        hview⟩,
        haccepted.mpr (congrArg _ hview), ?_⟩
      rw [hsame]
  · constructor
    · intro hresult
      exact hiff.mp (hfollows.eq_of_stable_eq hprojection (haccepted.mp hresult))
    · intro hrepairable
      exact haccepted.mpr (congrArg _ (hiff.mpr hrepairable))

def plainContext : ProjectionContext where
  env := ProjectionStep.keepAll
  platform :=
    { localeCompare := compare
      scrubOperationalText := fun text _ => text }

def noon : NonBlank := ⟨"12:00", by decide⟩

/-- An answer that is streamed in two parts, between which the cached view is evicted. -/
def streamedAnswer (first second : String) : List (NonBlank × ProjectionRequest) :=
  let part (content : String) : AppendProjectedEventInput :=
    { eventId := none
      type := "assistant.message"
      payload := .obj
        [("messageId", .str "answer"), ("mode", .str "append"), ("content", .str content)]
      createdAt := noon
      sessionStatus := none }
  [(noon, .appendProjectedEvent (part first) none), (noon, .evictCachedView),
    (noon, .appendProjectedEvent (part second) none)]

theorem evicted_answer_repairs :
    RepairAgrees plainContext noon ((machine plainContext).run (new ProjectionStep.chat)
      (streamedAnswer "Hello" " you")) := by
  have hopening : openingRecord ((machine plainContext).history (new ProjectionStep.chat)
      (streamedAnswer "Hello" " you")) = some ProjectionStep.chat := by decide +kernel
  refine ((run_repair_agrees plainContext ProjectionStep.chat (streamedAnswer "Hello" " you")
    ProjectionStep.chat hopening ?_ noon).1).mpr ⟨⟨.inl ?_, .inl ?_⟩, ?_⟩
  · unfold streamedAnswer
    simp only [Machine.history_cons, Machine.history_nil, List.forall_mem_cons]
    refine ⟨?_, ?_, ?_, by simp⟩
    · rintro input refused - - - projection hprojection
      exact nomatch hprojection
    · rintro input refused hinput
      exact nomatch hinput
    · rintro input refused - - - projection hprojection
      obtain rfl := Option.some.inj hprojection
      refine ⟨settled_of_messages ?_ ?_ ?_ ?_ ?_, ?_⟩
      all_goals decide +kernel
  · decide +kernel
  · decide +kernel
  · intro projection hprojection
    obtain rfl := Option.some.inj hprojection
    decide +kernel

/-- After white space was lost with the cached view, a repair is rejected. -/
theorem lost_blank_rejected :
    ¬ RepairAgrees plainContext noon ((machine plainContext).run (new ProjectionStep.chat)
      (streamedAnswer " " "you")) := by
  rintro ⟨⟨projection, hprojection, -, hview⟩, -, -⟩
  obtain rfl := Option.some.inj hprojection
  have hcontent := congrArg (fun view => view.messages.map CloudSessionMessage.content) hview
  revert hcontent
  decide +kernel

end ProjectedSession

end OpenCowork.Projection
