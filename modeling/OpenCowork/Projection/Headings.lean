import OpenCowork.Projection.Reduce

/-! # What a view takes from its session

A new view takes its title and its run state from the session's record. Each event has an
effect on these that does not depend on the rest of the view, and no effect on the rest that
depends on these; so views that started from different records differ in no more than that,
until events have decided both.
-/

namespace OpenCowork.Projection

open Foundation
open ControlPlane (SessionStatus)

/-- What an event says about whether the session is at work. -/
inductive RunEffect where
  | keep
  | decide (status : SessionStatus) (isGenerating : Bool)
  | stop
  | settle
  | follow
  deriving DecidableEq

namespace RunEffect

def apply : RunEffect → SessionStatus × Bool → SessionStatus × Bool
  | keep, run => run
  | decide status isGenerating, _ => (status, isGenerating)
  | stop, run => (run.1, false)
  | settle, run => (settledStatus run.1, false)
  | follow, run => (run.1, Decidable.decide (run.1 = .running))

def decides : RunEffect → Bool
  | decide _ _ => true
  | _ => false

end RunEffect

/-- The title and the run state of a view. -/
structure Heading where
  title : String
  run : SessionStatus × Bool
  deriving DecidableEq

def CloudProjectionSessionRecord.heading (session : CloudProjectionSessionRecord) : Heading where
  title := session.shownTitle
  run := (session.status, decide (session.status = .running))

namespace CloudSessionProjectionView

def heading (view : CloudSessionProjectionView) : Heading where
  title := view.title
  run := (view.status, view.isGenerating)

def withHeading (view : CloudSessionProjectionView) (heading : Heading) :
    CloudSessionProjectionView :=
  { view with
    title := heading.title
    status := heading.run.1
    isGenerating := heading.run.2 }

end CloudSessionProjectionView

/-! ## The effects of an event -/

def titleEffect (payload : List (String × Json)) :
    CloudProjectedSessionEventType → Option NonBlank
  | .sessionCreated => Json.readText (Json.findField "title" payload)
  | _ => none

def runEffect (payload : List (String × Json)) : CloudProjectedSessionEventType → RunEffect
  | .sessionCreated | .sessionImported | .sessionAborted => .decide .idle false
  | .promptSubmitted | .toolCall => .decide .running true
  | .permissionRequested | .questionAsked => .decide .running false
  | .runtimeError => .decide .errored false
  | .permissionResolved | .questionResolved => .stop
  | .sessionIdle => .settle
  | .sessionStatus =>
    let statusType := readPlainString (Json.findField "statusType" payload)
    if statusType = "busy" ∨ statusType = "running" then .decide .running true
    else if statusType = "idle" then .settle
    else .follow
  | _ => .keep

namespace CloudProjectionEventRecord

def projectedType? (event : CloudProjectionEventRecord) : Option CloudProjectedSessionEventType :=
  CloudProjectedSessionEventType.ofName? event.type

def titleEffect (event : CloudProjectionEventRecord) : Option NonBlank :=
  event.projectedType?.bind (Projection.titleEffect (Json.asRecord (some event.payload)))

def runEffect (event : CloudProjectionEventRecord) : RunEffect :=
  (event.projectedType?.map (Projection.runEffect (Json.asRecord (some event.payload)))).getD .keep

end CloudProjectionEventRecord

namespace Heading

def after (heading : Heading) (event : CloudProjectionEventRecord) : Heading where
  title := (event.titleEffect.map Subtype.val).getD heading.title
  run := event.runEffect.apply heading.run

def afterAll (heading : Heading) (events : List CloudProjectionEventRecord) : Heading :=
  events.foldl after heading

end Heading

section Events

variable (env : ProjectionEnvironment) (session : CloudProjectionSessionRecord)
  (view : CloudSessionProjectionView) (payload : List (String × Json))
  (event : CloudProjectionEventRecord)

theorem reduceProjectedEvent_withHeading (heading : Heading)
    (type : CloudProjectedSessionEventType) :
    reduceProjectedEvent env session (view.withHeading heading) payload event type =
      (reduceProjectedEvent env session view payload event type).withHeading
        { title := ((titleEffect payload type).map Subtype.val).getD heading.title
          run := (runEffect payload type).apply heading.run } := by
  cases type with
  | toolCall =>
    simp only [reduceProjectedEvent, reduceToolCall]
    cases Json.readTrimmed (Json.findField "taskRunId" payload) <;> rfl
  | sessionStatus =>
    have hrun : (runEffect payload .sessionStatus).apply heading.run =
        (reportedStatus payload heading.run.1,
          decide (reportedStatus payload heading.run.1 = .running)) := by
      simp only [runEffect, reportedStatus]
      split
      · rfl
      · split
        · rw [RunEffect.apply, settledStatus]
          split <;> rfl
        · rfl
    rw [hrun]
    rfl
  | _ => rfl

theorem reduce_withHeading (heading : Heading) :
    reduceCloudSessionProjectionEvent env session (view.withHeading heading) event =
      (reduceCloudSessionProjectionEvent env session view event).withHeading
        (heading.after event) := by
  unfold reduceCloudSessionProjectionEvent Heading.after CloudProjectionEventRecord.titleEffect
    CloudProjectionEventRecord.runEffect CloudProjectionEventRecord.projectedType?
  cases CloudProjectedSessionEventType.ofName? event.type with
  | none => rfl
  | some type => exact reduceProjectedEvent_withHeading env session view _ event heading type

theorem reduce_withTime {type : CloudProjectedSessionEventType}
    (hprojected : event.projectedType? = some type) (time : NonBlank) :
    reduceCloudSessionProjectionEvent env session { view with updatedAt := time } event =
      reduceCloudSessionProjectionEvent env session view event := by
  unfold CloudProjectionEventRecord.projectedType? at hprojected
  unfold reduceCloudSessionProjectionEvent
  rw [hprojected]
  cases type with
  | toolCall =>
    simp only [reduceProjectedEvent, reduceToolCall]
    cases Json.readTrimmed (Json.findField "taskRunId" _) <;> rfl
  | _ => rfl

theorem reduce_session_congr {session session' : CloudProjectionSessionRecord}
    (hsession : session.sessionId = session'.sessionId) :
    reduceCloudSessionProjectionEvent env session view event =
      reduceCloudSessionProjectionEvent env session' view event := by
  obtain ⟨_, _, _, _, _⟩ := session
  obtain ⟨_, _, _, _, _⟩ := session'
  obtain rfl := hsession
  unfold reduceCloudSessionProjectionEvent
  cases CloudProjectedSessionEventType.ofName? event.type with
  | none => rfl
  | some type => cases type <;> rfl

theorem foldl_reduce_withHeading (heading : Heading) (events : List CloudProjectionEventRecord) :
    events.foldl (reduceCloudSessionProjectionEvent env session) (view.withHeading heading) =
      (events.foldl (reduceCloudSessionProjectionEvent env session) view).withHeading
        (heading.afterAll events) := by
  induction events generalizing view heading with
  | nil => rfl
  | cons _ _ ih =>
    rw [List.foldl_cons, List.foldl_cons, reduce_withHeading, ih]
    rfl

end Events

/-! ## Views of one session that started apart -/

def projectEvents (env : ProjectionEnvironment) (session : CloudProjectionSessionRecord)
    (events : List CloudProjectionEventRecord) : CloudSessionProjectionView :=
  events.foldl (reduceCloudSessionProjectionEvent env session)
    (createCloudSessionProjectionView session)

section Starts

variable (env : ProjectionEnvironment) {session session' : CloudProjectionSessionRecord}
  {events : List CloudProjectionEventRecord}

theorem projectEvents_withHeading (hsession : session.sessionId = session'.sessionId)
    (hprofile : session.profileName = session'.profileName) (hnonempty : events ≠ [])
    (hprojected : ∀ event ∈ events, event.projectedType?.isSome) :
    projectEvents env session' events =
      (projectEvents env session events).withHeading (session'.heading.afterAll events) := by
  have hreduce : reduceCloudSessionProjectionEvent env session' =
      reduceCloudSessionProjectionEvent env session := by
    funext view event
    exact (reduce_session_congr env view event hsession).symm
  obtain ⟨event, _, rfl⟩ := List.exists_cons_of_ne_nil hnonempty
  obtain ⟨_, htype⟩ := Option.isSome_iff_exists.mp (hprojected event (.head _))
  have hstart : createCloudSessionProjectionView session' =
      { (createCloudSessionProjectionView session).withHeading session'.heading with
        updatedAt := session'.updatedAt } := by
    unfold createCloudSessionProjectionView
    rw [hsession, hprofile]
    rfl
  unfold projectEvents
  rw [← foldl_reduce_withHeading, List.foldl_cons, List.foldl_cons, hreduce, hstart,
    reduce_withTime env session _ event htype]

theorem heading_projectEvents (hnonempty : events ≠ [])
    (hprojected : ∀ event ∈ events, event.projectedType?.isSome) :
    (projectEvents env session events).heading = session.heading.afterAll events := by
  have hself : projectEvents env session events =
      (projectEvents env session events).withHeading (session.heading.afterAll events) :=
    projectEvents_withHeading env rfl rfl hnonempty hprojected
  rw [hself]
  rfl

theorem projectEvents_eq_iff (hsession : session.sessionId = session'.sessionId)
    (hprofile : session.profileName = session'.profileName) (hnonempty : events ≠ [])
    (hprojected : ∀ event ∈ events, event.projectedType?.isSome) :
    projectEvents env session events = projectEvents env session' events ↔
      session.heading.afterAll events = session'.heading.afterAll events := by
  constructor
  · intro hsame
    rw [← heading_projectEvents env hnonempty hprojected,
      ← heading_projectEvents env hnonempty hprojected, hsame]
  · intro hheading
    rw [projectEvents_withHeading env hsession hprofile hnonempty hprojected, ← hheading,
      ← heading_projectEvents env hnonempty hprojected]
    rfl

end Starts

/-! ## When headings have become the same -/

namespace Heading

theorem afterAll_title_eq_iff (one other : Heading) (events : List CloudProjectionEventRecord) :
    (one.afterAll events).title = (other.afterAll events).title ↔
      one.title = other.title ∨ ∃ event ∈ events, event.titleEffect.isSome := by
  induction events generalizing one other with
  | nil => simp [afterAll]
  | cons event rest ih =>
    have hafter := ih (one.after event) (other.after event)
    change ((one.after event).afterAll rest).title = ((other.after event).afterAll rest).title ↔ _
    rw [hafter, List.exists_mem_cons_iff]
    cases heffect : event.titleEffect with
    | none | some => simp [after, heffect]

theorem settledStatus_eq_iff (one other : SessionStatus) :
    settledStatus one = settledStatus other ↔ (one = .errored ↔ other = .errored) := by
  cases one <;> cases other <;> decide

/-- Run states that differ in their status alone, or that both follow from it. -/
def Comparable (one other : SessionStatus × Bool) : Prop :=
  one.2 = other.2 ∨ (one.2 = decide (one.1 = .running) ∧ other.2 = decide (other.1 = .running))

theorem comparable_apply {one other : SessionStatus × Bool} (h : Comparable one other)
    (effect : RunEffect) : Comparable (effect.apply one) (effect.apply other) := by
  cases effect with
  | keep => exact h
  | follow => exact .inr ⟨rfl, rfl⟩
  | _ => exact .inl rfl

theorem Comparable.eq_iff {one other : SessionStatus × Bool} (h : Comparable one other) :
    one = other ↔ one.1 = other.1 := by
  refine ⟨congrArg Prod.fst, fun hstatus => Prod.ext hstatus ?_⟩
  rcases h with h | ⟨hone, hother⟩
  · exact h
  · rw [hone, hother, hstatus]

theorem afterAll_run_eq_iff {one other : Heading} (h : Comparable one.run other.run)
    (events : List CloudProjectionEventRecord) :
    (one.afterAll events).run = (other.afterAll events).run ↔
      one.run.1 = other.run.1 ∨ (∃ event ∈ events, event.runEffect.decides = true) ∨
        ((∃ event ∈ events, event.runEffect = .settle) ∧
          (one.run.1 = .errored ↔ other.run.1 = .errored)) := by
  induction events generalizing one other with
  | nil => simp [afterAll, h.eq_iff]
  | cons event rest ih =>
    have hcomparable : Heading.Comparable (one.after event).run (other.after event).run :=
      comparable_apply h event.runEffect
    have hafter := ih hcomparable
    change ((one.after event).afterAll rest).run = ((other.after event).afterAll rest).run ↔ _
    rw [hafter, List.exists_mem_cons_iff, List.exists_mem_cons_iff]
    simp only [after]
    cases event.runEffect with
    | settle =>
      have hstill : ∀ status, settledStatus status = .errored ↔ status = .errored := by
        intro status
        cases status <;> decide
      have hequal : one.run.1 = other.run.1 → (one.run.1 = .errored ↔ other.run.1 = .errored) :=
        fun hsame => by rw [hsame]
      simp only [RunEffect.apply, RunEffect.decides, settledStatus_eq_iff, hstill,
        Bool.false_eq_true, false_or, true_or, true_and]
      constructor
      · rintro (hsettled | hdecided | ⟨-, hsettled⟩)
        · exact .inr (.inr hsettled)
        · exact .inr (.inl hdecided)
        · exact .inr (.inr hsettled)
      · rintro (hsame | hdecided | hsettled)
        · exact .inl (hequal hsame)
        · exact .inr (.inl hdecided)
        · exact .inl hsettled
    | decide => simp [RunEffect.apply, RunEffect.decides]
    | _ => simp [RunEffect.apply, RunEffect.decides]

end Heading

/-- Whether the events leave two records of the session with the same heading. -/
structure HeadingsMeet (one other : CloudProjectionSessionRecord)
    (events : List CloudProjectionEventRecord) : Prop where
  title : one.shownTitle = other.shownTitle ∨ ∃ event ∈ events, event.titleEffect.isSome
  run : one.status = other.status ∨ (∃ event ∈ events, event.runEffect.decides = true) ∨
    ((∃ event ∈ events, event.runEffect = .settle) ∧
      (one.status = .errored ↔ other.status = .errored))

theorem afterAll_heading_eq_iff (one other : CloudProjectionSessionRecord)
    (events : List CloudProjectionEventRecord) :
    one.heading.afterAll events = other.heading.afterAll events ↔
      HeadingsMeet one other events := by
  have htitle := Heading.afterAll_title_eq_iff one.heading other.heading events
  have hcomparable : Heading.Comparable one.heading.run other.heading.run := .inr ⟨rfl, rfl⟩
  have hrun := Heading.afterAll_run_eq_iff hcomparable events
  constructor
  · intro hsame
    exact ⟨htitle.mp (congrArg Heading.title hsame), hrun.mp (congrArg Heading.run hsame)⟩
  · intro hmeet
    have hone := htitle.mpr hmeet.title
    have hother := hrun.mpr hmeet.run
    cases hfirst : one.heading.afterAll events
    cases hsecond : other.heading.afterAll events
    rw [hfirst, hsecond] at hone hother
    exact Heading.mk.injEq .. ▸ ⟨hone, hother⟩

end OpenCowork.Projection
