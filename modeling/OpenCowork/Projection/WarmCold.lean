import OpenCowork.Projection.Copies

/-! # Cached and stored views

An event is reduced onto the view that was projected last when that is still cached, else
onto the stored view, which is normalized first. Which of the two it was makes no difference
to what is stored as long as the views that are normalized are settled.
-/

namespace OpenCowork.Projection

open Foundation

/-- An event with the session's record as it is then, whether the last view is still cached,
and the time at which a view would be normalized. -/
structure ProjectionStep where
  session : CloudProjectionSessionRecord
  event : CloudProjectionEventRecord
  cached : Bool
  now : NonBlank

namespace ProjectionStep

/-- What is projected, whatever the cache holds. -/
def projected (step : ProjectionStep) : CloudProjectionSessionRecord × CloudProjectionEventRecord :=
  (step.session, step.event)

variable (env : ProjectionEnvironment)

/-- The view that the event is reduced onto. -/
def currentView (step : ProjectionStep) (stored : Option CloudSessionProjectionView) :
    CloudSessionProjectionView :=
  match stored.filter fun _ => step.cached with
  | some view => view
  | none =>
    normalizeCloudSessionProjectionView env step.now
      (stored.map CloudSessionProjectionView.encode) step.session

def project (step : ProjectionStep) (stored : Option CloudSessionProjectionView) :
    CloudSessionProjectionView :=
  reduceCloudSessionProjectionEvent env step.session (step.currentView env stored) step.event

def projectAll (stored : Option CloudSessionProjectionView) :
    List ProjectionStep → Option CloudSessionProjectionView
  | [] => stored
  | step :: rest => projectAll (some (step.project env stored)) rest

def SettledAlong (stored : Option CloudSessionProjectionView) : List ProjectionStep → Prop
  | [] => True
  | step :: rest =>
    (step.cached = false → ∀ view, stored = some view → view.Settled env step.session) ∧
      SettledAlong (some (step.project env stored)) rest

variable {env}

theorem clone_currentView {step : ProjectionStep} {view : CloudSessionProjectionView}
    (hsettled : step.cached = false → view.Settled env step.session) :
    (step.currentView env (some view)).clone = view.clone := by
  unfold currentView
  cases hcached : step.cached with
  | true => rfl
  | false =>
    exact (CloudSessionProjectionView.clone_normalize_iff env step.now step.session view).mpr
      (hsettled hcached)

theorem currentView_none (step : ProjectionStep) :
    step.currentView env none = createCloudSessionProjectionView step.session := rfl

theorem clone_project_congr {step step' : ProjectionStep}
    {stored stored' : Option CloudSessionProjectionView} (hsame : step.projected = step'.projected)
    (hstored : stored.map CloudSessionProjectionView.clone =
      stored'.map CloudSessionProjectionView.clone)
    (hsettled : step.cached = false → ∀ view, stored = some view → view.Settled env step.session)
    (hsettled' : step'.cached = false →
      ∀ view, stored' = some view → view.Settled env step'.session) :
    (step.project env stored).clone = (step'.project env stored').clone := by
  have hsession : step.session = step'.session := congrArg Prod.fst hsame
  have hevent : step.event = step'.event := congrArg Prod.snd hsame
  have hcurrent : (step.currentView env stored).clone = (step'.currentView env stored').clone := by
    cases stored with
    | none =>
      rw [Option.map_none, eq_comm, Option.map_eq_none_iff] at hstored
      rw [hstored, currentView_none, currentView_none, hsession]
    | some view =>
      rw [Option.map_some, eq_comm, Option.map_eq_some_iff] at hstored
      obtain ⟨view', rfl, hview⟩ := hstored
      rw [clone_currentView fun hcached => hsettled hcached view rfl,
        clone_currentView fun hcached => hsettled' hcached view' rfl, hview]
  unfold project
  rw [← hsession, ← hevent]
  exact reduce_clone_congr env step.session step.event hcurrent

theorem clone_projectAll_congr {steps steps' : List ProjectionStep}
    (hsame : steps.map projected = steps'.map projected)
    {stored stored' : Option CloudSessionProjectionView}
    (hstored : stored.map CloudSessionProjectionView.clone =
      stored'.map CloudSessionProjectionView.clone)
    (hsettled : SettledAlong env stored steps) (hsettled' : SettledAlong env stored' steps') :
    (projectAll env stored steps).map CloudSessionProjectionView.clone =
      (projectAll env stored' steps').map CloudSessionProjectionView.clone := by
  induction steps generalizing steps' stored stored' with
  | nil =>
    rw [List.map_nil] at hsame
    rw [List.map_eq_nil_iff.mp hsame.symm]
    exact hstored
  | cons _ _ ih =>
    cases steps' with
    | nil => simp at hsame
    | cons =>
      obtain ⟨hstep, hrest⟩ := List.cons.inj hsame
      refine ih hrest ?_ hsettled.2 hsettled'.2
      exact congrArg some (clone_project_congr hstep hstored hsettled.1 hsettled'.1)

/-- However the cache was kept, projecting the same events stores the same view as long as
the views that are normalized are settled; and a view that was projected is kept by
normalizing exactly when it is settled. -/
theorem projectAll_agree (env : ProjectionEnvironment) (steps steps' : List ProjectionStep)
    (hsame : steps.map projected = steps'.map projected)
    (hsettled : SettledAlong env none steps) (hsettled' : SettledAlong env none steps') :
    (projectAll env none steps).map CloudSessionProjectionView.clone =
        (projectAll env none steps').map CloudSessionProjectionView.clone ∧
      ∀ view, projectAll env none steps = some view → ∀ now session,
        ((normalizeCloudSessionProjectionView env now (some view.encode) session).clone =
            view.clone ↔
          view.Settled env session) := by
  refine ⟨clone_projectAll_congr hsame rfl hsettled hsettled', ?_⟩
  intro view _ now session
  exact view.clone_normalize_iff env now session

def keepAll : ProjectionEnvironment where
  sanitizeRuntimeEventValue value _ := some value

def chat : CloudProjectionSessionRecord where
  sessionId := "chat"
  profileName := "default"
  status := .idle
  title := none
  updatedAt := ⟨"09:00", by decide⟩

def streamed (sequence : Nat) (content : String) (cached : Bool) : ProjectionStep where
  session := chat
  event :=
    { sequence := sequence
      type := "assistant.message"
      payload := .obj
        [("messageId", .str "answer"), ("mode", .str "append"), ("content", .str content)]
      createdAt := ⟨"09:01", by decide⟩ }
  cached := cached
  now := ⟨"09:02", by decide⟩

theorem streamed_agree :
    (projectAll keepAll none [streamed 1 "Hello" false, streamed 2 " you" false]).map
        CloudSessionProjectionView.clone =
      (projectAll keepAll none [streamed 1 "Hello" false, streamed 2 " you" true]).map
        CloudSessionProjectionView.clone := by
  have hcold : SettledAlong keepAll none [streamed 1 "Hello" false, streamed 2 " you" false] := by
    refine ⟨fun _ view hview => absurd hview (by simp), ?_, trivial⟩
    intro _ view hview
    obtain rfl := Option.some.inj hview
    refine CloudSessionProjectionView.settled_of_messages ?_ ?_ ?_ ?_ ?_
    all_goals decide +kernel
  have hcached : SettledAlong keepAll none [streamed 1 "Hello" false, streamed 2 " you" true] := by
    refine ⟨fun _ view hview => absurd hview (by simp), ?_, trivial⟩
    intro hcached
    exact absurd hcached (by decide)
  have hsame : [streamed 1 "Hello" false, streamed 2 " you" false].map projected =
      [streamed 1 "Hello" false, streamed 2 " you" true].map projected := rfl
  exact (projectAll_agree keepAll _ _ hsame hcold hcached).1

/-- White space that was streamed on its own is lost when the cached view is. -/
theorem evicted_blank_lost :
    (projectAll keepAll none [streamed 1 " " false, streamed 2 "you" false]).map
        CloudSessionProjectionView.clone ≠
      (projectAll keepAll none [streamed 1 " " false, streamed 2 "you" true]).map
        CloudSessionProjectionView.clone := by
  intro hsame
  have hcontent := congrArg
    (Option.map fun view => view.messages.map CloudSessionMessage.content) hsame
  revert hcontent
  decide +kernel

end ProjectionStep

end OpenCowork.Projection
