import OpenCowork.Foundation.Machine
import OpenCowork.Runtime.WindowQueues

/-! # The renderer catches up

Runs of the dispatcher: events for any sessions and workspaces, timers at any moment. The
queues are kept by every turn but those that drop a patch for which no view will come.
-/

namespace OpenCowork.Runtime

open OpenCowork.Foundation

variable {View : Type}

def rendererDispatcher (engine : SessionEngineReads View) :
    Machine (WindowDispatcher View) DispatcherTurn Unit where
  step window turn := ((), turn.apply engine window)

theorem run_dispatch (engine : SessionEngineReads View) (window : WindowDispatcher View)
    (event : RuntimeSessionEvent) :
    (rendererDispatcher engine).run window [.dispatch event] =
      window.dispatchRuntimeSessionEvent engine event := rfl

namespace WindowDispatcher

variable {engine : SessionEngineReads View} {window : WindowDispatcher View}
  {event : RuntimeSessionEvent} {object : PatchObject}

/-! ## The patch of an event -/

theorem getSessionPatch_eq_some {lastEventAt : String → Int} {event : RuntimeSessionEvent}
    {patch : SessionPatch} (h : getSessionPatch lastEventAt event = some patch) :
    present event.sessionId = some patch.sessionId ∧
      (event.eventType = "text" ∨ event.eventType = "reasoning") := by
  rw [getSessionPatch] at h
  cases hsession : present event.sessionId with
  | none =>
    rw [hsession] at h
    cases h
  | some =>
    rw [hsession] at h
    dsimp only at h
    split at h
    · cases h
    next _ =>
      refine ⟨?_, by tauto⟩
      split at h
      · cases h
        rfl
      · split at h <;> cases h <;> rfl

variable (engine) in
theorem patchOf_new (window : WindowDispatcher View) (event : RuntimeSessionEvent) :
    (window.applyStreamEvent event).patchOf engine window.applied.length =
      (window.applyStreamEvent event).newPatch engine event := by
  have hlast : (window.applied ++ [event])[window.applied.length]? = some event := by simp
  have hall : (window.applied ++ [event]).take (window.applied.length + 1) =
      window.applied ++ [event] := List.take_of_length_le (by simp)
  rw [patchOf, newPatch, applyStreamEvent, hlast, hall, Option.bind_some]
  simp

theorem event_of_newPatch
    (h : (window.applyStreamEvent event).newPatch engine event = some object) :
    object.event = window.applied.length ∧
      getSessionPatch (engine.lastEventAt (window.applied ++ [event])) event =
        some object.patch := by
  obtain ⟨_, hpatch, rfl⟩ := Option.map_eq_some_iff.mp h
  refine ⟨?_, hpatch⟩
  simp [applyStreamEvent]

/-! ## The events that have been given to the engine -/

theorem applied_queueSessionViewPublish (window : WindowDispatcher View)
    (identity : SessionFlushIdentity) :
    (window.queueSessionViewPublish identity).applied = window.applied := by
  rw [queueSessionViewPublish]
  split
  · dsimp only
    split
    · rfl
    · exact (flushed_beforeView window _).applied
  · rfl

theorem applied_queueSessionPatchPublish (window : WindowDispatcher View) (object : PatchObject) :
    (window.queueSessionPatchPublish object).applied = window.applied := by
  rw [queueSessionPatchPublish]
  split
  · rfl
  · split
    · rfl
    · split
      · rw [applied_queueSessionViewPublish]
        rfl
      · rfl

variable (engine) in
theorem dispatch_cases (window : WindowDispatcher View) (event : RuntimeSessionEvent) :
    let given := (window.applyStreamEvent event).publishNotification (getRuntimeNotification event)
    let patched := match given.newPatch engine event with
      | none => given
      | some object => given.queueSessionPatchPublish object
    window.dispatchRuntimeSessionEvent engine event = patched ∨
      ∃ identity, window.dispatchRuntimeSessionEvent engine event =
        patched.queueSessionViewPublish identity := by
  have hnone (hno : ∀ patch, getSessionPatch
      (engine.lastEventAt (window.applied ++ [event])) event ≠ some patch) :
      ((window.applyStreamEvent event).publishNotification
        (getRuntimeNotification event)).newPatch engine event = none :=
    Option.map_eq_none_iff.mpr (Option.eq_none_iff_forall_ne_some.mpr hno)
  dsimp only
  rw [dispatchRuntimeSessionEvent]
  cases hsession : present event.sessionId with
  | none =>
    rw [hnone fun patch hpatch => by
      rw [(getSessionPatch_eq_some hpatch).1] at hsession
      cases hsession]
    exact .inl rfl
  | some =>
    dsimp only
    split
    next hrefresh =>
      rw [hnone fun _ hpatch => by
        rcases (getSessionPatch_eq_some hpatch).2 with htype | htype <;>
          · rw [hrefresh] at htype
            exact absurd htype (by decide)]
      exact .inl rfl
    · split
      · exact .inr ⟨_, rfl⟩
      · exact .inl rfl

theorem applied_dispatch (window : WindowDispatcher View) (event : RuntimeSessionEvent) :
    (window.dispatchRuntimeSessionEvent engine event).applied = window.applied ++ [event] := by
  rcases dispatch_cases engine window event with heq | ⟨_, heq⟩
  · rw [heq]
    split
    · rfl
    · rw [applied_queueSessionPatchPublish]
      rfl
  · rw [heq, applied_queueSessionViewPublish]
    split
    · rfl
    · rw [applied_queueSessionPatchPublish]
      rfl

/-! ## One turn -/

variable (h : window.Keeps engine window.applied.length)
include h

theorem Keeps.dispatch (event : RuntimeSessionEvent)
    (hloses : ¬ (DispatcherTurn.dispatch event).LosesPatch engine window) :
    (window.dispatchRuntimeSessionEvent engine event).Keeps engine
      (window.applied.length + 1) := by
  have hgiven := (h.applyStreamEvent event).publishNotification (getRuntimeNotification event)
  have hlimit : window.applied.length < ((window.applyStreamEvent event).publishNotification
      (getRuntimeNotification event)).applied.length := by
    simp [WindowDispatcher.publishNotification, send, WindowDispatcher.applyStreamEvent]
  have hpatched : (match ((window.applyStreamEvent event).publishNotification
      (getRuntimeNotification event)).newPatch engine event with
    | none => (window.applyStreamEvent event).publishNotification (getRuntimeNotification event)
    | some object => ((window.applyStreamEvent event).publishNotification
        (getRuntimeNotification event)).queueSessionPatchPublish object).Keeps engine
      (window.applied.length + 1) := by
    have hnew := patchOf_new engine window event
    cases hobject : (window.applyStreamEvent event).newPatch engine event with
    | none =>
      have hsame : ((window.applyStreamEvent event).publishNotification
          (getRuntimeNotification event)).newPatch engine event = none := hobject
      rw [hsame]
      refine hgiven.advance hlimit fun object hpatch => ?_
      exact absurd ((hnew.trans hobject).symm.trans hpatch) (Option.some_ne_none _).symm
    | some object =>
      have hsame : ((window.applyStreamEvent event).publishNotification
          (getRuntimeNotification event)).newPatch engine event = some object := hobject
      rw [hsame]
      exact hgiven.queueSessionPatchPublish hlimit (hnew.trans hobject)
        (event_of_newPatch hobject).1 fun hgives => hloses ⟨event, object, rfl, hobject, hgives⟩
  rcases dispatch_cases engine window event with heq | ⟨identity, heq⟩
  · exact heq ▸ hpatched
  · exact heq ▸ hpatched.queueSessionViewPublish identity

theorem Keeps.turn (turn : DispatcherTurn) (hloses : ¬ turn.LosesPatch engine window) :
    (turn.apply engine window).Keeps engine (turn.apply engine window).applied.length := by
  cases turn with
  | dispatch event =>
    have hlength : (window.dispatchRuntimeSessionEvent engine event).applied.length =
        window.applied.length + 1 := by
      rw [applied_dispatch, List.length_append, List.length_singleton]
    rw [DispatcherTurn.apply, hlength]
    exact h.dispatch event hloses
  | patchTimer =>
    have hflushed := flushed_timer h
    rw [DispatcherTurn.apply, hflushed.applied]
    exact h.flushed hflushed
  | viewTimer =>
    obtain ⟨hkeeps, -, -, -, happlied⟩ := h.flushPendingSessionViews
    rw [DispatcherTurn.apply, happlied]
    exact hkeeps
  | historyRefreshed sessionId =>
    have hflushed := flushed_beforeView window (sessionFlushKey ⟨sessionId, none⟩)
    have hkeeps := h.flushed hflushed
    rw [← hflushed.applied] at hkeeps
    have hshown := hkeeps.publishSessionView ⟨sessionId, none⟩
      fun object hmem hkey => by
        have hmoved : object ∈ window.queuedPatches.filter
            fun object => object.key = sessionFlushKey ⟨sessionId, none⟩ :=
          List.mem_filter.mpr ⟨hflushed.keptFrom.subset hmem, decide_eq_true hkey⟩
        exact absurd (hflushed.first object hmoved object hmem rfl) (Nat.lt_irrefl _)
    rw [DispatcherTurn.apply, WindowDispatcher.historyRefreshed]
    convert hshown using 2
    rw [WindowDispatcher.publishSessionView]
    split <;> rfl

omit h

/-! ## A lost patch -/

theorem not_caughtUp_of_foreign {number : Nat}
    (hobject : window.patchOf engine number = some object)
    (hforeign : object.patch.identity.isLocal = false) (hsent : .patch object ∉ window.sent)
    (hqueued : object ∉ window.queuedPatches)
    (hviews : ∀ pending key identity, window.pendingView = some pending →
      pending.sessions.get key = some identity → identity.isLocal) : ¬ window.CaughtUp engine := by
  have hsession (identity : SessionFlushIdentity) (hlocal : identity.isLocal)
      (hsame : identity.session = object.patch.identity.session) : False := by
    have hworkspace : identity.workspace = object.patch.identity.workspace :=
      congrArg Prod.fst hsame
    rw [SessionFlushIdentity.isLocal, hworkspace] at hlocal
    rw [SessionFlushIdentity.isLocal, hlocal] at hforeign
    cases hforeign
  intro hcaught
  rcases hcaught.reached number object hobject with hmem | hmem | hshown | hawaits
  · exact hsent hmem
  · exact hqueued hmem
  · obtain ⟨identity, events, view, hmem, hsame, -⟩ := hshown
    exact hsession identity (hcaught.views identity events view hmem).1 hsame
  · obtain ⟨pending, key, identity, hpending, hget, hsame⟩ := hawaits
    exact hsession identity (hviews pending key identity hpending hget) hsame

theorem not_caughtUp_of_gives {limit : Nat} (h : window.Keeps engine limit)
    (hobject : window.patchOf engine limit = some object) (hevent : object.event = limit)
    (hgives : window.Gives object) :
    ¬ (window.queueSessionPatchPublish object).CaughtUp engine := by
  have hunsent : .patch object ∉ window.sent := fun hmem => by
    have hbelow := h.sentBelow _ hmem
    rw [WindowMessage.upTo, hevent] at hbelow
    exact absurd hbelow (Nat.not_succ_le_self _)
  have hunqueued : object ∉ window.queuedPatches := fun hmem =>
    absurd (h.queuedBelow object hmem) (Nat.not_lt.mpr (Nat.le_of_eq hevent.symm))
  have hoverflow (hforeign : object.patch.identity.isLocal = false)
      (hoverflows : window.Overflows object) :
      ¬ (window.queueSessionPatchPublish object).CaughtUp engine := by
    intro hcaught
    have hmarked := hcaught.marked object.key
    rw [queueSessionPatchPublish_of_overflow window hoverflows, queueSessionViewPublish,
      if_neg (Bool.eq_false_iff.mp hforeign)] at hmarked
    have hqueued := hmarked (marked_recovered window object.patch.identity window.patchFlush)
    rw [show (window.recoverSessionWithViewOnlyCatchUp object.patch.identity
      window.patchFlush).sessionHasQueuedView object.key = window.sessionHasQueuedView object.key
      from rfl, hoverflows.2.1] at hqueued
    cases hqueued
  rcases hgives with ⟨hforeign, hmarked | hoverflows⟩ | ⟨hoverflows, queued, hmem, hkey, hforeign⟩
  · rw [queueSessionPatchPublish, if_pos hmarked]
    refine not_caughtUp_of_foreign hobject hforeign hunsent ?_
      (fun pending key identity hpending hget =>
        (h.queuedViews pending key identity hpending hget).2)
    exact (queuedPatches_patchFlush window).symm ▸ hunqueued
  · exact hoverflow hforeign hoverflows
  · cases hlocal : object.patch.identity.isLocal with
    | false => exact hoverflow hlocal hoverflows
    | true =>
      rw [queueSessionPatchPublish_of_overflow window hoverflows,
        queueSessionViewPublish_recovered window hlocal]
      refine not_caughtUp_of_foreign (h.genuine queued hmem) hforeign ?_ ?_ ?_
      · intro hsent
        exact absurd (h.behind queued hmem _ hsent rfl) (Nat.not_succ_le_self _)
      · intro hstill
        have hkept : queued ∈ window.patchFlush.patches.filter fun other =>
          other.key ≠ sessionFlushKey object.patch.identity := hstill
        exact of_decide_eq_true (List.mem_filter.mp hkept).2 hkey
      · rintro _ key identity hpending hget
        rw [← Option.some_inj.mp hpending, OrderedMap.get_set] at hget
        split at hget
        · rw [← Option.some_inj.mp hget]
          exact hlocal
        · cases hbefore : window.pendingView with
          | none =>
            rw [hbefore] at hget
            cases hget
          | some before =>
            rw [hbefore] at hget
            exact (h.queuedViews before key identity hbefore hget).2

variable (hobject : (window.applyStreamEvent event).newPatch engine event = some object)
include hobject

theorem dispatch_of_newPatch :
    window.dispatchRuntimeSessionEvent engine event =
      ((window.applyStreamEvent event).publishNotification
        (getRuntimeNotification event)).queueSessionPatchPublish object := by
  obtain ⟨hsession, htype⟩ := getSessionPatch_eq_some (event_of_newPatch hobject).2
  have hview : shouldPublishSessionView event = false := by
    rcases htype with htype | htype <;> simp [shouldPublishSessionView, htype]
  have hrefresh : event.eventType ≠ "history_refresh" := by
    rcases htype with htype | htype <;> rw [htype] <;> decide
  have hsame : ((window.applyStreamEvent event).publishNotification
      (getRuntimeNotification event)).newPatch engine event = some object := hobject
  rw [dispatchRuntimeSessionEvent, hsession]
  dsimp only
  rw [if_neg hrefresh, hsame, hview]
  rfl

theorem dispatch_of_overflow (hoverflows : window.Overflows object) :
    window.dispatchRuntimeSessionEvent engine event =
      (((window.applyStreamEvent event).publishNotification
        (getRuntimeNotification event)).recoverSessionWithViewOnlyCatchUp object.patch.identity
          window.patchFlush).queueSessionViewPublish object.patch.identity :=
  (dispatch_of_newPatch hobject).trans (queueSessionPatchPublish_of_overflow _ hoverflows)

omit hobject

theorem pendingView_recovered (window : WindowDispatcher View) (event : RuntimeSessionEvent)
    (identity : SessionFlushIdentity) (pending : PendingPatchFlush) :
    (((window.applyStreamEvent event).publishNotification
      (getRuntimeNotification event)).recoverSessionWithViewOnlyCatchUp identity
        pending).pendingView = window.pendingView := rfl

theorem dispatch_of_room
    (hobject : (window.applyStreamEvent event).newPatch engine event = some object)
    (hmarked : window.sessionNeedsPatchViewRecovery object.key = false)
    (hview : window.sessionHasQueuedView object.key = false)
    (hroom : window.queuedPatches.length < MAX_PENDING_SESSION_PATCHES_PER_WINDOW) :
    window.dispatchRuntimeSessionEvent engine event =
      { (window.applyStreamEvent event).publishNotification (getRuntimeNotification event) with
        pendingPatch := some { window.patchFlush with
          patches := window.patchFlush.patches ++ [object] } } :=
  (dispatch_of_newPatch hobject).trans
    (queueSessionPatchPublish_of_room _ hmarked hview hroom)

variable (h : window.Keeps engine window.applied.length)
include h

theorem not_losesPatch_of_caughtUp {turn : DispatcherTurn}
    (hcaught : (turn.apply engine window).CaughtUp engine) : ¬ turn.LosesPatch engine window := by
  rintro ⟨event, _, rfl, hobject, hgives⟩
  have hgiven := (h.applyStreamEvent event).publishNotification (getRuntimeNotification event)
  rw [DispatcherTurn.apply, dispatch_of_newPatch hobject] at hcaught
  exact not_caughtUp_of_gives hgiven ((patchOf_new engine window event).trans hobject)
    (event_of_newPatch hobject).1 hgives hcaught

/-! ## When the timers have fired -/

/-- Nothing waits any more, every patch was sent or is part of a view that was, and the patch of
the next event is sent at the next firing. -/
structure Settled (engine : SessionEngineReads View) (window : WindowDispatcher View) : Prop where
  noViews : window.pendingView = none
  noPatches : window.queuedPatches = []
  noMarks : ∀ key, window.sessionNeedsPatchViewRecovery key = false
  shown : ∀ number object, window.patchOf engine number = some object →
    .patch object ∈ window.sent ∨ window.ShownByView object
  resumes : ∀ event object, (window.applyStreamEvent event).newPatch engine event = some object →
    .patch object ∈ ((window.dispatchRuntimeSessionEvent engine
      event).flushPendingSessionPatches).sent

omit h in
theorem settled_of_caughtUp (h : window.CaughtUp engine) (hviews : window.pendingView = none)
    (hpatches : window.queuedPatches = []) : window.Settled engine := by
  have hunmarked (key : String) : window.sessionNeedsPatchViewRecovery key = false := by
    rw [Bool.eq_false_iff]
    intro hmarked
    have hqueued := h.marked key hmarked
    rw [sessionHasQueuedView, hviews] at hqueued
    cases hqueued
  refine ⟨hviews, hpatches, hunmarked, fun number object hobject => ?_,
    fun _ object hobject => ?_⟩
  · rcases h.reached number object hobject with hsent | hqueued | hshown | hawaits
    · exact .inl hsent
    · rw [hpatches] at hqueued
      cases hqueued
    · exact .inr hshown
    · obtain ⟨_, -, -, hpending, -⟩ := hawaits
      rw [hviews] at hpending
      cases hpending
  · have hview : window.sessionHasQueuedView object.key = false := by
      rw [sessionHasQueuedView, hviews]
      rfl
    have hroom : window.queuedPatches.length < MAX_PENDING_SESSION_PATCHES_PER_WINDOW := by
      rw [hpatches]
      decide
    have hempty : window.patchFlush.patches = [] := (queuedPatches_patchFlush window).trans hpatches
    rw [dispatch_of_room hobject (hunmarked object.key) hview hroom, hempty]
    simp [flushPendingSessionPatches, MAX_SESSION_PATCHES_PER_FLUSH]

theorem queuedPatches_timers (firings : Nat)
    (henough : window.queuedPatches.length ≤ firings * MAX_SESSION_PATCHES_PER_FLUSH) :
    let quiet := (rendererDispatcher engine).run window (List.replicate firings .patchTimer)
    quiet.Keeps engine quiet.applied.length ∧ quiet.queuedPatches = [] ∧
      quiet.pendingView = window.pendingView := by
  induction firings generalizing window with
  | zero =>
    rw [Nat.zero_mul, Nat.le_zero, List.length_eq_zero_iff] at henough
    exact ⟨h, henough, rfl⟩
  | succ firings ih =>
    have hflushed := flushed_timer h
    have hnext : window.flushPendingSessionPatches.Keeps engine
        window.flushPendingSessionPatches.applied.length := by
      rw [hflushed.applied]
      exact h.flushed hflushed
    have hrest : window.flushPendingSessionPatches.queuedPatches.length ≤
        firings * MAX_SESSION_PATCHES_PER_FLUSH := by
      rw [queuedPatches_flushPendingSessionPatches, List.length_drop]
      rw [Nat.succ_mul] at henough
      omega
    obtain ⟨hkeeps, hempty, hviews⟩ := ih hnext hrest
    exact ⟨hkeeps, hempty, hviews.trans hflushed.pendingView⟩

/-- The timer of the views, and that of the patches often enough. -/
def Settles (engine : SessionEngineReads View) (window : WindowDispatcher View) : Prop :=
  ∃ firings, ((rendererDispatcher engine).run window
    (.viewTimer :: List.replicate firings .patchTimer)).Settled engine

theorem Keeps.settles : window.Settles engine := by
  obtain ⟨hkeeps, -, hviews, -, happlied⟩ := h.flushPendingSessionViews
  rw [← happlied] at hkeeps
  refine ⟨(window.flushPendingSessionViews engine).queuedPatches.length, ?_⟩
  obtain ⟨hquiet, hempty, hstill⟩ := queuedPatches_timers hkeeps
    (window.flushPendingSessionViews engine).queuedPatches.length
    (Nat.le_mul_of_pos_right _ (by decide))
  exact settled_of_caughtUp hquiet.caughtUp (hstill.trans hviews) hempty

end WindowDispatcher

open WindowDispatcher

/-- In every run the renderer is caught up at every moment, and settles when the timers have
fired, exactly if no event of the run finds its patch, or one queued under its key, without a view
to come. -/
theorem renderer_catches_up_iff (engine : SessionEngineReads View) (turns : List DispatcherTurn) :
    (∀ first rest, turns = first ++ rest →
        ((rendererDispatcher engine).run empty first).CaughtUp engine ∧
          ((rendererDispatcher engine).run empty first).Settles engine) ↔
      ∀ moment ∈ (rendererDispatcher engine).history empty turns,
        ¬ moment.input.LosesPatch engine moment.before :=
  (rendererDispatcher engine).forall_run_iff_of
    (fun window => window.CaughtUp engine ∧ window.Settles engine)
    (fun window => window.Keeps engine window.applied.length)
    (fun moment => ¬ moment.input.LosesPatch engine moment.before)
    (fun _ h => ⟨h.caughtUp, h.settles⟩)
    (fun _ turn h hkept => h.turn turn hkept)
    (fun _ _ h hcaught => not_losesPatch_of_caughtUp h hcaught.1)
    empty keeps_empty turns

/-! ## A session of a cloud workspace -/

def cloudDelta : RuntimeSessionEvent where
  sessionId := some "session"
  workspaceId := some "cloud"
  data := some { type := some "text", content := some "." }

def blankEngine : SessionEngineReads Unit := ⟨fun _ _ => 0, fun _ _ => ()⟩

theorem newPatch_cloudDelta (window : WindowDispatcher Unit) :
    ∃ object, (window.applyStreamEvent cloudDelta).newPatch blankEngine cloudDelta = some object ∧
      object.patch.identity = ⟨"session", some "cloud"⟩ := by
  simp [newPatch, getSessionPatch, cloudDelta, present, Option.filter,
    RuntimeSessionEvent.eventType, RuntimeSessionEvent.field, orText, SessionPatch.identity]

theorem burst_queued (count : Nat) (hcount : count ≤ MAX_PENDING_SESSION_PATCHES_PER_WINDOW) :
    let window := (rendererDispatcher blankEngine).run empty
      (List.replicate count (.dispatch cloudDelta))
    window.pendingView = none ∧ window.recovery = .empty ∧ window.queuedPatches.length = count := by
  induction count with
  | zero => exact ⟨rfl, rfl, rfl⟩
  | succ count ih =>
    rw [List.replicate_succ', Machine.run_append]
    obtain ⟨hviews, hmarks, hlength⟩ := ih (Nat.le_of_succ_le hcount)
    generalize (rendererDispatcher blankEngine).run empty
      (List.replicate count (.dispatch cloudDelta)) = window at hviews hmarks hlength
    obtain ⟨object, hobject, -⟩ := newPatch_cloudDelta window
    have hmarked : window.sessionNeedsPatchViewRecovery object.key = false := by
      rw [sessionNeedsPatchViewRecovery, hmarks]
      rfl
    have hview : window.sessionHasQueuedView object.key = false := by
      rw [sessionHasQueuedView, hviews]
      rfl
    have hroom : window.queuedPatches.length < MAX_PENDING_SESSION_PATCHES_PER_WINDOW := by
      rwa [hlength]
    rw [run_dispatch, dispatch_of_room hobject hmarked hview hroom]
    refine ⟨hviews, hmarks, ?_⟩
    show (window.patchFlush.patches ++ [object]).length = count + 1
    rw [List.length_append, queuedPatches_patchFlush, hlength]
    rfl

/-- One delta more than the queue holds. -/
def cloudBurst : List DispatcherTurn := List.replicate 513 (.dispatch cloudDelta)

theorem cloudBurst_marked :
    let window := (rendererDispatcher blankEngine).run empty cloudBurst
    window.sessionNeedsPatchViewRecovery "cloud:session" = true ∧ window.pendingView = none := by
  obtain ⟨hviews, hmarks, hlength⟩ := burst_queued 512 le_rfl
  rw [cloudBurst, List.replicate_succ', Machine.run_append]
  generalize (rendererDispatcher blankEngine).run empty
    (List.replicate 512 (.dispatch cloudDelta)) = window at hviews hmarks hlength
  obtain ⟨object, hobject, hidentity⟩ := newPatch_cloudDelta window
  have hmarked : window.sessionNeedsPatchViewRecovery object.key = false := by
    rw [sessionNeedsPatchViewRecovery, hmarks]
    rfl
  have hview : window.sessionHasQueuedView object.key = false := by
    rw [sessionHasQueuedView, hviews]
    rfl
  have hfull : MAX_PENDING_SESSION_PATCHES_PER_WINDOW ≤ window.queuedPatches.length := by
    rw [hlength]
    exact le_rfl
  have hoverflows : window.Overflows object := ⟨hmarked, hview, hfull⟩
  have hforeign : ¬ (⟨"session", some "cloud"⟩ : SessionFlushIdentity).isLocal = true := by
    simp [SessionFlushIdentity.isLocal, SessionFlushIdentity.workspace, orText, localWorkspaceId]
  have hkey : sessionFlushKey ⟨"session", some "cloud"⟩ = "cloud:session" := by
    simp [sessionFlushKey, SessionFlushIdentity.workspace, orText]
  rw [run_dispatch, dispatch_of_overflow hobject hoverflows, hidentity, queueSessionViewPublish,
    if_neg hforeign]
  have hmark := marked_recovered ((window.applyStreamEvent cloudDelta).publishNotification
    (getRuntimeNotification cloudDelta)) ⟨"session", some "cloud"⟩ window.patchFlush
  rw [hkey] at hmark
  exact ⟨hmark, (pendingView_recovered window _ _ _).trans hviews⟩

/-- So the renderer is not caught up after every run. -/
theorem renderer_left_behind :
    ¬ ∀ turns, ((rendererDispatcher blankEngine).run empty turns).CaughtUp blankEngine := by
  intro h
  obtain ⟨hmarked, hviews⟩ := cloudBurst_marked
  have hqueued := (h cloudBurst).marked "cloud:session" hmarked
  rw [sessionHasQueuedView, hviews] at hqueued
  cases hqueued

end OpenCowork.Runtime
