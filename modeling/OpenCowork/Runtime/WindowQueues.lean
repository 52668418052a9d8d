import OpenCowork.Runtime.SessionDispatcher

/-! # The queues of a window

Every patch of a session is sent, waits, or gives way to a view that includes it. What may go
wrong is the overflow of a session for which no views are published.
-/

namespace OpenCowork.Runtime

open OpenCowork.Foundation OrderedMap

variable {View : Type}

/-! ## What the window is told of a session -/

namespace WindowMessage

def identity : WindowMessage View → Option SessionFlushIdentity
  | .notification _ => none
  | .patch object => some object.patch.identity
  | .view identity _ _ => some identity

def key (message : WindowMessage View) : Option String := message.identity.map sessionFlushKey

/-- The number of events that must be known before the message. -/
def start : WindowMessage View → Nat
  | .notification _ => 0
  | .patch object => object.event
  | .view _ events _ => events

/-- The number of events that are known after the message. -/
def upTo : WindowMessage View → Nat
  | .notification _ => 0
  | .patch object => object.event + 1
  | .view _ events _ => events

/-- No message tells what a later one of the same key comes after. -/
def InOrder (sent : List (WindowMessage View)) : Prop :=
  sent.Pairwise fun first second =>
    ∀ key, first.key = some key → second.key = some key → first.upTo ≤ second.start

end WindowMessage

theorem SessionFlushIdentity.session_eq_of_key {first second : SessionFlushIdentity}
    (hfirst : first.isLocal) (hsecond : second.isLocal)
    (hkey : sessionFlushKey first = sessionFlushKey second) : first.session = second.session := by
  unfold isLocal at hfirst hsecond
  rw [decide_eq_true_eq] at hfirst hsecond
  rw [sessionFlushKey, sessionFlushKey, hfirst, hsecond, String.append_right_inj] at hkey
  rw [session, session, hfirst, hsecond, hkey]

namespace WindowDispatcher

variable (engine : SessionEngineReads View) (window : WindowDispatcher View) (object : PatchObject)

/-- A full view of the patch's session, with the patch's event in it, was sent. -/
def ShownByView : Prop :=
  ∃ identity events view, .view identity events view ∈ window.sent ∧
    identity.session = object.patch.identity.session ∧ object.event < events

/-- A view of the patch's session is queued. -/
def AwaitsView : Prop :=
  ∃ pending key identity, window.pendingView = some pending ∧
    pending.sessions.get key = some identity ∧
    identity.session = object.patch.identity.session

def patchOf (number : Nat) : Option PatchObject :=
  (window.applied[number]?).bind fun event =>
    (getSessionPatch (engine.lastEventAt (window.applied.take (number + 1))) event).map
      fun patch => ⟨number, patch⟩

/-- Nothing is lost: every patch was sent, was followed by a view that includes it, or waits for
one of the two; patches and views of a session come in the order of their events, the views are
the engine's, and a session is marked for recovery only while a view of it is queued. -/
structure CaughtUp : Prop where
  reached : ∀ number object, window.patchOf engine number = some object →
    .patch object ∈ window.sent ∨ object ∈ window.queuedPatches ∨ window.ShownByView object ∨
      window.AwaitsView object
  inOrder : WindowMessage.InOrder window.sent
  marked : ∀ key, window.sessionNeedsPatchViewRecovery key = true →
    window.sessionHasQueuedView key = true
  views : ∀ identity events view, .view identity events view ∈ window.sent →
    identity.isLocal ∧ view = engine.getSessionView (window.applied.take events) identity.sessionId

/-- A patch arrives at a full queue, with no view of its session on the way. -/
def Overflows : Prop :=
  window.sessionNeedsPatchViewRecovery object.key = false ∧
    window.sessionHasQueuedView object.key = false ∧
    MAX_PENDING_SESSION_PATCHES_PER_WINDOW ≤ window.queuedPatches.length

/-- A patch gives way to a view although no view of its session will come: of another workspace
than the local one, it overflows or its key is marked; or a patch of such a session is dropped
under the key of the one that overflows. -/
def Gives : Prop :=
  (object.patch.identity.isLocal = false ∧
    (window.sessionNeedsPatchViewRecovery object.key = true ∨ window.Overflows object)) ∨
  (window.Overflows object ∧ ∃ queued ∈ window.queuedPatches,
    queued.key = object.key ∧ queued.patch.identity.isLocal = false)

end WindowDispatcher

def DispatcherTurn.LosesPatch (engine : SessionEngineReads View) (turn : DispatcherTurn)
    (window : WindowDispatcher View) : Prop :=
  ∃ event object, turn = .dispatch event ∧
    (window.applyStreamEvent event).newPatch engine event = some object ∧ window.Gives object

/-! ## The invariant -/

namespace WindowDispatcher

variable (engine : SessionEngineReads View) (window : WindowDispatcher View)

/-- The queues, while the first `limit` events have been dealt with. -/
structure Keeps (limit : Nat) : Prop where
  limit_le : limit ≤ window.applied.length
  reached : ∀ number object, number < limit → window.patchOf engine number = some object →
    .patch object ∈ window.sent ∨ object ∈ window.queuedPatches ∨ window.ShownByView object ∨
      window.AwaitsView object
  inOrder : WindowMessage.InOrder window.sent
  sentBelow : ∀ message ∈ window.sent, message.upTo ≤ limit
  queuedBelow : ∀ object ∈ window.queuedPatches, object.event < limit
  sorted : window.queuedPatches.Pairwise fun first second => first.event < second.event
  behind : ∀ object ∈ window.queuedPatches, ∀ message ∈ window.sent,
    message.key = some object.key → message.upTo ≤ object.event
  queuedViews : ∀ pending key identity, window.pendingView = some pending →
    pending.sessions.get key = some identity → sessionFlushKey identity = key ∧ identity.isLocal
  apart : ∀ object ∈ window.queuedPatches, window.sessionHasQueuedView object.key = false
  marked : ∀ key, window.sessionNeedsPatchViewRecovery key = true →
    window.sessionHasQueuedView key = true
  views : ∀ identity events view, .view identity events view ∈ window.sent →
    identity.isLocal ∧ view = engine.getSessionView (window.applied.take events) identity.sessionId
  genuine : ∀ object ∈ window.queuedPatches, window.patchOf engine object.event = some object

variable {engine window} {limit : Nat}
variable {object : PatchObject} {other : WindowDispatcher View} {moved : List PatchObject}
variable {key : String} {identity : SessionFlushIdentity}

theorem Keeps.caughtUp (h : window.Keeps engine window.applied.length) :
    window.CaughtUp engine where
  reached number object hobject := by
    refine h.reached number object ?_ hobject
    obtain ⟨_, hevent, -⟩ := Option.bind_eq_some_iff.mp hobject
    exact (List.getElem?_eq_some_iff.mp hevent).1
  inOrder := h.inOrder
  marked := h.marked
  views := h.views

theorem keeps_empty : (empty : WindowDispatcher View).Keeps engine 0 where
  limit_le := le_rfl
  reached number object hnumber := absurd hnumber (Nat.not_lt_zero _)
  inOrder := List.Pairwise.nil
  sentBelow message hmem := absurd hmem List.not_mem_nil
  queuedBelow object hmem := absurd hmem List.not_mem_nil
  sorted := List.Pairwise.nil
  behind object hmem := absurd hmem List.not_mem_nil
  queuedViews pending key identity hpending := by cases hpending
  apart object hmem := absurd hmem List.not_mem_nil
  marked key hkey := by cases hkey
  views identity events view hmem := absurd hmem List.not_mem_nil
  genuine object hmem := absurd hmem List.not_mem_nil

theorem patchOf_congr (h : other.applied = window.applied)
    (number : Nat) : other.patchOf engine number = window.patchOf engine number := by
  rw [patchOf, patchOf, h]

theorem patchOf_applyStreamEvent (event : RuntimeSessionEvent) {number : Nat}
    (hnumber : number < window.applied.length) :
    (window.applyStreamEvent event).patchOf engine number = window.patchOf engine number := by
  rw [patchOf, patchOf, WindowDispatcher.applyStreamEvent, List.getElem?_append_left hnumber,
    List.take_append_of_le_length hnumber]

theorem Keeps.applyStreamEvent (h : window.Keeps engine window.applied.length)
    (event : RuntimeSessionEvent) :
    (window.applyStreamEvent event).Keeps engine window.applied.length where
  limit_le := by simp [WindowDispatcher.applyStreamEvent]
  reached number object hnumber hobject :=
    h.reached number object hnumber (patchOf_applyStreamEvent event hnumber ▸ hobject)
  inOrder := h.inOrder
  sentBelow := h.sentBelow
  queuedBelow := h.queuedBelow
  sorted := h.sorted
  behind := h.behind
  queuedViews := h.queuedViews
  apart := h.apart
  marked := h.marked
  views identity events view hmem := by
    refine ⟨(h.views identity events view hmem).1, ?_⟩
    have hevents : events ≤ window.applied.length := h.sentBelow _ hmem
    rw [(h.views identity events view hmem).2, WindowDispatcher.applyStreamEvent,
      List.take_append_of_le_length hevents]
  genuine object hmem :=
    (patchOf_applyStreamEvent event (h.queuedBelow object hmem)).trans (h.genuine object hmem)

/-! ## Moving patches from the queue to the window -/

/-- Some patches of the queue are sent, each before those of its key that stay. -/
structure Flushed (window other : WindowDispatcher View) (moved : List PatchObject) : Prop where
  applied : other.applied = window.applied
  pendingView : other.pendingView = window.pendingView
  recovery : other.recovery = window.recovery
  sent : other.sent = window.sent ++ moved.map .patch
  movedFrom : moved.Sublist window.queuedPatches
  keptFrom : other.queuedPatches.Sublist window.queuedPatches
  whole : ∀ object ∈ window.queuedPatches, object ∈ moved ∨ object ∈ other.queuedPatches
  first : ∀ object ∈ moved, ∀ queued ∈ other.queuedPatches, object.key = queued.key →
    object.event < queued.event

theorem Flushed.sessionHasQueuedView (hflushed : window.Flushed other moved) (key : String) :
    other.sessionHasQueuedView key = window.sessionHasQueuedView key := by
  rw [WindowDispatcher.sessionHasQueuedView, hflushed.pendingView]
  rfl

theorem Keeps.flushed (h : window.Keeps engine limit) (hflushed : window.Flushed other moved) :
    other.Keeps engine limit where
  limit_le := hflushed.applied ▸ h.limit_le
  reached number object hnumber hobject := by
    rw [patchOf_congr hflushed.applied] at hobject
    rw [hflushed.sent]
    rcases h.reached number object hnumber hobject with hsent | hqueued | hshown | _
    · exact .inl (List.mem_append_left _ hsent)
    · rcases hflushed.whole object hqueued with hmoved | hkept
      · exact .inl (List.mem_append_right _ (List.mem_map_of_mem hmoved))
      · exact .inr (.inl hkept)
    · obtain ⟨identity, events, view, hmem, hsession⟩ := hshown
      exact .inr (.inr (.inl ⟨identity, events, view,
        hflushed.sent ▸ List.mem_append_left _ hmem, hsession⟩))
    · exact .inr (.inr (.inr (by rwa [AwaitsView, hflushed.pendingView])))
  inOrder := by
    rw [WindowMessage.InOrder, hflushed.sent, List.pairwise_append, List.pairwise_map]
    refine ⟨h.inOrder, (h.sorted.sublist hflushed.movedFrom).imp fun hlt key _ _ => hlt, ?_⟩
    rintro message hmessage _ hmoved key hkey hmovedKey
    obtain ⟨object, hobject, rfl⟩ := List.mem_map.mp hmoved
    exact h.behind object (hflushed.movedFrom.subset hobject) message hmessage
      (hkey.trans hmovedKey.symm)
  sentBelow message hmem := by
    rw [hflushed.sent, List.mem_append] at hmem
    rcases hmem with hmem | hmem
    · exact h.sentBelow message hmem
    · obtain ⟨object, hobject, rfl⟩ := List.mem_map.mp hmem
      exact h.queuedBelow object (hflushed.movedFrom.subset hobject)
  queuedBelow object hmem := h.queuedBelow object (hflushed.keptFrom.subset hmem)
  sorted := h.sorted.sublist hflushed.keptFrom
  behind object hmem message hmessage hkey := by
    rw [hflushed.sent, List.mem_append] at hmessage
    rcases hmessage with hmessage | hmessage
    · exact h.behind object (hflushed.keptFrom.subset hmem) message hmessage hkey
    · obtain ⟨moved, hmoved, rfl⟩ := List.mem_map.mp hmessage
      exact hflushed.first moved hmoved object hmem (Option.some_inj.mp hkey)
  queuedViews := hflushed.pendingView ▸ h.queuedViews
  apart object hmem := by
    rw [hflushed.sessionHasQueuedView]
    exact h.apart object (hflushed.keptFrom.subset hmem)
  marked key hkey := by
    rw [hflushed.sessionHasQueuedView]
    refine h.marked key ?_
    rwa [sessionNeedsPatchViewRecovery, hflushed.recovery] at hkey
  views identity events view hmem := by
    rw [hflushed.sent, List.mem_append] at hmem
    rcases hmem with hmem | hmem
    · rw [hflushed.applied]
      exact h.views identity events view hmem
    · obtain ⟨_, -, heq⟩ := List.mem_map.mp hmem
      cases heq
  genuine object hmem :=
    (patchOf_congr hflushed.applied _).trans (h.genuine object (hflushed.keptFrom.subset hmem))

theorem flushed_beforeView (window : WindowDispatcher View) (key : String) :
    window.Flushed (window.flushQueuedSessionPatchesBeforeView key)
      (window.queuedPatches.filter fun object => object.key = key) := by
  have hkept : (window.flushQueuedSessionPatchesBeforeView key).queuedPatches =
      window.queuedPatches.filter fun object => object.key ≠ key := by
    cases hpending : window.pendingPatch <;>
      simp [flushQueuedSessionPatchesBeforeView, queuedPatches, hpending]
  refine ⟨?_, ?_, ?_, ?_, List.filter_sublist, hkept ▸ List.filter_sublist, ?_, ?_⟩
  · rw [flushQueuedSessionPatchesBeforeView]
    split <;> rfl
  · rw [flushQueuedSessionPatchesBeforeView]
    split <;> rfl
  · rw [flushQueuedSessionPatchesBeforeView]
    split <;> rfl
  · cases hpending : window.pendingPatch <;>
      simp [flushQueuedSessionPatchesBeforeView, queuedPatches, hpending]
  · intro object hmem
    rw [hkept]
    by_cases hkey : object.key = key
    · exact .inl (List.mem_filter.mpr ⟨hmem, decide_eq_true hkey⟩)
    · exact .inr (List.mem_filter.mpr ⟨hmem, decide_eq_true hkey⟩)
  · intro object hmem _ hqueued heq
    rw [hkept] at hqueued
    have hkey := of_decide_eq_true (List.mem_filter.mp hmem).2
    exact absurd (heq.symm.trans hkey) (of_decide_eq_true (List.mem_filter.mp hqueued).2)

theorem queuedPatches_flushPendingSessionPatches (window : WindowDispatcher View) :
    window.flushPendingSessionPatches.queuedPatches =
      window.queuedPatches.drop MAX_SESSION_PATCHES_PER_FLUSH := by
  cases hpending : window.pendingPatch with
  | none => simp [flushPendingSessionPatches, queuedPatches, hpending]
  | some =>
    simp only [flushPendingSessionPatches, queuedPatches, hpending, Option.map_some,
      Option.getD_some]
    split
    next hnil => exact hnil.symm
    · rfl

theorem flushed_timer {window : WindowDispatcher View} (h : window.Keeps engine limit) :
    window.Flushed window.flushPendingSessionPatches
      (window.queuedPatches.take MAX_SESSION_PATCHES_PER_FLUSH) := by
  have hkept := queuedPatches_flushPendingSessionPatches window
  have hsplit := List.take_append_drop MAX_SESSION_PATCHES_PER_FLUSH window.queuedPatches
  refine ⟨?_, ?_, ?_, ?_, List.take_sublist _ _, hkept ▸ List.drop_sublist _ _, ?_, ?_⟩
  · rw [flushPendingSessionPatches]
    split <;> rfl
  · rw [flushPendingSessionPatches]
    split <;> rfl
  · rw [flushPendingSessionPatches]
    split <;> rfl
  · cases hpending : window.pendingPatch <;>
      simp [flushPendingSessionPatches, queuedPatches, hpending]
  · intro object hmem
    rwa [hkept, ← List.mem_append, hsplit]
  · intro object hmem queued hqueued _
    have hsorted := h.sorted
    rw [← hsplit, List.pairwise_append] at hsorted
    exact hsorted.2.2 object hmem queued (hkept ▸ hqueued)

/-! ## Queueing a view -/

theorem sessionHasQueuedView_iff : window.sessionHasQueuedView key = true ↔
    ∃ pending identity, window.pendingView = some pending ∧
      pending.sessions.get key = some identity := by
  rw [sessionHasQueuedView, Option.isSome_iff_exists]
  simp only [Option.bind_eq_some_iff]
  exact ⟨fun ⟨identity, pending, h⟩ => ⟨pending, identity, h⟩,
    fun ⟨pending, identity, h⟩ => ⟨identity, pending, h⟩⟩

theorem Keeps.awaitsView_of_key (h : window.Keeps engine limit)
    (hlocal : object.patch.identity.isLocal)
    (hqueued : window.sessionHasQueuedView object.key = true) : window.AwaitsView object := by
  obtain ⟨pending, identity, hpending, hget⟩ := sessionHasQueuedView_iff.mp hqueued
  obtain ⟨hkey, hidentity⟩ := h.queuedViews pending object.key identity hpending hget
  exact ⟨pending, object.key, identity, hpending, hget,
    SessionFlushIdentity.session_eq_of_key hidentity hlocal hkey⟩

/-- A view of a session is queued and the queued patches of its key are dropped. -/
structure TakesView (window other : WindowDispatcher View) (identity : SessionFlushIdentity) :
    Prop where
  isLocal : identity.isLocal
  applied : other.applied = window.applied
  sent : other.sent = window.sent
  pendingView : other.pendingView =
    some ⟨((window.pendingView.map PendingViewFlush.sessions).getD .empty).set
      (sessionFlushKey identity) identity⟩
  queued : other.queuedPatches =
    window.queuedPatches.filter fun object => object.key ≠ sessionFlushKey identity
  droppedLocal : ∀ object ∈ window.queuedPatches, object.key = sessionFlushKey identity →
    object.patch.identity.isLocal
  recovery : ∀ key, other.sessionNeedsPatchViewRecovery key = true →
    window.sessionNeedsPatchViewRecovery key = true ∨ key = sessionFlushKey identity

namespace TakesView

variable (htakes : window.TakesView other identity) {object : PatchObject}
include htakes

theorem get_sessions {pending : PendingViewFlush}
    (hpending : other.pendingView = some pending) (key : String) :
    pending.sessions.get key = if sessionFlushKey identity = key then some identity
      else window.pendingView.bind fun pending => pending.sessions.get key := by
  rw [htakes.pendingView, Option.some_inj] at hpending
  rw [← hpending, get_set]
  cases window.pendingView <;> rfl

theorem sessionHasQueuedView_iff {key : String} :
    other.sessionHasQueuedView key = true ↔
      key = sessionFlushKey identity ∨ window.sessionHasQueuedView key = true := by
  rw [sessionHasQueuedView, htakes.pendingView, Option.bind_some,
    htakes.get_sessions htakes.pendingView, sessionHasQueuedView]
  split
  next heq => simp [heq]
  next hne => simp [Ne.symm hne]

theorem awaitsView
    (hsession : identity.session = object.patch.identity.session) : other.AwaitsView object :=
  ⟨_, sessionFlushKey identity, identity, htakes.pendingView, get_set_self _ _ _,
    hsession⟩

theorem awaitsView_of_awaitsView (h : window.Keeps engine limit)
    (hawaits : window.AwaitsView object) : other.AwaitsView object := by
  obtain ⟨pending, key, held, hpending, hget, hsession⟩ := hawaits
  obtain ⟨hkey, hlocal⟩ := h.queuedViews pending key held hpending hget
  by_cases heq : sessionFlushKey identity = key
  · exact htakes.awaitsView ((SessionFlushIdentity.session_eq_of_key htakes.isLocal hlocal
      (heq.trans hkey.symm)).trans hsession)
  · refine ⟨_, key, held, htakes.pendingView, ?_, hsession⟩
    rw [htakes.get_sessions htakes.pendingView, if_neg heq, hpending]
    exact hget

end TakesView

theorem Keeps.takesView (h : window.Keeps engine limit) (htakes : window.TakesView other identity) :
    other.Keeps engine limit where
  limit_le := htakes.applied ▸ h.limit_le
  reached number object hnumber hobject := by
    rw [patchOf_congr htakes.applied] at hobject
    rw [htakes.sent]
    rcases h.reached number object hnumber hobject with hsent | hqueued | _ | hawaits
    · exact .inl hsent
    · by_cases hkey : object.key = sessionFlushKey identity
      · exact .inr (.inr (.inr (htakes.awaitsView (SessionFlushIdentity.session_eq_of_key
          htakes.isLocal (htakes.droppedLocal object hqueued hkey) hkey.symm))))
      · right; left
        rw [htakes.queued]
        exact List.mem_filter.mpr ⟨hqueued, decide_eq_true hkey⟩
    · exact .inr (.inr (.inl (by rwa [ShownByView, htakes.sent])))
    · exact .inr (.inr (.inr (htakes.awaitsView_of_awaitsView h hawaits)))
  inOrder := htakes.sent ▸ h.inOrder
  sentBelow := htakes.sent ▸ h.sentBelow
  queuedBelow object hmem := h.queuedBelow object
    (List.mem_of_mem_filter (htakes.queued ▸ hmem))
  sorted := htakes.queued ▸ h.sorted.sublist List.filter_sublist
  behind object hmem message hmessage := h.behind object
    (List.mem_of_mem_filter (htakes.queued ▸ hmem)) message (htakes.sent ▸ hmessage)
  queuedViews pending key held hpending hget := by
    rw [htakes.get_sessions hpending] at hget
    split at hget
    next heq =>
      cases hget
      exact ⟨heq, htakes.isLocal⟩
    · obtain ⟨before, hbefore, hget⟩ := Option.bind_eq_some_iff.mp hget
      exact h.queuedViews before key held hbefore hget
  apart object hmem := by
    rw [htakes.queued, List.mem_filter, decide_eq_true_eq] at hmem
    rw [Bool.eq_false_iff, ne_eq, htakes.sessionHasQueuedView_iff, not_or]
    exact ⟨hmem.2, Bool.eq_false_iff.mp (h.apart object hmem.1)⟩
  marked key hkey := by
    rw [htakes.sessionHasQueuedView_iff]
    exact (htakes.recovery key hkey).symm.imp id (h.marked key)
  views identity events view hmem := by
    rw [htakes.applied]
    exact h.views identity events view (htakes.sent ▸ hmem)
  genuine object hmem := (patchOf_congr htakes.applied _).trans
    (h.genuine object (List.mem_of_mem_filter (htakes.queued ▸ hmem)))

theorem Keeps.queueSessionViewPublish (h : window.Keeps engine limit)
    (identity : SessionFlushIdentity) :
    (window.queueSessionViewPublish identity).Keeps engine limit := by
  rw [WindowDispatcher.queueSessionViewPublish]
  split
  next hlocal =>
    -- nothing of the session is queued any more
    have htakes (before : WindowDispatcher View)
        (hfree : ∀ object ∈ before.queuedPatches, object.key ≠ sessionFlushKey identity) :
        before.TakesView { before with
          pendingView :=
            some ⟨((before.pendingView.map PendingViewFlush.sessions).getD .empty).set
            (sessionFlushKey identity) identity⟩ } identity :=
      ⟨hlocal, rfl, rfl, rfl, (List.filter_eq_self.mpr fun object hmem =>
        decide_eq_true (hfree object hmem)).symm,
        fun object hmem hkey => absurd hkey (hfree object hmem), fun _ hkey => .inl hkey⟩
    dsimp only
    split
    next hmarked =>
      refine h.takesView (htakes window fun object hmem hkey => ?_)
      have hqueued := h.marked _ hmarked
      rw [← hkey, h.apart object hmem] at hqueued
      cases hqueued
    · have hflushed := flushed_beforeView window (sessionFlushKey identity)
      refine (h.flushed hflushed).takesView (htakes _ fun object hmem hkey => ?_)
      have hmoved : object ∈ window.queuedPatches.filter
          fun object => object.key = sessionFlushKey identity :=
        List.mem_filter.mpr ⟨hflushed.keptFrom.subset hmem, decide_eq_true hkey⟩
      exact absurd (hflushed.first object hmoved object hmem rfl) (Nat.lt_irrefl _)
  · exact h

/-! ## Publishing views -/

def viewMessage (engine : SessionEngineReads View) (window : WindowDispatcher View)
    (identity : SessionFlushIdentity) : WindowMessage View :=
  .view identity window.applied.length (engine.getSessionView window.applied identity.sessionId)

/-- Views of some sessions are sent, of which no patch is queued. -/
structure Shows (engine : SessionEngineReads View) (window other : WindowDispatcher View)
    (entries : List SessionFlushIdentity) : Prop where
  isLocal : ∀ entry ∈ entries, entry.isLocal
  free : ∀ entry ∈ entries, ∀ object ∈ window.queuedPatches, object.key ≠ sessionFlushKey entry
  applied : other.applied = window.applied
  sent : other.sent = window.sent ++ entries.map (window.viewMessage engine)
  queued : other.queuedPatches = window.queuedPatches
  awaits : ∀ object, window.AwaitsView object → other.AwaitsView object ∨
    ∃ entry ∈ entries, entry.session = object.patch.identity.session
  pendingView : other.pendingView = window.pendingView ∨ other.pendingView = none
  marked : ∀ key, other.sessionNeedsPatchViewRecovery key = true →
    other.sessionHasQueuedView key = true

theorem Keeps.shows
    (h : window.Keeps engine window.applied.length) (entries : List SessionFlushIdentity)
    (hshows : window.Shows engine other entries) : other.Keeps engine window.applied.length where
  limit_le := Nat.le_of_eq (congrArg List.length hshows.applied).symm
  reached number object hnumber hobject := by
    rw [patchOf_congr hshows.applied] at hobject
    rw [hshows.sent, hshows.queued]
    rcases h.reached number object hnumber hobject with hsent | hqueued | hshown | hawaits
    · exact .inl (List.mem_append_left _ hsent)
    · exact .inr (.inl hqueued)
    · obtain ⟨identity, events, view, hmem, hsession⟩ := hshown
      exact .inr (.inr (.inl ⟨identity, events, view,
        hshows.sent ▸ List.mem_append_left _ hmem, hsession⟩))
    · rcases hshows.awaits object hawaits with hawaits | ⟨entry, hentry, hsession⟩
      · exact .inr (.inr (.inr hawaits))
      · have hevent : object.event = number := by
          obtain ⟨_, -, hpatch⟩ := Option.bind_eq_some_iff.mp hobject
          obtain ⟨_, -, rfl⟩ := Option.map_eq_some_iff.mp hpatch
          rfl
        exact .inr (.inr (.inl ⟨entry, _, _,
          hshows.sent ▸ List.mem_append_right _ (List.mem_map_of_mem hentry), hsession,
          hevent ▸ hnumber⟩))
  inOrder := by
    rw [WindowMessage.InOrder, hshows.sent, List.pairwise_append, List.pairwise_map]
    refine ⟨h.inOrder, List.pairwise_of_forall fun _ _ key _ _ => le_rfl, ?_⟩
    rintro message hmessage _ hentry key - -
    obtain ⟨entry, -, rfl⟩ := List.mem_map.mp hentry
    exact h.sentBelow message hmessage
  sentBelow message hmem := by
    rw [hshows.sent, List.mem_append] at hmem
    rcases hmem with hmem | hmem
    · exact h.sentBelow message hmem
    · obtain ⟨entry, -, rfl⟩ := List.mem_map.mp hmem
      exact le_rfl
  queuedBelow := hshows.queued ▸ h.queuedBelow
  sorted := hshows.queued ▸ h.sorted
  behind object hmem message hmessage hkey := by
    rw [hshows.queued] at hmem
    rw [hshows.sent, List.mem_append] at hmessage
    rcases hmessage with hmessage | hmessage
    · exact h.behind object hmem message hmessage hkey
    · obtain ⟨entry, hentry, rfl⟩ := List.mem_map.mp hmessage
      exact absurd (Option.some_inj.mp hkey).symm (hshows.free entry hentry object hmem)
  queuedViews := by
    rcases hshows.pendingView with hsame | hnone
    · exact hsame ▸ h.queuedViews
    · intro _ key identity hpending
      rw [hnone] at hpending
      cases hpending
  apart object hmem := by
    rw [hshows.queued] at hmem
    rcases hshows.pendingView with hsame | hnone
    · rw [sessionHasQueuedView, hsame]
      exact h.apart object hmem
    · rw [sessionHasQueuedView, hnone]
      rfl
  marked := hshows.marked
  views identity events view hmem := by
    rw [hshows.applied]
    rw [hshows.sent, List.mem_append] at hmem
    rcases hmem with hmem | hmem
    · exact h.views identity events view hmem
    · obtain ⟨_, hentry, heq⟩ := List.mem_map.mp hmem
      cases heq
      exact ⟨hshows.isLocal identity hentry, by rw [List.take_length]⟩
  genuine object hmem :=
    (patchOf_congr hshows.applied _).trans (h.genuine object (hshows.queued ▸ hmem))

theorem Keeps.publishSessionView (h : window.Keeps engine window.applied.length)
    (identity : SessionFlushIdentity)
    (hfree : ∀ object ∈ window.queuedPatches, object.key ≠ sessionFlushKey identity) :
    (window.publishSessionView engine identity).Keeps engine window.applied.length := by
  rw [WindowDispatcher.publishSessionView]
  split
  next _ =>
    have hshows : window.Shows engine (window.send [window.viewMessage engine identity])
        [identity] := by
      refine ⟨?_, ?_, rfl, rfl, rfl, fun _ => .inl, .inl rfl, h.marked⟩
      · rintro entry hentry
        rwa [List.mem_singleton.mp hentry]
      · rintro _ hentry
        rwa [List.mem_singleton.mp hentry]
    exact h.shows _ hshows
  · exact h

theorem foldl_publish (engine : SessionEngineReads View) (entries : List SessionFlushIdentity)
    (window : WindowDispatcher View) (hlocal : ∀ entry ∈ entries, entry.isLocal) :
    entries.foldl (fun window entry =>
        { window.publishSessionView engine entry with
          recovery := window.recovery.erase (sessionFlushKey entry) }) window =
      { window with
        sent := window.sent ++ entries.map (window.viewMessage engine)
        recovery := entries.foldl (fun recovery entry =>
          recovery.erase (sessionFlushKey entry)) window.recovery } := by
  induction entries generalizing window with
  | nil => simp
  | cons entry _ ih =>
    rw [List.foldl_cons, ih _ fun other hmem => hlocal other (.tail _ hmem)]
    rw [WindowDispatcher.publishSessionView, if_pos (hlocal entry (.head _))]
    simp only [send, List.foldl_cons, List.map_cons, List.append_assoc, List.singleton_append]
    rfl

theorem get_foldl_erase {ν : Type} (entries : List SessionFlushIdentity)
    (recovery : OrderedMap String ν) {value : ν}
    (h : (entries.foldl (fun recovery entry =>
      recovery.erase (sessionFlushKey entry)) recovery).get key = some value) :
    recovery.get key = some value ∧ ∀ entry ∈ entries, sessionFlushKey entry ≠ key := by
  induction entries generalizing recovery with
  | nil => exact ⟨h, fun _ hmem => absurd hmem List.not_mem_nil⟩
  | cons entry _ ih =>
    obtain ⟨hget, hrest⟩ := ih _ h
    have hne : sessionFlushKey entry ≠ key := by
      rintro rfl
      rw [get_erase_self] at hget
      cases hget
    rw [get_erase_of_ne _ hne] at hget
    refine ⟨hget, ?_⟩
    rintro other (_ | ⟨_, hmem⟩)
    · exact hne
    · exact hrest other hmem

theorem Keeps.flushPendingSessionViews (h : window.Keeps engine window.applied.length) :
    (window.flushPendingSessionViews engine).Keeps engine window.applied.length ∧
      (∀ key, (window.flushPendingSessionViews engine).sessionNeedsPatchViewRecovery key = false) ∧
      (window.flushPendingSessionViews engine).pendingView = none ∧
      (window.flushPendingSessionViews engine).pendingPatch = window.pendingPatch ∧
      (window.flushPendingSessionViews engine).applied = window.applied := by
  rw [WindowDispatcher.flushPendingSessionViews]
  cases hpending : window.pendingView with
  | none =>
    refine ⟨h, fun key => ?_, hpending, rfl, rfl⟩
    rw [Bool.eq_false_iff]
    intro hmarked
    have hqueued := h.marked key hmarked
    rw [sessionHasQueuedView, hpending] at hqueued
    cases hqueued
  | some pending =>
    have hvalues (entry : SessionFlushIdentity) (hmem : entry ∈ pending.sessions.values) :
        pending.sessions.get (sessionFlushKey entry) = some entry ∧ entry.isLocal := by
      obtain ⟨key, hget⟩ := (mem_values_iff _ _).mp hmem
      obtain ⟨hkey, hlocal⟩ := h.queuedViews pending key entry hpending hget
      exact ⟨hkey ▸ hget, hlocal⟩
    have hlocal : ∀ entry ∈ pending.sessions.values, entry.isLocal :=
      fun entry hmem => (hvalues entry hmem).2
    dsimp only
    rw [foldl_publish engine pending.sessions.values { window with pendingView := none } hlocal]
    -- every mark has its view in the round
    have hnone : ∀ key, ((pending.sessions.values.foldl (fun recovery entry =>
        recovery.erase (sessionFlushKey entry)) window.recovery).get key).isSome = false := by
      intro key
      rw [Bool.eq_false_iff, ne_eq, Option.isSome_iff_exists]
      rintro ⟨_, hget⟩
      obtain ⟨hheld, hkept⟩ := get_foldl_erase _ _ hget
      have hmarked : window.sessionNeedsPatchViewRecovery key = true := by
        rw [sessionNeedsPatchViewRecovery, hheld]
        rfl
      obtain ⟨held, entry, hheld, hentry⟩ := sessionHasQueuedView_iff.mp (h.marked key hmarked)
      rw [hpending, Option.some_inj] at hheld
      subst hheld
      exact hkept entry ((mem_values_iff _ _).mpr ⟨key, hentry⟩)
        (h.queuedViews _ key entry hpending hentry).1
    refine ⟨h.shows pending.sessions.values ⟨hlocal, ?_, rfl, rfl, rfl, ?_,
      .inr rfl, ?_⟩, hnone, rfl, rfl, rfl⟩
    · intro entry hmem object hobject hkey
      have hapart := h.apart object hobject
      rw [hkey, Bool.eq_false_iff] at hapart
      exact hapart (sessionHasQueuedView_iff.mpr ⟨pending, entry, hpending, (hvalues entry hmem).1⟩)
    · rintro _ ⟨_, key, entry, hheld, hentry, hsession⟩
      rw [hpending, Option.some_inj] at hheld
      subst hheld
      exact .inr ⟨entry, (mem_values_iff _ _).mpr ⟨key, hentry⟩, hsession⟩
    · intro key hmarked
      rw [sessionNeedsPatchViewRecovery] at hmarked
      rw [hnone key] at hmarked
      cases hmarked

/-! ## A patch arrives -/

variable (h : window.Keeps engine limit)
include h

theorem Keeps.advance (hlimit : limit < window.applied.length)
    (hreached : ∀ object, window.patchOf engine limit = some object →
      .patch object ∈ window.sent ∨ object ∈ window.queuedPatches ∨ window.ShownByView object ∨
        window.AwaitsView object) : window.Keeps engine (limit + 1) where
  limit_le := hlimit
  reached number object hnumber hobject := by
    rcases Nat.lt_succ_iff_lt_or_eq.mp hnumber with hnumber | rfl
    · exact h.reached number object hnumber hobject
    · exact hreached object hobject
  inOrder := h.inOrder
  sentBelow message hmem := (h.sentBelow message hmem).trans (Nat.le_succ _)
  queuedBelow object hmem := (h.queuedBelow object hmem).trans (Nat.lt_succ_self _)
  sorted := h.sorted
  behind := h.behind
  queuedViews := h.queuedViews
  apart := h.apart
  marked := h.marked
  views := h.views
  genuine := h.genuine

theorem Keeps.sends {message : WindowMessage View} {next : Nat} (hlimit : limit ≤ next)
    (happlied : next ≤ window.applied.length)
    (hreached : ∀ number object, limit ≤ number → number < next →
      window.patchOf engine number = some object → message = .patch object)
    (hbelow : message.upTo ≤ next) (hafter : message.key.isSome → limit ≤ message.start)
    (hfree : ∀ queued ∈ window.queuedPatches, message.key ≠ some queued.key)
    (hpatch : ∀ identity events view, message ≠ .view identity events view) :
    (window.send [message]).Keeps engine next := by
  have hsent : ∀ sent, sent ∈ window.sent ++ [message] → sent ∈ window.sent ∨ sent = message := by
    intro sent hmem
    rwa [List.mem_append, List.mem_singleton] at hmem
  refine ⟨happlied, ?_, ?_, ?_, ?_, h.sorted, ?_, h.queuedViews, h.apart, h.marked, ?_, h.genuine⟩
  · intro number object hnumber hobject
    rcases Nat.lt_or_ge number limit with hbefore | hlate
    · rcases h.reached number object hbefore hobject with hmem | hqueued | hshown | hawaits
      · exact .inl (List.mem_append_left _ hmem)
      · exact .inr (.inl hqueued)
      · obtain ⟨identity, events, view, hmem, hsession⟩ := hshown
        exact .inr (.inr (.inl ⟨identity, events, view, List.mem_append_left _ hmem, hsession⟩))
      · exact .inr (.inr (.inr hawaits))
    · rw [← hreached number object hlate hnumber hobject]
      exact .inl (List.mem_append_right _ (.head _))
  · refine List.pairwise_append.mpr ⟨h.inOrder, List.pairwise_singleton _ _, ?_⟩
    rintro sent hmem _ hlast _ - hkey
    obtain rfl := List.mem_singleton.mp hlast
    exact (h.sentBelow sent hmem).trans (hafter (hkey ▸ rfl))
  · intro sent hmem
    rcases hsent sent hmem with hmem | rfl
    · exact (h.sentBelow sent hmem).trans hlimit
    · exact hbelow
  · exact fun queued hqueued => (h.queuedBelow queued hqueued).trans_le hlimit
  · intro queued hqueued sent hmem hkey
    rcases hsent sent hmem with hmem | rfl
    · exact h.behind queued hqueued sent hmem hkey
    · exact absurd hkey (hfree queued hqueued)
  · intro identity events view hmem
    rcases hsent _ hmem with hmem | heq
    · exact h.views identity events view hmem
    · exact absurd heq.symm (hpatch identity events view)

theorem Keeps.publishNotification (notification : Option RuntimeNotification) :
    (window.publishNotification notification).Keeps engine limit := by
  cases notification with
  | none =>
    rw [WindowDispatcher.publishNotification, send, Option.map_none,
      Option.toList_none, List.append_nil]
    exact h
  | some =>
    refine h.sends le_rfl h.limit_le ?_ (Nat.zero_le _) (fun hkey => by cases hkey)
      (fun _ _ hkey => by cases hkey) (fun _ _ _ heq => by cases heq)
    exact fun _ _ hlate hnumber => absurd hnumber (Nat.not_lt.mpr hlate)

omit h

section

variable (h : window.Keeps engine limit) (hlimit : limit < window.applied.length)
  (hobject : window.patchOf engine limit = some object) (hevent : object.event = limit)
include h hlimit hobject hevent

theorem Keeps.publishSessionPatch
    (hfree : ∀ queued ∈ window.queuedPatches, queued.key ≠ object.key) :
    (window.publishSessionPatch object).Keeps engine (limit + 1) := by
  refine h.sends (Nat.le_succ _) hlimit ?_ (Nat.succ_le_succ (Nat.le_of_eq hevent)) ?_ ?_
    (fun _ _ _ heq => by cases heq)
  · intro _ _ hlate hnumber hother
    obtain rfl := Nat.le_antisymm (Nat.le_of_lt_succ hnumber) hlate
    rw [Option.mem_unique hobject hother]
  · exact fun _ => Nat.le_of_eq hevent.symm
  · exact fun queued hqueued hkey => hfree queued hqueued (Option.some_inj.mp hkey).symm

theorem Keeps.enqueue (hview : window.sessionHasQueuedView object.key = false)
    {pending : PendingPatchFlush} (hpending : pending.patches = window.queuedPatches ++ [object]) :
    ({ window with pendingPatch := some pending } : WindowDispatcher View).Keeps engine
      (limit + 1) := by
  have hqueued : ({ window with pendingPatch := some pending } :
      WindowDispatcher View).queuedPatches = window.queuedPatches ++ [object] := hpending
  refine ⟨hlimit, ?_, h.inOrder, ?_, ?_, ?_, ?_, h.queuedViews, ?_, h.marked, h.views, ?_⟩
  · intro number other hnumber hother
    rw [hqueued]
    rcases Nat.lt_succ_iff_lt_or_eq.mp hnumber with hnumber | rfl
    · rcases h.reached number other hnumber hother with hmem | hmem | hrest
      · exact .inl hmem
      · exact .inr (.inl (List.mem_append_left _ hmem))
      · exact .inr (.inr hrest)
    · obtain rfl := Option.some_inj.mp (hobject.symm.trans hother)
      exact .inr (.inl (List.mem_append_right _ (List.mem_singleton.mpr rfl)))
  · exact fun message hmem => (h.sentBelow message hmem).trans (Nat.le_succ _)
  · rw [hqueued]
    intro other hmem
    rcases List.mem_append.mp hmem with hmem | hmem
    · exact (h.queuedBelow other hmem).trans (Nat.lt_succ_self _)
    · rw [List.mem_singleton.mp hmem, hevent]
      exact Nat.lt_succ_self _
  · rw [hqueued]
    refine List.pairwise_append.mpr ⟨h.sorted, List.pairwise_singleton _ _, ?_⟩
    intro other hother _ hlast
    rw [List.mem_singleton.mp hlast, hevent]
    exact h.queuedBelow other hother
  · rw [hqueued]
    intro other hmem message hmessage hkey
    rcases List.mem_append.mp hmem with hmem | hmem
    · exact h.behind other hmem message hmessage hkey
    · rw [List.mem_singleton.mp hmem, hevent]
      exact h.sentBelow message hmessage
  · rw [hqueued]
    intro other hmem
    rcases List.mem_append.mp hmem with hmem | hmem
    · exact h.apart other hmem
    · rw [List.mem_singleton.mp hmem]
      exact hview
  · rw [hqueued]
    intro other hmem
    rcases List.mem_append.mp hmem with hmem | hmem
    · exact h.genuine other hmem
    · rw [List.mem_singleton.mp hmem, hevent]
      exact hobject

end

section

variable (window)

theorem queuedPatches_patchFlush : window.patchFlush.patches = window.queuedPatches := by
  rw [patchFlush, queuedPatches]
  cases window.pendingPatch <;> rfl

theorem queueSessionPatchPublish_of_room
    (hmarked : window.sessionNeedsPatchViewRecovery object.key = false)
    (hview : window.sessionHasQueuedView object.key = false)
    (hroom : window.queuedPatches.length < MAX_PENDING_SESSION_PATCHES_PER_WINDOW) :
    window.queueSessionPatchPublish object = { window with
      pendingPatch := some { window.patchFlush with
        patches := window.patchFlush.patches ++ [object] } } := by
  rw [WindowDispatcher.queueSessionPatchPublish, if_neg (Bool.eq_false_iff.mp hmarked),
    if_neg (Bool.eq_false_iff.mp hview), queuedPatches_patchFlush, if_neg (Nat.not_le.mpr hroom)]

theorem queueSessionPatchPublish_of_overflow (hoverflows : window.Overflows object) :
    window.queueSessionPatchPublish object =
      (window.recoverSessionWithViewOnlyCatchUp object.patch.identity
        window.patchFlush).queueSessionViewPublish object.patch.identity := by
  obtain ⟨hmarked, hview, hfull⟩ := hoverflows
  rw [WindowDispatcher.queueSessionPatchPublish, if_neg (Bool.eq_false_iff.mp hmarked),
    if_neg (Bool.eq_false_iff.mp hview), queuedPatches_patchFlush, if_pos hfull]

theorem marked_recovered (identity : SessionFlushIdentity)
    (pending : PendingPatchFlush) : (window.recoverSessionWithViewOnlyCatchUp identity
      pending).sessionNeedsPatchViewRecovery (sessionFlushKey identity) = true := by
  rw [sessionNeedsPatchViewRecovery, recoverSessionWithViewOnlyCatchUp, get_set_self]
  rfl

theorem queueSessionViewPublish_recovered
    (hlocal : identity.isLocal) (pending : PendingPatchFlush) :
    (window.recoverSessionWithViewOnlyCatchUp identity pending).queueSessionViewPublish identity =
      { window.recoverSessionWithViewOnlyCatchUp identity pending with
        pendingView := some ⟨((window.pendingView.map PendingViewFlush.sessions).getD .empty).set
          (sessionFlushKey identity) identity⟩ } := by
  rw [WindowDispatcher.queueSessionViewPublish, if_pos hlocal]
  dsimp only
  rw [if_pos (marked_recovered window identity pending)]
  rfl

end

variable (window) in
theorem takesView_overflow {object : PatchObject} (hlocal : object.patch.identity.isLocal)
    (hkept : ∀ queued ∈ window.queuedPatches, queued.key = object.key →
      queued.patch.identity.isLocal) :
    window.TakesView ((window.recoverSessionWithViewOnlyCatchUp object.patch.identity
      window.patchFlush).queueSessionViewPublish object.patch.identity) object.patch.identity := by
  rw [queueSessionViewPublish_recovered window hlocal]
  refine ⟨hlocal, rfl, rfl, rfl, ?_, hkept, ?_⟩
  · rw [← queuedPatches_patchFlush window]
    rfl
  · intro _ hkey
    rw [sessionNeedsPatchViewRecovery, recoverSessionWithViewOnlyCatchUp, get_set] at hkey
    split at hkey
    next heq => exact .inr heq.symm
    · exact .inl hkey

theorem Keeps.queueSessionPatchPublish (h : window.Keeps engine limit)
    (hlimit : limit < window.applied.length)
    (hobject : window.patchOf engine limit = some object) (hevent : object.event = limit)
    (hgives : ¬ window.Gives object) :
    (window.queueSessionPatchPublish object).Keeps engine (limit + 1) := by
  rw [Gives, not_or, not_and, not_and] at hgives
  have hisLocal (hdropped : window.sessionNeedsPatchViewRecovery object.key = true ∨
      window.Overflows object) : object.patch.identity.isLocal = true := by
    rw [← Bool.not_eq_false]
    exact fun hforeign => hgives.1 hforeign hdropped
  rw [WindowDispatcher.queueSessionPatchPublish]
  split
  next hmarked =>
    -- the patch gives way to the view that is queued with the mark
    have hflushed : window.Flushed { window with pendingPatch := some { window.patchFlush with
        droppedPatches := window.patchFlush.droppedPatches + 1
        overflowSessionIds := window.patchFlush.overflowSessionIds.set object.key
          object.patch.identity } } [] := by
      have hqueue : ({ window with pendingPatch := some { window.patchFlush with
          droppedPatches := window.patchFlush.droppedPatches + 1
          overflowSessionIds := window.patchFlush.overflowSessionIds.set object.key
            object.patch.identity } } : WindowDispatcher View).queuedPatches =
          window.queuedPatches := queuedPatches_patchFlush window
      exact ⟨rfl, rfl, rfl, (List.append_nil _).symm, List.nil_sublist _,
        hqueue ▸ List.Sublist.refl _, fun _ hmem => .inr (hqueue ▸ hmem),
        fun _ hmem => absurd hmem List.not_mem_nil⟩
    refine (h.flushed hflushed).advance hlimit fun _ hother => ?_
    rw [patchOf_congr hflushed.applied, hobject, Option.some_inj] at hother
    subst hother
    exact .inr (.inr (.inr (h.awaitsView_of_key (hisLocal (.inl hmarked)) (h.marked _ hmarked))))
  next hunmarked =>
    split
    next hqueued =>
      refine h.publishSessionPatch hlimit hobject hevent fun queued hmem hkey => ?_
      have hapart := h.apart queued hmem
      rw [hkey, hqueued] at hapart
      cases hapart
    next hview =>
      rw [queuedPatches_patchFlush]
      split
      next hfull =>
        have hoverflows : window.Overflows object :=
          ⟨Bool.eq_false_iff.mpr hunmarked, Bool.eq_false_iff.mpr hview, hfull⟩
        have hlocal := hisLocal (.inr hoverflows)
        have htakes := takesView_overflow window hlocal fun queued hmem hkey => by
          rw [← Bool.not_eq_false]
          exact fun hforeign => hgives.2 hoverflows ⟨queued, hmem, hkey, hforeign⟩
        refine (h.takesView htakes).advance (htakes.applied ▸ hlimit) fun _ hother => ?_
        rw [patchOf_congr htakes.applied, hobject, Option.some_inj] at hother
        subst hother
        exact .inr (.inr (.inr (htakes.awaitsView rfl)))
      · exact h.enqueue hlimit hobject hevent (Bool.eq_false_iff.mpr hview) rfl

end WindowDispatcher

end OpenCowork.Runtime
