import OpenCowork.ControlPlane.Neighbours
import OpenCowork.ControlPlane.WorkspaceEvents

/-! # Who sees whose workspace events

A stream of workspace events is found under the joined text of its tenant and its user.
Two users see each other's events exactly when their joined texts are the same, which ids
that contain the separator can bring about.
-/

namespace OpenCowork.ControlPlane

open Foundation

/-- The checks that the log leaves to the store around it. -/
structure WorkspaceEventsHost where
  requireTenantUser : String → String → Except StoreError Unit
  assertSessionBelongsToUser : String → String → String → Except StoreError Unit

structure WorkspaceEventCursorRecord where
  earliestSequence : Option Nat
  latestSequence : Nat
  deriving DecidableEq

inductive WorkspaceOperation where
  | appendWorkspaceEvent (input : AppendWorkspaceEventInput) (dateNow : Instant)
  | findWorkspaceEvent (tenantId userId eventId : String)
  | listWorkspaceEvents (tenantId userId : String) (afterSequence : Nat) (limit : Option Nat)
  | listWorkspaceEventsForStream (tenantId userId : String) (afterSequence : Nat)
      (limit : Option Nat)
  | getWorkspaceEventCursor (tenantId userId : String)
  | pruneExpiredWorkspaceEvents (olderThan : Instant) (limit : Nat)

inductive WorkspaceAnswer where
  | thrown (error : StoreError)
  | event (event : Option WorkspaceEventRecord)
  | events (events : List WorkspaceEventRecord)
  | cursor (cursor : WorkspaceEventCursorRecord)
  | pruned (count : Nat)

namespace WorkspaceEvents

variable (env : Environment) (host : WorkspaceEventsHost)

def workspaceEventCursor (events : List WorkspaceEventRecord) : WorkspaceEventCursorRecord where
  earliestSequence := events.head?.map WorkspaceEventRecord.sequence
  latestSequence := (events.getLast?.map WorkspaceEventRecord.sequence).getD 0

def appendWorkspaceEvent (log : WorkspaceEvents) (input : AppendWorkspaceEventInput)
    (dateNow : Instant) : Outcome WorkspaceEvents WorkspaceEventRecord :=
  match host.requireTenantUser input.tenantId input.userId with
  | .error thrown => (.error thrown, log)
  | .ok () =>
    let owned : Except StoreError Unit := match presentText input.sessionId with
      | none => .ok ()
      | some sessionId => host.assertSessionBelongsToUser input.tenantId sessionId input.userId
    match owned with
    | .error thrown => (.error thrown, log)
    | .ok () => log.append env input dateNow

def listWorkspaceEvents (log : WorkspaceEvents) (tenantId userId : String) (afterSequence : Nat)
    (limit : Option Nat) : Except StoreError (List WorkspaceEventRecord) :=
  (host.requireTenantUser tenantId userId).map fun _ =>
    log.eventsAfter tenantId userId afterSequence limit

def getWorkspaceEventCursor (log : WorkspaceEvents) (tenantId userId : String) :
    Except StoreError WorkspaceEventCursorRecord :=
  (host.requireTenantUser tenantId userId).map fun _ =>
    workspaceEventCursor (log.stateOf tenantId userId).events

def answered {α : Type} (wrap : α → WorkspaceAnswer) : Except StoreError α → WorkspaceAnswer
  | .error thrown => .thrown thrown
  | .ok value => wrap value

def perform (log : WorkspaceEvents) : WorkspaceOperation → WorkspaceAnswer × WorkspaceEvents
  | .appendWorkspaceEvent input dateNow =>
    let appended := log.appendWorkspaceEvent env host input dateNow
    (answered (.event ∘ some) appended.1, appended.2)
  | .findWorkspaceEvent tenantId userId eventId =>
    (.event (log.findWorkspaceEvent tenantId userId eventId), log)
  | .listWorkspaceEvents tenantId userId afterSequence limit =>
    (answered .events (log.listWorkspaceEvents host tenantId userId afterSequence limit), log)
  | .listWorkspaceEventsForStream tenantId userId afterSequence limit =>
    (.events (log.eventsAfter tenantId userId afterSequence limit), log)
  | .getWorkspaceEventCursor tenantId userId =>
    (answered .cursor (log.getWorkspaceEventCursor host tenantId userId), log)
  | .pruneExpiredWorkspaceEvents olderThan limit =>
    let pruned := log.pruneExpiredWorkspaceEvents olderThan limit
    (.pruned pruned.1, pruned.2)

def machine : Machine WorkspaceEvents WorkspaceOperation WorkspaceAnswer where
  step := perform env host

/-- The operation is made for one tenant and user. A prune names no user: it is made for the
one whose events are all that it removes. -/
def MadeFor (log : WorkspaceEvents) (owner : String × String) : WorkspaceOperation → Prop
  | .appendWorkspaceEvent input _ => (input.tenantId, input.userId) = owner
  | .findWorkspaceEvent tenantId userId _ => (tenantId, userId) = owner
  | .listWorkspaceEvents tenantId userId _ _ => (tenantId, userId) = owner
  | .listWorkspaceEventsForStream tenantId userId _ _ => (tenantId, userId) = owner
  | .getWorkspaceEventCursor tenantId userId => (tenantId, userId) = owner
  | .pruneExpiredWorkspaceEvents olderThan limit =>
    ∀ gone ∈ log.stale olderThan limit, (gone.2.tenantId, gone.2.userId) = owner

/-- One user is told the same by both logs. -/
structure SameView (before after : WorkspaceEvents) (viewer : String × String) : Prop where
  listed : ∀ afterSequence limit,
    after.listWorkspaceEvents host viewer.1 viewer.2 afterSequence limit =
      before.listWorkspaceEvents host viewer.1 viewer.2 afterSequence limit
  streamed : ∀ afterSequence limit, after.eventsAfter viewer.1 viewer.2 afterSequence limit =
    before.eventsAfter viewer.1 viewer.2 afterSequence limit
  cursor : after.getWorkspaceEventCursor host viewer.1 viewer.2 =
    before.getWorkspaceEventCursor host viewer.1 viewer.2

/-- After any operations, nothing made for the owner changes what the viewer is told. -/
def Isolated (owner viewer : String × String) : Prop :=
  ∀ (host : WorkspaceEventsHost) (operations : List WorkspaceOperation)
    (operation : WorkspaceOperation),
    MadeFor ((machine env host).run OrderedMap.empty operations) owner operation →
    SameView host ((machine env host).run OrderedMap.empty operations)
      (((machine env host).run OrderedMap.empty operations).perform env host operation).2 viewer

variable {host} {before after log : WorkspaceEvents} {viewer : String × String}

theorem SameView.of_events
    (hevents : (after.stateOf viewer.1 viewer.2).events =
      (before.stateOf viewer.1 viewer.2).events) : SameView host before after viewer where
  listed := by
    intro afterSequence limit
    simp only [listWorkspaceEvents, eventsAfter, hevents]
  streamed := by
    intro afterSequence limit
    simp only [eventsAfter, hevents]
  cursor := by rw [getWorkspaceEventCursor, getWorkspaceEventCursor, hevents]

theorem SameView.of_get
    (hget : after.get (workspaceKey viewer.1 viewer.2) =
      before.get (workspaceKey viewer.1 viewer.2)) : SameView host before after viewer := by
  apply SameView.of_events
  rw [stateOf, stateOf, hget]

/-- Events are stored under the joined text of the ids that they were recorded with. -/
def Keyed (log : WorkspaceEvents) : Prop :=
  ∀ storedKey state, log.get storedKey = some state →
    ∀ event ∈ state.events, workspaceKey event.tenantId event.userId = storedKey

theorem Keyed.stateOf (hkeyed : log.Keyed) (tenantId userId : String) :
    ∀ event ∈ (log.stateOf tenantId userId).events,
      workspaceKey event.tenantId event.userId = workspaceKey tenantId userId := by
  intro event hevent
  unfold WorkspaceEvents.stateOf at hevent
  cases hget : log.get (workspaceKey tenantId userId) with
  | none => simp [hget] at hevent
  | some state =>
    rw [hget, Option.getD_some] at hevent
    exact hkeyed _ state hget event hevent

theorem append_get (log : WorkspaceEvents) (input : AppendWorkspaceEventInput) (dateNow : Instant) :
    (log.append env input dateNow).2 = log ∨
      (log.append env input dateNow).2 =
        log.set (workspaceKey input.tenantId input.userId)
          ⟨(draftOf (log.stateOf input.tenantId input.userId) input dateNow).sequence,
            (log.stateOf input.tenantId input.userId).events ++
              [draftOf (log.stateOf input.tenantId input.userId) input dateNow]⟩ := by
  unfold append
  dsimp only
  split
  · split <;> exact .inl rfl
  · exact .inr rfl

variable (host) in
theorem appendWorkspaceEvent_eq (log : WorkspaceEvents) (input : AppendWorkspaceEventInput)
    (dateNow : Instant) :
    (log.appendWorkspaceEvent env host input dateNow).2 = log ∨
      (log.appendWorkspaceEvent env host input dateNow).2 =
        (log.append env input dateNow).2 := by
  unfold appendWorkspaceEvent
  split
  · exact .inl rfl
  · dsimp only
    split
    · exact .inl rfl
    · exact .inr rfl

theorem append_keyed (hkeyed : log.Keyed) (input : AppendWorkspaceEventInput) (dateNow : Instant) :
    (log.append env input dateNow).2.Keyed := by
  rcases append_get env log input dateNow with hsame | hset
  · rw [hsame]
    exact hkeyed
  · intro storedKey state hget event hevent
    rw [hset, OrderedMap.get_set] at hget
    split at hget
    next hkey =>
      obtain rfl := Option.some.inj hget
      rcases List.mem_append.mp hevent with hold | hnew
      · exact (hkeyed.stateOf _ _ event hold).trans hkey
      · rw [List.mem_singleton.mp hnew]
        exact hkey
    · exact hkeyed storedKey state hget event hevent

theorem prune_keyed (hkeyed : log.Keyed) (olderThan : Instant)
    (limit : Nat) : (log.pruneExpiredWorkspaceEvents olderThan limit).2.Keyed := by
  intro storedKey _ hget event hevent
  have hmapped := (OrderedMap.get_mapWithKey _ _ _).symm.trans hget
  obtain ⟨old, hold, rfl⟩ := Option.map_eq_some_iff.mp hmapped
  exact hkeyed storedKey old hold event (List.mem_filter.mp hevent).1

theorem perform_keyed (hkeyed : log.Keyed)
    (operation : WorkspaceOperation) : (log.perform env host operation).2.Keyed := by
  cases operation with
  | appendWorkspaceEvent input dateNow =>
    change (log.appendWorkspaceEvent env host input dateNow).2.Keyed
    rcases appendWorkspaceEvent_eq env host log input dateNow with hsame | happended
    · rw [hsame]
      exact hkeyed
    · rw [happended]
      exact append_keyed env hkeyed input dateNow
  | pruneExpiredWorkspaceEvents => exact prune_keyed hkeyed _ _
  | findWorkspaceEvent | listWorkspaceEvents | listWorkspaceEventsForStream
  | getWorkspaceEventCursor => exact hkeyed

theorem run_keyed (operations : List WorkspaceOperation) :
    ((machine env host).run OrderedMap.empty operations).Keyed := by
  apply (machine env host).run_invariant Keyed
  · intro _ operation hkeyed
    exact perform_keyed env hkeyed operation
  · intro _ _ hget
    simp at hget

theorem mem_stale {olderThan : Instant} {limit : Nat} {gone : String × WorkspaceEventRecord}
    (hgone : gone ∈ log.stale olderThan limit) :
    ∃ state, log.get gone.1 = some state ∧ gone.2 ∈ state.events := by
  unfold stale at hgone
  have hfiltered := List.mem_of_mem_take hgone
  rw [List.mem_insertionSort, List.mem_filter, List.mem_flatMap] at hfiltered
  obtain ⟨⟨entry, hentry, hmem⟩, -⟩ := hfiltered
  obtain ⟨_, hevent, rfl⟩ := List.mem_map.mp hmem
  exact ⟨entry.2, (OrderedMap.get_eq_some_iff _ _ _).mpr hentry, hevent⟩

theorem prune_get {olderThan : Instant} {limit : Nat} {storedKey : String}
    (hnone : ∀ gone ∈ log.stale olderThan limit, gone.1 ≠ storedKey) :
    (log.pruneExpiredWorkspaceEvents olderThan limit).2.get storedKey = log.get storedKey := by
  have hmapped : (log.pruneExpiredWorkspaceEvents olderThan limit).2.get storedKey = _ :=
    OrderedMap.get_mapWithKey _ _ _
  rw [hmapped]
  cases log.get storedKey with
  | none => rfl
  | some state =>
    rw [Option.map_some, Option.some_inj]
    have hkept : state.events.filter (fun event => decide (∀ gone ∈ log.stale olderThan limit,
        gone.1 = storedKey → gone.2.eventId ≠ event.eventId)) = state.events := by
      apply List.filter_eq_self.mpr
      intro event _
      apply decide_eq_true
      exact fun gone hgone hkey => absurd hkey (hnone gone hgone)
    rw [hkept]

variable {owner : String × String}

theorem sameView_of_key_ne (hkeys : workspaceKey owner.1 owner.2 ≠ workspaceKey viewer.1 viewer.2)
    (hkeyed : log.Keyed) {operation : WorkspaceOperation} (hmade : log.MadeFor owner operation) :
    SameView host log (log.perform env host operation).2 viewer := by
  apply SameView.of_get
  cases operation with
  | appendWorkspaceEvent input dateNow =>
    obtain rfl : (input.tenantId, input.userId) = owner := hmade
    change (log.appendWorkspaceEvent env host input dateNow).2.get _ = _
    rcases appendWorkspaceEvent_eq env host log input dateNow with hsame | happended
    · rw [hsame]
    · rw [happended]
      rcases append_get env log input dateNow with hsame | hset
      · rw [hsame]
      · rw [hset, OrderedMap.get_set_of_ne _ _ hkeys]
  | pruneExpiredWorkspaceEvents =>
    apply prune_get
    rintro gone hgone hkey
    obtain ⟨state, hget, hevent⟩ := mem_stale hgone
    -- the event is filed under the owner's joined text
    have hfiled := hkeyed gone.1 state hget gone.2 hevent
    obtain rfl := hmade gone hgone
    exact hkeys (hfiled.trans hkey)
  | findWorkspaceEvent | listWorkspaceEvents | listWorkspaceEventsForStream
  | getWorkspaceEventCursor => rfl

/-- A store in which every id names a user, and every session belongs to everyone. -/
def openHost : WorkspaceEventsHost where
  requireTenantUser := fun _ _ => .ok ()
  assertSessionBelongsToUser := fun _ _ _ => .ok ()

/-- A plain event of a user. -/
def noteOf (owner : String × String) : AppendWorkspaceEventInput where
  tenantId := owner.1
  userId := owner.2
  sessionId := none
  eventId := none
  entityType := none
  entityId := none
  operation := none
  projectionVersion := none
  type := "note.created"
  payload := none
  createdAt := none

theorem not_isolated_of_key_eq
    (hkeys : workspaceKey owner.1 owner.2 = workspaceKey viewer.1 viewer.2) :
    ¬ Isolated env owner viewer := by
  intro hisolated
  have hview := hisolated openHost [] (.appendWorkspaceEvent (noteOf owner) 0) rfl
  have hlisted := hview.streamed 0 none
  have hempty : eventsAfter OrderedMap.empty viewer.1 viewer.2 0 none = [] := rfl
  have hfiled : (((machine env openHost).run OrderedMap.empty []).perform env openHost
      (.appendWorkspaceEvent (noteOf owner) 0)).2 =
        OrderedMap.empty.set (workspaceKey owner.1 owner.2)
          ⟨1, [draftOf ⟨0, []⟩ (noteOf owner) 0]⟩ := rfl
  rw [hfiled, hkeys] at hlisted
  exact absurd (hlisted.trans hempty) (by simp [eventsAfter, stateOf, draftOf])

/-- Two users are isolated from each other exactly when the joined texts of their tenants and
users differ. -/
theorem isolated_iff_key_ne (owner viewer : String × String) :
    Isolated env owner viewer ↔
      workspaceKey owner.1 owner.2 ≠ workspaceKey viewer.1 viewer.2 := by
  constructor
  · exact fun hisolated hkeys => not_isolated_of_key_eq env hkeys hisolated
  · intro hkeys host operations operation hmade
    exact sameView_of_key_ne env hkeys (run_keyed env operations) hmade

/-- The user `b:c` of tenant `a` and the user `c` of tenant `a:b` share a stream. -/
theorem separator_in_ids_shares_stream :
    (("a", "b:c") : String × String) ≠ ("a:b", "c") ∧
      ¬ Isolated plainEnvironment ("a", "b:c") ("a:b", "c") :=
  ⟨by decide, not_isolated_of_key_eq plainEnvironment rfl⟩

end WorkspaceEvents

end OpenCowork.ControlPlane
