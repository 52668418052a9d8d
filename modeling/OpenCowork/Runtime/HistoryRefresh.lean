import OpenCowork.Runtime.SyncCoordinator

/-! # History refreshes

A history_refresh event starts a worker for its session, or marks the session's worker to run once
more. The entries of the queue are bounded; the oldest gives way.
-/

namespace OpenCowork.Runtime

open OpenCowork.Foundation OrderedMap

def MAX_HISTORY_REFRESH_QUEUE : Nat := 256

/-- A worker between two turns: its handler runs, or has settled (its failure is only logged) and
the worker is behind `await`. -/
structure RefreshWorker where
  sessionId : String
  (queued running : Bool)
deriving DecidableEq

structure RefreshEvent where
  time : Nat
  sessionId : String
  /-- A handler was installed. -/
  installed : Bool
deriving DecidableEq

structure HandlerRun where
  sessionId : String
  started : Nat
deriving DecidableEq

/-- The queue holds the numbers of workers; a worker that has ended is not among `workers`. -/
structure HistoryRefresh where
  time : Nat
  handler : Bool
  queue : OrderedMap String Nat
  workers : OrderedMap Nat RefreshWorker
  events : List RefreshEvent
  runs : List HandlerRun

namespace HistoryRefresh

def empty : HistoryRefresh := ⟨0, false, .empty, .empty, [], []⟩

variable (refresh : HistoryRefresh)

/-- The queue without its oldest entry, if it is full. -/
def evicted : OrderedMap String Nat :=
  if refresh.queue.entries.length ≥ MAX_HISTORY_REFRESH_QUEUE then
    match refresh.queue.entries.head? with
    | some oldest => refresh.queue.erase oldest.1
    | none => refresh.queue
  else refresh.queue

/-- `runRefresh` as far as its first `await`: without a handler the worker ends at once, and its
entry is set only then. -/
def startWorker (sessionId : String) : HistoryRefresh :=
  if refresh.handler then
    { refresh with
      queue := refresh.evicted.set sessionId refresh.time
      workers := refresh.workers.set refresh.time ⟨sessionId, false, true⟩
      runs := refresh.runs ++ [⟨sessionId, refresh.time⟩] }
  else { refresh with queue := refresh.evicted.set sessionId refresh.time }

def queueSessionHistoryRefresh (sessionId : String) : HistoryRefresh :=
  let refresh : HistoryRefresh := { refresh with
    events := refresh.events ++ [⟨refresh.time, sessionId, refresh.handler⟩] }
  match refresh.queue.get sessionId with
  | some workerId => { refresh with
      queue := (refresh.queue.erase sessionId).set sessionId workerId
      workers := refresh.workers.modify workerId fun worker => { worker with queued := true } }
  | none => refresh.startWorker sessionId

def settle (workerId : Nat) : HistoryRefresh :=
  { refresh with
    workers := refresh.workers.modify workerId fun worker => { worker with running := false } }

/-- The worker goes on behind `await`: once more if it is marked and there is a handler. -/
def resume (workerId : Nat) : HistoryRefresh :=
  match refresh.workers.get workerId with
  | none => refresh
  | some worker =>
    if worker.running then refresh
    else if worker.queued && refresh.handler then
      { refresh with
        workers := refresh.workers.set workerId { worker with queued := false, running := true }
        runs := refresh.runs ++ [⟨worker.sessionId, refresh.time⟩] }
    else
      { refresh with
        queue := refresh.queue.erase worker.sessionId
        workers := refresh.workers.erase workerId }

end HistoryRefresh

inductive RefreshTurn where
  | setHandler (installed : Bool)
  | event (sessionId : String)
  | settle (workerId : Nat)
  | resume (workerId : Nat)

def RefreshTurn.apply (refresh : HistoryRefresh) : RefreshTurn → HistoryRefresh
  | .setHandler installed => { refresh with handler := installed }
  | .event sessionId => refresh.queueSessionHistoryRefresh sessionId
  | .settle workerId => refresh.settle workerId
  | .resume workerId => refresh.resume workerId

def historyRefresh : Machine HistoryRefresh RefreshTurn Unit where
  step refresh turn := ((), { turn.apply refresh with time := refresh.time + 1 })

/-! ## What an event is promised -/

namespace HistoryRefresh

variable (refresh : HistoryRefresh)

/-- The handler was run for the session of the event since. -/
def Served (event : RefreshEvent) : Prop :=
  ∃ run ∈ refresh.runs, run.sessionId = event.sessionId ∧ event.time ≤ run.started

/-- A worker of the session is marked to run once more. -/
def Marked (sessionId : String) : Prop :=
  ∃ workerId worker, refresh.workers.get workerId = some worker ∧
    worker.sessionId = sessionId ∧ worker.queued = true

/-- Every event that found a handler has been served, or a marked worker of its session will: as
soon as it is through, if there is a handler then. And one handler at most runs for a session. -/
structure Refreshes : Prop where
  served : ∀ event ∈ refresh.events, event.installed = true →
    refresh.Served event ∨ refresh.Marked event.sessionId
  again : ∀ workerId worker, refresh.workers.get workerId = some worker → worker.queued = true →
    refresh.handler = true → ∃ run ∈ (historyRefresh.run refresh
      [.settle workerId, .resume workerId]).runs,
      run.sessionId = worker.sessionId ∧ ∀ event ∈ refresh.events, event.time ≤ run.started
  single : ∀ first second firstWorker secondWorker,
    refresh.workers.get first = some firstWorker →
    refresh.workers.get second = some secondWorker →
    firstWorker.running = true → secondWorker.running = true →
    firstWorker.sessionId = secondWorker.sessionId → first = second

end HistoryRefresh

/-- The turn loses an event, or starts a second worker: an event that finds a handler finds the
entry of a worker that has ended, or no entry although a worker of its session is alive; or a worker
that is marked for such an event finds no handler. -/
def RefreshTurn.Misses (refresh : HistoryRefresh) : RefreshTurn → Prop
  | .event sessionId => refresh.handler = true ∧
      ((∃ workerId, refresh.queue.get sessionId = some workerId ∧
          refresh.workers.get workerId = none) ∨
        refresh.queue.get sessionId = none ∧ ∃ workerId worker,
          refresh.workers.get workerId = some worker ∧ worker.sessionId = sessionId)
  | .resume workerId => refresh.handler = false ∧ ∃ worker,
      refresh.workers.get workerId = some worker ∧ worker.running = false ∧
        worker.queued = true ∧ ∃ event ∈ refresh.events, event.installed = true ∧
          event.sessionId = worker.sessionId ∧ ¬ refresh.Served event
  | _ => False

/-! ## The invariant -/

namespace HistoryRefresh

variable (refresh : HistoryRefresh)

structure Consistent : Prop where
  past : ∀ workerId worker, refresh.workers.get workerId = some worker → workerId < refresh.time
  entriesPast : ∀ sessionId workerId, refresh.queue.get sessionId = some workerId →
    workerId < refresh.time
  eventsPast : ∀ event ∈ refresh.events, event.time < refresh.time
  entries : ∀ sessionId workerId worker, refresh.queue.get sessionId = some workerId →
    refresh.workers.get workerId = some worker → worker.sessionId = sessionId
  unique : ∀ first second firstWorker secondWorker,
    refresh.workers.get first = some firstWorker →
    refresh.workers.get second = some secondWorker →
    firstWorker.sessionId = secondWorker.sessionId → first = second
  served : ∀ event ∈ refresh.events, event.installed = true →
    refresh.Served event ∨ refresh.Marked event.sessionId

variable {refresh}
variable {workerId : Nat} {sessionId : String}

theorem consistent_empty : empty.Consistent := by
  constructor <;> intros <;> simp_all [empty]

theorem Consistent.wait (h : refresh.Consistent) (installed : Bool) :
    ({ refresh with handler := installed, time := refresh.time + 1 } : HistoryRefresh).Consistent :=
  { h with
    past := fun workerId worker hworker => Nat.lt_succ_of_lt (h.past workerId worker hworker)
    entriesPast := fun sessionId workerId hentry =>
      Nat.lt_succ_of_lt (h.entriesPast sessionId workerId hentry)
    eventsPast := fun event hevent => Nat.lt_succ_of_lt (h.eventsPast event hevent) }

theorem get_evicted (h : refresh.evicted.get sessionId = some workerId) :
    refresh.queue.get sessionId = some workerId := by
  rw [evicted] at h
  split at h
  · split at h
    · exact (of_get_erase h).2
    · exact h
  · exact h

variable (h : refresh.Consistent) {next : HistoryRefresh} {change : RefreshWorker → RefreshWorker}
  {worker : RefreshWorker}
include h

/-- A turn after which each worker is one that was there, for the same session, and each entry
stood before. -/
theorem Consistent.of_workers (htime : next.time = refresh.time + 1)
    (hworkers : ∀ {other worker}, next.workers.get other = some worker →
      ∃ held, refresh.workers.get other = some held ∧ worker.sessionId = held.sessionId)
    (hqueue : ∀ {other otherId}, next.queue.get other = some otherId →
      refresh.queue.get other = some otherId)
    (hpast : ∀ event ∈ next.events, event.time < refresh.time + 1)
    (hserved : ∀ event ∈ next.events, event.installed = true →
      next.Served event ∨ next.Marked event.sessionId) : next.Consistent := by
  refine ⟨?_, ?_, htime ▸ hpast, ?_, ?_, hserved⟩
  · intro other worker hworker
    obtain ⟨held, hheld, -⟩ := hworkers hworker
    exact htime ▸ Nat.lt_succ_of_lt (h.past other held hheld)
  · intro other otherId hother
    exact htime ▸ Nat.lt_succ_of_lt (h.entriesPast other otherId (hqueue hother))
  · intro other otherId worker hother hworker
    obtain ⟨held, hheld, hsession⟩ := hworkers hworker
    exact hsession.trans (h.entries other otherId held (hqueue hother) hheld)
  · intro first second _ _ hfirst hsecond hsame
    obtain ⟨heldFirst, hheldFirst, hfirstSession⟩ := hworkers hfirst
    obtain ⟨heldSecond, hheldSecond, hsecondSession⟩ := hworkers hsecond
    exact h.unique first second heldFirst heldSecond hheldFirst hheldSecond
      (hfirstSession.symm.trans (hsame.trans hsecondSession))

variable (hnext : next.workers = refresh.workers.modify workerId change)
include hnext

omit h in
theorem get_modified (hchange : ∀ worker, (change worker).sessionId = worker.sessionId)
    {other : Nat} (hworker : next.workers.get other = some worker) :
    ∃ held, refresh.workers.get other = some held ∧ worker.sessionId = held.sessionId := by
  rw [hnext, get_modify] at hworker
  split at hworker
  next heq =>
    obtain ⟨held, hheld, rfl⟩ := Option.map_eq_some_iff.mp hworker
    exact ⟨held, heq ▸ hheld, hchange held⟩
  · exact ⟨worker, hworker, rfl⟩

omit h in
/-- A change of one worker that keeps a mark keeps each session marked. -/
theorem Marked.modify (hchange : ∀ worker, worker.queued = true →
      (change worker).sessionId = worker.sessionId ∧ (change worker).queued = true)
    (hmarked : refresh.Marked sessionId) : next.Marked sessionId := by
  obtain ⟨other, worker, hworker, hsession, hqueued⟩ := hmarked
  rw [Marked, hnext]
  by_cases heq : workerId = other
  · subst heq
    refine ⟨workerId, change worker, ?_, (hchange worker hqueued).1.trans hsession,
      (hchange worker hqueued).2⟩
    rw [get_modify, if_pos rfl, hworker]
    rfl
  · exact ⟨other, worker, by rw [get_modify, if_neg heq, hworker], hsession, hqueued⟩

omit hnext

omit h in
theorem mem_received {event : RefreshEvent}
    (hevent : event ∈ refresh.events ++ [⟨refresh.time, sessionId, refresh.handler⟩]) :
    event ∈ refresh.events ∨ event = ⟨refresh.time, sessionId, refresh.handler⟩ := by
  rwa [List.mem_append, List.mem_singleton] at hevent

theorem Consistent.received_past :
    ∀ event ∈ refresh.events ++ [⟨refresh.time, sessionId, refresh.handler⟩],
      event.time < refresh.time + 1 := by
  intro event hevent
  rcases mem_received hevent with hevent | rfl
  · exact Nat.lt_succ_of_lt (h.eventsPast event hevent)
  · exact Nat.lt_succ_self _

theorem Consistent.entry_past {other : String}
    (hother : (refresh.evicted.set sessionId refresh.time).get other = some workerId) :
    workerId < refresh.time + 1 := by
  rw [get_set] at hother
  split at hother
  · rw [← Option.some_inj.mp hother]
    exact Nat.lt_succ_self _
  · exact Nat.lt_succ_of_lt (h.entriesPast other workerId (get_evicted hother))

variable (hmet : ¬ (RefreshTurn.event sessionId).Misses refresh)
include hmet

/-- The event joins the worker of the entry. -/
theorem Consistent.joined (hentry : refresh.queue.get sessionId = some workerId) :
    ({ refresh with
      time := refresh.time + 1
      queue := (refresh.queue.erase sessionId).set sessionId workerId
      workers := refresh.workers.modify workerId fun worker => { worker with queued := true }
      events := refresh.events ++ [⟨refresh.time, sessionId, refresh.handler⟩] } :
      HistoryRefresh).Consistent := by
  have hqueue {other : String} {otherId : Nat}
      (hother : ((refresh.queue.erase sessionId).set sessionId workerId).get other =
        some otherId) : refresh.queue.get other = some otherId :=
    of_get_set rfl hother hentry fun hother => (of_get_erase hother).2
  refine h.of_workers rfl (get_modified rfl (by simp)) hqueue h.received_past ?_
  intro event hevent hinstalled
  rcases mem_received hevent with hevent | rfl
  · exact (h.served event hevent hinstalled).imp id (.modify rfl fun _ _ => ⟨rfl, rfl⟩)
  · right
    cases hworker : refresh.workers.get workerId with
    | none => exact absurd ⟨hinstalled, .inl ⟨workerId, hentry, hworker⟩⟩ hmet
    | some worker =>
      refine ⟨workerId, { worker with queued := true }, ?_,
        h.entries sessionId workerId worker hentry hworker, rfl⟩
      show (refresh.workers.modify workerId _).get workerId = _
      rw [get_modify, if_pos rfl, hworker]
      rfl

/-- A worker starts, the only one of the session. -/
theorem Consistent.started (hnone : refresh.queue.get sessionId = none)
    (hhandler : refresh.handler = true) :
    ({ refresh with
      time := refresh.time + 1
      queue := refresh.evicted.set sessionId refresh.time
      workers := refresh.workers.set refresh.time ⟨sessionId, false, true⟩
      events := refresh.events ++ [⟨refresh.time, sessionId, refresh.handler⟩]
      runs := refresh.runs ++ [⟨sessionId, refresh.time⟩] } : HistoryRefresh).Consistent := by
  have hcases {other : Nat} {worker : RefreshWorker}
      (hworker : (refresh.workers.set refresh.time ⟨sessionId, false, true⟩).get other =
        some worker) :
      (other = refresh.time ∧ worker.sessionId = sessionId) ∨
        refresh.workers.get other = some worker := by
    rw [get_set] at hworker
    split at hworker
    next heq => exact .inl ⟨heq.symm, by rw [← Option.some_inj.mp hworker]⟩
    · exact .inr hworker
  have hfresh {other : Nat} {worker : RefreshWorker}
      (hworker : refresh.workers.get other = some worker) :
      refresh.time ≠ other ∧ worker.sessionId ≠ sessionId :=
    ⟨Nat.ne_of_gt (h.past other worker hworker), fun hsame =>
      hmet ⟨hhandler, .inr ⟨hnone, other, worker, hworker, hsame⟩⟩⟩
  refine ⟨?_, fun _ _ => h.entry_past, h.received_past, ?_, ?_, ?_⟩
  · intro other worker hworker
    rcases hcases hworker with ⟨rfl, -⟩ | hworker
    · exact Nat.lt_succ_self _
    · exact Nat.lt_succ_of_lt (h.past other worker hworker)
  · intro other otherId worker hother hworker
    rw [get_set] at hother
    split at hother
    next heq =>
      rw [← Option.some_inj.mp hother, get_set_self, Option.some_inj] at hworker
      rw [← hworker]
      exact heq
    · rcases hcases hworker with ⟨rfl, -⟩ | hworker
      · exact absurd (h.entriesPast other _ (get_evicted hother)) (Nat.lt_irrefl _)
      · exact h.entries other otherId worker (get_evicted hother) hworker
  · intro first second firstWorker secondWorker hfirst hsecond hsame
    rcases hcases hfirst with ⟨rfl, hfirstSession⟩ | hfirst
    · rcases hcases hsecond with ⟨rfl, -⟩ | hsecond
      · rfl
      · exact absurd (hsame.symm.trans hfirstSession) (hfresh hsecond).2
    · rcases hcases hsecond with ⟨rfl, hsecondSession⟩ | hsecond
      · exact absurd (hsame.trans hsecondSession) (hfresh hfirst).2
      · exact h.unique first second firstWorker secondWorker hfirst hsecond hsame
  · intro event hevent hinstalled
    rcases mem_received hevent with hevent | rfl
    · refine (h.served event hevent hinstalled).imp ?_ ?_
      · rintro ⟨run, hrun, hserves⟩
        exact ⟨run, List.mem_append_left _ hrun, hserves⟩
      · rintro ⟨other, worker, hworker, hmarked⟩
        refine ⟨other, worker, ?_, hmarked⟩
        show (refresh.workers.set refresh.time _).get other = _
        rw [get_set_of_ne _ _ (hfresh hworker).1, hworker]
    · exact .inl ⟨⟨sessionId, refresh.time⟩,
        List.mem_append_right _ (List.mem_singleton.mpr rfl), rfl, le_rfl⟩

omit hmet

/-- Without a handler only the entry is set. -/
theorem Consistent.unheard (hhandler : ¬ refresh.handler = true) :
    ({ refresh with
      time := refresh.time + 1
      queue := refresh.evicted.set sessionId refresh.time
      events := refresh.events ++ [⟨refresh.time, sessionId, refresh.handler⟩] } :
      HistoryRefresh).Consistent := by
  refine ⟨fun other worker hworker => Nat.lt_succ_of_lt (h.past other worker hworker),
    fun _ _ => h.entry_past, h.received_past, ?_, h.unique, ?_⟩
  · intro other otherId worker hother hworker
    rw [get_set] at hother
    split at hother
    · rw [← Option.some_inj.mp hother] at hworker
      exact absurd (h.past _ worker hworker) (Nat.lt_irrefl _)
    · exact h.entries other otherId worker (get_evicted hother) hworker
  · intro event hevent hinstalled
    rcases mem_received hevent with hevent | rfl
    · exact h.served event hevent hinstalled
    · exact absurd hinstalled hhandler

/-- A worker of the session of a served or waiting event stays where it is. -/
theorem Consistent.event (hmet : ¬ (RefreshTurn.event sessionId).Misses refresh) :
    ({ refresh.queueSessionHistoryRefresh sessionId with time := refresh.time + 1 } :
      HistoryRefresh).Consistent := by
  rw [queueSessionHistoryRefresh]
  split
  next workerId hentry => exact h.joined hmet hentry
  next hnone =>
    rw [startWorker]
    split
    next hhandler => exact h.started hmet hnone hhandler
    next hhandler => exact h.unheard hhandler

theorem Consistent.settle (workerId : Nat) :
    ({ refresh.settle workerId with time := refresh.time + 1 } : HistoryRefresh).Consistent := by
  refine h.of_workers rfl (get_modified rfl (by simp)) (fun hother => hother)
    (fun event hevent => Nat.lt_succ_of_lt (h.eventsPast event hevent)) ?_
  intro event hevent hinstalled
  exact (h.served event hevent hinstalled).imp id (.modify rfl fun _ hqueued => ⟨rfl, hqueued⟩)

theorem Consistent.resume (hmet : ¬ (RefreshTurn.resume workerId).Misses refresh) :
    ({ refresh.resume workerId with time := refresh.time + 1 } : HistoryRefresh).Consistent := by
  rw [HistoryRefresh.resume]
  split
  · exact h.wait refresh.handler
  next worker hworker =>
    split
    · exact h.wait refresh.handler
    next hsettled =>
      split
      next _ =>
        -- the next run serves every event so far
        have hworkers {other : Nat} {found : RefreshWorker}
            (hfound : (refresh.workers.set workerId
              { worker with queued := false, running := true }).get other = some found) :
            ∃ held, refresh.workers.get other = some held ∧ found.sessionId = held.sessionId :=
          of_get_set rfl hfound ⟨worker, hworker, rfl⟩ fun hfound => ⟨found, hfound, rfl⟩
        refine h.of_workers rfl hworkers (fun hother => hother)
          (fun event hevent => Nat.lt_succ_of_lt (h.eventsPast event hevent)) ?_
        intro event hevent hinstalled
        rcases h.served event hevent hinstalled with ⟨run, hrun, hserves⟩ | hmarked
        · exact .inl ⟨run, List.mem_append_left _ hrun, hserves⟩
        · obtain ⟨other, found, hfound, hsession, hqueued⟩ := hmarked
          by_cases heq : workerId = other
          · subst heq
            rw [hworker, Option.some_inj] at hfound
            subst hfound
            exact .inl ⟨⟨worker.sessionId, refresh.time⟩,
              List.mem_append_right _ (List.mem_singleton.mpr rfl), hsession,
              Nat.le_of_lt (h.eventsPast event hevent)⟩
          · refine .inr ⟨other, found, ?_, hsession, hqueued⟩
            show (refresh.workers.set workerId _).get other = _
            rw [get_set_of_ne _ _ heq, hfound]
      next hends =>
        refine h.of_workers rfl (fun hfound => ⟨_, (of_get_erase hfound).2, rfl⟩)
          (fun hother => (of_get_erase hother).2)
          (fun event hevent => Nat.lt_succ_of_lt (h.eventsPast event hevent)) ?_
        intro event hevent hinstalled
        by_cases hserved : refresh.Served event
        · exact .inl hserved
        · obtain ⟨other, found, hfound, hsession, hqueued⟩ :=
            (h.served event hevent hinstalled).resolve_left hserved
          have hne : workerId ≠ other := by
            rintro rfl
            rw [hworker, Option.some_inj] at hfound
            subst hfound
            cases hhandler : refresh.handler with
            | true =>
              rw [hqueued, hhandler] at hends
              exact hends rfl
            | false =>
              exact hmet ⟨hhandler, worker, hworker, Bool.eq_false_iff.mpr hsettled, hqueued,
                event, hevent, hinstalled, hsession.symm, hserved⟩
          refine .inr ⟨other, found, ?_, hsession, hqueued⟩
          show (refresh.workers.erase workerId).get other = _
          rw [get_erase_of_ne _ hne, hfound]

theorem Consistent.turn {turn : RefreshTurn} (hmet : ¬ turn.Misses refresh) :
    ({ turn.apply refresh with time := refresh.time + 1 } : HistoryRefresh).Consistent := by
  cases turn with
  | setHandler => exact h.wait _
  | event => exact h.event hmet
  | settle => exact h.settle _
  | resume => exact h.resume hmet

theorem Consistent.runs_again (hworker : refresh.workers.get workerId = some worker)
    (hqueued : worker.queued = true) (hhandler : refresh.handler = true) :
    ∃ run ∈ (historyRefresh.run refresh [.settle workerId, .resume workerId]).runs,
      run.sessionId = worker.sessionId ∧ ∀ event ∈ refresh.events, event.time ≤ run.started := by
  have hsettled : (refresh.settle workerId).workers.get workerId =
      some { worker with running := false } := by
    rw [HistoryRefresh.settle, get_modify, if_pos rfl, hworker]
    rfl
  refine ⟨⟨worker.sessionId, refresh.time + 1⟩, ?_, rfl, fun event hevent =>
    Nat.le_of_lt (Nat.lt_succ_of_lt (h.eventsPast event hevent))⟩
  show _ ∈ (HistoryRefresh.resume { refresh.settle workerId with time := refresh.time + 1 }
    workerId).runs
  have hagain : (worker.queued && refresh.handler) = true := by rw [hqueued, hhandler]; rfl
  rw [HistoryRefresh.resume, hsettled]
  dsimp only
  rw [if_neg Bool.false_ne_true, show (refresh.settle workerId).handler = refresh.handler from rfl,
    if_pos hagain]
  exact List.mem_append_right _ (List.mem_singleton.mpr rfl)

theorem Consistent.refreshes : refresh.Refreshes where
  served := h.served
  again _ _ := h.runs_again
  single first second firstWorker secondWorker hfirst hsecond _ _ :=
    h.unique first second firstWorker secondWorker hfirst hsecond

end HistoryRefresh

theorem refreshes_run (turns : List RefreshTurn)
    (hmet : ∀ moment ∈ historyRefresh.history .empty turns, ¬ moment.input.Misses moment.before) :
    (historyRefresh.run .empty turns).Refreshes :=
  (historyRefresh.history_invariant_of (fun moment => ¬ moment.input.Misses moment.before)
    (fun _ refresh => refresh.Consistent) (fun _ _ _ h hmet => h.turn hmet) .empty
    HistoryRefresh.consistent_empty turns hmet).refreshes

/-! ## No request is swallowed -/

/-- In every run of the coordinator without a forced call that comes too late, and in every run of
the refresh queue without a turn that misses an event, each request is answered and at most one
sync and one refresh of a session run. -/
theorem refresh_requests_answered (syncTurns : List SyncTurn) (refreshTurns : List RefreshTurn)
    (hintime : ∀ moment ∈ syncCoordinator.history .empty syncTurns,
      ¬ moment.input.TooLate moment.before)
    (hmet : ∀ moment ∈ historyRefresh.history .empty refreshTurns,
      ¬ moment.input.Misses moment.before) :
    (syncCoordinator.run .empty syncTurns).Serves ∧
      (historyRefresh.run .empty refreshTurns).Refreshes :=
  ⟨serves_run syncTurns hintime, refreshes_run refreshTurns hmet⟩

/-- A forced call joins a running sync; an event joins a running worker. -/
theorem refresh_requests_answered_joined :
    (syncCoordinator.run .empty [.call "session" none,
        .call "session" (some ⟨true, .empty⟩)]).Serves ∧
      (historyRefresh.run .empty [.setHandler true, .event "session",
        .event "session"]).Refreshes := by
  refine refresh_requests_answered _ _ ?_ ?_
  · have hrunning : ((syncCoordinator.run .empty [.call "session" none]).existing "session").map
        (fun found => found.2.phase.runningSync.isSome) = some true := by decide +kernel
    rintro moment (_ | ⟨_, _ | ⟨_, hnone⟩⟩)
    · rintro ⟨sessionId, options, hturn, hforce, -⟩
      cases hturn
      cases hforce
    · rintro ⟨sessionId, options, hturn, -, loopId, found, hexisting, hphase⟩
      cases hturn
      rw [show (syncCoordinator.run .empty [.call "session" none]).existing "session" =
        some (loopId, found) from hexisting, Option.map_some, Option.some_inj] at hrunning
      rcases hphase with ⟨_, hphase⟩ | ⟨_, _, hphase⟩ <;>
        · rw [hphase] at hrunning
          cases hrunning
    · cases hnone
  · have halive : ((historyRefresh.run .empty [.setHandler true, .event "session"]).queue.get
        "session", (historyRefresh.run .empty [.setHandler true, .event "session"]).workers.get
          1) = (some 1, some ⟨"session", false, true⟩) := by decide +kernel
    obtain ⟨hentry, hworker⟩ := Prod.mk.inj halive
    rintro moment (_ | ⟨_, _ | ⟨_, _ | ⟨_, hnone⟩⟩⟩)
    · exact id
    · rintro ⟨-, ⟨workerId, hqueued, -⟩ | ⟨-, workerId, worker, halive, -⟩⟩
      · cases hqueued
      · cases halive
    · rintro ⟨-, ⟨workerId, hqueued, hended⟩ | ⟨hqueued, -⟩⟩
      · obtain rfl := Option.some_inj.mp (hentry.symm.trans hqueued)
        cases hworker.symm.trans hended
      · cases hentry.symm.trans hqueued
    · cases hnone

/-- An event before the handler is installed leaves an entry that swallows the next one. -/
def deadEntry : List RefreshTurn := [.event "session", .setHandler true, .event "session"]

/-- The coordinator answers a forced call with the sync before it, and the queue loses an event. -/
theorem refresh_requests_swallowed :
    (¬ ∀ turns, (syncCoordinator.run .empty turns).Serves) ∧
      ¬ ∀ turns, (historyRefresh.run .empty turns).Refreshes := by
  constructor
  · intro h
    have hmem : (3, true, 0, false, true) ∈ (syncCoordinator.run .empty lateCall).answers.map
        fun answer => (answer.call.time, answer.call.force, answer.sync.started,
          answer.sync.force, answer.success) := by
      rw [lateCall_answered]
      exact .tail _ (List.mem_singleton.mpr rfl)
    obtain ⟨answer, hanswer, heq⟩ := List.mem_map.mp hmem
    simp only [Prod.mk.injEq] at heq
    rcases (h lateCall).fair answer hanswer heq.2.1 with ⟨hforced, -⟩ | ⟨hfailed, -⟩
    · rw [heq.2.2.2.1] at hforced
      cases hforced
    · rw [heq.2.2.2.2] at hfailed
      cases hfailed
  · intro h
    have hevent : (⟨2, "session", true⟩ : RefreshEvent) ∈
        (historyRefresh.run .empty deadEntry).events := by decide +kernel
    have hnothing : ((historyRefresh.run .empty deadEntry).runs,
        (historyRefresh.run .empty deadEntry).workers.entries) = ([], []) := by decide +kernel
    obtain ⟨hruns, hworkers⟩ := Prod.mk.inj hnothing
    rcases (h deadEntry).served _ hevent rfl with ⟨run, hrun, -⟩ | ⟨workerId, worker, hworker, -⟩
    · rw [hruns] at hrun
      cases hrun
    · rw [get_eq_some_iff, hworkers] at hworker
      cases hworker

end OpenCowork.Runtime
