import OpenCowork.ControlPlane.AppendIntegrity

/-! # The projection lag

How far the projections of the recently updated sessions are behind their event logs. The
two stores compute it from the counter of each log; what it is meant to be is a number of
events.
-/

namespace OpenCowork.ControlPlane

open Foundation

/-- The largest of some numbers, zero when there are none. -/
def greatest (numbers : List Nat) : Nat := numbers.foldr max 0

@[simp] theorem greatest_nil : greatest [] = 0 := rfl

@[simp] theorem greatest_cons (first : Nat) (rest : List Nat) :
    greatest (first :: rest) = max first (greatest rest) := rfl

theorem greatest_eq_zero_iff (numbers : List Nat) :
    greatest numbers = 0 ↔ ∀ number ∈ numbers, number = 0 := by
  induction numbers with
  | nil => simp
  | cons _ _ ih =>
    rw [greatest_cons, List.forall_mem_cons, ← ih]
    omega

theorem greatest_pred (numbers : List Nat) :
    greatest (numbers.map fun number => number - 1) = greatest numbers - 1 := by
  induction numbers with
  | nil => rfl
  | cons _ _ ih =>
    rw [List.map_cons, greatest_cons, greatest_cons, ih]
    omega

/-- `Date.now() - 60 * 60 * 1000`. -/
def lagWindowStart (dateNow : Instant) : Instant := dateNow - 60 * 60 * 1000

theorem length_filter_range' (first last : Nat) :
    ((List.range' 1 last).filter fun number => decide (first < number)).length = last - first := by
  induction last with
  | zero => simp
  | succ last ih =>
    rw [List.range'_concat, List.filter_append, List.length_append, ih]
    by_cases hlast : first < 1 + 1 * last
    · rw [List.filter_cons_of_pos (by simpa using hlast), List.filter_nil,
        List.length_singleton]
      omega
    · rw [List.filter_cons_of_neg (by simpa using hlast), List.filter_nil, List.length_nil]
      omega

def eventsBeyond (log : List SessionEventRecord) (sequence : Nat) : List SessionEventRecord :=
  log.filter fun event => decide (sequence < event.sequence)

theorem eventsBeyond_length {log : List SessionEventRecord} {last : Nat}
    (hnumbered : log.map SessionEventRecord.sequence = List.range' 1 last) (sequence : Nat) :
    (eventsBeyond log sequence).length = last - sequence := by
  rw [← length_filter_range' sequence last, ← hnumbered, List.filter_map, List.length_map]
  rfl

/-! ## The in-memory store -/

namespace SessionState

variable (session : SessionState)

/-- The log is numbered from one up to the counter. -/
def Numbered : Prop :=
  session.events.map SessionEventRecord.sequence = List.range' 1 session.nextEventSequence

/-- The session was updated within the last hour. -/
def recentlyUpdated (dateNow : Instant) : Bool :=
  decide (lagWindowStart dateNow < session.record.updatedAt)

/-- The events that the projection does not cover. -/
def unprojected : List SessionEventRecord := eventsBeyond session.events session.projectionSequence

theorem Numbered.pushEvent {session : SessionState} (hnumbered : session.Numbered)
    {event : SessionEventRecord} (hsequence : event.sequence = session.nextEventSequence + 1) :
    (session.pushEvent event).Numbered := by
  unfold Numbered at hnumbered ⊢
  rw [SessionState.pushEvent, List.map_append, hnumbered, List.map_singleton, hsequence,
    List.range'_concat, Nat.one_mul, Nat.add_comm 1]

theorem numbered_frame (env : Environment) :
    UnprunedFrame env fun before after => before.Numbered → after.Numbered where
  refl _ := id
  trans hfirst hsecond := hsecond ∘ hfirst
  step hstep := by cases hstep <;> exact id
  described _ _ _ _ _ := id
  appended session input now hnumbered := by
    unfold appendSessionEvent
    split
    · exact hnumbered
    · dsimp only
      split
      · split <;> exact hnumbered
      · exact hnumbered.pushEvent rfl
  projected session input now hnumbered := by
    unfold writeSessionProjection storeProjection
    split
    · exact hnumbered
    · split
      · exact hnumbered
      · split
        · split <;> exact hnumbered
        · exact hnumbered

end SessionState

namespace ControlPlaneStore

variable {σ : Type} (context : StoreContext σ) {dateNow : Instant} {session : SessionState}
  {store : ControlPlaneStore σ}

/-- One turn of the loop of `getMaxProjectionLag`. -/
def lagWith (dateNow : Instant) (maxLag : Int) (session : SessionState) : Int :=
  if session.nextEventSequence ≤ 0 then maxLag
  else if session.record.updatedAt ≤ lagWindowStart dateNow then maxLag
  else max maxLag ((session.nextEventSequence : Int) - 1 - session.projectionSequence)

def getMaxProjectionLag (store : ControlPlaneStore σ) (dateNow : Instant) : Int :=
  store.sessions.values.foldl (lagWith dateNow) 0

/-- The sessions that the lag is about. -/
def recentSessions (store : ControlPlaneStore σ) (dateNow : Instant) : List SessionState :=
  store.sessions.values.filter (·.recentlyUpdated dateNow)

/-- The number of events that the projection of some recent session is behind at most. -/
def maxUnprojected (store : ControlPlaneStore σ) (dateNow : Instant) : Nat :=
  greatest ((store.recentSessions dateNow).map fun session => session.unprojected.length)

/-- Every recent session is projected up to the end of its log. -/
def CaughtUp (store : ControlPlaneStore σ) (dateNow : Instant) : Prop :=
  ∀ session ∈ store.recentSessions dateNow, ∀ event ∈ session.events,
    event.sequence ≤ session.projectionSequence

instance (store : ControlPlaneStore σ) (dateNow : Instant) : Decidable (store.CaughtUp dateNow) :=
  inferInstanceAs (Decidable (∀ session ∈ _, ∀ event ∈ _, _))

theorem lagWith_old (hold : session.recentlyUpdated dateNow = false) (maxLag : Int) :
    lagWith dateNow maxLag session = maxLag := by
  unfold lagWith
  split
  · rfl
  · exact if_pos (not_lt.mp (of_decide_eq_false hold))

theorem lagWith_recent
    (hnumbered : session.Numbered) (hrecent : session.recentlyUpdated dateNow = true)
    (maxLag : Nat) :
    lagWith dateNow maxLag session = (max maxLag (session.unprojected.length - 1) : Nat) := by
  have hlength : session.unprojected.length =
      session.nextEventSequence - session.projectionSequence := eventsBeyond_length hnumbered _
  have hwindow := of_decide_eq_true hrecent
  unfold lagWith
  split
  · omega
  · rw [if_neg (not_le.mpr hwindow)]
    omega

theorem foldl_lagWith (dateNow : Instant) {sessions : List SessionState}
    (hnumbered : ∀ session ∈ sessions, session.Numbered) (maxLag : Nat) :
    sessions.foldl (lagWith dateNow) maxLag =
      (max maxLag (greatest ((sessions.filter (·.recentlyUpdated dateNow)).map fun session =>
        session.unprojected.length - 1)) : Nat) := by
  induction sessions generalizing maxLag with
  | nil => simp
  | cons session _ ih =>
    obtain ⟨hsession, hrest⟩ := List.forall_mem_cons.mp hnumbered
    rw [List.foldl_cons]
    cases hrecent : session.recentlyUpdated dateNow with
    | false => rw [lagWith_old hrecent, ih hrest, List.filter_cons_of_neg (by simpa using hrecent)]
    | true =>
      rw [lagWith_recent hsession hrecent, ih hrest,
        List.filter_cons_of_pos (by simpa using hrecent), List.map_cons, greatest_cons,
        max_assoc]

theorem getMaxProjectionLag_eq
    (hnumbered : ∀ session ∈ store.sessions.values, session.Numbered) (dateNow : Instant) :
    store.getMaxProjectionLag dateNow = (store.maxUnprojected dateNow - 1 : Nat) := by
  have hfold := foldl_lagWith dateNow hnumbered 0
  rw [Nat.zero_max] at hfold
  have hpred := greatest_pred ((store.recentSessions dateNow).map fun session =>
    session.unprojected.length)
  rw [List.map_map] at hpred
  rw [maxUnprojected, ← hpred]
  exact hfold

theorem maxUnprojected_eq_zero_iff (store : ControlPlaneStore σ) (dateNow : Instant) :
    store.maxUnprojected dateNow = 0 ↔ store.CaughtUp dateNow := by
  rw [maxUnprojected, greatest_eq_zero_iff, List.forall_mem_map]
  apply forall₂_congr
  intro _ _
  rw [SessionState.unprojected, eventsBeyond, List.length_eq_zero_iff, List.filter_eq_nil_iff]
  simp

theorem getMaxProjectionLag_eq_iff
    (hnumbered : ∀ session ∈ store.sessions.values, session.Numbered) (dateNow : Instant) :
    store.getMaxProjectionLag dateNow = store.maxUnprojected dateNow ↔
      store.CaughtUp dateNow := by
  rw [getMaxProjectionLag_eq hnumbered, ← maxUnprojected_eq_zero_iff]
  omega

theorem run_numbered (neighbours : σ) (requests : List StoreRequest)
    (hunpruned : ∀ request ∈ requests, ∀ olderThan limit,
      request.operation ≠ .pruneExpiredSessionEvents olderThan limit) :
    ∀ session ∈ ((machine context).run (initial neighbours) requests).sessions.values,
      session.Numbered := by
  suffices hrun : ∀ store : ControlPlaneStore σ,
      (∀ session ∈ store.sessions.values, session.Numbered) →
      ∀ session ∈ ((machine context).run store requests).sessions.values, session.Numbered from
    hrun _ fun session hsession => absurd hsession List.not_mem_nil
  induction requests with
  | nil => exact fun store => id
  | cons request _ ih =>
    intro store hstore
    rw [List.forall_mem_cons] at hunpruned
    apply ih hunpruned.2
    have hkept := store.perform_kept_unpruned context
      (SessionState.numbered_frame context.env) request hunpruned.1
    intro session hsession
    obtain ⟨sessionKey, hget⟩ := (OrderedMap.mem_values_iff _ _).mp hsession
    cases hbefore : store.sessions.get sessionKey with
    | none =>
      obtain ⟨_, _, -, rfl⟩ := hkept.fresh sessionKey session hbefore hget
      rfl
    | some before =>
      obtain ⟨_, hnext, hnumbered⟩ := hkept.kept sessionKey before hbefore
      obtain rfl := Option.mem_unique hget hnext
      exact hnumbered (hstore before ((OrderedMap.mem_values_iff _ _).mpr ⟨sessionKey, hbefore⟩))

end ControlPlaneStore

/-! ## The Postgres store -/

inductive ProjectionCall where
  | appendSessionEvent (input : AppendEventInput)
  | writeSessionProjection (input : WriteProjectionInput)
  | appendProjectedSessionEvent (input : AppendProjectedSessionEventInput)

/-- A call and the reading of the clock at which it is made. -/
structure ProjectionRequest where
  now : Instant
  call : ProjectionCall

namespace PostgresStore

variable {σ : Type} (context : StoreContext σ)

/-- What a call leaves of the tables. -/
def perform (store : PostgresStore σ) (request : ProjectionRequest) : PostgresStore σ :=
  match request.call with
  | .appendSessionEvent input => (store.appendSessionEvent context input request.now).2
  | .writeSessionProjection input => (store.writeSessionProjection context input request.now).2
  | .appendProjectedSessionEvent input =>
    (store.appendProjectedSessionEvent context input request.now).2

def projectionMachine : Machine (PostgresStore σ) ProjectionRequest Unit where
  step := fun store request => ((), store.perform context request)

/-- `coalesce(p.sequence, 0)` of the joined projection row. -/
def projectedSequence (store : PostgresStore σ) (primaryKey : String × String) : Nat :=
  ((store.sessionProjections.get primaryKey).map SessionProjectionRecord.sequence).getD 0

/-- `GREATEST(0, s.next_event_sequence - 1 - coalesce(p.sequence, 0))`. -/
def lagOf (store : PostgresStore σ) (entry : (String × String) × SessionRow) : Int :=
  max 0 ((entry.2.nextEventSequence : Int) - 1 - store.projectedSequence entry.1)

/-- The rows updated within the last hour. -/
def recentSessions (store : PostgresStore σ) (now : Instant) :
    List ((String × String) × SessionRow) :=
  store.sessions.entries.filter fun entry =>
    decide (lagWindowStart now < entry.2.record.updatedAt)

def getMaxProjectionLag (store : PostgresStore σ) (now : Instant) : Int :=
  (((store.recentSessions now).filter fun entry => decide (0 < entry.2.nextEventSequence)).map
    store.lagOf).foldr max 0

def unprojected (store : PostgresStore σ) (primaryKey : String × String) :
    List SessionEventRecord :=
  eventsBeyond (store.sessionLog primaryKey.1 primaryKey.2) (store.projectedSequence primaryKey)

def maxUnprojected (store : PostgresStore σ) (now : Instant) : Nat :=
  greatest ((store.recentSessions now).map fun entry => (store.unprojected entry.1).length)

/-- Every recent session is projected up to the end of its log. -/
def CaughtUp (store : PostgresStore σ) (now : Instant) : Prop :=
  ∀ entry ∈ store.recentSessions now, ∀ event ∈ store.sessionLog entry.1.1 entry.1.2,
    event.sequence ≤ store.projectedSequence entry.1

instance (store : PostgresStore σ) (now : Instant) : Decidable (store.CaughtUp now) :=
  inferInstanceAs (Decidable (∀ entry ∈ _, ∀ event ∈ _, _))

/-! ### What the statements leave of the logs -/

structure SameLogs (before after : PostgresStore σ) : Prop where
  events : after.sessionEvents = before.sessionEvents
  counters : ∀ primaryKey row, after.sessions.get primaryKey = some row →
    ∃ old, before.sessions.get primaryKey = some old ∧
      row.nextEventSequence = old.nextEventSequence

namespace SameLogs

variable {first second third : PostgresStore σ}

theorem of_same (hevents : second.sessionEvents = first.sessionEvents)
    (hsessions : second.sessions = first.sessions) : SameLogs first second :=
  ⟨hevents, fun _ row hget => ⟨row, hsessions ▸ hget, rfl⟩⟩

theorem trans (hfirst : SameLogs first second) (hsecond : SameLogs second third) :
    SameLogs first third := by
  refine ⟨hsecond.events.trans hfirst.events, ?_⟩
  intro primaryKey row hget
  obtain ⟨middle, hmiddle, hrow⟩ := hsecond.counters primaryKey row hget
  obtain ⟨old, hold, hcounter⟩ := hfirst.counters primaryKey middle hmiddle
  exact ⟨old, hold, hrow.trans hcounter⟩

theorem touch (store : PostgresStore σ) (tenantId sessionId : String)
    (status : Option SessionStatus) (updatedAt : Instant) :
    SameLogs store (store.touchSession tenantId sessionId status updatedAt) := by
  refine ⟨rfl, ?_⟩
  intro _ row hget
  rw [touchSession, updateSession, OrderedMap.get_modify] at hget
  split at hget
  next hkey =>
    obtain ⟨old, hold, rfl⟩ := Option.map_eq_some_iff.mp hget
    exact ⟨old, hkey ▸ hold, rfl⟩
  · exact ⟨row, hget, rfl⟩

theorem intact (hsame : SameLogs first second) (hintact : first.Intact) : second.Intact := by
  have hlog : ∀ tenantId sessionId,
      second.sessionLog tenantId sessionId = first.sessionLog tenantId sessionId := by
    intro tenantId sessionId
    rw [sessionLog, sessionLog, hsame.events]
  refine ⟨?_, ?_, ?_⟩
  · intro primaryKey event hget
    exact hintact.keyed primaryKey event (hsame.events ▸ hget)
  · intro tenantId sessionId row hget
    obtain ⟨old, hold, hcounter⟩ := hsame.counters _ row hget
    rw [hlog, hcounter, hintact.counted _ _ old hold]
  · intro tenantId sessionId row hget
    obtain ⟨old, hold, _⟩ := hsame.counters _ row hget
    rw [hlog]
    exact hintact.log _ _ old hold

end SameLogs

variable {context} {store : PostgresStore σ}
variable {next : PostgresStore σ} {now : Instant} {input : AppendProjectedSessionEventInput}

theorem finishWorkflowRun_sameLogs {input : FinishWorkflowRunInput}
    {run : Option CloudWorkflowRunRecord}
    (hfinish : store.finishWorkflowRun context input now = .ok (run, next)) :
    SameLogs store next := by
  unfold finishWorkflowRun at hfinish
  split at hfinish
  · simp at hfinish
  · split at hfinish
    · obtain rfl := (Prod.mk.inj (Except.ok.inj hfinish)).2
      exact .of_same rfl rfl
    · split at hfinish
      · obtain rfl := (Prod.mk.inj (Except.ok.inj hfinish)).2
        exact .of_same rfl rfl
      · split at hfinish
        · simp at hfinish
        · obtain rfl := (Prod.mk.inj (Except.ok.inj hfinish)).2
          exact .of_same rfl rfl

theorem applyTerminal_sameLogs {terminal : Option WorkflowTerminal}
    (happly : store.applyTerminal context terminal now = .ok next) : SameLogs store next := by
  unfold applyTerminal at happly
  split at happly
  · obtain rfl := Except.ok.inj happly
    exact .of_same rfl rfl
  · obtain ⟨⟨_, _⟩, hfinish, rfl⟩ := ControlPlaneStore.map_eq_ok happly
    exact finishWorkflowRun_sameLogs hfinish
  · obtain ⟨⟨_, _⟩, hfinish, rfl⟩ := ControlPlaneStore.map_eq_ok happly
    exact finishWorkflowRun_sameLogs hfinish

theorem recordWorkspaceEvent_sameLogs {userId : String} {event : SessionEventRecord}
    {draft : WorkspaceDraft} {answer : WorkspaceEventRow × Bool}
    (hrecord : store.recordWorkspaceEvent context userId input event draft = .ok (answer, next)) :
    SameLogs store next := by
  unfold recordWorkspaceEvent at hrecord
  split at hrecord
  · split at hrecord
    · obtain rfl := (Prod.mk.inj (Except.ok.inj hrecord)).2
      exact .of_same rfl rfl
    · simp at hrecord
  · split at hrecord
    · simp at hrecord
    · dsimp only at hrecord
      split at hrecord
      · simp at hrecord
      next hinsert =>
        obtain rfl := (Prod.mk.inj (Except.ok.inj hrecord)).2
        unfold insertWorkspaceEvent at hinsert
        split at hinsert
        · simp at hinsert
        · split at hinsert
          · simp at hinsert
          · obtain rfl := Except.ok.inj hinsert
            exact .of_same rfl rfl

theorem recordSessionEvent_intact {row : SessionRow} {input : AppendEventInput}
    {answer : SessionEventRecord × Bool} (hintact : store.Intact)
    (hget : store.sessions.get (input.tenantId, input.sessionId) = some row)
    (hrecord : store.recordSessionEvent context row input now = .ok (answer, next)) :
    next.Intact := by
  have hrecording := recordSessionEvent_recording context hintact.keyed row input now
    (hintact.counter hget)
  rw [hrecord] at hrecording
  cases hrecording with
  | replayed => exact hintact
  | inserted hfree => exact inserted_intact hintact hget hfree

theorem applyProjectedEventEffects_sameLogs {updatedAt : Instant}
    (happly : store.applyProjectedEventEffects context input updatedAt now = .ok next) :
    SameLogs store next := by
  unfold applyProjectedEventEffects at happly
  dsimp only at happly
  split at happly
  · exact applyTerminal_sameLogs happly
  next status _ =>
    exact (SameLogs.touch store input.tenantId input.sessionId (some status) updatedAt).trans
      (applyTerminal_sameLogs happly)

variable (hintact : store.Intact)
include hintact

theorem projectSessionEvent_intact {result : PostgresAppendResult}
    (hproject : store.projectSessionEvent context input now = .ok (result, next)) :
    next.Intact := by
  unfold projectSessionEvent at hproject
  split at hproject
  · simp at hproject
  next row hsession =>
  split at hproject
  · simp at hproject
  split at hproject
  · simp at hproject
  next event _ appended hevent =>
  have happended : appended.Intact :=
    recordSessionEvent_intact hintact (requireSession_get hsession) hevent
  split at hproject
  · simp at hproject
  split at hproject
  · simp at hproject
  split at hproject
  · simp at hproject
  next written hworkspace =>
  have hwritten : written.Intact := (recordWorkspaceEvent_sameLogs hworkspace).intact happended
  dsimp only at hproject
  split at hproject
  · split at hproject
    · simp at hproject
    next happly =>
      obtain rfl := (Prod.mk.inj (Except.ok.inj hproject)).2
      exact (applyProjectedEventEffects_sameLogs happly).intact hwritten
  · split at hproject
    · simp at hproject
    · split at hproject
      · simp at hproject
      next view updatedAt _ _ _ happly =>
        obtain rfl := (Prod.mk.inj (Except.ok.inj hproject)).2
        -- the projection row is written, then the session is touched
        have hupserted : SameLogs written (written.upsertProjection
            { tenantId := input.tenantId
              sessionId := input.sessionId
              sequence := event.sequence
              view := view
              updatedAt := updatedAt.getD event.createdAt }) := .of_same rfl rfl
        exact ((hupserted.trans (.touch _ _ _ _ _)).trans
          (applyTerminal_sameLogs happly)).intact hwritten

theorem storeProjection_intact {input : WriteProjectionInput} {projection : SessionProjectionRecord}
    (hwrite : store.storeProjection context input now = .ok (projection, next)) : next.Intact := by
  unfold storeProjection at hwrite
  split at hwrite
  · simp at hwrite
  split at hwrite
  · simp at hwrite
  split at hwrite
  · simp at hwrite
  dsimp only at hwrite
  split at hwrite
  · simp at hwrite
  split at hwrite
  · split at hwrite
    · simp at hwrite
    · obtain rfl := (Prod.mk.inj (Except.ok.inj hwrite)).2
      exact hintact
  · obtain ⟨rfl, rfl⟩ := Prod.mk.inj (Except.ok.inj hwrite)
    have hupserted : SameLogs store (store.upsertProjection
        { tenantId := input.tenantId
          sessionId := input.sessionId
          sequence := input.sequence
          view := input.view
          updatedAt := input.updatedAt.getD now }) := .of_same rfl rfl
    exact (hupserted.trans (.touch _ _ _ _ _)).intact hintact

theorem withTransaction_intact {α : Type} {body : Transaction σ α}
    (hbody : ∀ value next, body = .ok (value, next) → next.Intact) :
    (store.withTransaction body).2.Intact := by
  rcases hresult : body with _ | ⟨value, next⟩
  · exact hintact
  · exact hbody value next hresult

theorem perform_intact (request : ProjectionRequest) : (store.perform context request).Intact := by
  obtain ⟨_, call⟩ := request
  cases call with
  | appendSessionEvent => exact appendSessionEvent_intact hintact
  | writeSessionProjection =>
    exact withTransaction_intact hintact fun _ _ hwrite => storeProjection_intact hintact hwrite
  | appendProjectedSessionEvent =>
    exact withTransaction_intact hintact fun _ _ hproject =>
      projectSessionEvent_intact hintact hproject

omit hintact

theorem run_intact (hunwritten : store.Unwritten) (requests : List ProjectionRequest) :
    ((projectionMachine context).run store requests).Intact :=
  (projectionMachine context).run_invariant PostgresStore.Intact
    (fun _ request hintact => perform_intact hintact request) store hunwritten.intact requests

variable (hintact : store.Intact)
include hintact

theorem lagOf_eq {entry : (String × String) × SessionRow}
    (hentry : entry ∈ store.sessions.entries) :
    store.lagOf entry = ((store.unprojected entry.1).length - 1 : Nat) := by
  have hget : store.sessions.get (entry.1.1, entry.1.2) = some entry.2 :=
    (OrderedMap.get_eq_some_iff _ _ _).mpr hentry
  have hlength : (store.unprojected entry.1).length =
      entry.2.nextEventSequence - store.projectedSequence entry.1 := by
    rw [hintact.counted _ _ _ hget]
    exact eventsBeyond_length (hintact.log _ _ _ hget).numbered _
  rw [lagOf, hlength]
  omega

theorem foldr_lagOf {entries : List ((String × String) × SessionRow)}
    (hentries : ∀ entry ∈ entries, entry ∈ store.sessions.entries) :
    ((entries.filter fun entry => decide (0 < entry.2.nextEventSequence)).map
        store.lagOf).foldr max 0 =
      (greatest (entries.map fun entry => (store.unprojected entry.1).length - 1) : Nat) := by
  induction entries with
  | nil => rfl
  | cons entry _ ih =>
    obtain ⟨hentry, hrest⟩ := List.forall_mem_cons.mp hentries
    have hlag := lagOf_eq hintact hentry
    rw [List.map_cons, greatest_cons]
    by_cases hempty : 0 < entry.2.nextEventSequence
    · rw [List.filter_cons_of_pos (by simpa using hempty), List.map_cons, List.foldr_cons,
        ih hrest, hlag]
      omega
    · -- a session without events is left out, and would not count
      have hzero : store.lagOf entry = 0 := by
        rw [lagOf]
        omega
      rw [List.filter_cons_of_neg (by simpa using hempty), ih hrest]
      omega

theorem getMaxProjectionLag_eq (now : Instant) :
    store.getMaxProjectionLag now = (store.maxUnprojected now - 1 : Nat) := by
  have hpred := greatest_pred ((store.recentSessions now).map fun entry =>
    (store.unprojected entry.1).length)
  rw [List.map_map] at hpred
  rw [maxUnprojected, ← hpred]
  apply foldr_lagOf hintact
  intro entry hentry
  exact (List.mem_filter.mp hentry).1

omit hintact in
theorem maxUnprojected_eq_zero_iff (store : PostgresStore σ) (now : Instant) :
    store.maxUnprojected now = 0 ↔ store.CaughtUp now := by
  rw [maxUnprojected, greatest_eq_zero_iff, List.forall_mem_map]
  apply forall₂_congr
  intro _ _
  rw [unprojected, eventsBeyond, List.length_eq_zero_iff, List.filter_eq_nil_iff]
  simp

theorem getMaxProjectionLag_eq_iff (now : Instant) :
    store.getMaxProjectionLag now = store.maxUnprojected now ↔ store.CaughtUp now := by
  rw [getMaxProjectionLag_eq hintact, ← maxUnprojected_eq_zero_iff]
  omega

end PostgresStore

/-! ## The lag along a run -/

/-- In both stores, and whatever was appended and projected, the reported lag is the number
of events that some recently updated session is behind at most, exactly when there are none:
otherwise it is one less. -/
theorem projection_lag_exact_iff {σ : Type} (context : StoreContext σ) (neighbours : σ)
    (requests : List StoreRequest)
    (hunpruned : ∀ request ∈ requests, ∀ olderThan limit,
      request.operation ≠ .pruneExpiredSessionEvents olderThan limit)
    (tables : PostgresStore σ) (htables : tables.Unwritten) (calls : List ProjectionRequest)
    (now : Instant) :
    let store := (ControlPlaneStore.machine context).run (.initial neighbours) requests
    let postgres := (PostgresStore.projectionMachine context).run tables calls
    (store.getMaxProjectionLag now = store.maxUnprojected now ↔ store.CaughtUp now) ∧
      (postgres.getMaxProjectionLag now = postgres.maxUnprojected now ↔ postgres.CaughtUp now) :=
  ⟨ControlPlaneStore.getMaxProjectionLag_eq_iff
      (ControlPlaneStore.run_numbered context neighbours requests hunpruned) now,
    PostgresStore.getMaxProjectionLag_eq_iff (PostgresStore.run_intact htables calls) now⟩

/-- The session `s` is opened and one event is appended to it. -/
def laggingRequests : List StoreRequest :=
  [⟨0, "", .session (openSession "t" "u" "s")⟩,
    ⟨0, "", .appendSessionEvent (appendText (some "a")).input⟩]

def firstProjection : WriteProjectionInput where
  tenantId := "t"
  sessionId := "s"
  sequence := 1
  view := Json.emptyObject
  leaseToken := none
  updatedAt := none

/-- The event that was appended and not projected is not reported by either store. -/
theorem lone_event_unreported :
    let store := (ControlPlaneStore.machine plainContext).run
      (.initial (Neighbours.single "t" "u")) laggingRequests
    let postgres := (PostgresStore.projectionMachine plainContext).run openedTables
      [⟨0, .appendSessionEvent (appendText (some "a")).input⟩]
    (store.getMaxProjectionLag 0 = 0 ∧ store.maxUnprojected 0 = 1) ∧
      (postgres.getMaxProjectionLag 0 = 0 ∧ postgres.maxUnprojected 0 = 1) := by
  decide +kernel

/-- Once it is projected, what is reported is right. -/
theorem projected_event_reported :
    let store := (ControlPlaneStore.machine plainContext).run
      (.initial (Neighbours.single "t" "u"))
      (laggingRequests ++ [⟨0, "", .writeSessionProjection firstProjection⟩])
    let postgres := (PostgresStore.projectionMachine plainContext).run openedTables
      [⟨0, .appendSessionEvent (appendText (some "a")).input⟩,
        ⟨0, .writeSessionProjection firstProjection⟩]
    store.getMaxProjectionLag 0 = store.maxUnprojected 0 ∧
      postgres.getMaxProjectionLag 0 = postgres.maxUnprojected 0 := by
  obtain ⟨hmemory, hpostgres⟩ := projection_lag_exact_iff plainContext (Neighbours.single "t" "u")
    (laggingRequests ++ [⟨0, "", .writeSessionProjection firstProjection⟩])
    (by simp [laggingRequests]) openedTables openedTables_unwritten
    [⟨0, .appendSessionEvent (appendText (some "a")).input⟩,
      ⟨0, .writeSessionProjection firstProjection⟩] 0
  exact ⟨hmemory.mpr (by decide +kernel), hpostgres.mpr (by decide +kernel)⟩

end OpenCowork.ControlPlane
