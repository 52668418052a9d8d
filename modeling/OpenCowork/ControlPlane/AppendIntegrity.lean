import OpenCowork.ControlPlane.EventLogs
import OpenCowork.ControlPlane.PostgresLogs

/-! # Session event logs under appends

An append that names its event is deduplicated by the name. An append that names none
takes the id that counts the log, and that id may have been given to an earlier event:
then the in-memory store answers the earlier event, and Postgres refuses the insert.
-/

namespace OpenCowork.ControlPlane

open Foundation OrderedMap

structure AppendRequest where
  now : Instant
  input : AppendEventInput

def AppendEventInput.describes (env : Environment) (input : AppendEventInput)
    (event : SessionEventRecord) : Prop :=
  event.type = input.type ∧
    env.stableJson event.payload = env.stableJson (input.payload.getD Json.emptyObject)

def generatedEventId (sessionId : String) (sequence : Nat) : String :=
  sessionId ++ ":" ++ sequence.repr

/-- A log that is numbered from one without a gap, under distinct ids. -/
structure IntactLog (log : List SessionEventRecord) : Prop where
  numbered : log.map SessionEventRecord.sequence = List.range' 1 log.length
  distinct : (log.map SessionEventRecord.eventId).Nodup

structure Appends (env : Environment) (input : AppendEventInput)
    (log after : List SessionEventRecord) (answer : Except StoreError SessionEventRecord) :
    Prop where
  unnamed : presentText input.eventId = none →
    ∃ event, answer = .ok event ∧ after = log ++ [event]
  repeated : ∀ event ∈ log, presentText input.eventId = some event.eventId →
    input.describes env event → answer = .ok event ∧ after = log
  reused : ∀ event ∈ log, presentText input.eventId = some event.eventId →
    ¬ input.describes env event → (∃ thrown, answer = .error thrown) ∧ after = log

/-- Without a given id, the generated one must not be taken. -/
def Unclaimed (input : AppendEventInput) (log : List SessionEventRecord) : Prop :=
  presentText input.eventId = none →
    ∀ event ∈ log, event.eventId ≠ generatedEventId input.sessionId (log.length + 1)

/-- A store as far as appends can tell: its logs, and the calls that get past the checks
on session and lease. -/
structure EventStore (State : Type) where
  append : State → AppendRequest → Except StoreError SessionEventRecord × State
  log : State → String → String → List SessionEventRecord
  holds : State → String → String → Prop
  admits : State → AppendRequest → Prop

namespace EventStore

variable {State : Type} (store : EventStore State)

def machine : Machine State AppendRequest (Except StoreError SessionEventRecord) where
  step := store.append

/-- The moment's append is made as it should be, if it gets to the log at all. -/
def Serves (env : Environment)
    (moment : Moment State AppendRequest (Except StoreError SessionEventRecord)) : Prop :=
  store.admits moment.before moment.input →
    Appends env moment.input.input
      (store.log moment.before moment.input.input.tenantId moment.input.input.sessionId)
      (store.log moment.after moment.input.input.tenantId moment.input.input.sessionId)
      moment.output

def Avoids (moment : Moment State AppendRequest (Except StoreError SessionEventRecord)) : Prop :=
  store.admits moment.before moment.input →
    Unclaimed moment.input.input
      (store.log moment.before moment.input.input.tenantId moment.input.input.sessionId)

/-- An invariant under which logs are intact, and an append is made as it should be
exactly if it takes no id that was given away. -/
structure Upholds (env : Environment) (invariant : State → Prop) : Prop where
  kept : ∀ state request, invariant state → invariant (store.append state request).2
  intact : ∀ state tenantId sessionId, invariant state → store.holds state tenantId sessionId →
    IntactLog (store.log state tenantId sessionId)
  serves_iff : ∀ state request, invariant state →
    (store.Serves env (store.machine.moment state request) ↔
      store.Avoids (store.machine.moment state request))

variable {store} {env : Environment} {invariant : State → Prop}

theorem Upholds.run (hupholds : store.Upholds env invariant) {state : State}
    (hstate : invariant state) (requests : List AppendRequest) :
    (∀ tenantId sessionId, store.holds (store.machine.run state requests) tenantId sessionId →
        IntactLog (store.log (store.machine.run state requests) tenantId sessionId)) ∧
      ((∀ moment ∈ store.machine.history state requests, store.Serves env moment) ↔
        ∀ moment ∈ store.machine.history state requests, store.Avoids moment) := by
  have hrun : ∀ requests, invariant (store.machine.run state requests) :=
    store.machine.run_invariant invariant hupholds.kept state hstate
  refine ⟨fun tenantId sessionId => hupholds.intact _ tenantId sessionId (hrun requests), ?_⟩
  apply forall₂_congr
  intro moment hmoment
  obtain ⟨first, request, _, _, rfl⟩ :=
    store.machine.exists_prefix_of_mem_history state requests moment hmoment
  exact hupholds.serves_iff _ request (hrun first)

end EventStore

/-! ## One append to an intact log -/

section Log

variable {env : Environment} {input : AppendEventInput} {log : List SessionEventRecord}
  {event : SessionEventRecord} {answer : Except StoreError SessionEventRecord}
  (hlog : IntactLog log)
include hlog

theorem IntactLog.append (hsequence : event.sequence = log.length + 1)
    (hnew : ∀ earlier ∈ log, earlier.eventId ≠ event.eventId) : IntactLog (log ++ [event]) := by
  constructor
  · rw [List.map_append, hlog.numbered, List.length_append, List.map_singleton, hsequence,
      List.length_singleton, List.range'_concat, Nat.one_mul, Nat.add_comm 1]
  · rw [List.map_append]
    refine hlog.distinct.append (List.nodup_singleton _) ?_
    intro _ hmem hlast
    obtain ⟨earlier, hearlier, rfl⟩ := List.mem_map.mp hmem
    exact hnew earlier hearlier (List.mem_singleton.mp hlast)

theorem IntactLog.sequence_le (hmem : event ∈ log) : event.sequence ≤ log.length := by
  have h := List.mem_map_of_mem (f := SessionEventRecord.sequence) hmem
  rw [hlog.numbered, List.mem_range'_1] at h
  omega

theorem IntactLog.eq_of_eventId {first second : SessionEventRecord} (hfirst : first ∈ log)
    (hsecond : second ∈ log) (h : first.eventId = second.eventId) : first = second :=
  List.inj_on_of_nodup_map hlog.distinct hfirst hsecond h

omit hlog in
theorem Appends.added (hnew : ∀ earlier ∈ log, presentText input.eventId ≠ some earlier.eventId) :
    Appends env input log (log ++ [event]) (.ok event) where
  unnamed := fun _ => ⟨event, rfl, rfl⟩
  repeated := fun earlier hearlier hid _ => absurd hid (hnew earlier hearlier)
  reused := fun earlier hearlier hid _ => absurd hid (hnew earlier hearlier)

theorem Appends.found {held : SessionEventRecord} (hheld : held ∈ log)
    (hid : presentText input.eventId = some held.eventId)
    (hsame : input.describes env held → answer = .ok held)
    (hother : ¬ input.describes env held → ∃ thrown, answer = .error thrown) :
    Appends env input log log answer where
  unnamed := fun hnone => absurd (hnone.symm.trans hid) (by simp)
  repeated := by
    intro event hevent hname hdescribes
    obtain rfl := hlog.eq_of_eventId hevent hheld (Option.mem_unique hname hid)
    exact ⟨hsame hdescribes, rfl⟩
  reused := by
    intro event hevent hname hdescribes
    obtain rfl := hlog.eq_of_eventId hevent hheld (Option.mem_unique hname hid)
    exact ⟨hother hdescribes, rfl⟩

omit hlog

theorem Appends.not_unnamed (hnone : presentText input.eventId = none) :
    ¬ Appends env input log log answer := by
  intro happends
  obtain ⟨_, _, hlog⟩ := happends.unnamed hnone
  exact absurd (congrArg List.length hlog) (by simp)

end Log

/-! ## The in-memory store -/

namespace SessionState

variable {env : Environment} {session : SessionState} {input : AppendEventInput} {now : Instant}

structure Intact (session : SessionState) : Prop where
  counted : session.nextEventSequence = session.events.length
  log : IntactLog session.events

theorem eventOf_unnamed (hnone : presentText input.eventId = none) :
    (session.eventOf input now).eventId =
      generatedEventId input.sessionId (session.nextEventSequence + 1) := by
  rw [eventOf, hnone, Option.getD_none, generatedEventId]

theorem eventOf_named {eventId : String} (hsome : presentText input.eventId = some eventId) :
    (session.eventOf input now).eventId = eventId := by
  rw [eventOf, hsome, Option.getD_some]

variable (env) in
theorem appendSessionEvent_admitted
    (hlease : session.assertLeaseTokenIfPresent input.leaseToken now = .ok ()) :
    (∃ held ∈ session.events, held.eventId = (session.eventOf input now).eventId ∧
        (input.describes env held → session.appendSessionEvent env input now =
          (.ok held, session)) ∧
        (¬ input.describes env held → session.appendSessionEvent env input now =
          (.error (eventReused held.eventId), session))) ∨
      (∀ held ∈ session.events, held.eventId ≠ (session.eventOf input now).eventId) ∧
        session.appendSessionEvent env input now =
          (.ok (session.eventOf input now), session.pushEvent (session.eventOf input now)) := by
  unfold appendSessionEvent
  rw [hlease]
  dsimp only
  cases hfind : session.findEvent (session.eventOf input now).eventId with
  | some held =>
    have hfound := List.find?_some hfind
    have hid : held.eventId = (session.eventOf input now).eventId := of_decide_eq_true hfound
    refine .inl ⟨held, List.mem_of_find?_eq_some hfind, hid, ?_, ?_⟩
    · intro hdescribes
      dsimp only
      rw [if_neg]
      exact not_or.mpr ⟨not_not.mpr hdescribes.1, not_not.mpr hdescribes.2⟩
    · intro hdescribes
      dsimp only
      rw [if_pos, hid]
      exact not_and_or.mp hdescribes
  | none =>
    refine .inr ⟨fun held hheld heq => ?_, rfl⟩
    exact absurd (decide_eq_true heq) (List.find?_eq_none.mp hfind held hheld)

theorem appendSessionEvent_intact (hintact : session.Intact) :
    (session.appendSessionEvent env input now).2.Intact := by
  cases hlease : session.assertLeaseTokenIfPresent input.leaseToken now with
  | error =>
    rw [appendSessionEvent, hlease]
    exact hintact
  | ok =>
    rcases appendSessionEvent_admitted env hlease with
      ⟨held, _, _, hsame, hother⟩ | ⟨hnew, happend⟩
    · by_cases hdescribes : input.describes env held
      · rw [hsame hdescribes]
        exact hintact
      · rw [hother hdescribes]
        exact hintact
    · rw [happend]
      refine ⟨?_, hintact.log.append (congrArg (· + 1) hintact.counted) hnew⟩
      rw [pushEvent, List.length_append, hintact.counted, List.length_singleton]

theorem appends_iff (hintact : session.Intact)
    (hlease : session.assertLeaseTokenIfPresent input.leaseToken now = .ok ()) :
    Appends env input session.events (session.appendSessionEvent env input now).2.events
        (session.appendSessionEvent env input now).1 ↔ Unclaimed input session.events := by
  rcases appendSessionEvent_admitted env hlease with
    ⟨held, hheld, hid, hsame, hother⟩ | ⟨hnew, happend⟩
  · cases hname : presentText input.eventId with
    | none =>
      -- The generated id is taken, and the log stays as it is either way.
      have hlog : (session.appendSessionEvent env input now).2 = session := by
        by_cases hdescribes : input.describes env held
        · rw [hsame hdescribes]
        · rw [hother hdescribes]
      rw [hlog]
      refine iff_of_false (Appends.not_unnamed hname) fun hunclaimed => ?_
      rw [eventOf_unnamed hname, hintact.counted] at hid
      exact hunclaimed hname held hheld hid
    | some =>
      refine iff_of_true ?_ fun hnone => absurd (hnone.symm.trans hname) (by simp)
      rw [eventOf_named hname] at hid
      by_cases hdescribes : input.describes env held
      · rw [hsame hdescribes]
        exact .found hintact.log hheld (hname.trans (congrArg some hid.symm)) (fun _ => rfl)
          fun h => absurd hdescribes h
      · rw [hother hdescribes]
        exact .found hintact.log hheld (hname.trans (congrArg some hid.symm))
          (fun h => absurd h hdescribes) fun _ => ⟨_, rfl⟩
  · rw [happend]
    refine iff_of_true (.added fun held hheld hname => ?_) fun hnone held hheld => ?_
    · exact hnew held hheld (eventOf_named hname).symm
    · have hne := hnew held hheld
      rwa [eventOf_unnamed hnone, hintact.counted] at hne

end SessionState

namespace ControlPlaneStore

variable {σ : Type} (context : StoreContext σ)

def eventStore : EventStore (ControlPlaneStore σ) where
  append := fun store request => store.appendSessionEvent context request.input request.now
  log := fun store tenantId sessionId =>
    ((store.sessions.get (key tenantId sessionId)).map SessionState.events).getD []
  holds := fun store tenantId sessionId => (store.sessions.get (key tenantId sessionId)).isSome
  admits := fun store request =>
    ∃ session, store.requireSession context request.input.tenantId request.input.sessionId =
        .ok session ∧
      session.assertLeaseTokenIfPresent request.input.leaseToken request.now = .ok ()

/-- Every session's log is intact. -/
def Intact (store : ControlPlaneStore σ) : Prop :=
  ∀ sessionKey session, store.sessions.get sessionKey = some session → session.Intact

theorem eventStore_upholds : (eventStore context).Upholds context.env Intact where
  kept := by
    intro store request hintact sessionKey session hget
    simp only [eventStore, appendSessionEvent, onSession] at hget
    cases hsession : store.requireSession context request.input.tenantId
      request.input.sessionId with
    | error thrown =>
      rw [hsession] at hget
      exact hintact sessionKey session hget
    | ok found =>
      have hfound := hintact _ found (store.requireSession_get context hsession)
      simp only [hsession, putSession, SessionsDomain.putSession, get_set] at hget
      split at hget
      · obtain rfl := Option.some.inj hget
        exact SessionState.appendSessionEvent_intact hfound
      · exact hintact sessionKey session hget
  intact := by
    intro store _ _ hintact hholds
    obtain ⟨session, hget⟩ := Option.isSome_iff_exists.mp hholds
    simp only [eventStore, hget, Option.map_some, Option.getD_some]
    exact (hintact _ session hget).log
  serves_iff := by
    intro store request hintact
    apply forall_congr'
    rintro ⟨session, hsession, hlease⟩
    have hget := store.requireSession_get context hsession
    simp only [Machine.moment, EventStore.machine, eventStore, appendSessionEvent, onSession] at *
    simp only [hsession, putSession, SessionsDomain.putSession, get_set_self, hget,
      Option.map_some, Option.getD_some]
    exact SessionState.appends_iff (hintact _ session hget) hlease

end ControlPlaneStore

/-! ## The Postgres store -/

namespace PostgresStore

variable {σ : Type} (context : StoreContext σ)

def eventStore : EventStore (PostgresStore σ) where
  append := fun store request => store.appendSessionEvent context request.input request.now
  log := sessionLog
  holds := fun store tenantId sessionId => (store.sessions.get (tenantId, sessionId)).isSome
  admits := fun store request =>
    ∃ row, store.requireSession context request.input.tenantId request.input.sessionId =
        .ok row ∧
      store.assertLeaseTokenIfPresent request.input.tenantId request.input.sessionId
        request.input.leaseToken request.now = .ok ()

/-- Every session's log is intact, and its row counts it. -/
structure Intact (store : PostgresStore σ) : Prop where
  keyed : store.Keyed
  counted : ∀ tenantId sessionId row, store.sessions.get (tenantId, sessionId) = some row →
    row.nextEventSequence = (store.sessionLog tenantId sessionId).length
  log : ∀ tenantId sessionId row, store.sessions.get (tenantId, sessionId) = some row →
    IntactLog (store.sessionLog tenantId sessionId)

variable {context} {store : PostgresStore σ}
variable {row : SessionRow} {input : AppendEventInput} {now : Instant}
variable {tenantId sessionId : String}

theorem requireSession_get (hsession : store.requireSession context tenantId sessionId = .ok row) :
    store.sessions.get (tenantId, sessionId) = some row := by
  unfold requireSession at hsession
  split at hsession
  · simp at hsession
  · split at hsession
    · simp at hsession
    next hget => rw [hget, Except.ok.inj hsession]

theorem Intact.counter (hintact : store.Intact)
    (hget : store.sessions.get (tenantId, sessionId) = some row) :
    ∀ event ∈ store.sessionLog tenantId sessionId, event.sequence ≤ row.nextEventSequence := by
  intro _ hevent
  rw [hintact.counted _ _ _ hget]
  exact (hintact.log _ _ _ hget).sequence_le hevent

section Inserted

variable {row : SessionRow} {input : AppendEventInput} {now : Instant}

def inserted (store : PostgresStore σ) (row : SessionRow) (input : AppendEventInput)
    (now : Instant) : PostgresStore σ :=
  (store.incrementEventSequence input.tenantId input.sessionId
    (row.eventOf input now).createdAt).withEvent (row.eventOf input now)

variable (hintact : store.Intact)
variable (hget : store.sessions.get (input.tenantId, input.sessionId) = some row)
variable (hfree : store.sessionEvents.get (input.tenantId, input.sessionId,
    (row.eventOf input now).eventId) = none)
include hintact hget hfree

theorem inserted_log :
    (store.inserted row input now).sessionLog input.tenantId input.sessionId =
      store.sessionLog input.tenantId input.sessionId ++ [row.eventOf input now] := by
  apply sessionLog_withEvent hfree
  intro earlier hearlier
  exact Nat.le_succ_of_le (hintact.counter hget earlier hearlier)

theorem inserted_intact : (store.inserted row input now).Intact := by
  have hlog := inserted_log hintact hget hfree
  have hsessions : ∀ tenantId sessionId, (store.inserted row input now).sessions.get
      (tenantId, sessionId) = if (input.tenantId, input.sessionId) = (tenantId, sessionId) then
        some { record := { row.record with updatedAt := (row.eventOf input now).createdAt }
               nextEventSequence := row.nextEventSequence + 1 }
      else store.sessions.get (tenantId, sessionId) := by
    intro tenantId sessionId
    rw [inserted, withEvent, incrementEventSequence, updateSession]
    rw [modify_of_get _ hget, get_set]
  -- Only the log that was appended to changed.
  have hcases : ∀ tenantId sessionId found,
      (store.inserted row input now).sessions.get (tenantId, sessionId) = some found →
      (input.tenantId = tenantId ∧ input.sessionId = sessionId ∧
          found.nextEventSequence = row.nextEventSequence + 1) ∨
        store.sessions.get (tenantId, sessionId) = some found ∧
          (store.inserted row input now).sessionLog tenantId sessionId =
            store.sessionLog tenantId sessionId := by
    intro tenantId sessionId found hfound
    rw [hsessions] at hfound
    split at hfound
    next heq =>
      obtain ⟨htenant, hsession⟩ := Prod.mk.inj heq
      obtain rfl := Option.some.inj hfound
      exact .inl ⟨htenant, hsession, rfl⟩
    next hother => exact .inr ⟨hfound, sessionLog_withEvent_other hfree hother⟩
  refine ⟨withEvent_keyed hintact.keyed _, ?_, ?_⟩
  · intro tenantId sessionId found hfound
    rcases hcases tenantId sessionId found hfound with ⟨rfl, rfl, hnext⟩ | ⟨hfound, hsame⟩
    · rw [hlog, hnext, List.length_append, hintact.counted _ _ _ hget, List.length_singleton]
    · rw [hsame, hintact.counted _ _ _ hfound]
  · intro tenantId sessionId found hfound
    rcases hcases tenantId sessionId found hfound with ⟨rfl, rfl, _⟩ | ⟨hfound, hsame⟩
    · rw [hlog]
      refine (hintact.log _ _ _ hget).append (congrArg (· + 1) (hintact.counted _ _ _ hget)) ?_
      intro _ hearlier heq
      rw [mem_sessionLog hintact.keyed, heq, hfree] at hearlier
      simp at hearlier
    · rw [hsame]
      exact hintact.log _ _ _ hfound

end Inserted

theorem appendSessionEvent_admitted
    (hsession : store.requireSession context input.tenantId input.sessionId = .ok row)
    (hlease : store.assertLeaseTokenIfPresent input.tenantId input.sessionId input.leaseToken
      now = .ok ()) :
    store.appendSessionEvent context input now =
      store.withTransaction ((store.recordSessionEvent context row input now).map
        fun recorded => (recorded.1.1, recorded.2)) := by
  rw [appendSessionEvent, storeSessionEvent, hsession]
  dsimp only
  rw [hlease]
  rcases store.recordSessionEvent context row input now with thrown | ⟨⟨event, created⟩, next⟩ <;>
    rfl

theorem appendSessionEvent_intact
    (hintact : store.Intact) : (store.appendSessionEvent context input now).2.Intact := by
  cases hsession : store.requireSession context input.tenantId input.sessionId with
  | error =>
    rw [appendSessionEvent, storeSessionEvent, hsession]
    exact hintact
  | ok row =>
    cases hlease : store.assertLeaseTokenIfPresent input.tenantId input.sessionId
      input.leaseToken now with
    | error thrown =>
      rw [appendSessionEvent, storeSessionEvent, hsession]
      rw [hlease]
      exact hintact
    | ok =>
      have hget := requireSession_get hsession
      rw [appendSessionEvent_admitted hsession hlease]
      have hrecording := recordSessionEvent_recording context hintact.keyed row
        input now (hintact.counter hget)
      generalize store.recordSessionEvent context row input now = recorded at hrecording
      cases hrecording with
      | replayed | reused | duplicate => exact hintact
      | inserted hfree => exact inserted_intact hintact hget hfree

theorem appends_iff (hintact : store.Intact)
    (hsession : store.requireSession context input.tenantId input.sessionId = .ok row)
    (hlease : store.assertLeaseTokenIfPresent input.tenantId input.sessionId input.leaseToken
      now = .ok ()) :
    Appends context.env input (store.sessionLog input.tenantId input.sessionId)
        ((store.appendSessionEvent context input now).2.sessionLog input.tenantId
          input.sessionId)
        (store.appendSessionEvent context input now).1 ↔
      Unclaimed input (store.sessionLog input.tenantId input.sessionId) := by
  have hget := requireSession_get hsession
  have hlog := hintact.log _ _ _ hget
  have hgenerated : presentText input.eventId = none → (row.eventOf input now).eventId =
      generatedEventId input.sessionId
        ((store.sessionLog input.tenantId input.sessionId).length + 1) := by
    intro hnone
    rw [SessionRow.eventOf, hnone, Option.getD_none, hintact.counted _ _ _ hget, generatedEventId]
  rw [appendSessionEvent_admitted hsession hlease]
  have hrecording := recordSessionEvent_recording context hintact.keyed row input
    now (hintact.counter hget)
  generalize store.recordSessionEvent context row input now = recorded at hrecording
  cases hrecording with
  | @replayed held hname hheld htype hpayload =>
    refine iff_of_true ?_ fun hnone => absurd (hnone.symm.trans hname) (by simp)
    exact .found hlog ((mem_sessionLog hintact.keyed).mpr hheld) hname (fun _ => rfl)
      fun h => absurd ⟨htype, hpayload⟩ h
  | @reused held hname hheld hother =>
    refine iff_of_true ?_ fun hnone => absurd (hnone.symm.trans hname) (by simp)
    exact .found hlog ((mem_sessionLog hintact.keyed).mpr hheld) hname
      (fun h => absurd hother (not_or.mpr ⟨not_not.mpr h.1, not_not.mpr h.2⟩))
      fun _ => ⟨_, rfl⟩
  | @duplicate held hname hheld =>
    refine iff_of_false (Appends.not_unnamed hname) fun hunclaimed => ?_
    have hid : (row.eventOf input now).eventId = held.eventId :=
      congrArg (·.2.2) (hintact.keyed _ held hheld)
    rw [hid] at hheld
    exact hunclaimed hname held ((mem_sessionLog hintact.keyed).mpr hheld)
      (hid.symm.trans (hgenerated hname))
  | inserted hfree =>
    have hnew : ∀ earlier ∈ store.sessionLog input.tenantId input.sessionId,
        earlier.eventId ≠ (row.eventOf input now).eventId := by
      intro earlier hearlier heq
      rw [mem_sessionLog hintact.keyed, heq, hfree] at hearlier
      simp at hearlier
    have hafter := inserted_log hintact hget hfree
    simp only [Except.map, withTransaction]
    rw [show ((store.incrementEventSequence input.tenantId input.sessionId
      (row.eventOf input now).createdAt).withEvent (row.eventOf input now)) =
        store.inserted row input now from rfl, hafter]
    refine iff_of_true (.added fun earlier hearlier hname => ?_) fun hnone => ?_
    · apply hnew earlier hearlier
      rw [SessionRow.eventOf, hname, Option.getD_some]
    · exact fun earlier hearlier => hgenerated hnone ▸ hnew earlier hearlier

theorem eventStore_upholds :
    (eventStore context).Upholds context.env (PostgresStore.Intact (σ := σ)) where
  kept := fun _ _ hintact => appendSessionEvent_intact hintact
  intact := by
    intro store tenantId sessionId hintact hholds
    obtain ⟨row, hget⟩ := Option.isSome_iff_exists.mp hholds
    exact hintact.log tenantId sessionId row hget
  serves_iff := by
    intro store _ hintact
    apply forall_congr'
    rintro ⟨_, hsession, hlease⟩
    exact appends_iff hintact hsession hlease

end PostgresStore

/-! ## Runs of appends -/

/-- The in-memory store as it is before any event was appended. -/
def ControlPlaneStore.Unwritten {σ : Type} (store : ControlPlaneStore σ) : Prop :=
  ∀ sessionKey session, store.sessions.get sessionKey = some session →
    session.events = [] ∧ session.nextEventSequence = 0

structure PostgresStore.Unwritten {σ : Type} (store : PostgresStore σ) : Prop where
  events : store.sessionEvents = OrderedMap.empty
  counters : ∀ tenantId sessionId row, store.sessions.get (tenantId, sessionId) = some row →
    row.nextEventSequence = 0

theorem intactLog_nil : IntactLog [] := ⟨rfl, List.nodup_nil⟩

theorem ControlPlaneStore.Unwritten.intact {σ : Type} {store : ControlPlaneStore σ}
    (hunwritten : store.Unwritten) : store.Intact := by
  intro sessionKey session hget
  obtain ⟨hevents, hcounter⟩ := hunwritten sessionKey session hget
  exact ⟨by rw [hevents, hcounter, List.length_nil], hevents ▸ intactLog_nil⟩

theorem PostgresStore.Unwritten.intact {σ : Type} {store : PostgresStore σ}
    (hunwritten : store.Unwritten) : store.Intact := by
  have hlog : ∀ tenantId sessionId, store.sessionLog tenantId sessionId = [] := by
    intro tenantId sessionId
    rw [sessionLog, hunwritten.events]
    rfl
  refine ⟨?_, ?_, ?_⟩
  · intro _ _ hget
    rw [hunwritten.events, get_empty] at hget
    simp at hget
  · intro tenantId sessionId row hget
    rw [hlog, hunwritten.counters tenantId sessionId row hget, List.length_nil]
  · exact fun tenantId sessionId _ _ => hlog tenantId sessionId ▸ intactLog_nil

/-- In both stores, the logs stay intact and every append is made as it should be, exactly in
the runs in which no append without an id comes upon its generated id. -/
theorem appends_intact_iff {σ : Type} (context : StoreContext σ) (store : ControlPlaneStore σ)
    (tables : PostgresStore σ) (hstore : store.Unwritten) (htables : tables.Unwritten)
    (requests : List AppendRequest) :
    let memory := ControlPlaneStore.eventStore context
    let postgres := PostgresStore.eventStore context
    (((∀ tenantId sessionId, memory.holds (memory.machine.run store requests) tenantId sessionId →
          IntactLog (memory.log (memory.machine.run store requests) tenantId sessionId)) ∧
        ∀ moment ∈ memory.machine.history store requests, memory.Serves context.env moment) ↔
      ∀ moment ∈ memory.machine.history store requests, memory.Avoids moment) ∧
    (((∀ tenantId sessionId,
          postgres.holds (postgres.machine.run tables requests) tenantId sessionId →
          IntactLog (postgres.log (postgres.machine.run tables requests) tenantId sessionId)) ∧
        ∀ moment ∈ postgres.machine.history tables requests,
          postgres.Serves context.env moment) ↔
      ∀ moment ∈ postgres.machine.history tables requests, postgres.Avoids moment) := by
  intro memory postgres
  obtain ⟨hmemory, hserves⟩ :=
    (ControlPlaneStore.eventStore_upholds context).run hstore.intact requests
  obtain ⟨hpostgres, hserves'⟩ := PostgresStore.eventStore_upholds.run htables.intact requests
  constructor
  · rw [← hserves]
    exact and_iff_right hmemory
  · rw [← hserves']
    exact and_iff_right hpostgres

/-- An append to the session `s` of tenant `t`. -/
def appendText (eventId : Option String) : AppendRequest where
  now := 0
  input :=
    { tenantId := "t"
      sessionId := "s"
      eventId := eventId
      type := "session.idle"
      payload := none
      leaseToken := none
      createdAt := none }

def openedStore : ControlPlaneStore Neighbours :=
  (ControlPlaneStore.machine plainContext).run
    (ControlPlaneStore.initial (Neighbours.single "t" "u"))
    [⟨0, "", .session (openSession "t" "u" "s")⟩]

def openedTables : PostgresStore Neighbours where
  sessions := OrderedMap.empty.set ("t", "s")
    { record :=
        { tenantId := "t"
          userId := "u"
          sessionId := "s"
          opencodeSessionId := ""
          profileName := "default"
          status := .idle
          title := none
          createdAt := 0
          updatedAt := 0 }
      nextEventSequence := 0 }
  workerLeases := OrderedMap.empty
  sessionEvents := OrderedMap.empty
  sessionProjections := OrderedMap.empty
  workspaceEventCounters := OrderedMap.empty
  workspaceEvents := OrderedMap.empty
  workflows := OrderedMap.empty
  workflowRuns := OrderedMap.empty
  neighbours := Neighbours.single "t" "u"

theorem openedStore_unwritten : openedStore.Unwritten := by
  intro _ _ hget
  have hsessions : openedStore.sessions = OrderedMap.empty.set (key "t" "s")
      (SessionsDomain.newSession
        { tenantId := "t"
          userId := "u"
          sessionId := "s"
          opencodeSessionId := ""
          profileName := "default"
          title := none
          createdAt := none
          quota := none } 0) := rfl
  rw [hsessions, get_set] at hget
  split at hget
  · obtain rfl := Option.some.inj hget
    exact ⟨rfl, rfl⟩
  · simp at hget

theorem openedTables_unwritten : openedTables.Unwritten := by
  refine ⟨rfl, ?_⟩
  intro _ _ _ hget
  rw [openedTables, get_set] at hget
  split at hget
  · obtain rfl := Option.some.inj hget
    rfl
  · simp at hget

/-- A named append, an unnamed one and a repetition of the first, in both stores. -/
theorem mixed_appends_served :
    let requests := [appendText (some "a"), appendText none, appendText (some "a")]
    let memory := ControlPlaneStore.eventStore plainContext
    let postgres := PostgresStore.eventStore plainContext
    (∀ moment ∈ memory.machine.history openedStore requests,
        memory.Serves plainContext.env moment) ∧
      ∀ moment ∈ postgres.machine.history openedTables requests,
        postgres.Serves plainContext.env moment := by
  intro requests memory postgres
  obtain ⟨hmemory, hpostgres⟩ := appends_intact_iff plainContext openedStore openedTables
    openedStore_unwritten openedTables_unwritten requests
  refine ⟨(hmemory.mpr ?_).2, (hpostgres.mpr ?_).2⟩
  all_goals
    intro moment hmoment _ hnone
    simp only [requests, Machine.history_cons, Machine.history_nil, List.mem_cons,
      List.not_mem_nil, or_false] at hmoment
    rcases hmoment with rfl | rfl | rfl
  · exact absurd hnone (by decide)
  · decide +kernel
  · exact absurd hnone (by decide)
  · exact absurd hnone (by decide)
  · decide +kernel
  · exact absurd hnone (by decide)

/-- The id that was given to the first event is the one generated for the second append:
the in-memory store takes it for a repetition, Postgres throws. -/
theorem unnamed_append_lost :
    let requests := [appendText (some "s:2"), appendText none]
    let memory := ControlPlaneStore.eventStore plainContext
    let postgres := PostgresStore.eventStore plainContext
    (¬ ∀ moment ∈ memory.machine.history openedStore requests,
      memory.Serves plainContext.env moment) ∧
    ¬ ∀ moment ∈ postgres.machine.history openedTables requests,
      postgres.Serves plainContext.env moment := by
  intro requests memory postgres
  constructor
  · intro hserves
    have hsecond := hserves (memory.machine.moment (memory.machine.run openedStore
      (requests.take 1)) (appendText none)) (by simp [requests])
    exact Appends.not_unnamed rfl (hsecond ⟨_, rfl, rfl⟩)
  · intro hserves
    have hsecond := hserves (postgres.machine.moment (postgres.machine.run openedTables
      (requests.take 1)) (appendText none)) (by simp [requests])
    exact Appends.not_unnamed rfl (hsecond ⟨_, rfl, rfl⟩)

end OpenCowork.ControlPlane
