import OpenCowork.ControlPlane.EventLogs

/-! # Workspace events of session events

The projection service files each session event in the stream of its workspace, when it is
appended and again when the projection is repaired. The id there is the session's id and
the event's, unless the event's id begins with the session's already. A workspace keeps two
events apart unless their sessions' and their own ids can be read in two ways.
-/

namespace OpenCowork.ControlPlane

open Foundation

/-! ## The projection service -/

def readString (value : Option Json) (fallback : String) : String :=
  match value with
  | some (.str text) => if Text.isBlank text then fallback else text
  | _ => fallback

def eventPayloadId (payload : Json) (keys : List String) (fallback : String) : String :=
  match keys with
  | [] => fallback
  | key :: keys =>
    let value := readString (payload.field? key) ""
    if value ≠ "" then value else eventPayloadId payload keys fallback

structure WorkspaceEntity where
  (entityType entityId operation : String)
  projectionVersion : Nat

/-- `workspaceOperationFromEventType` is the store's `workspaceOperationFromType`. -/
def workspaceEntityForProjectedEvent (sessionId type : String) (payload : Json)
    (event : SessionEventRecord) : WorkspaceEntity :=
  if type = "artifact.created" ∨ type = "artifact.updated" then
    { entityType := "artifact"
      entityId := eventPayloadId payload ["artifactId", "cloudArtifactId", "id"] sessionId
      operation := if type = "artifact.created" then "create" else "update"
      projectionVersion := event.sequence }
  else
    { entityType := "session"
      entityId := sessionId
      operation := workspaceOperationFromType type
      projectionVersion := event.sequence }

def workspaceEventId (sessionId eventId : String) : String :=
  if Text.startsWith eventId (sessionId ++ ":") then eventId else sessionId ++ ":" ++ eventId

def repairedWorkspaceEvent (tenantId userId : String) (event : SessionEventRecord) :
    AppendWorkspaceEventInput :=
  let entity := workspaceEntityForProjectedEvent event.sessionId event.type event.payload event
  { tenantId, userId
    sessionId := some event.sessionId
    eventId := some (workspaceEventId event.sessionId event.eventId)
    entityType := some entity.entityType
    entityId := some entity.entityId
    operation := some entity.operation
    projectionVersion := some entity.projectionVersion
    type := event.type
    payload := some event.payload
    createdAt := some event.createdAt }

@[simp] theorem repairedWorkspaceEvent_tenantId (tenantId userId : String)
    (event : SessionEventRecord) :
    (repairedWorkspaceEvent tenantId userId event).tenantId = tenantId := rfl

@[simp] theorem repairedWorkspaceEvent_userId (tenantId userId : String)
    (event : SessionEventRecord) :
    (repairedWorkspaceEvent tenantId userId event).userId = userId := rfl

/-! ## Ids -/

def localEventId (sessionId eventId : String) : String :=
  if Text.startsWith eventId (sessionId ++ ":") then
    String.ofList (eventId.toList.drop (sessionId.toList.length + 1))
  else eventId

theorem workspaceEventId_eq (sessionId eventId : String) :
    workspaceEventId sessionId eventId = sessionId ++ ":" ++ localEventId sessionId eventId := by
  unfold workspaceEventId localEventId
  split
  next hstarts =>
    obtain ⟨_, hrest⟩ := List.isPrefixOf_iff_prefix.mp hstarts
    apply String.toList_inj.mp
    simp [← hrest]
  · rfl

theorem workspaceEventId_ne_empty (sessionId eventId : String) :
    workspaceEventId sessionId eventId ≠ "" := by
  rw [workspaceEventId_eq]
  intro h
  have hchars := congrArg String.toList h
  simp at hchars

/-- Two session events whose ids read the same: in one session they differ in nothing but the
session's prefix; of two sessions, one is named like the other with a text added that its
event's id begins with. -/
inductive Clashes (event other : SessionEventRecord) : Prop where
  | prefixed (hsession : other.sessionId = event.sessionId)
      (hid : localEventId other.sessionId other.eventId =
        localEventId event.sessionId event.eventId)
  | longer (added : String) (hsession : other.sessionId = event.sessionId ++ ":" ++ added)
      (hid : localEventId event.sessionId event.eventId =
        added ++ ":" ++ localEventId other.sessionId other.eventId)
  | shorter (added : String) (hsession : event.sessionId = other.sessionId ++ ":" ++ added)
      (hid : localEventId other.sessionId other.eventId =
        added ++ ":" ++ localEventId event.sessionId event.eventId)

theorem workspaceEventId_eq_iff {event other : SessionEventRecord} :
    workspaceEventId event.sessionId event.eventId =
        workspaceEventId other.sessionId other.eventId ↔ Clashes event other := by
  have hjoined : ∀ first rest : String,
      (first ++ ":" ++ rest).toList = first.toList ++ ':' :: rest.toList := by
    intro first rest
    simp
  rw [workspaceEventId_eq, workspaceEventId_eq, ← String.toList_inj, hjoined, hjoined,
    Text.append_separator_eq_iff]
  constructor
  · rintro (⟨hsession, hid⟩ | ⟨added, hsession, hid⟩ | ⟨added, hsession, hid⟩)
    · exact .prefixed (String.toList_inj.mp hsession.symm) (String.toList_inj.mp hid.symm)
    · refine .longer (String.ofList added) ?_ ?_
      · apply String.toList_inj.mp
        rw [hsession, hjoined, String.toList_ofList]
      · apply String.toList_inj.mp
        rw [hid, hjoined, String.toList_ofList]
    · refine .shorter (String.ofList added) ?_ ?_
      · apply String.toList_inj.mp
        rw [hsession, hjoined, String.toList_ofList]
      · apply String.toList_inj.mp
        rw [hid, hjoined, String.toList_ofList]
  · rintro (⟨hsession, hid⟩ | ⟨added, hsession, hid⟩ | ⟨added, hsession, hid⟩)
    · exact .inl ⟨by rw [hsession], by rw [hid]⟩
    · exact .inr (.inl ⟨added.toList, by rw [hsession, hjoined], by rw [hid, hjoined]⟩)
    · exact .inr (.inr ⟨added.toList, by rw [hsession, hjoined], by rw [hid, hjoined]⟩)

/-! ## The stream of a workspace -/

structure SessionLogs where
  events : List SessionEventRecord
  distinct : ∀ event ∈ events, ∀ other ∈ events,
    event.sessionId = other.sessionId → event.eventId = other.eventId → event = other

inductive StreamRequest (logs : SessionLogs) where
  | project (event : SessionEventRecord) (logged : event ∈ logs.events) (dateNow : Instant)
  | prune (olderThan : Instant) (limit : Nat)

def StreamRequest.event? {logs : SessionLogs} : StreamRequest logs → Option SessionEventRecord
  | .project event _ _ => some event
  | .prune _ _ => none

namespace WorkspaceEvents

section Projections

variable (env : Environment) (logs : SessionLogs) (tenantId userId : String)
  {event : SessionEventRecord} {record : WorkspaceEventRecord} {events : List SessionEventRecord}
  {log : WorkspaceEvents}

def projections : Machine WorkspaceEvents (StreamRequest logs)
    (Option (Except StoreError WorkspaceEventRecord)) where
  step log
    | .project event _ dateNow =>
      let appended := log.append env (repairedWorkspaceEvent tenantId userId event) dateNow
      (some appended.1, appended.2)
    | .prune olderThan limit => (none, (log.pruneExpiredWorkspaceEvents olderThan limit).2)

def IsProjectionOf (record : WorkspaceEventRecord) (event : SessionEventRecord) : Prop :=
  ∃ state dateNow,
    record = draftOf state (repairedWorkspaceEvent tenantId userId event) dateNow

/-- In the run every session event that is projected gets an event of its own: it is not
refused, and no other session event is answered with it. -/
structure KeptApart (requests : List (StreamRequest logs)) : Prop where
  accepted : ∀ moment ∈ (projections env logs tenantId userId).history OrderedMap.empty requests,
    ∀ event, moment.input.event? = some event →
      ∃ record, moment.output = some (.ok record) ∧
        IsProjectionOf tenantId userId record event
  apart : ∀ moment ∈ (projections env logs tenantId userId).history OrderedMap.empty requests,
    ∀ other ∈ (projections env logs tenantId userId).history OrderedMap.empty requests,
      ∀ event event', moment.input.event? = some event → other.input.event? = some event' →
        event ≠ event' → ∀ record record', moment.output = some (.ok record) →
          other.output = some (.ok record') → record.eventId ≠ record'.eventId

variable (hrecord : IsProjectionOf tenantId userId record event)
include hrecord

theorem IsProjectionOf.eventId :
    record.eventId = workspaceEventId event.sessionId event.eventId := by
  obtain ⟨_, _, rfl⟩ := hrecord
  simp only [draftOf, repairedWorkspaceEvent, presentText_some (workspaceEventId_ne_empty _ _),
    Option.getD_some]

theorem IsProjectionOf.sameContent (state : WorkspaceEventState) (dateNow : Instant) :
    sameContent env (repairedWorkspaceEvent tenantId userId event) record
      (draftOf state (repairedWorkspaceEvent tenantId userId event) dateNow) = true := by
  obtain ⟨_, _, rfl⟩ := hrecord
  simp [WorkspaceEvents.sameContent, draftOf, repairedWorkspaceEvent, presentText,
    Option.filter_filter]

omit hrecord

/-- Every event of the stream is the projection of one of the session events. -/
def Projects (events : List SessionEventRecord) (log : WorkspaceEvents) : Prop :=
  ∀ record ∈ (log.stateOf tenantId userId).events,
    ∃ event ∈ events, IsProjectionOf tenantId userId record event

variable (hlog : Projects tenantId userId events log)
include hlog

theorem append_projects (hmem : event ∈ events)
    (hclear : ∀ other ∈ events, event ≠ other → ¬ Clashes event other) (dateNow : Instant) :
    (∃ record,
      (log.append env (repairedWorkspaceEvent tenantId userId event) dateNow).1 = .ok record ∧
        IsProjectionOf tenantId userId record event) ∧
      Projects tenantId userId events
        (log.append env (repairedWorkspaceEvent tenantId userId event) dateNow).2 := by
  have hdraft : IsProjectionOf tenantId userId
      (draftOf (log.stateOf tenantId userId) (repairedWorkspaceEvent tenantId userId event)
        dateNow) event := ⟨_, _, rfl⟩
  unfold append
  simp only [repairedWorkspaceEvent_tenantId, repairedWorkspaceEvent_userId]
  split
  next existing hfind =>
    obtain ⟨other, hother, hexisting⟩ := hlog existing (List.mem_of_find?_eq_some hfind)
    have hfound := List.find?_some hfind
    have hsameId := of_decide_eq_true hfound
    rw [hexisting.eventId, hdraft.eventId, eq_comm] at hsameId
    -- only the event itself has this id
    obtain rfl : event = other := by
      by_contra hne
      exact hclear other hother hne (workspaceEventId_eq_iff.mp hsameId)
    have hsame := hexisting.sameContent env tenantId userId (log.stateOf tenantId userId) dateNow
    simp only [hsame, if_true]
    exact ⟨⟨existing, rfl, hexisting⟩, hlog⟩
  · refine ⟨⟨_, rfl, hdraft⟩, ?_⟩
    intro record hrecord
    dsimp only at hrecord
    rw [stateOf, OrderedMap.get_set_self, Option.getD_some] at hrecord
    rcases List.mem_append.mp hrecord with hrecord | hrecord
    · exact hlog record hrecord
    · obtain rfl := List.mem_singleton.mp hrecord
      exact ⟨event, hmem, hdraft⟩

theorem prune_projects (olderThan : Instant) (limit : Nat) :
    Projects tenantId userId events (log.pruneExpiredWorkspaceEvents olderThan limit).2 := by
  intro record hrecord
  apply hlog record
  unfold stateOf pruneExpiredWorkspaceEvents at hrecord
  dsimp only at hrecord
  rw [OrderedMap.get_mapWithKey] at hrecord
  unfold stateOf
  cases hget : log.get (workspaceKey tenantId userId) with
  | none =>
    rw [hget] at hrecord
    exact absurd hrecord List.not_mem_nil
  | some =>
    rw [hget] at hrecord
    exact List.mem_of_mem_filter hrecord

omit hlog

theorem history_accepted (requests : List (StreamRequest logs))
    (hclear : ∀ event ∈ requests.filterMap StreamRequest.event?,
      ∀ other ∈ requests.filterMap StreamRequest.event?,
        event ≠ other → ¬ Clashes event other) :
    ∀ moment ∈ (projections env logs tenantId userId).history OrderedMap.empty requests,
      ∀ event, moment.input.event? = some event →
        ∃ record, moment.output = some (.ok record) ∧
          IsProjectionOf tenantId userId record event := by
  let projected := requests.filterMap StreamRequest.event?
  refine ((projections env logs tenantId userId).history_invariant_of
    (fun moment => ∀ event, moment.input.event? = some event → event ∈ projected)
    (fun past log => Projects tenantId userId projected log ∧
      ∀ moment ∈ past, ∀ event, moment.input.event? = some event →
        ∃ record, moment.output = some (.ok record) ∧
          IsProjectionOf tenantId userId record event)
    ?_ OrderedMap.empty ?_ requests ?_).2
  · rintro _ _ request ⟨hlog, hpast⟩ hguard
    cases request with
    | prune olderThan limit =>
      refine ⟨prune_projects _ _ hlog olderThan limit, ?_⟩
      intro moment hmoment event hevent
      rcases List.mem_append.mp hmoment with hmoment | hmoment
      · exact hpast moment hmoment event hevent
      · obtain rfl := List.mem_singleton.mp hmoment
        cases hevent
    | project event _ dateNow =>
      have hmem := hguard event rfl
      obtain ⟨⟨record, hanswer, hrecord⟩, hafter⟩ :=
        append_projects env tenantId userId hlog hmem (hclear event hmem) dateNow
      refine ⟨hafter, ?_⟩
      intro moment hmoment event' hevent
      rcases List.mem_append.mp hmoment with hmoment | hmoment
      · exact hpast moment hmoment event' hevent
      · obtain rfl := List.mem_singleton.mp hmoment
        obtain rfl := Option.some.inj hevent
        exact ⟨record, congrArg some hanswer, hrecord⟩
  · exact ⟨fun _ hrecord => absurd hrecord List.not_mem_nil,
      fun moment hmoment => absurd hmoment List.not_mem_nil⟩
  · intro moment hmoment event hevent
    exact List.mem_filterMap.mpr ⟨_, Machine.input_mem_of_mem_history _ _ hmoment, hevent⟩

/-- A run keeps its session events apart exactly if no two of them clash. -/
theorem projections_keptApart_iff (requests : List (StreamRequest logs)) :
    KeptApart env logs tenantId userId requests ↔
      ∀ event ∈ requests.filterMap StreamRequest.event?,
        ∀ other ∈ requests.filterMap StreamRequest.event?,
          event ≠ other → ¬ Clashes event other := by
  constructor
  · rintro ⟨haccepted, hapart⟩ event hevent other hother hne hclash
    obtain ⟨_, hrequest, hproject⟩ := List.mem_filterMap.mp hevent
    obtain ⟨_, hrequest', hproject'⟩ := List.mem_filterMap.mp hother
    obtain ⟨moment, hmoment, rfl⟩ := (projections env logs tenantId userId).exists_moment_of_mem
      OrderedMap.empty hrequest
    obtain ⟨moment', hmoment', rfl⟩ := (projections env logs tenantId userId).exists_moment_of_mem
      OrderedMap.empty hrequest'
    obtain ⟨record, hanswer, hrecord⟩ := haccepted moment hmoment event hproject
    obtain ⟨record', hanswer', hrecord'⟩ := haccepted moment' hmoment' other hproject'
    apply hapart moment hmoment moment' hmoment' event other hproject hproject' hne record record'
      hanswer hanswer'
    rw [hrecord.eventId, hrecord'.eventId]
    exact workspaceEventId_eq_iff.mpr hclash
  · intro hclear
    have haccepted := history_accepted env logs tenantId userId requests hclear
    refine ⟨haccepted, ?_⟩
    intro moment hmoment other hother event event' hevent hevent' hne record record' hanswer
      hanswer' hsame
    obtain ⟨_, hanswer₁, hrecord⟩ := haccepted moment hmoment event hevent
    obtain ⟨_, hanswer₂, hrecord'⟩ := haccepted other hother event' hevent'
    obtain rfl := Except.ok.inj (Option.mem_unique hanswer hanswer₁)
    obtain rfl := Except.ok.inj (Option.mem_unique hanswer' hanswer₂)
    rw [hrecord.eventId, hrecord'.eventId] at hsame
    exact hclear event (List.mem_filterMap.mpr
        ⟨_, Machine.input_mem_of_mem_history _ _ hmoment, hevent⟩)
      event' (List.mem_filterMap.mpr ⟨_, Machine.input_mem_of_mem_history _ _ hother, hevent'⟩)
      hne (workspaceEventId_eq_iff.mp hsame)

end Projections

/-- Two events of the session `s`; the id of the second is the first one's after the
session's. -/
def prefixedLogs : SessionLogs where
  events := [
    { tenantId := "t", sessionId := "s", eventId := "a", sequence := 1,
      type := "prompt.submitted", payload := Json.emptyObject, createdAt := 0 },
    { tenantId := "t", sessionId := "s", eventId := "s:a", sequence := 2,
      type := "assistant.message", payload := Json.emptyObject, createdAt := 0 }]
  distinct := by decide

def prefixedProjections : List (StreamRequest prefixedLogs) :=
  [.project prefixedLogs.events[0] (by decide) 0, .project prefixedLogs.events[1] (by decide) 0]

/-- The second event is refused as another use of the first one's id. -/
theorem prefixed_event_refused :
    (((projections plainEnvironment prefixedLogs "t" "u").history OrderedMap.empty
        prefixedProjections).map fun moment =>
          moment.output.map fun answer => answer.toOption.isSome) = [some true, some false] ∧
      ¬ KeptApart plainEnvironment prefixedLogs "t" "u" prefixedProjections := by
  have hanswers : (((projections plainEnvironment prefixedLogs "t" "u").history OrderedMap.empty
      prefixedProjections).map fun moment =>
        moment.output.map fun answer => answer.toOption.isSome) = [some true, some false] := by
    decide +kernel
  refine ⟨hanswers, ?_⟩
  intro hkept
  have hrefused : some false ∈ [some true, some false] := by decide
  rw [← hanswers] at hrefused
  obtain ⟨moment, hmoment, hanswer⟩ := List.mem_map.mp hrefused
  have hinput := Machine.input_mem_of_mem_history _ _ hmoment
  have hevent : ∃ event, moment.input.event? = some event := by
    simp only [prefixedProjections, List.mem_cons, List.not_mem_nil, or_false] at hinput
    rcases hinput with hinput | hinput
    · exact ⟨_, by rw [hinput, StreamRequest.event?]⟩
    · exact ⟨_, by rw [hinput, StreamRequest.event?]⟩
  obtain ⟨event, hevent⟩ := hevent
  obtain ⟨_, houtput, _⟩ := hkept.accepted moment hmoment event hevent
  rw [houtput] at hanswer
  simp [Except.toOption] at hanswer

end WorkspaceEvents

end OpenCowork.ControlPlane
