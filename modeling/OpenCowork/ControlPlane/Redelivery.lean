import OpenCowork.ControlPlane.EventLogs

/-! # A projected event that is delivered again

As long as retention keeps the event and its workspace event, a redelivery appends
nothing and projects nothing. It does repeat the effects that its input names: the
status is set again, and a run that is still live is finished.
-/

namespace OpenCowork.ControlPlane

open Foundation

namespace WorkspaceEvents

theorem sameContent_congr (env : Environment) (existing : WorkspaceEventRecord)
    {first again : AppendWorkspaceEventInput} (huser : again.userId = first.userId)
    (hsession : again.sessionId = first.sessionId) (hentity : again.entityType = first.entityType)
    (hentityId : again.entityId = first.entityId) (hoperation : again.operation = first.operation)
    (hversion : again.projectionVersion = first.projectionVersion) (htype : again.type = first.type)
    (hpayload : env.stableJson (again.payload.getD Json.emptyObject) =
      env.stableJson (first.payload.getD Json.emptyObject))
    (state state' : WorkspaceEventState) (now now' : Instant) :
    sameContent env again existing (draftOf state' again now') =
      sameContent env first existing (draftOf state first now) := by
  unfold sameContent draftOf
  simp only [huser, hsession, hentity, hentityId, hoperation, hversion, htype, hpayload]
  cases first.projectionVersion <;> rfl

theorem append_held (env : Environment) {log : WorkspaceEvents} (hstreams : log.StreamsDistinct)
    {input : AppendWorkspaceEventInput} {now : Instant} {held : WorkspaceEventRecord}
    (hmem : held ∈ (log.stateOf input.tenantId input.userId).events)
    (hid : (draftOf (log.stateOf input.tenantId input.userId) input now).eventId = held.eventId)
    (hsame : sameContent env input held
      (draftOf (log.stateOf input.tenantId input.userId) input now) = true) :
    log.append env input now = (.ok held, log) := by
  have hfind := find?_key_of_mem (hstreams.stateOf input.tenantId input.userId) hmem
  unfold append
  dsimp only
  rw [hid, hfind]
  dsimp only
  rw [if_pos hsame]

end WorkspaceEvents

namespace WorkflowsDomain

theorem finishWorkflowRun_unchanged {σ : Type} (domain : WorkflowsDomain) (host : WorkflowsHost σ)
    (input : FinishWorkflowRunInput) (now : Instant) :
    (domain.finishWorkflowRun host input now).2 = domain ∨
      ∃ run, domain.run? (key input.tenantId input.runId) = some run ∧
        run.workflowId = input.workflowId ∧ run.live = true := by
  unfold finishWorkflowRun
  split
  · exact .inl rfl
  cases hrun : domain.run? (key input.tenantId input.runId) with
  | none => exact .inl rfl
  | some run =>
    by_cases hnames : run.workflowId = input.workflowId ∧ run.live = true
    · exact .inr ⟨run, rfl, hnames⟩
    · left
      dsimp only
      split
      · rfl
      next hworkflow =>
        rw [if_pos]
        simpa using fun hlive => hnames ⟨not_not.mp hworkflow, hlive⟩

theorem restore_snapshot (domain : WorkflowsDomain) (saved : WorkflowsSnapshot) :
    (domain.restore saved).snapshot = saved := by
  obtain ⟨workflows, workflowRuns, _⟩ := saved
  unfold restore snapshot
  congr 1
  · apply OrderedMap.ext_entries
    simp only [OrderedMap.map, OrderedMap.mapWithKey, List.map_map]
    refine (List.map_congr_left fun entry hmem => ?_).trans (List.map_id _)
    obtain ⟨workflowKey, record, runs⟩ := entry
    have hget := (OrderedMap.get_eq_some_iff workflows workflowKey (record, runs)).mpr hmem
    have hruns : ((List.range runs.length).map fun position => (runs[position]?).bind id) =
      runs := by
      refine List.ext_getElem (by simp) fun position _ hright => ?_
      rw [List.getElem_map, List.getElem_range, List.getElem?_eq_getElem hright, Option.bind_some,
        id_eq]
    simp only [Function.comp_apply, List.map_map, id_eq]
    refine congrArg (fun runs => (workflowKey, record, runs)) (Eq.trans ?_ hruns)
    refine List.map_congr_left fun _ _ => ?_
    simp only [Function.comp_apply, hget, Option.bind_some]
    rfl
  · apply OrderedMap.ext_entries
    simp only [OrderedMap.map, OrderedMap.mapWithKey, List.map_map]
    refine (List.map_congr_left fun entry hmem => ?_).trans (List.map_id _)
    obtain ⟨runKey, run⟩ := entry
    have hget := (OrderedMap.get_eq_some_iff workflowRuns runKey run).mpr hmem
    simp only [Function.comp_apply, hget, Option.bind_some, id_eq]

end WorkflowsDomain

def NamesLiveRun (workflows : WorkflowsDomain) : Option WorkflowTerminal → Prop
  | none => False
  | some (.completed input) =>
    ∃ run, workflows.run? (key input.tenantId input.runId) = some run ∧
      run.workflowId = input.workflowId ∧ run.live = true
  | some (.failed input) =>
    ∃ run, workflows.run? (key input.tenantId input.runId) = some run ∧
      run.workflowId = input.workflowId ∧ run.live = true

/-- A delivery of the same event: its id, type and payload, and a workspace callback that
names the same workspace event for it. The effects and the lease token are free. -/
structure Redelivers (env : Environment) (event : SessionEventRecord)
    (first again : AppendProjectedSessionEventInput) : Prop where
  tenantId : again.tenantId = first.tenantId
  sessionId : again.sessionId = first.sessionId
  eventId : again.eventId = some event.eventId
  type : again.type = first.type
  payload : env.stableJson (again.payload.getD Json.emptyObject) =
    env.stableJson (first.payload.getD Json.emptyObject)
  workspace : ∀ record record', again.workspace record' event = first.workspace record event
  named : ∀ record draft, first.workspace record event = .ok draft → draft.eventId ≠ ""

namespace SessionState

variable {session : SessionState} {input : AppendEventInput} {event : SessionEventRecord}

theorem appendSessionEvent_eq_ok {env : Environment} {appended : SessionState} {now : Instant}
    (happend : session.appendSessionEvent env input now = (.ok event, appended)) :
    event.type = input.type ∧
      env.stableJson event.payload = env.stableJson (input.payload.getD Json.emptyObject) ∧
      event.eventId ≠ "" := by
  have hnamed : (session.eventOf input now).eventId ≠ "" := by
    unfold eventOf presentText
    cases hid : input.eventId.filter fun text => decide (text ≠ "") with
    | none => simp
    | some => exact of_decide_eq_true (Option.filter_eq_some_iff.mp hid).2
  unfold appendSessionEvent at happend
  split at happend
  · exact absurd (congrArg Prod.fst happend) (by simp)
  dsimp only at happend
  split at happend
  next existing hfind =>
    split at happend
    · exact absurd (congrArg Prod.fst happend) (by simp)
    next hsame =>
      obtain rfl := Except.ok.inj (congrArg Prod.fst happend)
      obtain ⟨htype, hpayload⟩ := not_or.mp hsame
      have hfound := List.find?_some hfind
      have hid : existing.eventId = (session.eventOf input now).eventId := of_decide_eq_true hfound
      exact ⟨not_not.mp htype, not_not.mp hpayload, hid ▸ hnamed⟩
  · obtain rfl := Except.ok.inj (congrArg Prod.fst happend)
    exact ⟨rfl, rfl, hnamed⟩

theorem appendSessionEvent_held (env : Environment) (now : Instant)
    (hfind : session.findEvent event.eventId = some event) (hnamed : event.eventId ≠ "")
    (hid : input.eventId = some event.eventId) (htype : event.type = input.type)
    (hpayload : env.stableJson event.payload =
      env.stableJson (input.payload.getD Json.emptyObject)) :
    (∃ thrown, session.appendSessionEvent env input now = (.error thrown, session)) ∨
      session.appendSessionEvent env input now = (.ok event, session) := by
  have heventOf : (session.eventOf input now).eventId = event.eventId := by
    rw [eventOf, hid, presentText_some hnamed, Option.getD_some]
  unfold appendSessionEvent
  rcases session.assertLeaseTokenIfPresent input.leaseToken now with thrown | ⟨⟨⟩⟩
  · exact .inl ⟨thrown, rfl⟩
  · right
    dsimp only
    rw [heventOf, hfind]
    dsimp only
    rw [if_neg]
    exact not_or.mpr ⟨not_not.mpr htype, not_not.mpr hpayload⟩

end SessionState

namespace ControlPlaneStore

variable {σ : Type} (context : StoreContext σ) {store : ControlPlaneStore σ}
  {input : AppendProjectedSessionEventInput} {now : Instant} {session : SessionState}
  {result : AppendProjectedSessionEventResult}

theorem appendProjectedWorkspaceEvent_eq_ok {event : SessionEventRecord}
    {record : WorkspaceEventRecord} {existed : Bool} {written : ControlPlaneStore σ}
    (hworkspace : store.appendProjectedWorkspaceEvent context session input event now =
      (.ok (record, existed), written)) :
    ∃ draft, input.workspace session.record event = .ok draft ∧
      (store.workspaceEvents.append context.env (workspaceEventOf session input event draft)
        now).1 = .ok record := by
  unfold appendProjectedWorkspaceEvent at hworkspace
  cases hdraft : input.workspace session.record event with
  | error =>
    rw [hdraft] at hworkspace
    exact absurd (congrArg Prod.fst hworkspace) (by simp)
  | ok draft =>
    rw [hdraft] at hworkspace
    refine ⟨draft, rfl, ?_⟩
    unfold appendWorkspaceEvent at hworkspace
    dsimp only at hworkspace
    split at hworkspace
    · exact absurd (congrArg Prod.fst hworkspace) (by simp [Except.map])
    · split at hworkspace
      · exact absurd (congrArg Prod.fst hworkspace) (by simp [Except.map])
      · obtain ⟨found, hfound, heq⟩ := map_eq_ok (congrArg Prod.fst hworkspace)
        obtain rfl : found = record := congrArg Prod.fst heq
        exact hfound

/-- What a projected append that went through has established in its session. -/
structure Established (input : AppendProjectedSessionEventInput)
    (result : AppendProjectedSessionEventResult) (session : SessionState)
    (draft : WorkspaceDraft) : Prop where
  covered : ∃ projection, session.projection = some projection ∧
    result.event.sequence ≤ projection.sequence
  type : result.event.type = input.type
  payload : context.env.stableJson result.event.payload =
    context.env.stableJson (input.payload.getD Json.emptyObject)
  named : result.event.eventId ≠ ""
  drafted : ∃ record, input.workspace record result.event = .ok draft
  workspaceId : draft.eventId ≠ "" → result.workspaceEvent.eventId = draft.eventId
  workspaceEvent : ∃ state now, WorkspaceEvents.sameContent context.env
    (workspaceEventOf session input result.event draft) result.workspaceEvent
    (WorkspaceEvents.draftOf state (workspaceEventOf session input result.event draft) now) = true

theorem Projecting.established
    {outcome : Outcome (ControlPlaneStore σ) AppendProjectedSessionEventResult}
    (hprojecting : Projecting context store session input now outcome)
    (hresult : outcome.1 = .ok result) :
    ∃ last draft, outcome.2.sessions.get (key input.tenantId input.sessionId) = some last ∧
      Established context input result last draft := by
  cases hprojecting with
  | refused | stopped => simp at hresult
  | @finished event appended projected workspaceEvent existed written answer hevent hworkspace
      hprojects hanswer updatedAt =>
      obtain ⟨rfl, rfl⟩ := hanswer result hresult
      obtain ⟨htype, hpayload, hnamed⟩ := SessionState.appendSessionEvent_eq_ok hevent
      obtain ⟨draft, hdraft, happended⟩ := appendProjectedWorkspaceEvent_eq_ok context hworkspace
      obtain ⟨hsame, hid⟩ := WorkspaceEvents.append_eq_ok (Prod.ext happended rfl)
      -- Projecting and the status keep the owner of the session.
      have hgrows := hprojects.grows.trans
        (projected.applyStatus_grows input.sessionStatus updatedAt)
      have hwinput : workspaceEventOf (projected.applyStatus input.sessionStatus updatedAt) input
          result.event draft = workspaceEventOf appended input result.event draft := by
        unfold workspaceEventOf
        rw [hgrows.userId]
      refine ⟨projected.applyStatus input.sessionStatus updatedAt, draft, ?_, ?_⟩
      · rw [applyProjectedEventEffects_sessions]
        exact OrderedMap.get_set_self _ _ _
      · refine ⟨?_, htype, hpayload, hnamed, ⟨_, hdraft⟩, fun hdraftId => ?_, _, now,
          hwinput ▸ hsame⟩
        · obtain ⟨_, hprojection, hcovers⟩ := hprojects.covers
          obtain ⟨next, hnext, hle⟩ :=
            (projected.applyStatus_grows input.sessionStatus updatedAt).projected _ hprojection
          exact ⟨next, hnext, hcovers.trans hle⟩
        · rw [hid, WorkspaceEvents.draftOf]
          dsimp only [workspaceEventOf]
          rw [presentText_some hdraftId, Option.getD_some]

theorem appendProjectedSessionEvent_established {after : ControlPlaneStore σ}
    (happend : store.appendProjectedSessionEvent context input now = (.ok result, after)) :
    ∃ session draft, after.sessions.get (key input.tenantId input.sessionId) = some session ∧
      Established context input result session draft := by
  unfold appendProjectedSessionEvent at happend
  split at happend
  · exact absurd (congrArg Prod.fst happend) (by simp)
  next session _ =>
  have hestablished : ∀ result, (store.projectSessionEvent context session input now).1 =
      .ok result → _ := fun _ => (store.projectSessionEvent_projecting context session input
    now).established context
  generalize store.projectSessionEvent context session input now = guarded at happend hestablished
  obtain ⟨_ | _, _⟩ := guarded
  · exact absurd (congrArg Prod.fst happend) (by simp)
  · obtain ⟨hfound, rfl⟩ := Prod.mk.inj happend
    exact hestablished result hfound

/-- What a redelivery leaves behind: a throw leaves everything, otherwise only the status
of the session and a live run that the input names can differ. -/
structure LeavesLogs (before : ControlPlaneStore σ) (again : AppendProjectedSessionEventInput)
    (event : SessionEventRecord) (session : SessionState)
    (outcome : Outcome (ControlPlaneStore σ) AppendProjectedSessionEventResult) : Prop where
  neighbours : outcome.2.neighbours = before.neighbours
  workspaceEvents : outcome.2.workspaceEvents = before.workspaceEvents
  thrown : ∀ error, outcome.1 = .error error → outcome.2.sessions = before.sessions ∧
    outcome.2.workflows.snapshot = before.workflows.snapshot
  answered : ∀ result, outcome.1 = .ok result → result.event = event ∧
    outcome.2.sessions = before.sessions.set (key again.tenantId again.sessionId)
      (session.applyStatus again.sessionStatus event.createdAt)
  workflows : outcome.2.workflows.snapshot = before.workflows.snapshot ∨
    NamesLiveRun before.workflows again.workflowTerminal

theorem applyTerminal_unchanged (store : ControlPlaneStore σ) (terminal : Option WorkflowTerminal)
    (now : Instant) :
    (store.applyTerminal context terminal now).2.workflows = store.workflows ∨
      NamesLiveRun store.workflows terminal := by
  rcases terminal with _ | _ | _
  · exact .inl rfl
  · exact store.workflows.finishWorkflowRun_unchanged _ _ now
  · exact store.workflows.finishWorkflowRun_unchanged _ _ now

section Redelivered

variable {first again : AppendProjectedSessionEventInput}
  {result : AppendProjectedSessionEventResult} {past session : SessionState}
  {draft : WorkspaceDraft}

theorem appendProjectedWorkspaceEvent_redelivered
    (hestablished : Established context first result past draft)
    (hagain : Redelivers context.env result.event first again) (hgrows : past.Grows session)
    (hstreams : store.workspaceEvents.StreamsDistinct)
    (hworkspaceEvent : result.workspaceEvent ∈
      (store.workspaceEvents.stateOf first.tenantId session.record.userId).events)
    (now : Instant) :
    (∃ thrown, store.appendProjectedWorkspaceEvent context session again result.event now =
        (.error thrown, store)) ∨
      ∃ existed, store.appendProjectedWorkspaceEvent context session again result.event now =
        (.ok (result.workspaceEvent, existed), store) := by
  obtain ⟨record, hdraft⟩ := hestablished.drafted
  have hdraft' := (hagain.workspace record session.record).trans hdraft
  have hnamed := hagain.named record draft hdraft
  have hheld : ∀ now, store.workspaceEvents.append context.env
      (workspaceEventOf session again result.event draft) now =
        (.ok result.workspaceEvent, store.workspaceEvents) := by
    intro now
    obtain ⟨_, _, hsame⟩ := hestablished.workspaceEvent
    apply WorkspaceEvents.append_held context.env hstreams
    · rw [← hagain.tenantId] at hworkspaceEvent
      exact hworkspaceEvent
    · rw [hestablished.workspaceId hnamed, WorkspaceEvents.draftOf]
      dsimp only [workspaceEventOf]
      rw [presentText_some hnamed, Option.getD_some]
    · have huser : (workspaceEventOf session again result.event draft).userId =
          (workspaceEventOf past first result.event draft).userId := hgrows.userId
      rw [← hsame]
      apply WorkspaceEvents.sameContent_congr context.env result.workspaceEvent huser
      · exact congrArg some hagain.sessionId
      · rfl
      · rfl
      · rfl
      · rfl
      · exact hagain.type
      · exact hagain.payload
  unfold appendProjectedWorkspaceEvent appendWorkspaceEvent
  rw [hdraft']
  dsimp only
  split
  next thrown _ => exact .inl ⟨thrown, rfl⟩
  · split
    next thrown _ => exact .inl ⟨thrown, rfl⟩
    · rw [hheld now]
      exact .inr ⟨_, rfl⟩

variable (hestablished : Established context first result past draft)
variable (hagain : Redelivers context.env result.event first again)
variable (hget : store.sessions.get (key again.tenantId again.sessionId) = some session)
variable (hgrows : past.Grows session)
variable (hids : (session.events.map SessionEventRecord.eventId).Nodup)
variable (hstreams : store.workspaceEvents.StreamsDistinct) (hevent : result.event ∈ session.events)
variable (hworkspaceEvent : result.workspaceEvent ∈ (store.workspaceEvents.stateOf first.tenantId
    session.record.userId).events)
include hestablished hagain hget hgrows hids hstreams hevent hworkspaceEvent

theorem projectSessionEvent_redelivered (now : Instant) :
    (∃ thrown, store.projectSessionEvent context session again now = (.error thrown, store)) ∨
      ∃ answer : AppendProjectedSessionEventResult, answer.event = result.event ∧
        store.projectSessionEvent context session again now =
          concluding (store.applyProjectedEventEffects context session again
            result.event.createdAt now) answer := by
  have hput : store.putSession again.tenantId again.sessionId session = store := by
    simp only [ControlPlaneStore.putSession, SessionsDomain.putSession,
      OrderedMap.set_get_self _ hget]
  have hfind : session.findEvent result.event.eventId = some result.event :=
    find?_key_of_mem hids hevent
  obtain ⟨covering, hcovering, hle⟩ := hestablished.covered
  obtain ⟨current, hcurrent, hle'⟩ := hgrows.projected covering hcovering
  have hcovered : session.projection.filter
      (fun current => decide (result.event.sequence ≤ current.sequence)) = some current :=
    Option.filter_eq_some_iff.mpr ⟨hcurrent, decide_eq_true (hle.trans hle')⟩
  unfold projectSessionEvent
  rcases SessionState.appendSessionEvent_held context.env now hfind hestablished.named
    hagain.eventId (hestablished.type.trans hagain.type.symm)
    (hestablished.payload.trans hagain.payload.symm) with ⟨thrown, hthrown⟩ | hheld
  · exact .inl ⟨thrown, by rw [hthrown]⟩
  rw [hheld]
  dsimp only
  rw [hput]
  rcases appendProjectedWorkspaceEvent_redelivered context hestablished hagain hgrows hstreams
    hworkspaceEvent now with ⟨thrown, hthrown⟩ | ⟨existed, hworkspace⟩
  · exact .inl ⟨thrown, by rw [hthrown]⟩
  · right
    rw [hworkspace, hcovered]
    refine ⟨_, ?_, rfl⟩
    rfl

theorem appendProjectedSessionEvent_redelivered (now : Instant) :
    LeavesLogs store again result.event session
      (store.appendProjectedSessionEvent context again now) := by
  unfold appendProjectedSessionEvent
  rcases hsession : store.requireSession context again.tenantId again.sessionId with
    thrown | found
  · exact ⟨rfl, rfl, fun _ _ => ⟨rfl, rfl⟩, fun _ h => absurd h (by simp), .inl rfl⟩
  obtain rfl := Option.some.inj (hget.symm.trans (store.requireSession_get context hsession))
  have hrestored : ∀ (after : ControlPlaneStore σ),
      OnlySession again.tenantId again.sessionId store after → ∀ thrown,
      LeavesLogs store again result.event session
        (.error thrown, store.rollback after again.tenantId again.sessionId session) := by
    intro after honly thrown
    have hsame := sessions_restored context store hsession honly
    have hsnapshot := WorkflowsDomain.restore_snapshot after.workflows store.workflows.snapshot
    refine ⟨congrArg SessionsDomain.neighbours hsame, rfl, fun _ _ => ⟨?_, hsnapshot⟩,
      fun _ h => absurd h (by simp), .inl hsnapshot⟩
    exact congrArg SessionsDomain.sessions hsame
  have honly := projectSessionEvent_sessions context store session again now
  dsimp only
  rcases projectSessionEvent_redelivered context hestablished hagain hget hgrows hids hstreams
    hevent hworkspaceEvent now with ⟨thrown, hthrown⟩ | ⟨answer, hanswer, hconcluding⟩
  · rw [hthrown] at honly ⊢
    exact hrestored _ honly thrown
  rw [hconcluding] at honly ⊢
  have hsessions := applyProjectedEventEffects_sessions context store session again
    result.event.createdAt now
  have hworkflows := applyTerminal_unchanged context (store.putSession again.tenantId
    again.sessionId (session.applyStatus again.sessionStatus result.event.createdAt))
    again.workflowTerminal now
  have hstreamsKept : (store.applyProjectedEventEffects context session again
      result.event.createdAt now).2.workspaceEvents = store.workspaceEvents := by
    unfold applyProjectedEventEffects applyTerminal
    split <;> rfl
  change (store.applyProjectedEventEffects context session again result.event.createdAt
    now).2.workflows = store.workflows ∨ NamesLiveRun store.workflows again.workflowTerminal
    at hworkflows
  generalize store.applyProjectedEventEffects context session again result.event.createdAt now =
    applied at honly hsessions hworkflows hstreamsKept
  obtain ⟨thrown | ⟨⟨⟩⟩, after⟩ := applied
  · exact hrestored after honly thrown
  · change LeavesLogs store again result.event session (.ok answer, after)
    have hneighbours := congrArg SessionsDomain.neighbours hsessions
    refine ⟨hneighbours, hstreamsKept, fun _ h => absurd h (by simp), fun _ hfound => ?_, ?_⟩
    · obtain rfl := Except.ok.inj hfound
      exact ⟨hanswer, congrArg SessionsDomain.sessions hsessions⟩
    · exact hworkflows.imp (fun h => congrArg WorkflowsDomain.snapshot h) id

end Redelivered

/-- Retention has kept the event in the log of its session and the workspace event in the
stream of the session's owner. -/
def Retains (store : ControlPlaneStore σ) (input : AppendProjectedSessionEventInput)
    (result : AppendProjectedSessionEventResult) (session : SessionState) : Prop :=
  store.sessions.get (key input.tenantId input.sessionId) = some session ∧
    result.event ∈ session.events ∧
    result.workspaceEvent ∈
      (store.workspaceEvents.stateOf input.tenantId session.record.userId).events

/-- A projected append went through in some run, other requests followed, and the event is
delivered again while it is retained. -/
theorem run_redelivery (neighbours : σ) (earlier later : List StoreRequest)
    (first again : AppendProjectedSessionEventInput) (now now' : Instant)
    (result : AppendProjectedSessionEventResult) (after : ControlPlaneStore σ)
    (hfirst : ((machine context).run (initial neighbours) earlier).appendProjectedSessionEvent
      context first now = (.ok result, after)) (session : SessionState)
    (hretained : ((machine context).run after later).Retains first result session)
    (hagain : Redelivers context.env result.event first again) :
    LeavesLogs ((machine context).run after later) again result.event session
      (((machine context).run after later).appendProjectedSessionEvent context again now') := by
  have hafter : after = (machine context).run (initial neighbours)
      (earlier ++ [⟨now, "", .appendProjectedSessionEvent first⟩]) := by
    rw [Machine.run_append]
    exact (congrArg Prod.snd hfirst).symm
  have hreached : (machine context).run after later = (machine context).run (initial neighbours)
      (earlier ++ [⟨now, "", .appendProjectedSessionEvent first⟩] ++ later) := by
    rw [Machine.run_append _ _ _ later, hafter]
  obtain ⟨hget, hevent, hworkspaceEvent⟩ := hretained
  obtain ⟨past, _, hpast, hestablished⟩ :=
    appendProjectedSessionEvent_established context hfirst
  -- The session has only grown since the first delivery.
  obtain ⟨_, hpresent, hgrows⟩ := (after.run_grows context later).kept _ past hpast
  obtain rfl := Option.mem_unique hget hpresent
  have hids := run_eventIds context neighbours _ _ session (hreached ▸ hget)
  have hstreams := run_distinct context neighbours
    (earlier ++ [⟨now, "", .appendProjectedSessionEvent first⟩] ++ later)
  rw [← hreached] at hstreams
  rw [← hagain.tenantId, ← hagain.sessionId] at hget
  exact appendProjectedSessionEvent_redelivered context hestablished hagain hget hgrows hids
    hstreams hevent hworkspaceEvent now'

/-! ### Concrete deliveries -/

/-- A delivery for the session `s` of the single tenant. -/
def delivery (eventId : String) (status : Option SessionStatus)
    (terminal : Option WorkflowTerminal) : AppendProjectedSessionEventInput where
  tenantId := "t"
  sessionId := "s"
  eventId := some eventId
  type := "session.status"
  payload := none
  leaseToken := none
  createdAt := none
  sessionStatus := status
  workflowTerminal := terminal
  workspace := fun _ event =>
    .ok
      { eventId := "s:" ++ event.eventId
        entityType := "session"
        entityId := "s"
        operation := "update"
        projectionVersion := some event.sequence }
  project := fun _ _ _ => .ok (.null, none)

/-- The run `r` of the workflow `w` has failed. -/
def runFailed : WorkflowTerminal :=
  .failed
    { tenantId := "t"
      workflowId := "w"
      runId := "r"
      error := "broken"
      nextStatus := .active
      nextRunAt := none
      leaseToken := none
      finishedAt := none }

/-- The status, the event ids and the projected sequence of every session. -/
def sessionViews (store : ControlPlaneStore Neighbours) :
    List (SessionStatus × List String × Nat) :=
  store.sessions.values.map fun session =>
    (session.record.status, session.events.map SessionEventRecord.eventId,
      session.projectionSequence)

def runViews (store : ControlPlaneStore Neighbours) : List WorkflowRunStatus :=
  store.workflows.allRuns.map CloudWorkflowRunRecord.status

/-- The session went idle after `e1` had set it running. -/
def overtaken : ControlPlaneStore Neighbours :=
  (machine plainContext).run (initial (Neighbours.single "t" "u"))
    [⟨0, "", .session (openSession "t" "u" "s")⟩,
      ⟨0, "", .appendProjectedSessionEvent (delivery "e1" (some .running) none)⟩,
      ⟨1, "", .appendProjectedSessionEvent (delivery "e2" (some .idle) none)⟩]

/-- The run that `e1` reports as failed was created after `e1`. -/
def recreated : ControlPlaneStore Neighbours :=
  (machine plainContext).run (initial (Neighbours.single "t" "u"))
    (⟨0, "", .session (openSession "t" "u" "s")⟩ :: workflowRequests.take 1 ++
      ⟨0, "", .appendProjectedSessionEvent (delivery "e1" none (some runFailed))⟩ ::
        (workflowRequests.drop 1).take 1)

/-- Retention has dropped `e1` and its workspace event. -/
def forgotten : ControlPlaneStore Neighbours :=
  (machine plainContext).run (initial (Neighbours.single "t" "u"))
    [⟨0, "", .session (openSession "t" "u" "s")⟩,
      ⟨0, "", .appendProjectedSessionEvent (delivery "e1" none none)⟩,
      ⟨9, "", .pruneExpiredSessionEvents 5 1⟩,
      ⟨9, "", .pruneExpiredWorkspaceEvents 5 1⟩]

/-- Redeliveries that are noticed: the status goes back, a run fails, the event is logged
once more. -/
theorem redelivery_is_noticed :
    (overtaken.sessionViews = [(.idle, ["e1", "e2"], 2)] ∧
      (overtaken.appendProjectedSessionEvent plainContext (delivery "e1" (some .running) none)
        2).2.sessionViews = [(.running, ["e1", "e2"], 2)]) ∧
    (recreated.runViews = [.queued] ∧
      (recreated.appendProjectedSessionEvent plainContext (delivery "e1" none (some runFailed))
        2).2.runViews = [.failed]) ∧
    (forgotten.sessionViews = [(.idle, [], 1)] ∧
      (forgotten.appendProjectedSessionEvent plainContext (delivery "e1" none none)
        9).2.sessionViews = [(.idle, ["e1"], 2)]) := by
  refine ⟨⟨?_, ?_⟩, ⟨?_, ?_⟩, ?_, ?_⟩ <;> decide +kernel

/-- A redelivery adds nothing to the workspace stream. -/
theorem redelivery_adds_nothing :
    (overtaken.appendProjectedSessionEvent plainContext (delivery "e2" none none)
      2).2.workspaceEvents = overtaken.workspaceEvents := by
  have hfirst : ((machine plainContext).run (initial (Neighbours.single "t" "u"))
      [⟨0, "", .session (openSession "t" "u" "s")⟩,
        ⟨0, "", .appendProjectedSessionEvent
          (delivery "e1" (some .running) none)⟩]).appendProjectedSessionEvent plainContext
            (delivery "e2" (some .idle) none) 1 = (.ok _, overtaken) := rfl
  exact (run_redelivery plainContext (Neighbours.single "t" "u") _ []
    (delivery "e2" (some .idle) none) (delivery "e2" none none) 1 2 _ overtaken hfirst _
    ⟨rfl, by decide +kernel, by decide +kernel⟩
    ⟨rfl, rfl, rfl, rfl, rfl, fun _ _ => rfl, fun _ draft h => by
      obtain rfl := Except.ok.inj h
      decide⟩).workspaceEvents

end ControlPlaneStore

end OpenCowork.ControlPlane
