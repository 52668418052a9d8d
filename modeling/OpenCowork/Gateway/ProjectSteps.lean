import OpenCowork.Gateway.Frames
import OpenCowork.Gateway.Linked
import OpenCowork.Gateway.Projects

/-! # Steps of projects

What the functions that the operations on projects share write, and what they leave alone.
-/

namespace OpenCowork.Gateway

open Foundation

variable {platform : ProjectPlatform} {state next : ProjectState} {now : Int}
  (binding : ProjectBindingRecord) {roadmapId id : String} {input : RoadmapSupervisorInput}
  {supervisor : RoadmapSupervisorRecord} {work work' : WorkState} {text : String}
  {value : Option String} {scope : ProjectBindingScope} {target : ProjectBindingRecord}

/-! ## Texts of bindings -/

theorem length_charCodeUnits_le (c : Char) : (Text.charCodeUnits c).length ≤ 2 := by
  unfold Text.charCodeUnits
  split <;> simp

theorem substringTo_ne_empty {units : Nat} (hunits : 2 ≤ units) (htext : text ≠ "") :
    Text.substringTo units text ≠ "" := by
  cases hlist : text.toList with
  | nil => exact absurd (String.toList_inj.mp hlist) htext
  | cons c =>
    intro hempty
    unfold Text.substringTo at hempty
    rw [hlist, Text.takeUnits, if_pos ((length_charCodeUnits_le c).trans hunits)] at hempty
    have hcons := congrArg String.toList hempty
    rw [String.toList_ofList] at hcons
    cases hcons

theorem normalizeRequiredString_ne_empty {value label : String} {maxLength : Nat}
    (hlength : 2 ≤ maxLength) (h : normalizeRequiredString value label maxLength = .ok text) :
    text ≠ "" := by
  unfold normalizeRequiredString at h
  split at h
  · cases h
  next hne =>
    rw [← Except.ok.inj h]
    exact substringTo_ne_empty hlength hne

structure ProjectBindingRecord.WellFormed (binding : ProjectBindingRecord) : Prop where
  channel : binding.scope.isChannel = true → binding.provider = some binding.scope.text ∧
    ∃ chatId, binding.chatId = some chatId ∧ chatId ≠ ""
  other : binding.scope.isChannel = false → binding.provider = none ∧ binding.chatId = none

theorem normalizeProjectBindingProvider_spec {provider : Option String}
    (h : normalizeProjectBindingProvider value scope = .ok provider) :
    provider = if scope.isChannel then some scope.text else none := by
  unfold normalizeProjectBindingProvider at h
  split at h
  next hchannel =>
    obtain ⟨_, -, h⟩ := bind_eq_ok h
    obtain ⟨_, hsame, h⟩ := bind_eq_ok h
    rw [refuseIf_eq_ok, not_not] at hsame
    rw [if_pos hchannel, ← Except.ok.inj h, hsame]
  next hchannel =>
    obtain ⟨_, -, h⟩ := bind_eq_ok h
    rw [if_neg hchannel]
    exact (Except.ok.inj h).symm

theorem normalizeProjectBindingChatId_spec {chatId : Option String}
    (h : normalizeProjectBindingChatId value scope = .ok chatId) :
    if scope.isChannel then ∃ text, chatId = some text ∧ text ≠ "" else chatId = none := by
  unfold normalizeProjectBindingChatId at h
  split at h
  next hchannel =>
    obtain ⟨_, -, h⟩ := bind_eq_ok h
    obtain ⟨text, htext, h⟩ := bind_eq_ok h
    rw [if_pos hchannel]
    exact ⟨text, (Except.ok.inj h).symm, normalizeRequiredString_ne_empty (by omega) htext⟩
  next hchannel =>
    obtain ⟨_, -, h⟩ := bind_eq_ok h
    rw [if_neg hchannel]
    exact (Except.ok.inj h).symm

theorem normalizeProjectBinding_wellFormed {input : ProjectBindingInput}
    (h : normalizeProjectBinding platform input = .ok target) : target.WellFormed := by
  unfold normalizeProjectBinding at h
  obtain ⟨_, -, h⟩ := bind_eq_ok h
  obtain ⟨_, hprovider, h⟩ := bind_eq_ok h
  obtain ⟨_, hchatId, h⟩ := bind_eq_ok h
  obtain ⟨_, -, h⟩ := bind_eq_ok h
  obtain ⟨_, -, h⟩ := bind_eq_ok h
  obtain rfl := Except.ok.inj h
  have hprovider := normalizeProjectBindingProvider_spec hprovider
  have hchatId := normalizeProjectBindingChatId_spec hchatId
  constructor
  · intro hchannel
    rw [if_pos hchannel] at hprovider hchatId
    exact ⟨hprovider, hchatId⟩
  · intro hchannel
    rw [if_neg (by simp [hchannel])] at hprovider hchatId
    exact ⟨hprovider, hchatId⟩

/-! ## The write of a binding -/

/-- What `upsertProjectBindingInState` leaves. -/
structure Upserted (platform : ProjectPlatform) (state : ProjectState) (bindingId : Option String)
    (allowRebind : Bool) (target : ProjectBindingRecord) (id : String)
    (record : ProjectBindingRecord) (next : ProjectState) : Prop where
  written : record = { target with title := record.title }
  alike : allowRebind = false → ∀ conflict,
    conflict ∈ [state.aliasConflict bindingId target, state.surfaceConflict bindingId target] →
    ∀ other binding, conflict = some (other, binding) →
    sameProjectBindingTarget binding target = true
  found : ∀ given, bindingId = some given → (state.projectBindings.get given).isSome = true
  place : state.reusableBinding bindingId target allowRebind = some id ∨
    (state.reusableBinding bindingId target allowRebind = none ∧
      id = "project_binding_" ++ platform.randomUUID state.work.drawn ∧
      state.work.drawn < next.work.drawn)
  bindings : next.projectBindings = (state.projectBindings.filter fun other _ =>
    other ∉ state.displacedBindings bindingId target allowRebind).set id record
  work : ∃ drawn, state.work.drawn ≤ drawn ∧ next.work = { state.work with drawn }
  channels : next.channelBindings = state.channelBindings
  supervisors : next.supervisors = state.supervisors
  receipts : next.delegationReceipts = state.delegationReceipts

theorem checkConflict_eq_ok {allowRebind : Bool} {error : String}
    {conflict : Option (String × ProjectBindingRecord)}
    (h : checkConflict allowRebind target error conflict = .ok ()) (hstrict : allowRebind = false)
    (other : String) (binding : ProjectBindingRecord)
    (hconflict : conflict = some (other, binding)) :
    sameProjectBindingTarget binding target = true := by
  unfold checkConflict at h
  rw [refuseIf_eq_ok] at h
  by_contra hdiffers
  apply h
  refine ⟨hstrict, ?_⟩
  rw [hconflict]
  simpa using hdiffers

theorem upsertProjectBinding_spec {input : ProjectBindingInput} {bindingId : Option String}
    {record : ProjectBindingRecord}
    (h : upsertProjectBindingInState platform input bindingId state = .ok (id, record, next)) :
    ∃ target, normalizeProjectBinding platform input = .ok target ∧
      Upserted platform state bindingId input.allowRebind target id record next := by
  unfold upsertProjectBindingInState at h
  obtain ⟨target, htarget, h⟩ := bind_eq_ok h
  obtain ⟨_, -, h⟩ := bind_eq_ok h
  obtain ⟨_, -, h⟩ := bind_eq_ok h
  obtain ⟨⟨⟩, halias, h⟩ := bind_eq_ok h
  obtain ⟨⟨⟩, hsurface, h⟩ := bind_eq_ok h
  obtain ⟨_, hfound, h⟩ := bind_eq_ok h
  obtain ⟨_, -, h⟩ := bind_eq_ok h
  refine ⟨target, htarget, ?_⟩
  rw [refuseIf_eq_ok] at hfound
  have hgiven : ∀ given, bindingId = some given →
      (state.projectBindings.get given).isSome = true := by
    rintro _ rfl
    simpa [Option.isNone_iff_eq_none, Option.isSome_iff_ne_none] using hfound
  have halike : input.allowRebind = false → ∀ conflict,
      conflict ∈ [state.aliasConflict bindingId target, state.surfaceConflict bindingId target] →
      ∀ other binding, conflict = some (other, binding) →
      sameProjectBindingTarget binding target = true := by
    intro hstrict conflict hmem other binding hconflict
    rcases List.mem_cons.mp hmem with rfl | hmem
    · exact checkConflict_eq_ok halias hstrict other binding hconflict
    · rw [List.mem_singleton.mp hmem] at hconflict
      exact checkConflict_eq_ok hsurface hstrict other binding hconflict
  cases hreusable : state.reusableBinding bindingId target input.allowRebind with
  | some =>
    rw [hreusable] at h
    cases h
    exact ⟨rfl, halike, hgiven, .inl hreusable, rfl, ⟨_, le_rfl, rfl⟩, rfl, rfl, rfl⟩
  | none =>
    rw [hreusable] at h
    cases h
    exact ⟨rfl, halike, hgiven,
      .inr ⟨hreusable, rfl, Nat.lt_succ_self _⟩, rfl, ⟨_, Nat.le_succ _, rfl⟩, rfl, rfl, rfl⟩

/-! ## Rows -/

/-- Nothing but rows of channel bindings was written. -/
structure SameButRows (state next : ProjectState) : Prop where
  work : next.work = state.work
  supervisors : next.supervisors = state.supervisors
  bindings : next.projectBindings = state.projectBindings
  receipts : next.delegationReceipts = state.delegationReceipts

theorem upsertRow_same (state : ProjectState) :
    SameButRows state (upsertChannelBindingRow binding state) := by
  unfold upsertChannelBindingRow
  split <;> exact ⟨rfl, rfl, rfl, rfl⟩

theorem deleteRow_same (state : ProjectState) :
    SameButRows state (deleteProjectBindingChannelRow binding state) := by
  unfold deleteProjectBindingChannelRow
  split <;> exact ⟨rfl, rfl, rfl, rfl⟩

theorem deleteRows_same (bindings : List ProjectBindingRecord) (state : ProjectState) :
    SameButRows state (deleteProjectBindingChannelRows bindings state) := by
  unfold deleteProjectBindingChannelRows
  induction bindings generalizing state with
  | nil => exact ⟨rfl, rfl, rfl, rfl⟩
  | cons binding _ ih =>
    have hfirst := deleteRow_same binding state
    have hrest := ih (deleteProjectBindingChannelRow binding state)
    exact ⟨hrest.work.trans hfirst.work, hrest.supervisors.trans hfirst.supervisors,
      hrest.bindings.trans hfirst.bindings, hrest.receipts.trans hfirst.receipts⟩

/-! ## Supervisors -/

/-- What the creation of a supervisor leaves. -/
structure Supervised (platform : ProjectPlatform) (state : ProjectState) (id : String)
    (next : ProjectState) : Prop where
  drawn : id = "supervisor_" ++ platform.randomUUID state.work.drawn
  supervisor : (next.supervisors.get id).isSome = true
  supervisors : ∀ other, (state.supervisors.get other).isSome = true →
    (next.supervisors.get other).isSome = true
  work : next.work = { state.work with drawn := state.work.drawn + 1 }
  bindings : next.projectBindings = state.projectBindings
  channels : next.channelBindings = state.channelBindings
  receipts : next.delegationReceipts = state.delegationReceipts

theorem reconcile_frame (platform : ProjectPlatform) (roadmapId : String)
    (preferred : Option String) (state : ProjectState) : ∃ supervisors,
    reconcileDefaultSupervisorInState platform roadmapId preferred state =
      { state with supervisors } ∧
    ∀ other, (supervisors.get other).isSome = (state.supervisors.get other).isSome := by
  unfold reconcileDefaultSupervisorInState
  refine ⟨_, rfl, fun _ => ?_⟩
  rw [OrderedMap.get_mapWithKey, Option.isSome_map]

theorem isSome_get_set {κ ν : Type*} [DecidableEq κ] (map : OrderedMap κ ν) (key other : κ)
    (value : ν) (h : (map.get other).isSome = true) :
    ((map.set key value).get other).isSome = true := by
  rw [OrderedMap.get_set]
  split
  · rfl
  · exact h

theorem createSupervisor_spec
    (h : createRoadmapSupervisorInState platform roadmapId input now state =
      .ok (id, supervisor, next)) : Supervised platform state id next := by
  unfold createRoadmapSupervisorInState at h
  iterate 7 obtain ⟨_, -, h⟩ := bind_eq_ok h
  cases h
  refine ⟨rfl, ?_, fun _ hother => isSome_get_set _ _ _ _ hother, rfl, rfl, rfl, rfl⟩
  rw [OrderedMap.get_set_self]
  rfl

theorem addSupervisor_spec
    (h : addSupervisorInState platform roadmapId input now state = .ok (id, supervisor, next)) :
    Supervised platform state id next := by
  unfold addSupervisorInState at h
  obtain ⟨⟨_, _, between⟩, hcreated, h⟩ := bind_eq_ok h
  cases h
  have hspec := createSupervisor_spec hcreated
  obtain ⟨supervisors, hframe, hkept⟩ := reconcile_frame platform supervisor.roadmapId
    (if supervisor.isDefault = true then some id else none) between
  rw [hframe]
  exact ⟨hspec.drawn, (hkept _).trans hspec.supervisor,
    fun other hother => (hkept other).trans (hspec.supervisors other hother), hspec.work,
    hspec.bindings, hspec.channels, hspec.receipts⟩

/-! ## Roadmaps and tasks -/

/-- An operation that a chain of steps may be read under. -/
def anyWorkInput : WorkInput where
  now := 0
  operation := .createWorkTasks [] none

theorem drawn_le_of_createRoadmap {platform : WorkPlatform} {input : RoadmapInput}
    (h : createRoadmapInState platform input work = .ok (id, work')) : work.drawn ≤ work'.drawn :=
  (sameWork_createRoadmap h).side.drawn

theorem drawn_le_of_createTask {platform : WorkPlatform} {input : WorkTaskCreateInput}
    (h : createWorkTaskInState platform input work = .ok (id, work')) : work.drawn ≤ work'.drawn :=
  have hsteps : WorkSteps platform anyWorkInput work work work' := createTask_steps h
  drawn_le_of_steps hsteps

theorem drawn_le_of_createTasks {platform : WorkPlatform}
    {inputs : List WorkTaskCreateInput} {ids : List String}
    (h : createWorkTasksInState platform inputs work = .ok (ids, work')) :
    work.drawn ≤ work'.drawn :=
  have hsteps : WorkSteps platform anyWorkInput work work work' := createTasks_steps h
  drawn_le_of_steps hsteps

/-! ## What surrounds the write of a binding -/

/-- Neither bindings nor rows of channels were touched. -/
structure Framed (state next : ProjectState) : Prop where
  bindings : next.projectBindings = state.projectBindings
  channels : next.channelBindings = state.channelBindings
  drawn : state.work.drawn ≤ next.work.drawn

theorem Supervised.framed (h : Supervised platform state id next) : Framed state next :=
  ⟨h.bindings, h.channels, by rw [h.work]; exact Nat.le_succ _⟩

theorem setSupervisor_framed (id roadmapId : String) (supervisor : RoadmapSupervisorRecord)
    (preferred : Option String) :
    Framed state (reconcileDefaultSupervisorInState platform roadmapId preferred
      { state with supervisors := state.supervisors.set id supervisor }) := by
  obtain ⟨supervisors, hframe, -⟩ := reconcile_frame platform roadmapId preferred
    { state with supervisors := state.supervisors.set id supervisor }
  rw [hframe]
  exact ⟨rfl, rfl, le_rfl⟩

section Framed

variable {answer : ProjectAnswer} {objective : String} {project : DelegatedProjectInput}
  {input : SupervisedProjectCreateInput}

theorem updateSupervisor_framed {update : RoadmapSupervisorUpdateInput}
    (h : updateRoadmapSupervisor platform id update state = .ok (answer, next)) :
    Framed state next := by
  unfold updateRoadmapSupervisor at h
  split at h
  · cases h
    exact ⟨rfl, rfl, le_rfl⟩
  · obtain ⟨supervisor, -, h⟩ := bind_eq_ok h
    cases h
    exact setSupervisor_framed id supervisor.roadmapId supervisor _

theorem archiveSupervisor_framed (id : String) :
    Framed state (archiveRoadmapSupervisor platform id state).2 := by
  unfold archiveRoadmapSupervisor
  split
  · exact ⟨rfl, rfl, le_rfl⟩
  next supervisor _ => exact setSupervisor_framed id supervisor.roadmapId supervisor.archive none

theorem makeProject_framed {names : String × List String × String × String} {sessionId : String}
    (h : makeSupervisedProject platform input now state = .ok (names, sessionId, next)) :
    ∃ between bindingId record roadmapId title, Framed state between ∧
      bindProjectInState platform { input.binding with roadmapId, title } between =
        .ok (bindingId, record, next) := by
  unfold makeSupervisedProject at h
  obtain ⟨⟨roadmapId, _⟩, hcreated, h⟩ := bind_eq_ok h
  obtain ⟨⟨_, filled⟩, hfilled, h⟩ := bind_eq_ok h
  obtain ⟨⟨_, _, supervised⟩, hsupervised, h⟩ := bind_eq_ok h
  obtain ⟨⟨bindingId, binding, _⟩, hbound, h⟩ := bind_eq_ok h
  cases h
  have hdrawn : state.work.drawn ≤ (recomputeRoadmapStatusInState roadmapId filled).drawn := by
    rw [recompute_drawn]
    exact (drawn_le_of_createRoadmap hcreated).trans (drawn_le_of_createTasks hfilled)
  have hframed := (addSupervisor_spec hsupervised).framed
  exact ⟨supervised, bindingId, binding, _, _,
    ⟨hframed.bindings, hframed.channels, hdrawn.trans hframed.drawn⟩, hbound⟩

theorem delegatedRoadmap_drawn
    (h : delegatedRoadmapInState platform project objective work = .ok (roadmapId, work')) :
    work.drawn ≤ work'.drawn := by
  unfold delegatedRoadmapInState at h
  split at h
  · obtain ⟨_, -, h⟩ := bind_eq_ok h
    cases h
    exact le_rfl
  · exact drawn_le_of_createRoadmap h

theorem delegateSupervisor_framed {input : Option RoadmapSupervisorInput} {answer : Option String}
    (h : delegateSupervisorInState platform roadmapId input now state = .ok (answer, next)) :
    Framed state next := by
  unfold delegateSupervisorInState at h
  split at h
  · cases h
    exact ⟨rfl, rfl, le_rfl⟩
  · obtain ⟨⟨_, _, _⟩, hsupervised, h⟩ := bind_eq_ok h
    cases h
    exact (addSupervisor_spec hsupervised).framed

theorem delegateProject_framed {made : DelegatedObjects}
    (h : delegateProjectInState platform project objective now state = .ok (made, next)) :
    ∃ between bindingId roadmapId, Framed state between ∧
      delegateBindingInState platform roadmapId project.binding between =
        .ok (bindingId, next) := by
  unfold delegateProjectInState at h
  obtain ⟨⟨roadmapId, _⟩, hcreated, h⟩ := bind_eq_ok h
  obtain ⟨⟨_, filled⟩, hfilled, h⟩ := bind_eq_ok h
  obtain ⟨⟨_, supervised⟩, hsupervised, h⟩ := bind_eq_ok h
  obtain ⟨⟨bindingId, _⟩, hbound, h⟩ := bind_eq_ok h
  cases h
  have hframed := delegateSupervisor_framed hsupervised
  have hdrawn : state.work.drawn ≤ (recomputeRoadmapStatusInState roadmapId filled).drawn := by
    rw [recompute_drawn]
    exact (delegatedRoadmap_drawn hcreated).trans (drawn_le_of_createTasks hfilled)
  exact ⟨supervised, bindingId, roadmapId,
    ⟨hframed.bindings, hframed.channels, hdrawn.trans hframed.drawn⟩, hbound⟩

theorem Framed.trans {between : ProjectState} (h : Framed state between)
    (h' : Framed between next) : Framed state next :=
  ⟨h'.bindings.trans h.bindings, h'.channels.trans h.channels, h.drawn.trans h'.drawn⟩

/-- What an accepted operation does to bindings and to rows. -/
inductive ProjectStep (platform : ProjectPlatform) (state : ProjectState) :
    ProjectOperation → ProjectState → Prop
  | followed {operation work} (hdrawn : state.work.drawn ≤ work.drawn) :
    ProjectStep platform state (.work operation) (followWork operation state work)
  | framed {operation next} (hframed : Framed state next) :
    ProjectStep platform state operation next
  | bound {input id record next}
    (hbound : bindProjectInState platform input state = .ok (id, record, next)) :
    ProjectStep platform state (.upsertProjectBinding input) next
  | updated {id update answer next}
    (hupdated : updateProjectBinding platform id update state = .ok (answer, next)) :
    ProjectStep platform state (.updateProjectBinding id update) next
  | deleted (id : String) :
    ProjectStep platform state (.deleteProjectBinding id) (deleteProjectBinding id state).2
  | created {input between made next id record roadmapId title}
    (hfree : input.key.bind (findDelegationReceiptInDb state) = none)
    (hframed : Framed state between)
    (hbound : bindProjectInState platform { input.binding with roadmapId, title } between =
      .ok (id, record, made)) (hlast : Framed made next) :
    ProjectStep platform state (.createSupervisedProject input) next
  | delegated {input project binding between written next id record roadmapId}
    (hfree : findDelegationReceiptInDb state input.idempotencyKey = none)
    (hissue : input.issue = none) (hproject : input.project = some project)
    (hbinding : project.binding = some binding) (hframed : Framed state between)
    (hwritten : upsertProjectBindingInState platform { binding with roadmapId } none between =
      .ok (id, record, written))
    (hlast : Framed (upsertChannelBindingRow record written) next) :
    ProjectStep platform state (.createDelegatedWork input) next

theorem createProject_step
    (h : createSupervisedProject platform input now state = .ok (answer, next)) :
    ProjectStep platform state (.createSupervisedProject input) next := by
  unfold createSupervisedProject at h
  split at h
  · iterate 2 obtain ⟨_, -, h⟩ := bind_eq_ok h
    cases h
    exact .framed ⟨rfl, rfl, le_rfl⟩
  next hnone =>
    obtain ⟨_, hmade, h⟩ := bind_eq_ok h
    have hfree : input.key.bind (findDelegationReceiptInDb state) = none := by
      cases hkey : input.key with
      | none => rfl
      | some => simpa [hkey] using hnone
    obtain ⟨_, _, _, _, _, hframed, hbound⟩ := makeProject_framed hmade
    cases h
    refine .created hfree hframed hbound ?_
    split <;> exact ⟨rfl, rfl, le_rfl⟩

theorem createDelegated_step {input : DelegatedWorkMutationInput}
    (h : createDelegatedWork platform input now state = .ok (answer, next)) :
    ProjectStep platform state (.createDelegatedWork input) next := by
  unfold createDelegatedWork at h
  split at h
  · cases h
    exact .framed ⟨rfl, rfl, le_rfl⟩
  next hnone =>
    obtain ⟨⟨_, _⟩, hmade, h⟩ := bind_eq_ok h
    cases h
    unfold makeDelegatedWork at hmade
    split at hmade
    · obtain ⟨⟨_, _⟩, hfilled, hmade⟩ := bind_eq_ok hmade
      cases hmade
      exact .framed ⟨rfl, rfl, drawn_le_of_createTask hfilled⟩
    next project hissue hproject =>
      obtain ⟨between, _, roadmapId, hframed, hbound⟩ := delegateProject_framed hmade
      unfold delegateBindingInState at hbound
      split at hbound
      · cases hbound
        exact .framed (hframed.trans ⟨rfl, rfl, le_rfl⟩)
      next hbinding =>
        obtain ⟨⟨_, _, _⟩, hwritten, hbound⟩ := bind_eq_ok hbound
        cases hbound
        exact .delegated hnone hissue hproject hbinding hframed hwritten ⟨rfl, rfl, le_rfl⟩
    · cases hmade

/-- Every accepted call is one of the steps above. -/
theorem attemptProject_step {operation : ProjectOperation}
    (h : attemptProject platform now state operation = .ok (answer, next)) :
    ProjectStep platform state operation next := by
  cases operation with
  | work operation =>
    obtain ⟨⟨_, work⟩, hwork, hafter⟩ := bind_eq_ok h
    cases hafter
    have hsteps : WorkSteps platform.toWorkPlatform ⟨now, operation⟩ state.work state.work work :=
      attempt_steps hwork
    exact .followed (drawn_le_of_steps hsteps)
  | createRoadmapSupervisor =>
    obtain ⟨_, hadded, hafter⟩ := bind_eq_ok h
    cases hafter
    exact .framed (addSupervisor_spec hadded).framed
  | updateRoadmapSupervisor => exact .framed (updateSupervisor_framed h)
  | archiveRoadmapSupervisor id =>
    obtain rfl := congrArg Prod.snd (Except.ok.inj h)
    exact .framed (archiveSupervisor_framed id)
  | upsertProjectBinding =>
    obtain ⟨_, hbound, hafter⟩ := bind_eq_ok h
    cases hafter
    exact .bound hbound
  | updateProjectBinding => exact .updated h
  | deleteProjectBinding id =>
    obtain rfl := congrArg Prod.snd (Except.ok.inj h)
    exact .deleted id
  | createSupervisedProject => exact createProject_step h
  | createDelegatedWork => exact createDelegated_step h

end Framed

end OpenCowork.Gateway
