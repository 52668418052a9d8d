import Mathlib.Data.List.TakeWhile
import OpenCowork.Foundation.Mirror
import OpenCowork.Gateway.ProjectSteps

/-! # Project bindings stay unique

An alias names one project in its scope, and a chat speaks of one project. A call that writes a
binding may meet one binding by its alias and another by its surface. It compares what it is given
with what was read back, so an id that is not read back as it was written is not found again.
-/

namespace OpenCowork.Gateway

open Foundation OrderedMap

def ProjectState.Single {κ : Type} (state : ProjectState)
    (key : ProjectBindingRecord → Option κ) : Prop :=
  ∀ {id other binding held shared}, state.projectBindings.get id = some binding →
    state.projectBindings.get other = some held → key binding = some shared →
    key held = some shared → id = other

def ProjectBindingRecord.aliasKey (binding : ProjectBindingRecord) :
    Option (String × ProjectBindingScope) :=
  some (binding.aliasName, binding.scope)

def ProjectBindingRecord.surfaceKey (binding : ProjectBindingRecord) : Option String :=
  if binding.scope = .global then none else some (projectBindingSurfaceKey binding)

/-- No two bindings share a key, and every binding is as it will be read. -/
structure BindingsApart (platform : ProjectPlatform) (state : ProjectState) : Prop where
  aliases : state.Single ProjectBindingRecord.aliasKey
  surfaces : state.Single ProjectBindingRecord.surfaceKey
  drawn : ∀ {id binding}, state.projectBindings.get id = some binding →
    platform.Drawn "project_binding_" state.work.drawn id
  plain : ∀ {id binding}, state.projectBindings.get id = some binding → binding.readBack = binding

/-! ## What is read back -/

/-- An id that is read back as it is written: what the cut leaves of it holds no NUL, and it does
not end in half a surrogate pair. -/
def survives (text : String) : Bool :=
  let kept := Text.substringTo 200 (Text.trim text)
  kept.toList.all (fun c => c.toNat ≠ 0) &&
    decide ((Text.codeUnits kept).length = min 200 (Text.codeUnits (Text.trim text)).length)

def ProjectBindingInput.survives (input : ProjectBindingInput) : Bool :=
  (input.sessionId :: input.chatId.toList).all Gateway.survives &&
    input.threadId.all fun thread => thread.toList.all fun c => c.toNat ≠ 0

/-- The bindings that an operation may write, as they are given. -/
def ProjectState.given (state : ProjectState) : ProjectOperation → List ProjectBindingInput
  | .upsertProjectBinding input => [input]
  | .updateProjectBinding id update => (state.projectBindings.get id).toList.map update.applied
  | .createSupervisedProject project =>
    if project.key.bind (findDelegationReceiptInDb state) = none then [project.binding] else []
  | .createDelegatedWork work =>
    if findDelegationReceiptInDb state work.idempotencyKey = none ∧ work.issue.isNone = true then
      (work.project.bind DelegatedProjectInput.binding).toList
    else []
  | _ => []

/-- An accepted call writes no chat, thread or session id that is read back as another. -/
def KeepsTexts (platform : ProjectPlatform) (state : ProjectState) (input : ProjectInput) : Prop :=
  (attemptProject platform input.now state input.operation).isOk = true →
    ∀ given ∈ state.given input.operation, given.survives = true
deriving Decidable

section Reading

variable {platform : ProjectPlatform} {state : ProjectState} {text : String}
  {target : ProjectBindingRecord} {input : ProjectBindingInput}

theorem columnText_eq (h : text.toList.all (fun c => c.toNat ≠ 0) = true) :
    columnText text = text := by
  rw [columnText, List.takeWhile_eq_self_iff.mpr (List.all_eq_true.mp h), String.ofList_toList]

theorem columnText_of_required {label : String} {id : String} (hsurvives : survives text = true)
    (h : normalizeRequiredString text label 200 = .ok id) : columnText id = id := by
  unfold normalizeRequiredString at h
  split at h
  · cases h
  · rw [← Except.ok.inj h]
    unfold survives at hsurvives
    rw [Bool.and_eq_true] at hsurvives
    exact columnText_eq hsurvives.1

theorem readBack_of_survives (htarget : normalizeProjectBinding platform input = .ok target)
    (h : input.survives = true) : target.readBack = target := by
  unfold ProjectBindingInput.survives at h
  rw [Bool.and_eq_true, List.all_cons, Bool.and_eq_true] at h
  obtain ⟨⟨hsession, hchats⟩, hthread⟩ := h
  unfold normalizeProjectBinding at htarget
  obtain ⟨_, -, htarget⟩ := bind_eq_ok htarget
  obtain ⟨_, -, htarget⟩ := bind_eq_ok htarget
  obtain ⟨chatId, hchatId, htarget⟩ := bind_eq_ok htarget
  obtain ⟨_, -, htarget⟩ := bind_eq_ok htarget
  obtain ⟨_, hsessionId, htarget⟩ := bind_eq_ok htarget
  obtain rfl := Except.ok.inj htarget
  have hchat : Text.truthy (chatId.map columnText) = chatId := by
    unfold normalizeProjectBindingChatId at hchatId
    split at hchatId
    · obtain ⟨given, hgiven, hchatId⟩ := bind_eq_ok hchatId
      obtain ⟨text, htext, hchatId⟩ := bind_eq_ok hchatId
      obtain rfl := Except.ok.inj hchatId
      rw [orThrow_eq_ok hgiven] at hchats
      have hsurvives : survives given = true := by simpa using hchats
      rw [Option.map_some, columnText_of_required hsurvives htext]
      simp [Text.truthy, Option.filter, normalizeRequiredString_ne_empty (by omega) htext]
    · obtain ⟨_, -, hchatId⟩ := bind_eq_ok hchatId
      obtain rfl := Except.ok.inj hchatId
      rfl
  have hthreadId : Text.truthy ((Text.truthy input.threadId).map columnText) =
      Text.truthy input.threadId := by
    cases hgiven : Text.truthy input.threadId with
    | none => rfl
    | some thread =>
      obtain ⟨hthread', hne⟩ := Option.filter_eq_some_iff.mp hgiven
      rw [hthread'] at hthread
      rw [Option.map_some, columnText_eq hthread]
      exact Option.filter_eq_some_iff.mpr ⟨rfl, hne⟩
  simp only [ProjectBindingRecord.readBack, columnText_of_required hsession hsessionId, hchat,
    hthreadId]

theorem get_reloaded (h : BindingsApart platform state) (id : String) :
    state.reloaded.projectBindings.get id = state.projectBindings.get id := by
  unfold ProjectState.reloaded
  rw [OrderedMap.get_map]
  cases hheld : state.projectBindings.get id with
  | none => rfl
  | some => rw [Option.map_some, h.plain hheld]

end Reading

/-! ## Conflicts -/

section Surfaces

variable {binding other : ProjectBindingRecord}

theorem head_surfaceKey (binding : ProjectBindingRecord) :
    (projectBindingSurfaceKey binding).toList.head? = binding.scope.text.toList.head? := by
  unfold projectBindingSurfaceKey
  cases binding.scope <;> simp [ProjectBindingScope.isChannel, ProjectBindingScope.text]

theorem scope_of_surfaceKey
    (h : projectBindingSurfaceKey binding = projectBindingSurfaceKey other) :
    binding.scope = other.scope := by
  have hhead := (head_surfaceKey binding).symm.trans (h ▸ head_surfaceKey other)
  cases hbinding : binding.scope <;> cases hother : other.scope <;>
    simp [hbinding, hother, ProjectBindingScope.text] at hhead ⊢

end Surfaces

section Conflicts

variable {platform : ProjectPlatform} {state next : ProjectState} {κ : Type} {shared : κ}
  {bindingId : Option String} {allowRebind : Bool} {id other : String}
  {target record held : ProjectBindingRecord} {key : ProjectBindingRecord → Option κ}

theorem mem_displacedBindings :
    other ∈ state.displacedBindings bindingId target allowRebind ↔
      ((∃ held, state.aliasConflict bindingId target = some (other, held)) ∨
        ∃ held, state.surfaceConflict bindingId target = some (other, held)) ∧
      state.reusableBinding bindingId target allowRebind ≠ some other := by
  unfold ProjectState.displacedBindings
  simp only [List.mem_filter, List.mem_filterMap, List.mem_cons, List.not_mem_nil, or_false,
    decide_eq_true_eq, ne_eq, eq_comm (a := some other)]
  refine and_congr_left fun _ => ?_
  simp [or_and_right, exists_or]

theorem surfaceConflict_spec (h : state.surfaceConflict bindingId target = some (other, held)) :
    state.projectBindings.get other = some held ∧
      projectBindingSurfaceKey held = projectBindingSurfaceKey target := by
  unfold ProjectState.surfaceConflict at h
  split at h
  · cases h
  · refine ⟨(get_eq_some_iff _ _ _).mpr (List.mem_of_find?_eq_some h), ?_⟩
    have hfound := List.find?_some h
    simp only [Bool.and_eq_true, decide_eq_true_eq] at hfound
    exact hfound.2

theorem aliasConflict_spec (h : state.aliasConflict bindingId target = some (other, held)) :
    state.projectBindings.get other = some held :=
  (get_eq_some_iff _ _ _).mpr (List.mem_of_find?_eq_some h)

theorem reusableBinding_of_given
    (hheld : state.projectBindings.get id = some held) (target : ProjectBindingRecord)
    (allowRebind : Bool) : state.reusableBinding (some id) target allowRebind = some id := by
  unfold ProjectState.reusableBinding
  simp [Option.filter, hheld]

theorem reusableBinding_spec (h : state.reusableBinding bindingId target allowRebind = some id) :
    ∃ held, state.projectBindings.get id = some held ∧
      (bindingId = some id ∨ state.aliasConflict bindingId target = some (id, held) ∨
        allowRebind = true ∧ state.surfaceConflict bindingId target = some (id, held)) := by
  unfold ProjectState.reusableBinding at h
  rcases Option.or_eq_some_iff.mp h with hgiven | ⟨-, hconflict⟩
  · obtain ⟨hgiven, hsome⟩ := Option.filter_eq_some_iff.mp hgiven
    obtain ⟨held, hheld⟩ := Option.isSome_iff_exists.mp hsome
    exact ⟨held, hheld, .inl hgiven⟩
  · obtain ⟨⟨_, held⟩, hfound, rfl⟩ := Option.map_eq_some_iff.mp hconflict
    split at hfound
    next hallow =>
      rcases Option.or_eq_some_iff.mp hfound with halias | ⟨-, hsurface⟩
      · exact ⟨held, aliasConflict_spec halias, .inr (.inl halias)⟩
      · exact ⟨held, (surfaceConflict_spec hsurface).1, .inr (.inr ⟨hallow, hsurface⟩)⟩
    · exact ⟨held, aliasConflict_spec hfound, .inr (.inl hfound)⟩

theorem exists_surfaceConflict
    (hheld : state.projectBindings.get other = some held) (hother : bindingId ≠ some other)
    (hscope : target.scope ≠ .global)
    (hsame : projectBindingSurfaceKey held = projectBindingSurfaceKey target) :
    ∃ found, state.surfaceConflict bindingId target = some found := by
  unfold ProjectState.surfaceConflict
  rw [if_neg hscope, ← Option.isSome_iff_exists, List.find?_isSome]
  refine ⟨(other, held), (get_eq_some_iff _ _ _).mp hheld, ?_⟩
  simp [hsame, Ne.symm hother]

variable (hup : Upserted platform state bindingId allowRebind target id record next)
include hup

theorem Upserted.surfaceKey :
    projectBindingSurfaceKey record = projectBindingSurfaceKey target ∧
      record.channelTarget = target.channelTarget ∧ record.scope = target.scope := by
  rw [hup.written]
  exact ⟨rfl, rfl, rfl⟩

theorem Upserted.readBack (h : target.readBack = target) : record.readBack = record := by
  rw [hup.written]
  exact congrArg (fun read => { read with title := record.title }) h

omit hup

theorem surfaceKey_eq_some {surface : String} (h : target.surfaceKey = some surface) :
    target.scope ≠ .global ∧ projectBindingSurfaceKey target = surface := by
  unfold ProjectBindingRecord.surfaceKey at h
  split at h
  · cases h
  next hscope => exact ⟨hscope, Option.some.inj h⟩

def Meets (state : ProjectState) (bindingId : Option String) (target : ProjectBindingRecord)
    (other : String) (held : ProjectBindingRecord) : Prop :=
  state.aliasConflict bindingId target = some (other, held) ∨
    state.surfaceConflict bindingId target = some (other, held)

def Finds (state : ProjectState) (bindingId : Option String) (target : ProjectBindingRecord)
    (key : ProjectBindingRecord → Option κ) : Prop :=
  ∀ {other held shared}, state.projectBindings.get other = some held → bindingId ≠ some other →
    key held = some shared → key target = some shared →
    ∃ found binding, Meets state bindingId target found binding ∧
      state.projectBindings.get found = some binding ∧ key binding = some shared

theorem exists_aliasConflict (hheld : state.projectBindings.get other = some held)
    (hother : bindingId ≠ some other) (hkey : held.aliasKey = target.aliasKey) :
    ∃ found binding, state.aliasConflict bindingId target = some (found, binding) ∧
      state.projectBindings.get found = some binding ∧ binding.aliasKey = target.aliasKey := by
  have hsame := Prod.mk.inj (Option.some.inj hkey)
  have hsome : (state.aliasConflict bindingId target).isSome := by
    unfold ProjectState.aliasConflict
    rw [List.find?_isSome]
    refine ⟨(other, held), (get_eq_some_iff _ _ _).mp hheld, ?_⟩
    simp [hsame.1, hsame.2, Ne.symm hother]
  obtain ⟨⟨found, binding⟩, hfound⟩ := Option.isSome_iff_exists.mp hsome
  refine ⟨found, binding, hfound, aliasConflict_spec hfound, ?_⟩
  have halike := List.find?_some hfound
  simp only [Bool.and_eq_true, decide_eq_true_eq] at halike
  rw [ProjectBindingRecord.aliasKey, ProjectBindingRecord.aliasKey, halike.1.2, halike.2]

theorem finds_alias : Finds state bindingId target ProjectBindingRecord.aliasKey := by
  intro _ _ _ hheld hother hkey htarget
  obtain ⟨found, binding, hfound, hbinding, hsame⟩ :=
    exists_aliasConflict hheld hother (hkey.trans htarget.symm)
  exact ⟨found, binding, .inl hfound, hbinding, hsame.trans htarget⟩

theorem finds_surface : Finds state bindingId target ProjectBindingRecord.surfaceKey := by
  intro _ _ _ hheld hother hkey htarget
  obtain ⟨-, hheldKey⟩ := surfaceKey_eq_some hkey
  obtain ⟨hscope, htargetKey⟩ := surfaceKey_eq_some htarget
  obtain ⟨⟨found, binding⟩, hfound⟩ :=
    exists_surfaceConflict hheld hother hscope (hheldKey.trans htargetKey.symm)
  obtain ⟨hbinding, hsame⟩ := surfaceConflict_spec hfound
  refine ⟨found, binding, .inr hfound, hbinding, ?_⟩
  rw [ProjectBindingRecord.surfaceKey, if_neg (scope_of_surfaceKey hsame ▸ hscope), hsame,
    htargetKey]

theorem key_ne_of_stays (h : state.Single key)
    (hup : Upserted platform state bindingId allowRebind target id record next)
    (hfinds : Finds state bindingId target key)
    (hheld : state.projectBindings.get other = some held)
    (hstays : ¬ Mirror.Leaves (· ∈ state.displacedBindings bindingId target allowRebind) id other)
    (hkey : key held = some shared) : key target ≠ some shared := by
  intro htarget
  have hreused : state.reusableBinding bindingId target allowRebind ≠ some other := by
    intro hreusable
    rcases hup.place with hplace | ⟨hnone, -⟩
    · exact hstays (.inr (Option.mem_unique hreusable hplace))
    · cases hreusable.symm.trans hnone
  have hother : bindingId ≠ some other := by
    rintro rfl
    exact hreused (reusableBinding_of_given hheld target allowRebind)
  obtain ⟨_, _, hmeets, hbinding, hfound⟩ := hfinds hheld hother hkey htarget
  obtain rfl := h hbinding hheld hfound hkey
  exact hstays (.inl (mem_displacedBindings.mpr
    ⟨hmeets.imp (fun hmeet => ⟨_, hmeet⟩) fun hmeet => ⟨_, hmeet⟩, hreused⟩))

theorem Single.upsert (h : state.Single key)
    (hup : Upserted platform state bindingId allowRebind target id record next)
    (hfinds : Finds state bindingId target key) (hrecord : key record = key target) :
    next.Single key := by
  have hreplaces := Mirror.Replaces.of_set
    (state.displacedBindings bindingId target allowRebind) id record state.projectBindings
  rw [← hup.bindings] at hreplaces
  intro _ _ _ _ _ hfirst hsecond hkey hheldKey
  rcases hreplaces.get_eq_some hfirst with ⟨rfl, rfl⟩ | ⟨hstays, hold⟩
  · rcases hreplaces.get_eq_some hsecond with ⟨rfl, -⟩ | ⟨hstays, hold⟩
    · rfl
    · exact absurd (hrecord.symm.trans hkey) (key_ne_of_stays h hup hfinds hold hstays hheldKey)
  · rcases hreplaces.get_eq_some hsecond with ⟨rfl, rfl⟩ | ⟨-, hother⟩
    · exact absurd (hrecord.symm.trans hheldKey) (key_ne_of_stays h hup hfinds hold hstays hkey)
    · exact h hold hother hkey hheldKey

end Conflicts

/-! ## Steps -/

section Steps

variable {platform : ProjectPlatform} {state next last : ProjectState} {now : Int}
  {bindingId : Option String} {allowRebind : Bool} {id roadmapId : String}
  {target record : ProjectBindingRecord} {work : WorkState} {answer : ProjectAnswer}

theorem BindingsApart.empty (platform : ProjectPlatform) : BindingsApart platform .empty where
  aliases h := by cases h
  surfaces h := by cases h
  drawn h := by cases h
  plain h := by cases h

theorem get_bindings_withoutRoadmapRows {binding : ProjectBindingRecord} (roadmapId : String)
    (state : ProjectState) :
    (withoutRoadmapRows roadmapId state { state with work }).projectBindings.get id =
        some binding ↔
      state.projectBindings.get id = some binding ∧ binding.roadmapId ≠ roadmapId := by
  simp only [withoutRoadmapRows, updateDelegationReceiptsForDeletion, cleanupDeletedTaskReferences]
  rw [get_filter_eq_some_iff, decide_eq_true_eq]

section

variable (h : BindingsApart platform state)
include h

theorem BindingsApart.of_fewer (hfewer : ∀ {id binding},
      next.projectBindings.get id = some binding → state.projectBindings.get id = some binding)
    (hdrawn : state.work.drawn ≤ next.work.drawn) : BindingsApart platform next where
  aliases hbinding hheld := h.aliases (hfewer hbinding) (hfewer hheld)
  surfaces hbinding hheld := h.surfaces (hfewer hbinding) (hfewer hheld)
  drawn hbinding := (h.drawn (hfewer hbinding)).mono hdrawn
  plain hbinding := h.plain (hfewer hbinding)

theorem BindingsApart.reloaded : BindingsApart platform state.reloaded :=
  h.of_fewer (fun hbinding => get_reloaded h _ ▸ hbinding) le_rfl

theorem BindingsApart.of_same (hbindings : next.projectBindings = state.projectBindings)
    (hdrawn : state.work.drawn ≤ next.work.drawn) : BindingsApart platform next :=
  h.of_fewer (fun hbinding => hbindings ▸ hbinding) hdrawn

theorem BindingsApart.upsert
    (hup : Upserted platform state bindingId allowRebind target id record next)
    (hplain : target.readBack = target)
    (hbindings : last.projectBindings = next.projectBindings) (hwork : last.work = next.work) :
    BindingsApart platform last := by
  suffices hnext : BindingsApart platform next from
    hnext.of_same hbindings (le_of_eq (congrArg WorkState.drawn hwork.symm))
  obtain ⟨drawn, hdrawn, hlater⟩ := hup.work
  have hreplaces := Mirror.Replaces.of_set
    (state.displacedBindings bindingId target allowRebind) id record state.projectBindings
  rw [← hup.bindings] at hreplaces
  refine ⟨Single.upsert h.aliases hup finds_alias (by rw [hup.written]; rfl),
    Single.upsert h.surfaces hup finds_surface (by rw [hup.written]; rfl), ?_, ?_⟩
  · intro _ _ hheld
    rcases hreplaces.get_eq_some hheld with ⟨rfl, -⟩ | ⟨-, hold⟩
    · rcases hup.place with hplace | ⟨-, hid, hlt⟩
      · obtain ⟨_, hold, -⟩ := reusableBinding_spec hplace
        exact (h.drawn hold).mono (hlater ▸ hdrawn)
      · rw [hid]
        exact drawn_succ hlt
    · exact (h.drawn hold).mono (hlater ▸ hdrawn)
  · intro _ _ hheld
    rcases hreplaces.get_eq_some hheld with ⟨-, rfl⟩ | ⟨-, hold⟩
    · exact hup.readBack hplain
    · exact h.plain hold

theorem BindingsApart.bindProject {input : ProjectBindingInput}
    (hbind : bindProjectInState platform input state = .ok (id, record, next))
    (hsurvives : input.survives = true) : BindingsApart platform next := by
  unfold bindProjectInState at hbind
  obtain ⟨⟨_, _, written⟩, hwritten, hbind⟩ := bind_eq_ok hbind
  cases hbind
  obtain ⟨_, htarget, hup⟩ := upsertProjectBinding_spec hwritten
  have hcleaned := deleteRows_same (staleBindings state.projectBindings id written) written
  have hdrawn := upsertRow_same record
    (deleteProjectBindingChannelRows (staleBindings state.projectBindings id written) written)
  exact h.upsert hup (readBack_of_survives htarget hsurvives)
    (hdrawn.bindings.trans hcleaned.bindings) (hdrawn.work.trans hcleaned.work)

theorem BindingsApart.updateBinding {update : ProjectBindingUpdateInput}
    (hupdate : updateProjectBinding platform id update state = .ok (answer, next))
    (hsurvives : ∀ existing ∈ state.projectBindings.get id,
      (update.applied existing).survives = true) : BindingsApart platform next := by
  unfold updateProjectBinding at hupdate
  split at hupdate
  · cases hupdate
    exact h
  next existing hexisting =>
    obtain ⟨⟨_, record, written⟩, hwritten, hupdate⟩ := bind_eq_ok hupdate
    cases hupdate
    obtain ⟨_, htarget, hup⟩ := upsertProjectBinding_spec hwritten
    have hplain := readBack_of_survives htarget (hsurvives existing hexisting)
    have hdeleted := deleteRow_same existing written
    split
    · have hdrawn := upsertRow_same record (deleteProjectBindingChannelRow existing written)
      exact h.upsert hup hplain (hdrawn.bindings.trans hdeleted.bindings)
        (hdrawn.work.trans hdeleted.work)
    · have hdrawn := upsertRow_same record written
      exact h.upsert hup hplain hdrawn.bindings hdrawn.work

theorem BindingsApart.deleteBinding (id : String) :
    BindingsApart platform (deleteProjectBinding id state).2 := by
  unfold deleteProjectBinding
  split
  · exact h
  next existing _ =>
    have hdeleted := deleteRow_same existing
      { state with projectBindings := state.projectBindings.erase id }
    refine h.of_fewer (fun {other held} hheld => ?_)
      (le_of_eq (congrArg WorkState.drawn hdeleted.work.symm))
    rw [hdeleted.bindings] at hheld
    by_cases hother : id = other
    · subst hother
      rw [get_erase_self] at hheld
      cases hheld
    · rwa [get_erase_of_ne _ hother] at hheld

theorem BindingsApart.followWork (operation : WorkOperation)
    (hdrawn : state.work.drawn ≤ work.drawn) :
    BindingsApart platform (followWork operation state work) := by
  cases operation with
  | archiveRoadmap | deleteWorkTask =>
    simp only [Gateway.followWork]
    split <;> exact h.of_same rfl hdrawn
  | deleteRoadmap roadmapId =>
    simp only [Gateway.followWork]
    split
    · have hdeleted : SameButRows (withoutRoadmapRows roadmapId state { state with work })
          (dropRoadmapRows roadmapId state { state with work }) := deleteRows_same _ _
      refine h.of_fewer (fun hbinding => ?_) (hdrawn.trans (le_of_eq
        (congrArg WorkState.drawn hdeleted.work.symm)))
      rw [hdeleted.bindings, get_bindings_withoutRoadmapRows] at hbinding
      exact hbinding.1
    · exact h.of_same rfl hdrawn
  | _ => exact h.of_same rfl hdrawn

theorem BindingsApart.framed (hframed : Framed state next) : BindingsApart platform next :=
  h.of_same hframed.bindings hframed.drawn

theorem BindingsApart.attempt {operation : ProjectOperation}
    (hstep : ProjectStep platform state operation next)
    (hgiven : ∀ given ∈ state.given operation, given.survives = true) :
    BindingsApart platform next := by
  cases hstep with
  | followed hdrawn => exact h.followWork _ hdrawn
  | framed hframed => exact h.framed hframed
  | bound hbound => exact h.bindProject hbound (hgiven _ (List.mem_singleton_self _))
  | updated hupdated =>
    exact h.updateBinding hupdated fun existing hexisting =>
      hgiven _ (List.mem_map_of_mem (Option.mem_toList.mpr hexisting))
  | deleted id => exact h.deleteBinding id
  | @created input between _ _ _ _ _ _ hfree hframed hbound hlast =>
    have hsurvives : input.binding.survives = true := hgiven _ (by simp [ProjectState.given, hfree])
    exact ((h.framed hframed).bindProject hbound hsurvives).framed hlast
  | @delegated input project binding _ written _ _ record _ hfree hissue hproject hbinding hframed
      hwritten hlast =>
    have hsurvives : binding.survives = true :=
      hgiven _ (by simp [ProjectState.given, hfree, hissue, hproject, hbinding])
    obtain ⟨_, htarget, hup⟩ := upsertProjectBinding_spec hwritten
    have hdrawn := upsertRow_same record written
    exact ((h.framed hframed).upsert hup (readBack_of_survives htarget hsurvives) hdrawn.bindings
      hdrawn.work).framed hlast

theorem BindingsApart.step (input : ProjectInput) (hkeeps : KeepsTexts platform state input) :
    BindingsApart platform ((projectStore platform).step state input).2 := by
  simp only [projectStore, performProject]
  cases hattempt : attemptProject platform input.now state input.operation with
  | error => exact h
  | ok =>
    exact (h.attempt (attemptProject_step hattempt) (hkeeps (by rw [hattempt]; rfl))).reloaded

end

/-! ## Calls without a rebinding -/

variable {binding : ProjectBindingRecord} {other : String}

theorem not_displaced (h : BindingsApart platform state)
    (hup : Upserted platform state none false target id record next) :
    other ∉ state.displacedBindings none target false := by
  intro hdisplaced
  obtain ⟨hmeets, hreusable⟩ := mem_displacedBindings.mp hdisplaced
  have hreuses : ∀ {found held}, state.aliasConflict none target = some (found, held) →
      state.reusableBinding none target false = some found := by
    intro found held hfound
    simp [ProjectState.reusableBinding, hfound]
  rcases hmeets with ⟨held, hfound⟩ | ⟨held, hfound⟩
  · exact hreusable (hreuses hfound)
  · -- the binding of the surface has the alias, too
    obtain ⟨hheld, -⟩ := surfaceConflict_spec hfound
    have hsame := hup.alike rfl _ (List.mem_cons_of_mem _ (.head _)) other held hfound
    simp only [sameProjectBindingTarget, Bool.and_eq_true, decide_eq_true_eq] at hsame
    have hkey : held.aliasKey = target.aliasKey := by
      simp [ProjectBindingRecord.aliasKey, hsame]
    obtain ⟨_, _, hmeet, hbinding, hshared⟩ :=
      exists_aliasConflict hheld (Option.some_ne_none other).symm hkey
    obtain rfl := h.aliases hbinding hheld hshared hkey
    exact hreusable (hreuses hmeet)

theorem upsert_keeps_target (h : BindingsApart platform state)
    (hup : Upserted platform state none false target id record next)
    (hbinding : state.projectBindings.get other = some binding) :
    ∃ kept, next.projectBindings.get other = some kept ∧
      sameProjectBindingTarget binding kept = true := by
  rw [hup.bindings]
  by_cases hother : other = id
  · subst hother
    refine ⟨record, get_set_self _ _ _, ?_⟩
    rcases hup.place with hplace | ⟨-, hid, -⟩
    · obtain ⟨held, hheld, hgiven | hmeet | hmeet⟩ := reusableBinding_spec hplace
      · cases hgiven
      · obtain rfl := Option.mem_unique hheld hbinding
        have hsame := hup.alike rfl _ (.head _) other held hmeet
        rw [hup.written]
        exact hsame
      · cases hmeet.1
    · exact absurd (hid ▸ h.drawn hbinding) (not_drawn_next _ _ _)
  · refine ⟨binding, ?_, by simp [sameProjectBindingTarget]⟩
    rw [get_set_of_ne _ _ (Ne.symm hother), get_filter_eq_some_iff]
    exact ⟨hbinding, by simpa using not_displaced h hup⟩

end Steps

/-! ## Runs -/

/-- No two bindings share alias and scope, and no two that are not global share a surface. -/
structure BindingsUnique (state : ProjectState) : Prop where
  aliases : ∀ id other binding held, state.projectBindings.get id = some binding →
    state.projectBindings.get other = some held → binding.aliasName = held.aliasName →
    binding.scope = held.scope → id = other
  surfaces : ∀ id other binding held, state.projectBindings.get id = some binding →
    state.projectBindings.get other = some held → binding.scope ≠ .global →
    projectBindingSurfaceKey binding = projectBindingSurfaceKey held → id = other

def ProjectOperation.writesBinding : ProjectOperation → Bool
  | upsertProjectBinding _ | updateProjectBinding _ _ => true
  | _ => false

/-- What is asked of a call: rejected, it changes no binding; without a rebinding, an upsert leaves
every binding in its place, with its target. -/
structure KeepsBindings (moment : Moment ProjectState ProjectInput ProjectAnswer) : Prop where
  rejected : moment.input.operation.writesBinding = true → ∀ error,
    moment.output = .refused error → moment.after.projectBindings = moment.before.projectBindings
  upsert : ∀ input, moment.input.operation = .upsertProjectBinding input →
    input.allowRebind = false → ∀ other binding,
    moment.before.projectBindings.get other = some binding →
    ∃ kept, moment.after.projectBindings.get other = some kept ∧
      sameProjectBindingTarget binding kept = true

theorem BindingsApart.unique {platform : ProjectPlatform} {state : ProjectState}
    (h : BindingsApart platform state) : BindingsUnique state where
  aliases _ _ binding held hbinding hheld hname hscope :=
    h.aliases hbinding hheld (by rw [ProjectBindingRecord.aliasKey, hname, hscope]) rfl
  surfaces _ _ binding held hbinding hheld hglobal hsame :=
    h.surfaces hbinding hheld ((if_neg hglobal).trans (congrArg some hsame))
      (if_neg (scope_of_surfaceKey hsame ▸ hglobal))

section Calls

variable {platform : ProjectPlatform} {state : ProjectState}

theorem rejected_keeps (now : Int) {operation : ProjectOperation} {error : String}
    (hwrites : operation.writesBinding = true)
    (hrefused : (performProject platform state ⟨now, operation⟩).1 = .refused error) :
    (performProject platform state ⟨now, operation⟩).2.projectBindings =
      state.projectBindings := by
  unfold performProject at hrefused ⊢
  cases hattempt : attemptProject platform now state operation with
  | error => rfl
  | ok =>
    simp only [hattempt] at hrefused
    cases operation with
    | upsertProjectBinding =>
      obtain ⟨_, -, hafter⟩ := bind_eq_ok hattempt
      cases hafter
      cases hrefused
    | updateProjectBinding =>
      simp only [attemptProject, updateProjectBinding] at hattempt
      split at hattempt
      · cases hattempt
        cases hrefused
      · obtain ⟨_, -, hafter⟩ := bind_eq_ok hattempt
        cases hafter
        cases hrefused
    | _ => cases hwrites

theorem upsert_keeps (h : BindingsApart platform state) (now : Int) {input : ProjectBindingInput}
    (hkeeps : KeepsTexts platform state ⟨now, .upsertProjectBinding input⟩)
    (hstrict : input.allowRebind = false) {other : String} {binding : ProjectBindingRecord}
    (hbinding : state.projectBindings.get other = some binding) :
    ∃ kept, (performProject platform state
        ⟨now, .upsertProjectBinding input⟩).2.projectBindings.get other = some kept ∧
      sameProjectBindingTarget binding kept = true := by
  unfold performProject
  cases hattempt : attemptProject platform now state (.upsertProjectBinding input) with
  | error => exact ⟨binding, hbinding, by simp [sameProjectBindingTarget]⟩
  | ok =>
    have hnext := h.attempt (attemptProject_step hattempt) (hkeeps (by rw [hattempt]; rfl))
    simp only [get_reloaded hnext]
    obtain ⟨⟨_, _, _⟩, hbound, hafter⟩ := bind_eq_ok hattempt
    obtain ⟨⟨_, _, _⟩, hwritten, hbound⟩ := bind_eq_ok hbound
    cases hbound
    cases hafter
    obtain ⟨_, -, hup⟩ := upsertProjectBinding_spec hwritten
    rw [hstrict] at hup
    simp only [(upsertRow_same _ _).bindings, (deleteRows_same _ _).bindings]
    exact upsert_keeps_target h hup hbinding

theorem BindingsApart.keeps (h : BindingsApart platform state) (input : ProjectInput)
    (hkeeps : KeepsTexts platform state input) :
    KeepsBindings ((projectStore platform).moment state input) := by
  obtain ⟨now, _⟩ := input
  refine ⟨fun hwrites _ hrefused => rejected_keeps now hwrites hrefused, ?_⟩
  rintro _ rfl hstrict _ _ hbinding
  exact upsert_keeps h now hkeeps hstrict hbinding

end Calls

/-- In every run whose calls write only ids that are read back as they were written, bindings have
their alias and their surface for themselves, and every call keeps the bindings that it may not
touch. -/
theorem bindings_stay_unique (platform : ProjectPlatform) (inputs : List ProjectInput)
    (hkeeps : ∀ moment ∈ (projectStore platform).history .empty inputs,
      KeepsTexts platform moment.before moment.input) :
    BindingsUnique ((projectStore platform).run .empty inputs) ∧
      ∀ moment ∈ (projectStore platform).history .empty inputs, KeepsBindings moment := by
  obtain ⟨hrun, hhistory⟩ := (projectStore platform).history_invariant_of
    (fun moment => KeepsTexts platform moment.before moment.input)
    (fun past state => BindingsApart platform state ∧ ∀ moment ∈ past, KeepsBindings moment)
    (fun past _ input h hguard => by
      refine ⟨h.1.step input hguard, fun moment hmem => ?_⟩
      rcases List.mem_append.mp hmem with hold | hnew
      · exact h.2 moment hold
      · rw [List.mem_singleton.mp hnew]
        exact h.1.keeps input hguard)
    .empty ⟨.empty platform, fun _ hmem => absurd hmem List.not_mem_nil⟩ inputs hkeeps
  exact ⟨hrun.unique, hhistory⟩

/-- A platform that draws the ids `""`, `"a"`, `"aa"`, … and has every profile. -/
def countingProjects : ProjectPlatform where
  toWorkPlatform := countingPlatform
  toLowerCase text := String.ofList (text.toList.map Char.toLower)
  localeCompare first second := compare first second
  hasProfile _ := true

def planRoadmap : ProjectInput where
  now := 0
  operation := .work (.createRoadmap { title := "Plan" })

/-- An alias is bound to a thread of a chat. -/
def planBinding (aliasName chatId threadId : String) (allowRebind : Bool) : ProjectInput where
  now := 0
  operation := .upsertProjectBinding {
    aliasName, roadmapId := "roadmap_", sessionId := "session", scope := some .telegram
    chatId := some chatId, threadId := some threadId, allowRebind }

/-- A binding goes to another chat. -/
def planMove (id chatId : String) : ProjectInput where
  now := 0
  operation := .updateProjectBinding id { chatId := some (some chatId) }

/-- The chat of one alias is asked for by another, first without a rebinding. -/
def sharedChat : List ProjectInput :=
  [planRoadmap, planBinding "plan" "1" "" false, planBinding "next" "1" "" false,
    planBinding "next" "2" "" false, planMove "project_binding_aa" "1"]

theorem bindings_stay_unique_shared :
    ((projectStore countingProjects).run .empty sharedChat).projectBindings.values.map
        ProjectBindingRecord.surfaceKey = [some "telegram:telegram:1:"] ∧
      BindingsUnique ((projectStore countingProjects).run .empty sharedChat) ∧
      ∀ moment ∈ (projectStore countingProjects).history .empty sharedChat, KeepsBindings moment :=
  ⟨by decide +kernel, bindings_stay_unique countingProjects sharedChat (by decide +kernel)⟩

def threadsReadAlike : List ProjectInput :=
  [planRoadmap, planBinding "plan" "1" "t\x00a" false, planBinding "next" "1" "t\x00b" false]

/-- Two projects are bound to one thread. -/
theorem bindings_read_alike :
    ¬ BindingsUnique ((projectStore countingProjects).run .empty threadsReadAlike) := by
  intro h
  have hheld : ∀ id ∈ ["project_binding_a", "project_binding_aa"], ∃ binding,
      ((projectStore countingProjects).run .empty threadsReadAlike).projectBindings.get id =
        some binding ∧ binding.surfaceKey = some "telegram:telegram:1:t" := by
    have hkeys : ∀ id ∈ ["project_binding_a", "project_binding_aa"],
        (((projectStore countingProjects).run .empty threadsReadAlike).projectBindings.get id).bind
          ProjectBindingRecord.surfaceKey = some "telegram:telegram:1:t" := by decide +kernel
    exact fun id hid => Option.bind_eq_some_iff.mp (hkeys id hid)
  obtain ⟨binding, hbinding, hkey⟩ := hheld _ (.head _)
  obtain ⟨held, hheld, hsame⟩ := hheld _ (.tail _ (.head _))
  obtain ⟨hglobal, hsurface⟩ := surfaceKey_eq_some hkey
  exact absurd (h.surfaces _ _ binding held hbinding hheld hglobal
    (hsurface.trans (surfaceKey_eq_some hsame).2.symm)) (by decide)

end OpenCowork.Gateway
