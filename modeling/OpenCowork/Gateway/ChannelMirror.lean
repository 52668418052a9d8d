import OpenCowork.Gateway.BindingUniqueness

/-! # Channel bindings mirror project bindings

A message goes to the session that the channel binding of its chat names, so the rows in mode
roadmap have to be those of the project bindings. A call that takes a binding to another chat has
to delete its old row.
-/

namespace OpenCowork.Gateway

open Foundation OrderedMap

def channelMirror : Mirror ProjectBindingRecord ChannelTarget ChannelBindingRecord where
  key := ProjectBindingRecord.channelTarget
  row := ProjectBindingRecord.channelRow

/-- The rows in mode roadmap are those of the bindings, and every binding of a channel has its
row. -/
structure MirrorsBindings (state : ProjectState) : Prop where
  backed : ∀ channel row, state.channelBindings.get channel = some row → row.mode = .roadmap →
    ∃ id binding, state.projectBindings.get id = some binding ∧
      binding.provider = some channel.provider ∧ binding.chatId = some channel.chatId ∧
      binding.threadId.getD "" = channel.threadId ∧
      row.roadmapId = some binding.roadmapId ∧ row.sessionId = binding.sessionId
  shown : ∀ id binding, state.projectBindings.get id = some binding →
    binding.scope.isChannel = true →
    ∃ channel row, binding.channelTarget = some channel ∧
      state.channelBindings.get channel = some row ∧ row.mode = .roadmap ∧
      row.roadmapId = some binding.roadmapId ∧ row.sessionId = binding.sessionId

/-! ## Surfaces -/

section Surfaces

variable {binding other : ProjectBindingRecord} {channel : ChannelTarget}

theorem truthy_eq_of_getD {first second : Option String}
    (h : first.getD "" = second.getD "") : Text.truthy first = Text.truthy second := by
  have hgiven : ∀ value : Option String, Text.truthy value =
    Text.truthy (some (value.getD "")) := by
    intro value
    cases value <;> rfl
  rw [hgiven first, hgiven second, h]

theorem channelTarget_of_alike (hprovider : binding.provider.getD "" = other.provider.getD "")
    (hchat : binding.chatId.getD "" = other.chatId.getD "")
    (hthread : binding.threadId.getD "" = other.threadId.getD "") :
    binding.channelTarget = other.channelTarget := by
  unfold ProjectBindingRecord.channelTarget
  rw [truthy_eq_of_getD hprovider, truthy_eq_of_getD hchat, hthread]

theorem ProjectBindingScope.text_ne_empty (scope : ProjectBindingScope) : scope.text ≠ "" := by
  cases scope <;> decide

theorem ProjectBindingRecord.WellFormed.channelTarget (h : binding.WellFormed)
    (hchannel : binding.scope.isChannel = true) : ∃ chatId, binding.chatId = some chatId ∧
      binding.channelTarget = some
        { provider := binding.scope.text, chatId, threadId := binding.threadId.getD "" } := by
  obtain ⟨hprovider, chatId, hchat, hne⟩ := h.channel hchannel
  refine ⟨chatId, hchat, ?_⟩
  unfold ProjectBindingRecord.channelTarget
  rw [hprovider, hchat]
  simp [Text.truthy, Option.filter, hne, ProjectBindingScope.text_ne_empty]

theorem ProjectBindingRecord.WellFormed.isChannel (h : binding.WellFormed)
    (htarget : binding.channelTarget = some channel) : binding.scope.isChannel = true := by
  by_contra hother
  obtain ⟨hprovider, -⟩ := h.other (by simpa using hother)
  unfold ProjectBindingRecord.channelTarget at htarget
  rw [hprovider] at htarget
  cases htarget

theorem surfaceKey_of_channelTarget (hbinding : binding.WellFormed) (hother : other.WellFormed)
    (hat : binding.channelTarget = some channel) (hotherAt : other.channelTarget = some channel) :
    binding.scope ≠ .global ∧
      projectBindingSurfaceKey binding = projectBindingSurfaceKey other := by
  have hchannel := hbinding.isChannel hat
  have hotherChannel := hother.isChannel hotherAt
  obtain ⟨_, hchat, htarget⟩ := hbinding.channelTarget hchannel
  obtain ⟨_, hotherChat, hotherTarget⟩ := hother.channelTarget hotherChannel
  have hsame := Option.some.inj (htarget.symm.trans (hat.trans (hotherAt.symm.trans hotherTarget)))
  simp only [ChannelTarget.mk.injEq] at hsame
  obtain ⟨htext, rfl, hthread⟩ := hsame
  refine ⟨?_, ?_⟩
  · rintro hglobal
    rw [hglobal] at hchannel
    cases hchannel
  · unfold projectBindingSurfaceKey
    rw [if_pos hchannel, if_pos hotherChannel, (hbinding.channel hchannel).1,
      (hother.channel hotherChannel).1, hchat, hotherChat, hthread, htext]

end Surfaces

/-! ## The invariant -/

/-- The table mirrors the bindings, no two of which have the same surface. -/
structure Mirrored (platform : ProjectPlatform) (state : ProjectState) : Prop where
  apart : BindingsApart platform state
  holds : channelMirror.Holds state.projectBindings state.channelBindings
  wellFormed : ∀ {id binding}, state.projectBindings.get id = some binding → binding.WellFormed

section Invariant

variable {platform : ProjectPlatform} {state next last : ProjectState}

theorem Mirrored.empty (platform : ProjectPlatform) : Mirrored platform .empty where
  apart := .empty platform
  holds := .empty channelMirror
  wellFormed h := by cases h

variable (h : Mirrored platform state)
include h

theorem Mirrored.mirrorsBindings : MirrorsBindings state where
  backed channel row hrow _ := by
    obtain ⟨id, binding, hbinding, hat, rfl⟩ := h.holds.backed hrow
    have hformed := h.wellFormed hbinding
    have hchannel := hformed.isChannel hat
    obtain ⟨chatId, hchat, htarget⟩ := hformed.channelTarget hchannel
    obtain rfl := Option.mem_unique htarget hat
    exact ⟨id, binding, hbinding, (hformed.channel hchannel).1, hchat, rfl, rfl, rfl⟩
  shown id binding hbinding hchannel := by
    obtain ⟨_, -, htarget⟩ := (h.wellFormed hbinding).channelTarget hchannel
    exact ⟨_, _, htarget, h.holds.shown hbinding htarget, rfl, rfl, rfl⟩

theorem Mirrored.of_same (hbindings : next.projectBindings = state.projectBindings)
    (hchannels : ∀ channel, next.channelBindings.get channel = state.channelBindings.get channel)
    (hdrawn : state.work.drawn ≤ next.work.drawn) : Mirrored platform next where
  apart := h.apart.of_same hbindings hdrawn
  holds := h.holds.of_get (fun _ => hbindings ▸ rfl) hchannels
  wellFormed hbinding := h.wellFormed (hbindings ▸ hbinding)

theorem Mirrored.reloaded : Mirrored platform state.reloaded where
  apart := h.apart.reloaded
  holds := h.holds.of_get (get_reloaded h.apart) fun _ => rfl
  wellFormed hbinding := h.wellFormed (get_reloaded h.apart _ ▸ hbinding)

omit h

/-! ## A binding is written -/

variable {bindingId : Option String} {allowRebind : Bool} {id : String}
  {target record : ProjectBindingRecord} {held : ProjectBindingRecord} {other : String}
  {erased : ChannelTarget → Prop}

theorem Upserted.wellFormed
    (hup : Upserted platform state bindingId allowRebind target id record next)
    (h : target.WellFormed) : record.WellFormed := by
  rw [hup.written]
  exact ⟨h.channel, h.other⟩

theorem Mirrored.place (h : Mirrored platform state)
    (hup : Upserted platform state bindingId allowRebind target id record next)
    (hheld : state.projectBindings.get id = some held) :
    state.reusableBinding bindingId target allowRebind = some id := by
  rcases hup.place with hplace | ⟨-, hid, -⟩
  · exact hplace
  · exact absurd (hid ▸ h.apart.drawn hheld) (not_drawn_next _ _ _)

/-- A write of a binding that takes the rows of what leaves off the table. -/
theorem Mirrored.upsert (h : Mirrored platform state) (hformed : target.WellFormed)
    (hplain : target.readBack = target)
    (hup : Upserted platform state bindingId allowRebind target id record next)
    (hbindings : last.projectBindings = next.projectBindings) (hwork : last.work = next.work)
    (hchannels : channelMirror.Redraws erased record state.channelBindings last.channelBindings)
    (herased : ∀ {channel}, erased channel → ∃ other held,
      Mirror.Leaves (· ∈ state.displacedBindings bindingId target allowRebind) id other ∧
        state.projectBindings.get other = some held ∧ held.channelTarget = some channel)
    (hclean : ∀ {other held channel},
      Mirror.Leaves (· ∈ state.displacedBindings bindingId target allowRebind) id other →
      state.projectBindings.get other = some held → held.channelTarget = some channel →
      target.channelTarget ≠ some channel → erased channel) : Mirrored platform last := by
  obtain ⟨_, htarget, _⟩ := hup.surfaceKey
  have hrecord := hup.wellFormed hformed
  have hreplaces := Mirror.Replaces.of_set
    (state.displacedBindings bindingId target allowRebind) id record state.projectBindings
  rw [← hup.bindings, ← hbindings] at hreplaces
  refine ⟨h.apart.upsert hup hplain hbindings hwork,
    h.holds.replace hreplaces hchannels ?_ herased ?_, ?_⟩
  · intro other held channel hstays hheld hat hsame
    obtain ⟨hglobal, hsurface⟩ := surfaceKey_of_channelTarget hrecord (h.wellFormed hheld) hsame hat
    have hshared : record.surfaceKey = held.surfaceKey := by
      simp only [ProjectBindingRecord.surfaceKey, hsurface, scope_of_surfaceKey hsurface]
    have htaken : record.surfaceKey = some (projectBindingSurfaceKey record) := if_neg hglobal
    have hown : record.surfaceKey = target.surfaceKey := by rw [hup.written]; rfl
    exact key_ne_of_stays h.apart.surfaces hup finds_surface hheld hstays (hshared ▸ htaken) (hown ▸ htaken)
  · intro other held channel hleaves hheld hat hmoved
    exact hclean hleaves hheld hat (htarget ▸ hmoved)
  · intro other held hheld
    rcases hreplaces.get_eq_some hheld with ⟨-, rfl⟩ | ⟨-, hold⟩
    · exact hrecord
    · exact h.wellFormed hold

/-! ## Rows are deleted and drawn -/

theorem get_deleteRow {binding : ProjectBindingRecord}
    (hrow : ∀ channel, binding.channelTarget = some channel →
      state.channelBindings.get channel = some binding.channelRow ∨
        state.channelBindings.get channel = none) (channel : ChannelTarget) :
    (deleteProjectBindingChannelRow binding state).channelBindings.get channel =
      if binding.channelTarget = some channel then none
      else state.channelBindings.get channel := by
  unfold deleteProjectBindingChannelRow
  cases htarget : binding.channelTarget with
  | none => simp
  | some own =>
    apply Option.ext
    intro _
    rw [get_filter_eq_some_iff]
    by_cases hown : own = channel
    · subst hown
      rcases hrow own htarget with hrow | hrow
      · rw [hrow, if_pos rfl]
        constructor
        · rintro ⟨hsame, hkept⟩
          obtain rfl := Option.some.inj hsame
          simp [ProjectBindingRecord.channelRow] at hkept
        · exact fun hnone => by cases hnone
      · simp [hrow]
    · have hne : some own ≠ some channel := fun heq => hown (Option.some.inj heq)
      rw [if_neg hne]
      simp [Ne.symm hown]

theorem get_deleteRows {bindings : List ProjectBindingRecord}
    (hrows : ∀ binding ∈ bindings, ∀ channel, binding.channelTarget = some channel →
      state.channelBindings.get channel = some binding.channelRow ∨
        state.channelBindings.get channel = none) (channel : ChannelTarget) :
    ((∃ binding ∈ bindings, binding.channelTarget = some channel) →
      (deleteProjectBindingChannelRows bindings state).channelBindings.get channel = none) ∧
    ((∀ binding ∈ bindings, binding.channelTarget ≠ some channel) →
      (deleteProjectBindingChannelRows bindings state).channelBindings.get channel =
        state.channelBindings.get channel) := by
  unfold deleteProjectBindingChannelRows
  induction bindings generalizing state with
  | nil => simp
  | cons binding rest ih =>
    have hfirst := get_deleteRow (hrows binding (.head _))
    have hlater : ∀ other ∈ rest, ∀ channel, other.channelTarget = some channel →
        (deleteProjectBindingChannelRow binding state).channelBindings.get channel =
            some other.channelRow ∨
          (deleteProjectBindingChannelRow binding state).channelBindings.get channel = none := by
      intro other hother channel hat
      rw [hfirst]
      split
      · exact .inr rfl
      · exact hrows other (.tail _ hother) channel hat
    obtain ⟨hgone, hkept⟩ := ih hlater
    rw [List.foldl_cons]
    constructor
    · rintro ⟨other, hother, hat⟩
      by_cases hrest : ∃ later ∈ rest, later.channelTarget = some channel
      · exact hgone hrest
      · push Not at hrest
        rcases List.mem_cons.mp hother with rfl | hother
        · rw [hkept hrest, hfirst, if_pos hat]
        · exact absurd hat (hrest other hother)
    · intro hnone
      rw [hkept fun other hother => hnone other (.tail _ hother), hfirst,
        if_neg (hnone binding (.head _))]

theorem redraws_upsertRow {middle : ProjectState}
    {table : OrderedMap ChannelTarget ChannelBindingRecord}
    (hremoved : ∀ channel, erased channel → middle.channelBindings.get channel = none)
    (hkept : ∀ channel, ¬ erased channel →
      middle.channelBindings.get channel = table.get channel) :
    channelMirror.Redraws erased record table
      (upsertChannelBindingRow record middle).channelBindings := by
  have hget : ∀ channel, (upsertChannelBindingRow record middle).channelBindings.get channel =
      if record.channelTarget = some channel then some record.channelRow
      else middle.channelBindings.get channel := by
    intro channel
    unfold upsertChannelBindingRow
    cases htarget : record.channelTarget with
    | none => simp
    | some => simp [get_set]
  refine ⟨fun {channel} hat => ?_, fun {channel} hmoved hgone => ?_,
    fun {channel} hmoved hstays => ?_⟩
  · exact (hget channel).trans (if_pos hat)
  · exact (hget channel).trans ((if_neg hmoved).trans (hremoved channel hgone))
  · exact (hget channel).trans ((if_neg hmoved).trans (hkept channel hstays))

end Invariant

/-! ## Calls that leave a row behind -/

/-- The bindings `ids` are shown nowhere else than the target is. -/
def ProjectState.StaysHome (state : ProjectState) (target : ProjectBindingRecord)
    (ids : List String) : Prop :=
  ∀ id ∈ ids, ∀ binding ∈ state.projectBindings.get id, ∀ channel ∈ binding.channelTarget,
    target.channelTarget = some channel
deriving Decidable

/-- An operation takes no binding from its chat without deleting the row there: one that deletes
the rows of the bindings it displaces writes over none that is shown elsewhere, and one that deletes
the row of the binding it writes over displaces none that is. A delegation, which deletes no row,
does neither. -/
def ProjectOperation.KeepsHome (platform : ProjectPlatform) (state : ProjectState) :
    ProjectOperation → Prop
  | .upsertProjectBinding binding =>
    ∀ target ∈ (normalizeProjectBinding platform binding).toOption,
      state.StaysHome target (state.reusableBinding none target binding.allowRebind).toList
  | .createSupervisedProject project =>
    project.key.bind (findDelegationReceiptInDb state) = none → ∀ roadmapId title target,
    normalizeProjectBinding platform { project.binding with roadmapId, title } = .ok target →
    state.StaysHome target (state.reusableBinding none target project.binding.allowRebind).toList
  | .updateProjectBinding id update => ∀ existing ∈ state.projectBindings.get id,
    ∀ target ∈ (normalizeProjectBinding platform (update.applied existing)).toOption,
      state.StaysHome target
        (state.displacedBindings (some id) target (update.applied existing).allowRebind)
  | .createDelegatedWork input =>
    findDelegationReceiptInDb state input.idempotencyKey = none → input.issue = none →
    ∀ project binding roadmapId target, input.project = some project →
    project.binding = some binding →
    normalizeProjectBinding platform { binding with roadmapId } = .ok target →
    state.StaysHome target ((state.reusableBinding none target binding.allowRebind).toList ++
      state.displacedBindings none target binding.allowRebind)
  | _ => True

def KeepsRows (platform : ProjectPlatform) (state : ProjectState) (input : ProjectInput) : Prop :=
  (attemptProject platform input.now state input.operation).isOk = true →
    input.operation.KeepsHome platform state

section Calls

variable {platform : ProjectPlatform} {state next : ProjectState} {now : Int} {id : String}
  {work : WorkState} {answer : ProjectAnswer} {roadmapId : String}
  {target record binding : ProjectBindingRecord} {channel : ChannelTarget}
  {input : SupervisedProjectCreateInput} {project : DelegatedProjectInput}
  (hbindings : next.projectBindings = state.projectBindings)
include hbindings

theorem reusableBinding_congr (bindingId : Option String) (target : ProjectBindingRecord)
    (allowRebind : Bool) :
    next.reusableBinding bindingId target allowRebind =
      state.reusableBinding bindingId target allowRebind := by
  simp only [ProjectState.reusableBinding, ProjectState.aliasConflict,
    ProjectState.surfaceConflict, hbindings]

theorem displacedBindings_congr (bindingId : Option String) (target : ProjectBindingRecord)
    (allowRebind : Bool) :
    next.displacedBindings bindingId target allowRebind =
      state.displacedBindings bindingId target allowRebind := by
  simp only [ProjectState.displacedBindings, reusableBinding_congr hbindings,
    ProjectState.aliasConflict, ProjectState.surfaceConflict, hbindings]

omit hbindings

theorem ProjectState.StaysHome.congr {ids : List String}
    (h : state.StaysHome target ids) (hbindings : next.projectBindings = state.projectBindings) :
    next.StaysHome target ids :=
  fun id hid binding hbinding => h id hid binding (hbindings ▸ hbinding)

theorem Mirrored.mem_staleBindings (h : Mirrored platform state) {bindingId : Option String}
    {allowRebind : Bool}
    (hup : Upserted platform state bindingId allowRebind target id record next) :
    binding ∈ staleBindings state.projectBindings id next ↔
      ∃ other ∈ state.displacedBindings bindingId target allowRebind,
        state.projectBindings.get other = some binding := by
  have hreplaces := Mirror.Replaces.of_set
    (state.displacedBindings bindingId target allowRebind) id record state.projectBindings
  rw [← hup.bindings] at hreplaces
  simp only [staleBindings, List.mem_map, List.mem_filter, Bool.and_eq_true, decide_eq_true_eq,
    Option.isNone_iff_eq_none, Prod.exists, ← get_eq_some_iff, exists_eq_right]
  refine exists_congr fun other => ?_
  constructor
  · rintro ⟨hother, hne, hnone⟩
    refine ⟨?_, hother⟩
    by_contra hstays
    rw [hreplaces.kept hne hstays, hother] at hnone
    cases hnone
  · rintro ⟨hgone, hother⟩
    have hne : other ≠ id := by
      rintro rfl
      exact (mem_displacedBindings.mp hgone).2 (h.place hup hother)
    exact ⟨hother, hne, hreplaces.dropped hne hgone⟩

theorem Mirrored.bindProject (h : Mirrored platform state) {input : ProjectBindingInput}
    (hbind : bindProjectInState platform input state = .ok (id, record, next))
    (hsurvives : input.survives = true)
    (hhome : ∀ target, normalizeProjectBinding platform input = .ok target →
      state.StaysHome target (state.reusableBinding none target input.allowRebind).toList) :
    Mirrored platform next := by
  unfold bindProjectInState at hbind
  obtain ⟨⟨_, _, written⟩, hwritten, hbind⟩ := bind_eq_ok hbind
  cases hbind
  obtain ⟨target, htarget, hup⟩ := upsertProjectBinding_spec hwritten
  have hstale : ∀ {binding}, binding ∈ staleBindings state.projectBindings id written ↔
      ∃ other ∈ state.displacedBindings none target input.allowRebind,
        state.projectBindings.get other = some binding := h.mem_staleBindings hup
  have hrows : ∀ binding ∈ staleBindings state.projectBindings id written, ∀ channel,
      binding.channelTarget = some channel →
      written.channelBindings.get channel = some binding.channelRow ∨
        written.channelBindings.get channel = none := by
    intro binding hbinding channel hat
    obtain ⟨other, -, hother⟩ := hstale.mp hbinding
    rw [hup.channels]
    exact .inl (h.holds.shown hother hat)
  have hcleaned := deleteRows_same (staleBindings state.projectBindings id written) written
  have hdrawn := upsertRow_same record
    (deleteProjectBindingChannelRows (staleBindings state.projectBindings id written) written)
  refine h.upsert (normalizeProjectBinding_wellFormed htarget)
    (readBack_of_survives htarget hsurvives) hup
    (hdrawn.bindings.trans hcleaned.bindings) (hdrawn.work.trans hcleaned.work)
    (redraws_upsertRow (fun channel => (get_deleteRows hrows channel).1) fun channel hnone => ?_)
    ?_ ?_
  · rw [(get_deleteRows hrows channel).2 fun binding hbinding hat => hnone ⟨binding, hbinding, hat⟩,
      hup.channels]
  · rintro channel ⟨binding, hbinding, hat⟩
    obtain ⟨other, hgone, hother⟩ := hstale.mp hbinding
    exact ⟨other, binding, .inl hgone, hother, hat⟩
  · intro other held channel hleaves hheld hat hmoved
    rcases hleaves with hgone | rfl
    · exact ⟨held, hstale.mpr ⟨other, hgone, hheld⟩, hat⟩
    · have hmem : other ∈ (state.reusableBinding none target input.allowRebind).toList := by
        rw [h.place hup hheld]
        exact List.mem_singleton_self _
      exact absurd (hhome target htarget other hmem held hheld channel hat) hmoved

theorem channelChanged_eq_false {previous next : ProjectBindingRecord}
    (h : projectBindingChannelChanged previous next = false)
    (hat : previous.channelTarget = some channel) : next.channelTarget = some channel := by
  rw [← hat]
  unfold ProjectBindingRecord.channelTarget at hat
  cases hprovider : Text.truthy previous.provider with
  | none =>
    rw [hprovider] at hat
    cases hat
  | some =>
    cases hchat : Text.truthy previous.chatId with
    | none =>
      rw [hprovider, hchat] at hat
      cases hat
    | some =>
      simp [projectBindingChannelChanged, hprovider, hchat] at h
      exact (channelTarget_of_alike h.1.1 h.1.2 h.2).symm

section

variable (h : Mirrored platform state)
include h

/-- Where the row of the binding that is written over is deleted, only the displaced bindings may
leave one behind. -/
theorem Mirrored.updateBinding {update : ProjectBindingUpdateInput}
    (hupdate : updateProjectBinding platform id update state = .ok (answer, next))
    (hsurvives : ∀ existing ∈ state.projectBindings.get id,
      (update.applied existing).survives = true)
    (hhome : ∀ existing ∈ state.projectBindings.get id,
      ∀ target ∈ (normalizeProjectBinding platform (update.applied existing)).toOption,
        state.StaysHome target
          (state.displacedBindings (some id) target (update.applied existing).allowRebind)) :
    Mirrored platform next := by
  unfold updateProjectBinding at hupdate
  split at hupdate
  · cases hupdate
    exact h
  next existing hexisting =>
    obtain ⟨⟨bindingId, record, written⟩, hwritten, hupdate⟩ := bind_eq_ok hupdate
    cases hupdate
    obtain ⟨target, htarget, hup⟩ := upsertProjectBinding_spec hwritten
    have hplain := readBack_of_survives htarget (hsurvives existing hexisting)
    have hasked : target ∈ (normalizeProjectBinding platform (update.applied existing)).toOption :=
      by rw [htarget]; rfl
    have hreusable := reusableBinding_of_given hexisting target
      (update.applied existing).allowRebind
    obtain rfl : bindingId = id := by
      rcases hup.place with hplace | ⟨hnone, -⟩
      · exact Option.mem_unique hplace hreusable
      · rw [hreusable] at hnone
        cases hnone
    have htargets : record.channelTarget = target.channelTarget := hup.surfaceKey.2.1
    have hrow : ∀ channel, existing.channelTarget = some channel →
        written.channelBindings.get channel = some existing.channelRow ∨
          written.channelBindings.get channel = none := by
      intro channel hat
      rw [hup.channels]
      exact .inl (h.holds.shown hexisting hat)
    have hclean : ∀ {other held channel}, Mirror.Leaves (· ∈ state.displacedBindings
          (some bindingId) target (update.applied existing).allowRebind) bindingId other →
        state.projectBindings.get other = some held → held.channelTarget = some channel →
        target.channelTarget ≠ some channel →
        projectBindingChannelChanged existing record = true ∧
          existing.channelTarget = some channel := by
      intro other held channel hleaves hheld hat hmoved
      rcases hleaves with hgone | rfl
      · exact absurd (hhome existing hexisting target hasked other hgone held hheld channel hat)
          hmoved
      · obtain rfl := Option.mem_unique hheld hexisting
        refine ⟨?_, hat⟩
        by_contra hsame
        exact hmoved (htargets ▸ channelChanged_eq_false (by simpa using hsame) hat)
    have hdeleted := deleteRow_same existing written
    split
    next hchanged =>
      have hdrawn := upsertRow_same record (deleteProjectBindingChannelRow existing written)
      refine h.upsert (normalizeProjectBinding_wellFormed htarget) hplain hup
        (hdrawn.bindings.trans hdeleted.bindings) (hdrawn.work.trans hdeleted.work)
        (redraws_upsertRow (fun channel hat => ?_) fun channel hnone => ?_)
        (fun hat => ⟨bindingId, existing, .inr rfl, hexisting, hat⟩)
        fun hleaves hheld hat hmoved => (hclean hleaves hheld hat hmoved).2
      · rw [get_deleteRow hrow, if_pos hat]
      · rw [get_deleteRow hrow, if_neg hnone, hup.channels]
    next hchanged =>
      have hdrawn := upsertRow_same record written
      refine h.upsert (normalizeProjectBinding_wellFormed htarget) hplain hup hdrawn.bindings
        hdrawn.work (redraws_upsertRow (fun _ => False.elim) fun _ _ => ?_) False.elim
        fun hleaves hheld hat hmoved => hchanged (hclean hleaves hheld hat hmoved).1
      rw [hup.channels]

theorem Mirrored.writeBinding {input : ProjectBindingInput}
    (hwritten : upsertProjectBindingInState platform input none state = .ok (id, record, next))
    (hsurvives : input.survives = true)
    (hhome : ∀ target, normalizeProjectBinding platform input = .ok target →
      state.StaysHome target ((state.reusableBinding none target input.allowRebind).toList ++
        state.displacedBindings none target input.allowRebind)) :
    Mirrored platform (upsertChannelBindingRow record next) := by
  obtain ⟨target, htarget, hup⟩ := upsertProjectBinding_spec hwritten
  have hdrawn := upsertRow_same record next
  refine h.upsert (normalizeProjectBinding_wellFormed htarget)
    (readBack_of_survives htarget hsurvives) hup hdrawn.bindings hdrawn.work
    (redraws_upsertRow (fun _ => False.elim) fun channel _ => ?_) False.elim ?_
  · rw [hup.channels]
  · intro other held channel hleaves hheld hat hmoved
    have hmem : other ∈ (state.reusableBinding none target input.allowRebind).toList ++
        state.displacedBindings none target input.allowRebind := by
      rcases hleaves with hgone | rfl
      · exact List.mem_append_right _ hgone
      · rw [List.mem_append, h.place hup hheld]
        exact .inl (List.mem_singleton_self _)
    exact hmoved (hhome target htarget other hmem held hheld channel hat)

theorem Mirrored.remove (gone : String → Prop)
    (hkept : ∀ {other}, ¬ gone other →
      next.projectBindings.get other = state.projectBindings.get other)
    (hdropped : ∀ {other}, gone other → next.projectBindings.get other = none)
    (herased : ∀ {other held channel}, gone other →
      state.projectBindings.get other = some held → held.channelTarget = some channel →
      next.channelBindings.get channel = none)
    (hstays : ∀ {channel}, (∀ other held, gone other →
      state.projectBindings.get other = some held → held.channelTarget ≠ some channel) →
      next.channelBindings.get channel = state.channelBindings.get channel)
    (hdrawn : state.work.drawn ≤ next.work.drawn) : Mirrored platform next := by
  have hold : ∀ {other held}, next.projectBindings.get other = some held →
      state.projectBindings.get other = some held := by
    intro other held hheld
    by_cases hgone : gone other
    · rw [hdropped hgone] at hheld
      cases hheld
    · exact hkept hgone ▸ hheld
  exact ⟨h.apart.of_fewer hold hdrawn, h.holds.remove gone hkept hdropped herased hstays,
    fun hheld => h.wellFormed (hold hheld)⟩

theorem Mirrored.deleteBinding (id : String) :
    Mirrored platform (deleteProjectBinding id state).2 := by
  unfold deleteProjectBinding
  split
  · exact h
  next existing hexisting =>
    have hdeleted := deleteRow_same existing
      { state with projectBindings := state.projectBindings.erase id }
    have hget : ∀ channel, (deleteProjectBindingChannelRow existing
        { state with projectBindings := state.projectBindings.erase id }).channelBindings.get
          channel = if existing.channelTarget = some channel then none
            else state.channelBindings.get channel :=
      get_deleteRow fun channel hat => .inl (h.holds.shown hexisting hat)
    refine h.remove (· = id) ?_ ?_ ?_ ?_ (le_of_eq (congrArg WorkState.drawn hdeleted.work.symm))
    · intro other hother
      rw [hdeleted.bindings]
      exact get_erase_of_ne _ (Ne.symm hother)
    · rintro other rfl
      rw [hdeleted.bindings]
      exact get_erase_self _ _
    · rintro _ _ channel rfl hheld hat
      obtain rfl := Option.mem_unique hheld hexisting
      exact (hget channel).trans (if_pos hat)
    · intro channel hnone
      exact (hget channel).trans (if_neg (hnone id existing rfl hexisting))

theorem Mirrored.cleanup (taskIds : List String)
    (hchannels : next.channelBindings = state.channelBindings) (channel : ChannelTarget) :
    (cleanupDeletedTaskReferences taskIds next).channelBindings.get channel =
      state.channelBindings.get channel := by
  apply Option.ext
  intro _
  rw [cleanupDeletedTaskReferences, get_filter_eq_some_iff, hchannels, and_iff_left_iff_imp]
  intro hrow
  obtain ⟨_, _, -, -, rfl⟩ := h.holds.backed hrow
  rfl

theorem Mirrored.get_withoutRoadmapRows (roadmapId : String) {row : ChannelBindingRecord} :
    (withoutRoadmapRows roadmapId state { state with work }).channelBindings.get channel =
        some row ↔
      state.channelBindings.get channel = some row ∧ row.roadmapId ≠ some roadmapId := by
  have hcleaned : (cleanupDeletedTaskReferences (state.work.taskIdsOf roadmapId)
      { state with work }).channelBindings.get channel = state.channelBindings.get channel :=
    h.cleanup _ rfl channel
  simp only [withoutRoadmapRows, updateDelegationReceiptsForDeletion]
  rw [get_filter_eq_some_iff, hcleaned, decide_eq_true_eq]

end

section

variable (h : Mirrored platform state)
include h

theorem Mirrored.dropRoadmap (roadmapId : String) (hdrawn : state.work.drawn ≤ work.drawn) :
    Mirrored platform (dropRoadmapRows roadmapId state { state with work }) := by
  have hdeleted : SameButRows (withoutRoadmapRows roadmapId state { state with work })
      (dropRoadmapRows roadmapId state { state with work }) := deleteRows_same _ _
  have hbound : ∀ {binding}, binding ∈ (state.bindingsOf roadmapId).map Prod.snd ↔
      ∃ id, state.projectBindings.get id = some binding ∧ binding.roadmapId = roadmapId := by
    intro binding
    simp only [ProjectState.bindingsOf, List.mem_map, List.mem_filter, decide_eq_true_eq,
      Prod.exists, ← get_eq_some_iff, exists_eq_right]
  -- the rows of the roadmap's bindings are gone before their turn comes
  have hgone : ∀ {id binding channel}, state.projectBindings.get id = some binding →
      binding.roadmapId = roadmapId → binding.channelTarget = some channel →
      (withoutRoadmapRows roadmapId state { state with work }).channelBindings.get channel =
        none := by
    intro id binding channel hbinding hroadmap hat
    apply Option.eq_none_iff_forall_ne_some.mpr
    intro row hrow
    obtain ⟨hold, hother⟩ := (h.get_withoutRoadmapRows roadmapId).mp hrow
    obtain rfl := Option.some.inj ((h.holds.shown hbinding hat).symm.trans hold)
    exact hother (congrArg some hroadmap)
  have hrows : ∀ binding ∈ (state.bindingsOf roadmapId).map Prod.snd, ∀ channel,
      binding.channelTarget = some channel →
      (withoutRoadmapRows roadmapId state { state with work }).channelBindings.get channel =
          some binding.channelRow ∨
        (withoutRoadmapRows roadmapId state { state with work }).channelBindings.get channel =
          none := by
    intro binding hbinding channel hat
    obtain ⟨id, hid, hroadmap⟩ := hbound.mp hbinding
    exact .inr (hgone hid hroadmap hat)
  refine h.remove (fun id => ∃ binding, state.projectBindings.get id = some binding ∧
    binding.roadmapId = roadmapId) ?_ ?_ ?_ ?_ ?_
  · intro other hother
    apply Option.ext
    intro held
    rw [hdeleted.bindings, get_bindings_withoutRoadmapRows, and_iff_left_iff_imp]
    exact fun hheld hroadmap => hother ⟨held, hheld, hroadmap⟩
  · rintro other ⟨binding, hbinding, hroadmap⟩
    apply Option.eq_none_iff_forall_ne_some.mpr
    intro held hheld
    rw [hdeleted.bindings, get_bindings_withoutRoadmapRows] at hheld
    obtain rfl := Option.mem_unique hheld.1 hbinding
    exact hheld.2 hroadmap
  · rintro other held channel ⟨binding, hbinding, hroadmap⟩ hheld hat
    obtain rfl := Option.mem_unique hheld hbinding
    exact (get_deleteRows hrows channel).1 ⟨held, hbound.mpr ⟨other, hheld, hroadmap⟩, hat⟩
  · intro channel hnone
    rw [dropRoadmapRows, (get_deleteRows hrows channel).2]
    · apply Option.ext
      intro row
      rw [h.get_withoutRoadmapRows, and_iff_left_iff_imp]
      intro hrow hroadmap
      obtain ⟨id, binding, hbinding, hat, rfl⟩ := h.holds.backed hrow
      exact hnone id binding ⟨binding, hbinding, Option.some.inj hroadmap⟩ hbinding hat
    · intro binding hbinding hat
      obtain ⟨id, hid, hroadmap⟩ := hbound.mp hbinding
      exact hnone id binding ⟨binding, hid, hroadmap⟩ hid hat
  · exact hdrawn.trans (le_of_eq (congrArg WorkState.drawn hdeleted.work.symm))

theorem Mirrored.followWork (operation : WorkOperation) (hdrawn : state.work.drawn ≤ work.drawn) :
    Mirrored platform (followWork operation state work) := by
  have hsame : Mirrored platform { state with work } := h.of_same rfl (fun _ => rfl) hdrawn
  cases operation with
  | archiveRoadmap =>
    simp only [Gateway.followWork]
    split
    · exact h.of_same rfl (fun _ => rfl) hdrawn
    · exact hsame
  | deleteRoadmap roadmapId =>
    simp only [Gateway.followWork]
    split
    · exact h.dropRoadmap roadmapId hdrawn
    · exact hsame
  | deleteWorkTask id =>
    simp only [Gateway.followWork]
    split
    · exact h.of_same rfl (h.cleanup [id] rfl) hdrawn
    · exact hsame
  | _ => exact hsame

theorem Mirrored.framed (hframed : Framed state next) : Mirrored platform next :=
  h.of_same hframed.bindings (fun _ => hframed.channels ▸ rfl) hframed.drawn

theorem Mirrored.attempt {operation : ProjectOperation}
    (hstep : ProjectStep platform state operation next)
    (hgiven : ∀ given ∈ state.given operation, given.survives = true)
    (hhome : operation.KeepsHome platform state) : Mirrored platform next := by
  cases hstep with
  | followed hdrawn => exact h.followWork _ hdrawn
  | framed hframed => exact h.framed hframed
  | bound hbound =>
    exact h.bindProject hbound (hgiven _ (List.mem_singleton_self _)) fun target htarget =>
      hhome target (by rw [htarget]; rfl)
  | updated hupdated =>
    exact h.updateBinding hupdated (fun existing hexisting =>
      hgiven _ (List.mem_map_of_mem (Option.mem_toList.mpr hexisting))) hhome
  | deleted id => exact h.deleteBinding id
  | @created input _ _ _ _ _ roadmapId title hfree hframed hbound hlast =>
    have hsurvives : input.binding.survives = true := hgiven _ (by simp [ProjectState.given, hfree])
    refine ((h.framed hframed).bindProject hbound hsurvives fun target htarget => ?_).framed hlast
    rw [reusableBinding_congr hframed.bindings]
    exact (hhome hfree roadmapId title target htarget).congr hframed.bindings
  | @delegated input project binding _ _ _ _ _ roadmapId hfree hissue hproject hbinding hframed
      hwritten hlast =>
    have hsurvives : binding.survives = true :=
      hgiven _ (by simp [ProjectState.given, hfree, hissue, hproject, hbinding])
    refine ((h.framed hframed).writeBinding hwritten hsurvives fun target htarget => ?_).framed
      hlast
    rw [reusableBinding_congr hframed.bindings, displacedBindings_congr hframed.bindings]
    exact (hhome hfree hissue project binding roadmapId target hproject hbinding htarget).congr
      hframed.bindings

end

theorem Mirrored.step (h : Mirrored platform state) (input : ProjectInput)
    (htexts : KeepsTexts platform state input) (hkeeps : KeepsRows platform state input) :
    Mirrored platform ((projectStore platform).step state input).2 := by
  simp only [projectStore, performProject]
  cases hattempt : attemptProject platform input.now state input.operation with
  | error => exact h
  | ok =>
    have hok : (attemptProject platform input.now state input.operation).isOk = true := by
      rw [hattempt]
      rfl
    exact (h.attempt (attemptProject_step hattempt) (htexts hok) (hkeeps hok)).reloaded

end Calls

/-! ## Runs -/

/-- In every history whose calls leave no row behind and write only ids that are read back as they
were written, the channel bindings mirror the project bindings. -/
theorem channel_rows_mirror (platform : ProjectPlatform) (inputs : List ProjectInput)
    (htexts : ∀ moment ∈ (projectStore platform).history .empty inputs,
      KeepsTexts platform moment.before moment.input)
    (hkeeps : ∀ moment ∈ (projectStore platform).history .empty inputs,
      KeepsRows platform moment.before moment.input) :
    MirrorsBindings ((projectStore platform).run .empty inputs) :=
  ((projectStore platform).history_invariant_of
    (fun moment => KeepsTexts platform moment.before moment.input ∧
      KeepsRows platform moment.before moment.input)
    (fun _ state => Mirrored platform state)
    (fun _ _ input h hguard => h.step input hguard.1 hguard.2) .empty (.empty platform) inputs
    fun moment hmem => ⟨htexts moment hmem, hkeeps moment hmem⟩).mirrorsBindings

/-- A binding is written over in its chat, moves to another, is taken over by another alias, and
moves back to a chat from which it displaces a third. -/
def movedAbout : List ProjectInput :=
  [planRoadmap, planBinding "plan" "1" "" false, planBinding "plan" "1" "" false,
    planMove "project_binding_a" "2", planBinding "next" "2" "" true,
    planBinding "plan" "1" "" false, planMove "project_binding_a" "1",
    planBinding "last" "3" "" false, ⟨0, .deleteProjectBinding "project_binding_aaa"⟩]

theorem channel_rows_mirror_moved :
    ((projectStore countingProjects).run .empty movedAbout).channelBindings.entries.map
        (fun entry => entry.1.chatId) = ["1"] ∧
      MirrorsBindings ((projectStore countingProjects).run .empty movedAbout) := by
  refine ⟨by decide +kernel,
    channel_rows_mirror countingProjects movedAbout (by decide +kernel) fun moment hmem => ?_⟩
  simp only [movedAbout, Machine.history_cons, Machine.history_nil, List.mem_cons, List.not_mem_nil,
    or_false] at hmem
  rcases hmem with rfl | rfl | rfl | rfl | rfl | rfl | rfl | rfl | rfl <;> intro _
  any_goals exact True.intro
  all_goals first
    | change ∀ target ∈ Except.toOption _, ProjectState.StaysHome _ target _
      decide +kernel
    | change ∀ existing ∈ (_ : Option _), ∀ target ∈ Except.toOption _,
        ProjectState.StaysHome _ target _
      decide +kernel

def movedByAlias : List ProjectInput :=
  [planRoadmap, planBinding "plan" "1" "" false, planBinding "plan" "2" "" true]

/-- The old chat still reaches the project. -/
theorem channel_row_left_behind :
    ¬ MirrorsBindings ((projectStore countingProjects).run .empty movedByAlias) := by
  intro h
  have hrow : ((projectStore countingProjects).run .empty movedByAlias).channelBindings.get
      { provider := "telegram", chatId := "1", threadId := "" } = some
        { sessionId := "session", mode := .roadmap, roadmapId := some "roadmap_", taskId := none,
          title := some "Plan" } := by decide +kernel
  have hchats : ((projectStore countingProjects).run .empty
      movedByAlias).projectBindings.values.all fun binding => binding.chatId = some "2" := by
    decide +kernel
  obtain ⟨id, binding, hbinding, -, hchat, -⟩ := h.backed _ _ hrow rfl
  have hmoved := List.all_eq_true.mp hchats binding ((mem_values_iff _ _).mpr ⟨id, hbinding⟩)
  rw [hchat] at hmoved
  exact absurd hmoved (by decide)

end OpenCowork.Gateway
