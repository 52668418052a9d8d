import OpenCowork.Gateway.Acquisitions

/-! # Acquisitions are remembered

What was acquired for a dispatch stays with its receipt until it is released or handed over to the
run, unless a release that failed is written off or the receipt is deleted with it.
-/

namespace OpenCowork.Gateway

open Foundation OrderedMap

/-- An acquisition that is noted in the journal. -/
inductive Acquires (moment : Moment WorkState DispatchInput WorkAnswer) (dispatchId : String) :
    TaskDispatchAcquisitionKind → Option String → Prop where
  | intent {now : Int} {kind : TaskDispatchAcquisitionKind}
      (hinput : moment.input = .work ⟨now, .journalTaskDispatchAcquisitionIntent dispatchId kind⟩)
      (houtput : moment.output = .receipt dispatchId) : Acquires moment dispatchId kind none
  | environment {now : Int} {environment : DispatchEnvironment}
      (hinput : moment.input = .work ⟨now, .attachTaskDispatchEnvironment dispatchId environment⟩)
      (houtput : moment.output = .receipt dispatchId) :
      Acquires moment dispatchId .environment (Text.truthy (some environment.resourceId))
  | session {now : Int} {given sessionId : String}
      (hinput : moment.input = .work ⟨now, .attachTaskDispatchSession dispatchId given⟩)
      (hsession : normalizeRequiredString given "sessionId" 200 = .ok sessionId)
      (houtput : moment.output = .receipt dispatchId) :
      Acquires moment dispatchId .session (Text.truthy (some sessionId))

/-- What ends the care for an acquisition: its run has started, or its release has succeeded. -/
inductive LetGo (moment : Moment WorkState DispatchInput WorkAnswer) (dispatchId : String)
    (kind : TaskDispatchAcquisitionKind) : Prop where
  | started {now : Int} {start : RunStart} {runId : String}
      (hinput : moment.input = .work ⟨now, .startWorkTaskRunFromDispatch dispatchId start⟩)
      (houtput : moment.output = .started runId)
  | markedStarted {now : Int} {runId sessionId : String}
      (hinput : moment.input = .work ⟨now, .markTaskDispatchStarted dispatchId runId sessionId⟩)
      (houtput : moment.output = .receipt dispatchId)
  | released {now : Int}
      (hinput : moment.input =
        .work ⟨now, .markTaskDispatchAcquisitionSettled dispatchId kind false⟩)
  | recovered {now : Int} {releases : String → Bool} {receipt : TaskDispatchReceiptRecord}
      {environment : DispatchEnvironment}
      (hinput : moment.input = .work ⟨now, .recoverExpiredTaskDispatchStarts releases⟩)
      (hreceipt : moment.before.receipts.get dispatchId = some receipt)
      (hstarting : receipt.status = .starting) (hexpired : receipt.leaseExpiresAt ≤ now)
      (henvironment : receipt.environment = some environment)
      (hheld : environment.released = false)
      (hkind : kind = .environment) (hreleases : releases dispatchId = true)
  | reconciled {now : Int} {pass : Reconciliation} {acquisition : TaskDispatchAcquisitionRecord}
      (hinput : moment.input = .reconcile now pass)
      (hpending : acquisition ∈ pass.pending now moment.before)
      (hproven : pass.cleanupProven acquisition = true)
      (hdispatch : acquisition.dispatchId = dispatchId) (hkind : acquisition.kind = kind)

/-- What loses an unsettled acquisition: an expired start whose environment is not released is
given up, a batch of old receipts is deleted with it, another resource is attached in its place,
or an operator writes it off. -/
inductive Forgets (state : WorkState) (input : DispatchInput) : Prop where
  | givenUp {now : Int} {releases : String → Bool} {dispatchId : String}
      {receipt : TaskDispatchReceiptRecord} {environment : DispatchEnvironment}
      (hinput : input = .work ⟨now, .recoverExpiredTaskDispatchStarts releases⟩)
      (hreceipt : state.receipts.get dispatchId = some receipt)
      (hstarting : receipt.status = .starting) (hexpired : receipt.leaseExpiresAt ≤ now)
      (henvironment : receipt.environment = some environment)
      (hheld : environment.released = false) (hfails : releases dispatchId = false)
  | deleted {cutoff : Int} {chunkRows : Nat} {dispatchId : String}
      {receipt : TaskDispatchReceiptRecord} (hinput : input = .deleteReceipts cutoff chunkRows)
      (hbatch : dispatchId ∈ receiptBatch cutoff chunkRows state)
      (hreceipt : state.receipts.get dispatchId = some receipt)
      (hunsettled : receipt.isUnsettled = true)
  | environmentReplaced {now : Int} {dispatchId : String} {environment : DispatchEnvironment}
      {receipt : TaskDispatchReceiptRecord} {row : StoredTaskDispatchAcquisition}
      (hinput : input = .work ⟨now, .attachTaskDispatchEnvironment dispatchId environment⟩)
      (hreceipt : state.receipts.get dispatchId = some receipt)
      (hrow : receipt.acquisition .environment = some row) (hacquired : row.status = .acquired)
      (hother : (Text.truthy (some environment.resourceId)).or row.resourceId ≠ row.resourceId)
  | sessionReplaced {now : Int} {dispatchId given sessionId : String}
      {receipt : TaskDispatchReceiptRecord} {row : StoredTaskDispatchAcquisition}
      (hinput : input = .work ⟨now, .attachTaskDispatchSession dispatchId given⟩)
      (hsession : normalizeRequiredString given "sessionId" 200 = .ok sessionId)
      (hreceipt : state.receipts.get dispatchId = some receipt)
      (hrow : receipt.acquisition .session = some row) (hacquired : row.status = .acquired)
      (hother : (Text.truthy (some sessionId)).or row.resourceId ≠ row.resourceId)
  | writtenOff {now : Int} {dispatchId : String} {kind : TaskDispatchAcquisitionKind}
      (hinput : input = .work ⟨now, .markTaskDispatchAcquisitionSettled dispatchId kind true⟩)
      (hheld : state.Holds dispatchId kind none)

section Unsettled

variable {receipt receipt' : TaskDispatchReceiptRecord} {kind other : TaskDispatchAcquisitionKind}
  {resourceId : Option String} {row : StoredTaskDispatchAcquisition}
  (h : Unsettled receipt kind resourceId row)
include h

theorem Unsettled.isUnsettled : receipt.isUnsettled = true := by
  unfold TaskDispatchReceiptRecord.isUnsettled
  rw [Bool.and_eq_true, List.any_eq_true]
  refine ⟨decide_eq_true h.dispatch, row, List.mem_of_find?_eq_some h.held, ?_⟩
  rcases h.isOpen with hopen | hopen
  · rw [hopen]
    rfl
  · rw [hopen]
    rfl

theorem Unsettled.of_journal
    (hjournal : receipt'.journal = receipt.journal) (hstatus : receipt'.status ≠ .started) :
    Unsettled receipt' kind resourceId row := by
  refine ⟨hstatus, ?_, h.isOpen, h.resource⟩
  unfold TaskDispatchReceiptRecord.acquisition
  rw [hjournal]
  exact h.held

theorem Unsettled.note_of_ne (hne : other ≠ kind)
    (status : TaskDispatchAcquisitionStatus) (noted : Option String) :
    Unsettled (receipt.note other status noted) kind resourceId row := by
  refine ⟨h.dispatch, ?_, h.isOpen, h.resource⟩
  rw [acquisition_note, if_neg hne]
  exact h.held

theorem Unsettled.note_intent (noted : Option String) :
    Unsettled (receipt.note kind .intent noted) kind resourceId row := by
  refine ⟨h.dispatch, ?_, h.isOpen, h.resource⟩
  rw [acquisition_note, if_pos rfl, h.held, notedAcquisition, if_pos]
  rcases h.isOpen with hopen | hopen
  · rw [hopen]
    decide
  · rw [hopen]
    decide

theorem Unsettled.note_acquired {noted : Option String}
    (hsame : row.status = .acquired → (Text.truthy noted).or row.resourceId = row.resourceId) :
    ∃ row', Unsettled (receipt.note kind .acquired noted) kind resourceId row' := by
  have hnoted : notedAcquisition kind .acquired noted (some row) =
      { kind, status := .acquired, resourceId := (Text.truthy noted).or row.resourceId } := by
    rw [notedAcquisition, if_neg]
    rintro ⟨hintent, -⟩
    exact TaskDispatchAcquisitionStatus.noConfusion hintent
  refine ⟨notedAcquisition kind .acquired noted (some row), h.dispatch, ?_, ?_, ?_⟩
  · rw [acquisition_note, if_pos rfl, h.held]
  · rw [hnoted]
    exact .inr rfl
  · intro id hid
    obtain ⟨hacquired, hresource⟩ := h.resource id hid
    rw [hnoted]
    exact ⟨rfl, (hsame hacquired).trans hresource⟩

theorem Unsettled.note_resource {name : String} (hsame : other = kind → row.status = .acquired →
      (Text.truthy (some name)).or row.resourceId = row.resourceId) :
    ∃ row', Unsettled (receipt.note other .acquired (some name)) kind resourceId row' := by
  by_cases hkind : other = kind
  · subst hkind
    exact h.note_acquired (hsame rfl)
  · exact ⟨row, h.note_of_ne hkind .acquired (some name)⟩

end Unsettled

section Holds

variable {platform : WorkPlatform} {input : WorkInput} {origin state state' : WorkState}
  {dispatchId : String} {kind : TaskDispatchAcquisitionKind} {resourceId : Option String}
  {receipt : TaskDispatchReceiptRecord} {id : String}
  {change : TaskDispatchReceiptRecord → Option TaskDispatchReceiptRecord}

section

variable (h : state.Holds dispatchId kind resourceId)
variable (hchanges : input.operation.changesReceipts = false)
variable (hfresh : ∀ id receipt, origin.receipts.get id = some receipt →
    platform.Drawn "dispatch_" origin.drawn id)
include h hchanges hfresh

theorem WorkState.Holds.step (hstep : WorkStep platform input origin state state') :
    state'.Holds dispatchId kind resourceId := by
  obtain ⟨receipt, row, hreceipt, hunsettled⟩ := h
  cases hstep with
  | kept _ _ _ hreceipts | roadmapArchived _ _ _ _ _ hreceipts | changed _ _ _ _ _ hreceipts
  | created _ _ _ _ _ _ _ _ _ hreceipts | started _ _ _ _ _ _ hreceipts
  | leased _ _ _ _ hreceipts => exact ⟨receipt, row, hreceipts ▸ hreceipt, hunsettled⟩
  | tasksDeleted _ _ _ _ hreceipts hsettled =>
    refine ⟨receipt, row, ?_, hunsettled⟩
    rw [hreceipts, get_filter_eq_some_iff]
    refine ⟨hreceipt, decide_eq_true fun hmem => ?_⟩
    have hsome := hunsettled.isUnsettled
    rw [hsettled dispatchId receipt hreceipt hmem] at hsome
    exact Bool.noConfusion hsome
  | reserved _ _ _ _ _ _ hreceipts =>
    refine ⟨receipt, row, ?_, hunsettled⟩
    have hne : "dispatch_" ++ platform.randomUUID origin.drawn ≠ dispatchId := fun heq =>
      not_drawn_next platform "dispatch_" origin.drawn (heq ▸ hfresh dispatchId receipt hreceipt)
    rw [hreceipts, get_set_of_ne _ _ hne, hreceipt]
  | receiptsChanged _ _ _ _ _ hoperation => exact absurd (hchanges.symm.trans hoperation) (by simp)

theorem WorkState.Holds.steps (hsteps : WorkSteps platform input origin state state') :
    state'.Holds dispatchId kind resourceId := by
  induction hsteps with
  | refl => exact h
  | tail _ hstep ih => exact ih.step hchanges hfresh hstep

end

theorem WorkState.Holds.update (h : state.Holds dispatchId kind resourceId)
    (hchange : id = dispatchId → ∀ receipt row receipt',
      state.receipts.get dispatchId = some receipt → Unsettled receipt kind resourceId row →
        change receipt = some receipt' → ∃ row', Unsettled receipt' kind resourceId row') :
    (updateTaskDispatchReceipt id change state).2.Holds dispatchId kind resourceId := by
  obtain ⟨receipt, row, hreceipt, hunsettled⟩ := h
  unfold updateTaskDispatchReceipt
  split
  · exact ⟨receipt, row, hreceipt, hunsettled⟩
  next receipt' hchanged =>
    by_cases hid : id = dispatchId
    · obtain ⟨_, hheld, hchanged⟩ := Option.bind_eq_some_iff.mp hchanged
      rw [hid, hreceipt, Option.some.injEq] at hheld
      subst hheld
      obtain ⟨row', hunsettled'⟩ := hchange hid receipt row receipt' hreceipt hunsettled hchanged
      refine ⟨receipt', row', ?_, hunsettled'⟩
      rw [hid]
      exact get_set_self _ _ _
    · refine ⟨receipt, row, ?_, hunsettled⟩
      exact (get_set_of_ne _ _ hid).trans hreceipt

theorem Unsettled.expired
    {row : StoredTaskDispatchAcquisition} (h : Unsettled receipt kind resourceId row)
    {releases : Bool} (hreleases : ∀ environment, receipt.environment = some environment →
      environment.released = false → releases = true ∧ kind ≠ .environment) :
    Unsettled (receipt.expired releases) kind resourceId row := by
  have hfailed : TaskDispatchReceiptStatus.failed ≠ .started := by decide
  unfold TaskDispatchReceiptRecord.expired
  split
  next environment henvironment =>
    split
    · exact h.of_journal rfl hfailed
    next hheld =>
      rw [Bool.not_eq_true] at hheld
      obtain ⟨-, hkind⟩ := hreleases environment henvironment hheld
      exact (h.note_of_ne hkind.symm _ (some environment.resourceId)).of_journal rfl hfailed
  · exact h.of_journal rfl hfailed

theorem whileStarting_eq_some {change : TaskDispatchReceiptRecord → TaskDispatchReceiptRecord}
    {receipt' : TaskDispatchReceiptRecord} (h : whileStarting change receipt = some receipt') :
    receipt.status = .starting ∧ change receipt = receipt' := by
  unfold whileStarting at h
  split at h
  next hstarting => exact ⟨hstarting, Option.some.inj h⟩
  · cases h

theorem startFromDispatch_cases {start : RunStart} {now : Int} {answer : WorkAnswer}
    (h : startWorkTaskRunFromDispatch platform id start now state = (answer, state')) :
    state' = state ∨ ∃ runId receipt, answer = .started runId ∧
      state'.receipts = state.receipts.set id receipt := by
  unfold startWorkTaskRunFromDispatch at h
  split at h
  · cases h
    exact .inl rfl
  next receipt _ =>
    split at h
    · cases h
      exact .inl rfl
    next runId _ hstart =>
      cases h
      obtain ⟨_, hspec⟩ := startRun_spec hstart
      refine .inr ⟨runId, receipt.handedOver runId start.sessionId, rfl, ?_⟩
      rw [hspec.receipts]

section

variable (h : state.Holds dispatchId kind resourceId)
include h

theorem WorkState.Holds.of_kind : state.Holds dispatchId kind none := by
  obtain ⟨receipt, row, hreceipt, hunsettled⟩ := h
  refine ⟨receipt, row, hreceipt, hunsettled.dispatch, hunsettled.held, hunsettled.isOpen, ?_⟩
  rintro _ ⟨⟩

/-- After an operation the acquisition is still held, unless the operation lets it go. -/
def WorkState.Keeps (platform : WorkPlatform) (state : WorkState) (dispatchId : String)
    (kind : TaskDispatchAcquisitionKind) (resourceId : Option String) (input : WorkInput) : Prop :=
  (perform platform state input).2.Holds dispatchId kind resourceId ∨
    LetGo ((dispatchStore platform).moment state (.work input)) dispatchId kind

variable {now : Int}

theorem WorkState.Holds.startFromDispatch (start : RunStart) :
    state.Keeps platform dispatchId kind resourceId
      ⟨now, .startWorkTaskRunFromDispatch id start⟩ := by
  cases houtcome : startWorkTaskRunFromDispatch platform id start now state with
  | mk answer state' =>
    have hperform : perform platform state ⟨now, .startWorkTaskRunFromDispatch id start⟩ =
        (answer, state') := houtcome
    rcases startFromDispatch_cases houtcome with rfl | ⟨runId, receipt, rfl, hreceipts⟩
    · left
      rw [hperform]
      exact h
    · by_cases hid : id = dispatchId
      · subst hid
        exact .inr (.started rfl (congrArg Prod.fst hperform))
      · left
        rw [hperform]
        obtain ⟨receipt, row, hreceipt, hunsettled⟩ := h
        refine ⟨receipt, row, ?_, hunsettled⟩
        rw [hreceipts, get_set_of_ne _ _ hid, hreceipt]

theorem WorkState.Holds.attachEnvironment {environment : DispatchEnvironment}
    (hforgets : ¬ Forgets state (.work ⟨now, .attachTaskDispatchEnvironment id environment⟩)) :
    state.Keeps platform dispatchId kind resourceId
      ⟨now, .attachTaskDispatchEnvironment id environment⟩ := by
  left
  rw [perform_of_ok platform state ⟨now, .attachTaskDispatchEnvironment id environment⟩ rfl]
  refine h.update fun hid receipt row receipt' hreceipt hunsettled hchanged => ?_
  obtain ⟨_, rfl⟩ := whileStarting_eq_some hchanged
  have hnoted : ∃ row', Unsettled
      (receipt.note .environment .acquired (some environment.resourceId)) kind resourceId row' :=
    hunsettled.note_resource fun hkind hacquired => by_contra fun hother =>
      hforgets (.environmentReplaced rfl (hid ▸ hreceipt) (hkind ▸ hunsettled.held) hacquired
        hother)
  obtain ⟨row', hnoted⟩ := hnoted
  exact ⟨row', hnoted.of_journal rfl hnoted.dispatch⟩

theorem WorkState.Holds.attachSession {given : String}
    (hforgets : ¬ Forgets state (.work ⟨now, .attachTaskDispatchSession id given⟩)) :
    state.Keeps platform dispatchId kind resourceId ⟨now, .attachTaskDispatchSession id given⟩ := by
  left
  cases houtcome : attachTaskDispatchSession id given state with
  | error error =>
    have hperform : perform platform state ⟨now, .attachTaskDispatchSession id given⟩ =
        (.refused error, state) := by
      rw [Gateway.perform]
      simp only [attempt, houtcome]
    rw [hperform]
    exact h
  | ok =>
    rw [perform_of_ok platform state ⟨now, .attachTaskDispatchSession id given⟩ houtcome]
    unfold attachTaskDispatchSession at houtcome
    split at houtcome
    · cases houtcome
      exact h
    · obtain ⟨sessionId, hsession, houtcome⟩ := bind_eq_ok houtcome
      have houtcome := Except.ok.inj houtcome
      subst houtcome
      refine h.update fun hid receipt row receipt' hreceipt hunsettled hchanged => ?_
      obtain ⟨-, rfl⟩ := whileStarting_eq_some hchanged
      have hnoted : ∃ row', Unsettled (receipt.note .session .acquired (some sessionId)) kind
          resourceId row' :=
        hunsettled.note_resource fun hkind hacquired => by_contra fun hother =>
          hforgets (.sessionReplaced rfl hsession (hid ▸ hreceipt) (hkind ▸ hunsettled.held)
            hacquired hother)
      obtain ⟨row', hnoted⟩ := hnoted
      exact ⟨row', hnoted.of_journal rfl hnoted.dispatch⟩

theorem WorkState.Holds.markSettled {settled : TaskDispatchAcquisitionKind} {failed : Bool}
    (hforgets : ¬ Forgets state
      (.work ⟨now, .markTaskDispatchAcquisitionSettled id settled failed⟩)) :
    state.Keeps platform dispatchId kind resourceId
      ⟨now, .markTaskDispatchAcquisitionSettled id settled failed⟩ := by
  by_cases hsame : id = dispatchId ∧ settled = kind
  · obtain ⟨rfl, rfl⟩ := hsame
    cases failed with
    | false => exact .inr (.released rfl)
    | true => exact absurd (.writtenOff rfl h.of_kind) hforgets
  · left
    rw [perform_of_ok platform state
      ⟨now, .markTaskDispatchAcquisitionSettled id settled failed⟩ rfl]
    refine h.update fun hid receipt row receipt' _ hunsettled hchanged => ?_
    cases hchanged
    exact ⟨row, hunsettled.note_of_ne (fun hkind => hsame ⟨hid, hkind⟩) _ _⟩

theorem WorkState.Holds.markStarted (runId sessionId : String) :
    state.Keeps platform dispatchId kind resourceId
      ⟨now, .markTaskDispatchStarted id runId sessionId⟩ := by
  cases hchange : (state.receipts.get id).bind (whileStarting fun receipt =>
      receipt.startedAs runId sessionId) with
  | none =>
    left
    rw [perform_of_ok platform state ⟨now, .markTaskDispatchStarted id runId sessionId⟩ rfl,
      markTaskDispatchStarted, updateTaskDispatchReceipt, hchange]
    exact h
  | some receipt' =>
    have hperform : perform platform state ⟨now, .markTaskDispatchStarted id runId sessionId⟩ =
        (.receipt id, { state with receipts := state.receipts.set id receipt' }) := by
      rw [perform_of_ok platform state ⟨now, .markTaskDispatchStarted id runId sessionId⟩
        rfl, markTaskDispatchStarted, updateTaskDispatchReceipt, hchange]
    by_cases hid : id = dispatchId
    · subst hid
      exact .inr (.markedStarted rfl (congrArg Prod.fst hperform))
    · left
      rw [hperform]
      obtain ⟨receipt, row, hreceipt, hunsettled⟩ := h
      exact ⟨receipt, row, (get_set_of_ne _ _ hid).trans hreceipt, hunsettled⟩

theorem WorkState.Holds.recoverExpired {releases : String → Bool}
    (hforgets : ¬ Forgets state (.work ⟨now, .recoverExpiredTaskDispatchStarts releases⟩)) :
    state.Keeps platform dispatchId kind resourceId
      ⟨now, .recoverExpiredTaskDispatchStarts releases⟩ := by
  by_cases hletsGo : LetGo ((dispatchStore platform).moment state
      (.work ⟨now, .recoverExpiredTaskDispatchStarts releases⟩)) dispatchId kind
  · exact .inr hletsGo
  · left
    rw [perform_of_ok platform state ⟨now, .recoverExpiredTaskDispatchStarts releases⟩ rfl]
    obtain ⟨receipt, row, hreceipt, hunsettled⟩ := h
    have hget : (recoverExpiredTaskDispatchStarts releases now state).2.receipts.get
        dispatchId = some (if receipt.status = .starting ∧ receipt.leaseExpiresAt ≤ now then
          receipt.expired (releases dispatchId) else receipt) := by
      unfold recoverExpiredTaskDispatchStarts
      rw [get_mapWithKey, hreceipt, Option.map_some]
    by_cases hexpired : receipt.status = .starting ∧ receipt.leaseExpiresAt ≤ now
    · rw [if_pos hexpired] at hget
      refine ⟨_, row, hget, hunsettled.expired fun environment henvironment hheld => ?_⟩
      -- the environment is released, since a failed release would forget it
      cases hreleases : releases dispatchId with
      | false =>
        exact absurd (.givenUp rfl hreceipt hexpired.1 hexpired.2 henvironment hheld
          hreleases) hforgets
      | true =>
        exact ⟨rfl, fun hkind => hletsGo (.recovered rfl hreceipt hexpired.1 hexpired.2
          henvironment hheld hkind hreleases)⟩
    · rw [if_neg hexpired] at hget
      exact ⟨receipt, row, hget, hunsettled⟩

/-- An operation of the store keeps an acquisition, unless it lets it go or forgets one. -/
theorem WorkState.Holds.perform
    (hlinked : Linked platform state) (hforgets : ¬ Forgets state (.work input)) :
    state.Keeps platform dispatchId kind resourceId input := by
  by_cases hchanges : input.operation.changesReceipts = false
  · exact .inl (h.steps hchanges hlinked.receiptDrawn (perform_steps platform state input))
  · obtain ⟨now, operation⟩ := input
    cases operation with
    | startWorkTaskRunFromDispatch _ start => exact h.startFromDispatch start
    | journalTaskDispatchAcquisitionIntent id noted =>
      left
      rw [perform_of_ok platform state ⟨now, .journalTaskDispatchAcquisitionIntent id noted⟩ rfl]
      refine h.update fun _ receipt row receipt' _ hunsettled hchanged => ?_
      obtain ⟨-, rfl⟩ := whileStarting_eq_some hchanged
      by_cases hkind : noted = kind
      · exact ⟨row, hkind ▸ hunsettled.note_intent _⟩
      · exact ⟨row, hunsettled.note_of_ne hkind _ _⟩
    | attachTaskDispatchEnvironment => exact h.attachEnvironment hforgets
    | attachTaskDispatchSession => exact h.attachSession hforgets
    | markTaskDispatchAcquisitionSettled => exact h.markSettled hforgets
    | markTaskDispatchStarted _ runId sessionId => exact h.markStarted runId sessionId
    | markTaskDispatchFailed id =>
      left
      rw [perform_of_ok platform state ⟨now, .markTaskDispatchFailed id⟩ rfl]
      refine h.update fun _ receipt row _ _ hunsettled hchanged => ?_
      obtain ⟨-, rfl⟩ := whileStarting_eq_some hchanged
      exact ⟨row, hunsettled.of_journal rfl TaskDispatchReceiptStatus.noConfusion⟩
    | recoverExpiredTaskDispatchStarts => exact h.recoverExpired hforgets
    | _ => exact absurd rfl hchanges

theorem WorkState.Holds.settled {acquisitions : List TaskDispatchAcquisitionRecord}
    (hothers : ∀ acquisition ∈ acquisitions,
      ¬ (acquisition.dispatchId = dispatchId ∧ acquisition.kind = kind)) :
    (acquisitions.foldl (fun state acquisition => (markTaskDispatchAcquisitionSettled
      acquisition.dispatchId acquisition.kind false state).2) state).Holds dispatchId kind
        resourceId := by
  induction acquisitions generalizing state with
  | nil => exact h
  | cons acquisition _ ih =>
    refine ih (h.update fun hid _ row _ _ hunsettled hchanged => ?_)
      fun other hmem => hothers other (.tail _ hmem)
    cases hchanged
    exact ⟨row, hunsettled.note_of_ne (fun hkind => hothers acquisition (.head _) ⟨hid, hkind⟩) _ _⟩

theorem WorkState.Holds.failed (ids : List String) :
    (ids.foldl (fun state id => (markTaskDispatchFailed id state).2) state).Holds dispatchId kind
      resourceId := by
  induction ids generalizing state with
  | nil => exact h
  | cons _ _ ih =>
    refine ih (h.update fun _ _ row _ _ hunsettled hchanged => ?_)
    obtain ⟨-, rfl⟩ := whileStarting_eq_some hchanged
    exact ⟨row, hunsettled.of_journal rfl TaskDispatchReceiptStatus.noConfusion⟩

theorem WorkState.Holds.dispatchStep
    (hlinked : Linked platform state) {input : DispatchInput} (hforgets : ¬ Forgets state input) :
    ((dispatchStore platform).step state input).2.Holds dispatchId kind resourceId ∨
      LetGo ((dispatchStore platform).moment state input) dispatchId kind := by
  cases input with
  | work => exact h.perform hlinked hforgets
  | reconcile now pass =>
    by_cases hproven : ∃ acquisition ∈ pass.pending now state,
        pass.cleanupProven acquisition = true ∧ acquisition.dispatchId = dispatchId ∧
          acquisition.kind = kind
    · obtain ⟨acquisition, hpending, hcleanup, hdispatch, hkind⟩ := hproven
      exact .inr (.reconciled rfl hpending hcleanup hdispatch hkind)
    · refine .inl (WorkState.Holds.failed (h.settled fun acquisition hmem hsame => ?_) _)
      obtain ⟨hmem, hcleanup⟩ := List.mem_filter.mp hmem
      refine hproven ⟨acquisition, ?_, hcleanup, hsame.1, hsame.2⟩
      rcases List.mem_append.mp hmem with hmem | hmem
      · exact (List.mem_filter.mp hmem).1
      · exact (List.mem_filter.mp hmem).1
  | deleteReceipts cutoff chunkRows =>
    left
    obtain ⟨receipt, row, hreceipt, hunsettled⟩ := h
    refine ⟨receipt, row, ?_, hunsettled⟩
    have hkept : dispatchId ∉ receiptBatch cutoff chunkRows state := fun hbatch =>
      hforgets (.deleted rfl hbatch hreceipt hunsettled.isUnsettled)
    exact (get_filter_eq_some_iff _ _ _ _).mpr ⟨hreceipt, decide_eq_true hkept⟩

end

/-! ## Whole runs -/

theorem linked_dispatchStep (h : Linked platform state) (input : DispatchInput) :
    Linked platform ((dispatchStore platform).step state input).2 := by
  have hwork : ∀ {state} (input : WorkInput), Linked platform state →
      Linked platform (Gateway.perform platform state input).2 :=
    fun input h => h.steps (perform_steps platform _ input)
  cases input with
  | work input => exact hwork input h
  | reconcile now =>
    have hsettled : ∀ (acquisitions : List TaskDispatchAcquisitionRecord) (state : WorkState),
        Linked platform state → Linked platform (acquisitions.foldl (fun state acquisition =>
          (markTaskDispatchAcquisitionSettled acquisition.dispatchId acquisition.kind false
            state).2) state) := by
      intro acquisitions
      induction acquisitions with
      | nil => exact fun state h => h
      | cons acquisition _ ih =>
        exact fun state h => ih _ (hwork ⟨now, .markTaskDispatchAcquisitionSettled
          acquisition.dispatchId acquisition.kind false⟩ h)
    have hfailed : ∀ (ids : List String) (state : WorkState), Linked platform state →
        Linked platform (ids.foldl (fun state id => (markTaskDispatchFailed id state).2)
          state) := by
      intro ids
      induction ids with
      | nil => exact fun state h => h
      | cons id _ ih => exact fun _ h => ih _ (hwork ⟨now, .markTaskDispatchFailed id⟩ h)
    exact hfailed _ _ (hsettled _ _ h)
  | deleteReceipts =>
    refine ⟨h.taskDrawn, h.runDrawn, fun id receipt hreceipt => ?_, h.runTask, h.named⟩
    exact h.receiptDrawn id receipt ((get_filter_eq_some_iff _ _ _ _).mp hreceipt).1

theorem linked_dispatchRun (platform : WorkPlatform) (inputs : List DispatchInput) :
    Linked platform ((dispatchStore platform).run .empty inputs) :=
  (dispatchStore platform).run_invariant (Linked platform)
    (fun _ input h => linked_dispatchStep h input) .empty (.empty platform) inputs

theorem updated_of_answer (h : (updateTaskDispatchReceipt id change state).1 = .receipt id) :
    ∃ receipt receipt', change receipt = some receipt' ∧
      (updateTaskDispatchReceipt id change state).2.receipts.get id = some receipt' := by
  unfold updateTaskDispatchReceipt at h ⊢
  split at h
  · cases h
  next receipt' hchanged =>
    obtain ⟨receipt, -, hchange⟩ := Option.bind_eq_some_iff.mp hchanged
    exact ⟨receipt, receipt', hchange, get_set_self _ _ _⟩

theorem unsettled_intent
    (hstarting : receipt.status = .starting) (kind : TaskDispatchAcquisitionKind) :
    ∃ row, Unsettled (receipt.note kind .intent) kind none row := by
  have hdispatch : (receipt.note kind .intent).status ≠ .started := by
    intro hstarted
    exact TaskDispatchReceiptStatus.noConfusion (hstarting.symm.trans hstarted)
  have hrow : (receipt.note kind .intent).acquisition kind =
      some (notedAcquisition kind .intent none (receipt.acquisition kind)) := by
    rw [acquisition_note, if_pos rfl]
  refine ⟨_, hdispatch, hrow, ?_, by rintro id ⟨⟩⟩
  cases receipt.acquisition kind with
  | none => exact .inl rfl
  | some previous =>
    unfold notedAcquisition
    dsimp only
    split
    next hkept =>
      cases hstatus : previous.status with
      | intent => exact .inl rfl
      | acquired => exact .inr rfl
      | released => exact absurd hstatus hkept.2.2
      | failed => exact absurd hstatus hkept.2.1
    · exact .inl rfl

theorem unsettled_acquired
    (hstarting : receipt.status = .starting) (kind : TaskDispatchAcquisitionKind) (noted : String) :
    ∃ row, Unsettled (receipt.note kind .acquired (some noted)) kind (Text.truthy (some noted))
      row := by
  have hdispatch : (receipt.note kind .acquired (some noted)).status ≠ .started := by
    intro hstarted
    exact TaskDispatchReceiptStatus.noConfusion (hstarting.symm.trans hstarted)
  have hrow : (receipt.note kind .acquired (some noted)).acquisition kind =
      some (notedAcquisition kind .acquired (some noted) (receipt.acquisition kind)) := by
    rw [acquisition_note, if_pos rfl]
  cases hprevious : receipt.acquisition kind with
  | none =>
    rw [hprevious] at hrow
    refine ⟨_, hdispatch, hrow, .inr rfl, fun _ hid => ⟨rfl, ?_⟩⟩
    exact (Option.filter_eq_some_iff.mp hid).1
  | some =>
    rw [hprevious, notedAcquisition, if_neg (by simp)] at hrow
    refine ⟨_, hdispatch, hrow, .inr rfl, fun _ hid => ⟨rfl, ?_⟩⟩
    rw [Option.mem_def] at hid
    rw [hid, Option.some_or]

theorem Acquires.holds {input : DispatchInput}
    (h : Acquires ((dispatchStore platform).moment state input) dispatchId kind resourceId) :
    ((dispatchStore platform).step state input).2.Holds dispatchId kind resourceId := by
  cases h with
  | @intent now kind hinput houtput =>
    obtain rfl : input = .work ⟨now, .journalTaskDispatchAcquisitionIntent dispatchId kind⟩ :=
      hinput
    obtain ⟨receipt, receipt', hchange, hget⟩ := updated_of_answer houtput
    obtain ⟨hstarting, rfl⟩ := whileStarting_eq_some hchange
    obtain ⟨row, hrow⟩ := unsettled_intent hstarting kind
    exact ⟨_, row, hget, hrow⟩
  | @environment now environment hinput houtput =>
    obtain rfl : input = .work ⟨now, .attachTaskDispatchEnvironment dispatchId environment⟩ :=
      hinput
    obtain ⟨receipt, receipt', hchange, hget⟩ := updated_of_answer houtput
    obtain ⟨hstarting, rfl⟩ := whileStarting_eq_some hchange
    obtain ⟨row, hrow⟩ := unsettled_acquired hstarting .environment environment.resourceId
    exact ⟨_, row, hget, hrow.of_journal rfl hrow.dispatch⟩
  | @session now given sessionId hinput hsession houtput =>
    obtain rfl : input = .work ⟨now, .attachTaskDispatchSession dispatchId given⟩ := hinput
    cases houtcome : attachTaskDispatchSession dispatchId given state with
    | error error =>
      have hperform : (dispatchStore platform).step state
          (.work ⟨now, .attachTaskDispatchSession dispatchId given⟩) =
            (.refused error, state) := by
        change Gateway.perform platform state _ = _
        rw [Gateway.perform]
        simp only [attempt, houtcome]
      have hrefused := (congrArg Prod.fst hperform).symm.trans houtput
      cases hrefused
    | ok outcome =>
      have hperform : (dispatchStore platform).step state
          (.work ⟨now, .attachTaskDispatchSession dispatchId given⟩) = outcome :=
        perform_of_ok platform state ⟨now, .attachTaskDispatchSession dispatchId given⟩ houtcome
      have hanswer := (congrArg Prod.fst hperform).symm.trans houtput
      rw [hperform]
      unfold attachTaskDispatchSession at houtcome
      split at houtcome
      · cases houtcome
        cases hanswer
      · rw [hsession, ok_bind] at houtcome
        have houtcome := Except.ok.inj houtcome
        subst houtcome
        obtain ⟨_, _, hchange, hget⟩ := updated_of_answer hanswer
        obtain ⟨hstarting, rfl⟩ := whileStarting_eq_some hchange
        obtain ⟨row, hrow⟩ := unsettled_acquired hstarting .session sessionId
        exact ⟨_, row, hget, hrow.of_journal rfl hrow.dispatch⟩

/-- An acquisition that the scheduler tries to release now, or after the lease of its dispatch. -/
def WillRetry (state : WorkState) (dispatchId : String) (kind : TaskDispatchAcquisitionKind)
    (resourceId : Option String) : Prop :=
  ∃ acquisition ∈ listTaskDispatchAcquisitions state, acquisition.dispatchId = dispatchId ∧
    acquisition.kind = kind ∧ (∀ id ∈ resourceId, acquisition.resourceId = some id) ∧
    ∀ (pass : Reconciliation) (now : Int),
      acquisition.dispatchStatus = .failed ∨ acquisition.leaseExpiresAt ≤ now →
        acquisition ∈ pass.pending now state

theorem WorkState.Holds.pending (h : state.Holds dispatchId kind resourceId) :
    WillRetry state dispatchId kind resourceId := by
  obtain ⟨receipt, row, hreceipt, hunsettled⟩ := h
  have hkind := List.find?_some hunsettled.held
  have hlisted : taskDispatchAcquisitionRecord dispatchId receipt row ∈
      listTaskDispatchAcquisitions state := by
    refine List.mem_flatMap.mpr ⟨(dispatchId, receipt), ?_, ?_⟩
    · exact (get_eq_some_iff _ _ _).mp hreceipt
    · exact List.mem_map_of_mem (List.mem_of_find?_eq_some hunsettled.held)
  refine ⟨_, hlisted, rfl, of_decide_eq_true hkind, fun id hid => (hunsettled.resource id hid).2,
    ?_⟩
  intro _ _ hdue
  refine List.mem_filter.mpr ⟨hlisted, ?_⟩
  have hopen : row.status ≠ .released ∧ row.status ≠ .failed := by
    rcases hunsettled.isOpen with hopen | hopen
    · rw [hopen]
      decide
    · rw [hopen]
      decide
  have hdispatch : receipt.status ≠ .started := hunsettled.dispatch
  rcases hdue with hfailed | hexpired
  · simp [Reconciliation.isPending, taskDispatchAcquisitionRecord, hopen, hdispatch] at hfailed ⊢
    simp [hfailed]
  · simp [Reconciliation.isPending, taskDispatchAcquisitionRecord, hopen, hdispatch] at hexpired ⊢
    simp [hexpired]

end Holds

/-- Every acquisition noted for a dispatch was handed over to a started run or released, or the
scheduler will retry its release, in every run in which no release of an expired start fails, no
receipt is deleted with an unsettled acquisition, and no acquisition is replaced or written off. -/
theorem acquisitions_remembered (platform : WorkPlatform) (inputs : List DispatchInput)
    (hforgets : ∀ moment ∈ (dispatchStore platform).history .empty inputs,
      ¬ Forgets moment.before moment.input) :
    ∀ first input rest, inputs = first ++ input :: rest → ∀ dispatchId kind resourceId,
      Acquires ((dispatchStore platform).moment ((dispatchStore platform).run .empty first) input)
        dispatchId kind resourceId →
      (∃ moment ∈ (dispatchStore platform).history
          ((dispatchStore platform).run .empty (first ++ [input])) rest,
        LetGo moment dispatchId kind) ∨
      WillRetry ((dispatchStore platform).run .empty inputs) dispatchId kind resourceId := by
  rintro first input rest rfl dispatchId kind resourceId hacquires
  have hsplit : first ++ input :: rest = (first ++ [input]) ++ rest := by simp
  rw [hsplit, Machine.history_append] at hforgets
  rw [hsplit, (dispatchStore platform).run_append .empty (first ++ [input]) rest]
  have hheld : ((dispatchStore platform).run .empty (first ++ [input])).Holds dispatchId kind
      resourceId := by
    rw [Machine.run_append]
    exact hacquires.holds
  have hlinked := linked_dispatchRun platform (first ++ [input])
  generalize (dispatchStore platform).run .empty (first ++ [input]) = start at *
  have hrest := (dispatchStore platform).history_invariant_of
    (fun moment => ¬ Forgets moment.before moment.input)
    (fun past state => Linked platform state ∧
      ((∃ moment ∈ past, LetGo moment dispatchId kind) ∨ state.Holds dispatchId kind resourceId))
    (fun past state input h hguard => by
      refine ⟨linked_dispatchStep h.1 input, ?_⟩
      rcases h.2 with ⟨moment, hmem, hletGo⟩ | hholds
      · exact .inl ⟨moment, List.mem_append_left _ hmem, hletGo⟩
      · rcases hholds.dispatchStep h.1 hguard with hholds | hletGo
        · exact .inr hholds
        · exact .inl ⟨_, List.mem_append_right _ (.head _), hletGo⟩)
    start ⟨hlinked, .inr hheld⟩ rest
    fun moment hmem => hforgets moment (List.mem_append_right _ hmem)
  exact hrest.2.imp_right WorkState.Holds.pending

/-- A dispatch that is about to acquire an environment. -/
def dispatched : List DispatchInput :=
  [.work ⟨0, .createWorkTask { title := "Report" }⟩,
    .work ⟨1, .reserveTaskDispatchStart { taskId := "task_", stage := "implement" }⟩,
    .work ⟨2, .journalTaskDispatchAcquisitionIntent "dispatch_a" .environment⟩]

theorem acquisitions_remembered_failed :
    (∃ moment ∈ (dispatchStore countingPlatform).history
        ((dispatchStore countingPlatform).run .empty dispatched)
        [.work ⟨3, .markTaskDispatchFailed "dispatch_a"⟩],
      LetGo moment "dispatch_a" .environment) ∨
    WillRetry ((dispatchStore countingPlatform).run .empty
      (dispatched ++ [.work ⟨3, .markTaskDispatchFailed "dispatch_a"⟩])) "dispatch_a"
        .environment none := by
  refine acquisitions_remembered countingPlatform
    (dispatched ++ [.work ⟨3, .markTaskDispatchFailed "dispatch_a"⟩]) ?_ (dispatched.take 2)
    (.work ⟨2, .journalTaskDispatchAcquisitionIntent "dispatch_a" .environment⟩)
    [.work ⟨3, .markTaskDispatchFailed "dispatch_a"⟩] rfl "dispatch_a" .environment none
    (.intent rfl (by decide +kernel))
  intro moment hmem hforgets
  have hinput := (dispatchStore countingPlatform).input_mem_of_mem_history _ hmem
  simp only [dispatched, List.cons_append, List.nil_append, List.mem_cons, List.not_mem_nil,
    or_false] at hinput
  cases hforgets with
  | givenUp h | deleted h | environmentReplaced h | sessionReplaced h | writtenOff h =>
    rcases hinput with hinput | hinput | hinput | hinput <;> rw [hinput] at h <;> cases h

/-- An environment is acquired, and the release fails: the expired start gives it up for good; or
the receipt of the failed dispatch is deleted with it. -/
theorem acquisitions_forgotten :
    let acquired := dispatched ++ [.work ⟨3, .attachTaskDispatchEnvironment "dispatch_a"
      { resourceId := "env_1", released := false }⟩]
    let givenUp := (dispatchStore countingPlatform).run .empty (acquired ++
      [.work ⟨90000000, .recoverExpiredTaskDispatchStarts fun _ => false⟩])
    let deleted := (dispatchStore countingPlatform).run .empty (acquired ++
      [.work ⟨4, .markTaskDispatchFailed "dispatch_a"⟩,
        .reconcile 5 ⟨"scheduler", fun _ => false, fun _ => false⟩, .deleteReceipts 6 100])
    (listTaskDispatchAcquisitions givenUp).map (fun acquisition =>
        (acquisition.resourceId, acquisition.status)) = [(some "env_1", .failed)] ∧
    (∀ (pass : Reconciliation) (now : Int), pass.pending now givenUp = []) ∧
    listTaskDispatchAcquisitions deleted = [] := by
  refine ⟨by decide +kernel, fun pass now => ?_, by decide +kernel⟩
  rw [Reconciliation.pending, List.filter_eq_nil_iff]
  have hfailed : ∀ acquisition ∈ listTaskDispatchAcquisitions
      ((dispatchStore countingPlatform).run .empty (dispatched ++
        [.work ⟨3, .attachTaskDispatchEnvironment "dispatch_a"
          { resourceId := "env_1", released := false }⟩] ++
        [.work ⟨90000000, .recoverExpiredTaskDispatchStarts fun _ => false⟩])),
      acquisition.status = .failed := by
    decide +kernel
  intro acquisition hmem
  simp [Reconciliation.isPending, hfailed acquisition hmem]

end OpenCowork.Gateway
