import OpenCowork.ControlPlane.Channels.ProviderEvents

/-! # Claims of a provider event

A redelivery is handed the event only if the claim before it ran out or was completed,
so no two claims of one event are open together; and an event that was processed, or
failed for good, is never handed out again.
-/

namespace OpenCowork.ControlPlane

open Foundation

namespace ChannelProviderEventRecord

/-- Processed, or failed without a retry. -/
def finished (event : ChannelProviderEventRecord) : Bool :=
  event.status == .processed || (event.status == .failed && !event.retryable)

/-- Whether the claim that a record describes is still running at an instant. -/
def unexpired (event : ChannelProviderEventRecord) (now : Instant) : Bool :=
  match event.claimExpiresAt with
  | none => true
  | some expiresAt => decide (now < expiresAt)

end ChannelProviderEventRecord

namespace ChannelProviderEventMoment

variable (moment : ChannelProviderEventMoment) (eventKey : String)

def handedOut : List ChannelProviderEventRecord :=
  match moment.input.operation, moment.output with
  | .claim input, .claim result =>
    if input.eventKey.toOption = some eventKey ∧ result.claimed = true then [result.event] else []
  | _, _ => []

/-- Whether the moment completes the event while it is processed. -/
def completes : Bool :=
  match moment.input.operation with
  | .claim _ => false
  | .complete _ =>
    decide ((moment.before.events.get eventKey).map ChannelProviderEventRecord.status =
      some .processing) &&
    decide ((moment.after.events.get eventKey).map ChannelProviderEventRecord.status ≠
      some .processing)

end ChannelProviderEventMoment

/-- The claims of an event that were handed out and not completed since, oldest first. -/
def openClaims (eventKey : String) (history : List ChannelProviderEventMoment) :
    List ChannelProviderEventRecord :=
  history.foldl (fun claims moment =>
    if ChannelProviderEventMoment.completes moment eventKey then []
    else claims ++ ChannelProviderEventMoment.handedOut moment eventKey) []

theorem openClaims_snoc (eventKey : String) (history : List ChannelProviderEventMoment)
    (moment : ChannelProviderEventMoment) :
    openClaims eventKey (history ++ [moment]) =
      if ChannelProviderEventMoment.completes moment eventKey then []
      else openClaims eventKey history ++ ChannelProviderEventMoment.handedOut moment eventKey := by
  rw [openClaims, List.foldl_append]
  rfl

/-- What an operation does to the event under a key, with the claim it hands out. -/
inductive ChannelProviderEventStep (platform : ChannelPlatform)
    (request : ChannelProviderEventRequest) :
    List ChannelProviderEventRecord → Option ChannelProviderEventRecord →
      Option ChannelProviderEventRecord → Prop where
  | untouched (stored : Option ChannelProviderEventRecord) :
      ChannelProviderEventStep platform request [] stored stored
  | created (input : ClaimChannelProviderEventInput) (event : ChannelProviderEventRecord)
      (hoperation : request.operation = .claim input) (hprocessing : event.status = .processing) :
      ChannelProviderEventStep platform request [event] none (some event)
  | repeated (input : ClaimChannelProviderEventInput) (event : ChannelProviderEventRecord)
      (hoperation : request.operation = .claim input) :
      ChannelProviderEventStep platform request [] (some event)
        (some { event with updatedAt := request.now })
  | reclaimed (input : ClaimChannelProviderEventInput) (event next : ChannelProviderEventRecord)
      (hoperation : request.operation = .claim input)
      (hfree : event.canReclaim request.now = true) (hprocessing : next.status = .processing) :
      ChannelProviderEventStep platform request [next] (some event) (some next)
  | broken (input : ClaimChannelProviderEventInput) (event next : ChannelProviderEventRecord)
      (hoperation : request.operation = .claim input)
      (hfree : event.canReclaim request.now = true) (hprocessing : next.status = .processing ∨
        next.claimedBy = event.claimedBy ∧ next.status = event.status) :
      ChannelProviderEventStep platform request [] (some event) (some next)
  | completed (input : CompleteChannelProviderEventInput) (event : ChannelProviderEventRecord)
      (hoperation : request.operation = .complete input) (howner : event.claimedBy ≠ none) :
      ChannelProviderEventStep platform request [] (some event)
        (some (event.completed platform.toEnvironment input request.dateNow).2)

namespace ClaimChannelProviderEventInput

variable {input : ClaimChannelProviderEventInput} {platform : ChannelPlatform}
  {provider eventType : String} {now : Instant} {event next : ChannelProviderEventRecord}

theorem newEvent_status (hnew : input.newEvent platform provider eventType now = .ok event) :
    event.status = .processing := by
  unfold newEvent at hnew
  iterate 8
    split at hnew
    · exact nomatch hnew
  obtain rfl := Except.ok.inj hnew
  rfl

theorem reclaim_cases (input : ClaimChannelProviderEventInput) (platform : ChannelPlatform)
    (provider eventType : String) (now : Instant) (event : ChannelProviderEventRecord) :
    (∃ next, input.reclaim platform provider eventType now event = (.ok next, next) ∧
        next.status = .processing) ∨
      (∃ error next, input.reclaim platform provider eventType now event = (.error error, next) ∧
        (next.status = .processing ∨
          next.claimedBy = event.claimedBy ∧ next.status = event.status)) := by
  unfold reclaim
  split
  · exact .inr ⟨_, _, rfl, .inr ⟨rfl, rfl⟩⟩
  split
  · exact .inr ⟨_, _, rfl, .inl rfl⟩
  split
  · exact .inr ⟨_, _, rfl, .inl rfl⟩
  split
  · exact .inr ⟨_, _, rfl, .inl rfl⟩
  · exact .inl ⟨_, rfl, rfl⟩

end ClaimChannelProviderEventInput

namespace ChannelProviderEventsDomain

variable {platform : ChannelPlatform} {domain : ChannelProviderEventsDomain} {addressed : String}
  {moment : ChannelProviderEventMoment} {input : ClaimChannelProviderEventInput}
  {event : ChannelProviderEventRecord} {request : ChannelProviderEventRequest}
  {next : ChannelProviderEventRecord}

theorem handedOut_claimed (hoperation : moment.input.operation = .claim input)
    (houtput : moment.output = .claim ⟨event, true, false⟩)
    (hkey : input.eventKey = .ok addressed) (eventKey : String) :
    ChannelProviderEventMoment.handedOut moment eventKey =
      if addressed = eventKey then [event] else [] := by
  rw [ChannelProviderEventMoment.handedOut, hoperation, houtput]
  simp [hkey, Except.toOption]

theorem handedOut_unclaimed (hoperation : moment.input.operation = .claim input)
    (houtput : moment.output = .claim ⟨event, false, true⟩) (eventKey : String) :
    ChannelProviderEventMoment.handedOut moment eventKey = [] := by
  rw [ChannelProviderEventMoment.handedOut, hoperation, houtput]
  simp

theorem step_of_set (eventKey : String) {handed : List ChannelProviderEventRecord}
    (hstep : ChannelProviderEventStep platform request handed (domain.events.get addressed)
      (some next)) :
    ChannelProviderEventStep platform request (if addressed = eventKey then handed else [])
      (domain.events.get eventKey) ((domain.events.set addressed next).get eventKey) := by
  rw [OrderedMap.get_set]
  split
  next heq => exact heq ▸ hstep
  · exact .untouched _

theorem silent_step_of_set {eventKey : String}
    (hstep : ChannelProviderEventStep platform request [] (domain.events.get addressed)
      (some next)) :
    ChannelProviderEventStep platform request [] (domain.events.get eventKey)
      ((domain.events.set addressed next).get eventKey) := by
  have hset := step_of_set eventKey hstep
  rwa [ite_self] at hset

inductive ClaimOutcome (platform : ChannelPlatform) (domain : ChannelProviderEventsDomain)
    (input : ClaimChannelProviderEventInput) (now : Instant) :
    Outcome ChannelProviderEventsDomain ChannelProviderEventClaimResult → Prop where
  | refused (error : StoreError) : ClaimOutcome platform domain input now (.error error, domain)
  | created (eventKey provider eventType : String) (event : ChannelProviderEventRecord)
      (hkey : input.eventKey = .ok eventKey) (hget : domain.events.get eventKey = none)
      (hnew : input.newEvent platform provider eventType now = .ok event) :
      ClaimOutcome platform domain input now
        (.ok ⟨event, true, false⟩, { domain with events := domain.events.set eventKey event })
  | repeated (eventKey : String) (event : ChannelProviderEventRecord)
      (hkey : input.eventKey = .ok eventKey) (hget : domain.events.get eventKey = some event) :
      ClaimOutcome platform domain input now
        (.ok ⟨{ event with updatedAt := now }, false, true⟩,
          { domain with events := domain.events.set eventKey { event with updatedAt := now } })
  | reclaimed (eventKey : String) (event next : ChannelProviderEventRecord)
      (hkey : input.eventKey = .ok eventKey) (hget : domain.events.get eventKey = some event)
      (hfree : event.canReclaim now = true) (hprocessing : next.status = .processing) :
      ClaimOutcome platform domain input now
        (.ok ⟨next, true, false⟩, { domain with events := domain.events.set eventKey next })
  | broken (eventKey : String) (event next : ChannelProviderEventRecord) (error : StoreError)
      (hkey : input.eventKey = .ok eventKey) (hget : domain.events.get eventKey = some event)
      (hfree : event.canReclaim now = true) (hprocessing : next.status = .processing ∨
        next.claimedBy = event.claimedBy ∧ next.status = event.status) :
      ClaimOutcome platform domain input now
        (.error error, { domain with events := domain.events.set eventKey next })

variable (platform) (domain)

theorem claim_outcome (input : ClaimChannelProviderEventInput) (dateNow : Instant) :
    ClaimOutcome platform domain input (input.now.getD dateNow)
      (domain.claim platform input dateNow) := by
  unfold claim
  split
  · exact .refused _
  split
  · exact .refused _
  next eventKey hkey =>
  split
  · exact .refused _
  next provider _ =>
  split
  · exact .refused _
  next eventType _ =>
  split
  next hget =>
    split
    · exact .refused _
    next event hnew => exact .created eventKey provider eventType event hkey hget hnew
  next event hget =>
    dsimp only
    split
    next hfree =>
      rcases input.reclaim_cases platform provider eventType (input.now.getD dateNow)
        { event with updatedAt := input.now.getD dateNow } with
        ⟨next, hclaim, hprocessing⟩ | ⟨error, next, hclaim, hprocessing⟩
      · rw [hclaim]
        exact .reclaimed eventKey event next hkey hget hfree hprocessing
      · rw [hclaim]
        exact .broken eventKey event next error hkey hget hfree hprocessing
    · exact .repeated eventKey event hkey hget

theorem complete_cases (input : CompleteChannelProviderEventInput) (dateNow : Instant) :
    (domain.complete platform input dateNow).2 = domain ∨
      ∃ eventKey event, domain.events.get eventKey = some event ∧ event.claimedBy ≠ none ∧
        (domain.complete platform input dateNow).2 =
          { domain with
            events := domain.events.set eventKey
              (event.completed platform.toEnvironment input dateNow).2 } := by
  unfold complete
  split
  · exact .inl rfl
  next eventKey event hfind =>
  split
  · exact .inl rfl
  split
  · exact .inl rfl
  split
  · exact .inl rfl
  next howner =>
    refine .inr ⟨eventKey, event, ?_, ?_, rfl⟩
    · exact (domain.events.get_eq_some_iff _ _).mpr (List.mem_of_find?_eq_some hfind)
    · rw [not_not.mp howner]
      exact nofun

/-- What a call does to the event of one key. -/
theorem perform_step (request : ChannelProviderEventRequest) (eventKey : String) :
    ChannelProviderEventStep platform request
      (ChannelProviderEventMoment.handedOut ((machine platform).moment domain request) eventKey)
      (domain.events.get eventKey) ((domain.perform platform request).2.events.get eventKey) := by
  obtain ⟨dateNow, operation⟩ := request
  cases operation with
  | claim input =>
    have houtcome := claim_outcome platform domain input dateNow
    change ChannelProviderEventStep _ _ (ChannelProviderEventMoment.handedOut ⟨domain,
      ⟨dateNow, .claim input⟩, (answer .claim (domain.claim platform input dateNow)).1,
      (answer .claim (domain.claim platform input dateNow)).2⟩ eventKey) _
      ((answer .claim (domain.claim platform input dateNow)).2.events.get eventKey)
    generalize domain.claim platform input dateNow = outcome at houtcome
    cases houtcome with
    | refused => exact .untouched _
    | created _ _ _ event hkey hget hnew =>
      rw [handedOut_claimed rfl rfl hkey]
      refine step_of_set eventKey ?_
      rw [hget]
      exact .created input event rfl (input.newEvent_status hnew)
    | repeated _ event _ hget =>
      rw [handedOut_unclaimed rfl rfl]
      refine silent_step_of_set ?_
      rw [hget]
      exact .repeated input event rfl
    | reclaimed _ event next hkey hget hfree hprocessing =>
      rw [handedOut_claimed rfl rfl hkey]
      refine step_of_set eventKey ?_
      rw [hget]
      exact .reclaimed input event next rfl hfree hprocessing
    | broken _ event next _ _ hget hfree hprocessing =>
      refine silent_step_of_set ?_
      rw [hget]
      exact .broken input event next rfl hfree hprocessing
  | complete input =>
    have hafter : ((domain.perform platform ⟨dateNow, .complete input⟩).2).events =
        (domain.complete platform input dateNow).2.events := by
      change (answer _ (domain.complete platform input dateNow)).2.events = _
      generalize domain.complete platform input dateNow = outcome
      obtain ⟨_ | _, _⟩ := outcome <;> rfl
    change ChannelProviderEventStep _ _ [] _ _
    rw [hafter]
    rcases complete_cases platform domain input dateNow with
      hsame | ⟨addressed, event, hget, howner, hset⟩
    · rw [hsame]
      exact .untouched _
    · rw [hset]
      refine silent_step_of_set ?_
      rw [hget]
      exact .completed input event rfl howner

end ChannelProviderEventsDomain

/-! ## Claims over a run -/

namespace ChannelProviderEventRecord

variable {event : ChannelProviderEventRecord} {now : Instant}

theorem completed_claimedBy (env : Environment) (input : CompleteChannelProviderEventInput)
    (dateNow : Instant) : (event.completed env input dateNow).2.claimedBy = none := by
  unfold completed
  dsimp only
  split
  · rfl
  split <;> rfl

theorem completed_status (env : Environment) (input : CompleteChannelProviderEventInput)
    (dateNow : Instant) : (event.completed env input dateNow).2.status = input.status.status := by
  unfold completed
  dsimp only
  split
  · rfl
  split <;> rfl

theorem finished_not_canReclaim (hfinished : event.finished = true) :
    event.canReclaim now = false := by
  unfold finished at hfinished
  unfold canReclaim
  cases hstatus : event.status <;> simp_all

theorem finished_not_processing (hfinished : event.finished = true) :
    event.status ≠ .processing := by
  intro hstatus
  rw [finished, hstatus] at hfinished
  simp at hfinished

theorem unexpired_not_canReclaim (hprocessing : event.status = .processing)
    (hunexpired : event.unexpired now = true) : event.canReclaim now = false := by
  unfold unexpired at hunexpired
  unfold canReclaim
  rw [hprocessing]
  cases hexpiry : event.claimExpiresAt with
  | none => rfl
  | some =>
    rw [hexpiry] at hunexpired
    simpa using hunexpired

theorem unexpired_earlier {earlier later : Instant} (hlater : earlier ≤ later)
    (hunexpired : event.unexpired later = true) : event.unexpired earlier = true := by
  unfold unexpired at hunexpired ⊢
  cases hexpiry : event.claimExpiresAt with
  | none => rfl
  | some =>
    rw [hexpiry] at hunexpired
    exact decide_eq_true (lt_of_le_of_lt hlater (of_decide_eq_true hunexpired))

end ChannelProviderEventRecord

def ClaimantsProcess (domain : ChannelProviderEventsDomain) : Prop :=
  ∀ eventKey event, domain.events.get eventKey = some event → event.claimedBy ≠ none →
    event.status = .processing

/-- The open claims that still run at a time: there is one at most, and it is the one on
file. -/
structure ClaimsExclusive (eventKey : String) (past : List ChannelProviderEventMoment)
    (now : Instant) (domain : ChannelProviderEventsDomain) : Prop where
  onFile : ∀ claim ∈ openClaims eventKey past, claim.unexpired now = true →
    ∃ event, domain.events.get eventKey = some event ∧ event.status = .processing ∧
      event.claimExpiresAt = claim.claimExpiresAt
  single : ((openClaims eventKey past).filter (·.unexpired now)).length ≤ 1

namespace ChannelProviderEventsDomain

variable (platform : ChannelPlatform) {domain : ChannelProviderEventsDomain} {eventKey : String}
  {event : ChannelProviderEventRecord} (hholds : ClaimantsProcess domain)
include hholds

theorem claimantsProcess_step (request : ChannelProviderEventRequest) :
    ClaimantsProcess (domain.perform platform request).2 := by
  intro eventKey event hget howner
  have hstep := perform_step platform domain request eventKey
  rw [hget] at hstep
  generalize hbefore : domain.events.get eventKey = before at hstep
  generalize ChannelProviderEventMoment.handedOut ((machine platform).moment domain request)
    eventKey = handed at hstep
  cases hstep with
  | untouched => exact hholds eventKey event hbefore howner
  | created _ _ _ hprocessing | reclaimed _ _ _ _ _ hprocessing => exact hprocessing
  | repeated _ held => exact hholds eventKey held hbefore howner
  | broken _ held _ _ _ hprocessing =>
    rcases hprocessing with hprocessing | ⟨hsame, hstatus⟩
    · exact hprocessing
    · exact hstatus.trans (hholds eventKey held hbefore (hsame ▸ howner))
  | completed input held =>
    exact absurd (held.completed_claimedBy platform.toEnvironment input _) howner

omit hholds in
theorem run_claimantsProcess (orgs : List String) (requests : List ChannelProviderEventRequest) :
    ClaimantsProcess ((machine platform).run (initial orgs) requests) :=
  (machine platform).run_invariant ClaimantsProcess
    (fun _ request hholds => claimantsProcess_step platform hholds request) _
    (fun _ _ hget => absurd hget (by simp [initial])) requests

theorem finished_step (request : ChannelProviderEventRequest)
    (hget : domain.events.get eventKey = some event) (hfinished : event.finished = true) :
    ChannelProviderEventMoment.handedOut ((machine platform).moment domain request) eventKey = [] ∧
      ∃ next, (domain.perform platform request).2.events.get eventKey = some next ∧
        next.finished = true := by
  have hstep := perform_step platform domain request eventKey
  rw [hget] at hstep
  generalize ChannelProviderEventMoment.handedOut ((machine platform).moment domain request)
    eventKey = handed at hstep ⊢
  generalize (domain.perform platform request).2.events.get eventKey = after at hstep ⊢
  cases hstep with
  | untouched => exact ⟨rfl, event, rfl, hfinished⟩
  | repeated => exact ⟨rfl, _, rfl, hfinished⟩
  | reclaimed _ _ _ _ hfree | broken _ _ _ _ hfree =>
    exact absurd (hfree.symm.trans (event.finished_not_canReclaim hfinished)) (by simp)
  | completed _ _ _ hclaimed =>
    exact absurd (hholds eventKey event hget hclaimed) (event.finished_not_processing hfinished)

theorem finished_run (hget : domain.events.get eventKey = some event)
    (hfinished : event.finished = true) (requests : List ChannelProviderEventRequest) :
    (∃ next, ((machine platform).run domain requests).events.get eventKey = some next ∧
        next.finished = true) ∧
      ∀ moment ∈ (machine platform).history domain requests,
        ChannelProviderEventMoment.handedOut moment eventKey = [] := by
  induction requests generalizing domain event with
  | nil => exact ⟨⟨event, hget, hfinished⟩, by simp⟩
  | cons request _ ih =>
    obtain ⟨hnothing, _, hnext, hstill⟩ := finished_step platform hholds request hget hfinished
    obtain ⟨hlast, hlater⟩ := ih (claimantsProcess_step platform hholds request) hnext hstill
    refine ⟨hlast, ?_⟩
    intro moment hmem
    rw [Machine.history_cons, List.mem_cons] at hmem
    rcases hmem with rfl | hmem
    · exact hnothing
    · exact hlater moment hmem

end ChannelProviderEventsDomain

/-! ## One claim at a time -/

namespace ClaimsExclusive

variable {eventKey : String} {past : List ChannelProviderEventMoment} {now : Instant}
  {domain : ChannelProviderEventsDomain} {moment : ChannelProviderEventMoment}
  {next : ChannelProviderEventsDomain}

theorem wait {past : List ChannelProviderEventMoment} {earlier later : Instant}
    (hlater : earlier ≤ later) (hholds : ClaimsExclusive eventKey past earlier domain) :
    ClaimsExclusive eventKey past later domain := by
  constructor
  · intro claim hmem hunexpired
    exact hholds.onFile claim hmem (claim.unexpired_earlier hlater hunexpired)
  · refine le_trans (List.Sublist.length_le ?_) hholds.single
    apply List.monotone_filter_right
    intro claim hunexpired
    exact claim.unexpired_earlier hlater hunexpired

theorem none_running (hholds : ClaimsExclusive eventKey past now domain)
    (hfree : ∀ event, domain.events.get eventKey = some event → event.canReclaim now = true) :
    (openClaims eventKey past).filter (·.unexpired now) = [] := by
  rw [List.filter_eq_nil_iff]
  intro claim hmem hunexpired
  obtain ⟨event, hget, hprocessing, hexpiry⟩ := hholds.onFile claim hmem hunexpired
  have hrunning : event.unexpired now = true := by
    rw [ChannelProviderEventRecord.unexpired, hexpiry]
    exact hunexpired
  have hclosed := event.unexpired_not_canReclaim hprocessing hrunning
  rw [hfree event hget] at hclosed
  exact Bool.noConfusion hclosed

variable (hnone : (openClaims eventKey past).filter (·.unexpired now) = [])
include hnone

theorem of_none_running : ClaimsExclusive eventKey past now domain := by
  constructor
  · intro claim hmem hunexpired
    exact absurd hunexpired (List.filter_eq_nil_iff.mp hnone claim hmem)
  · rw [hnone]
    exact Nat.zero_le 1

omit hnone in
theorem of_kept (hholds : ClaimsExclusive eventKey past now domain)
    (hnothing : ChannelProviderEventMoment.handedOut moment eventKey = [])
    (hkept : ∀ event, domain.events.get eventKey = some event →
      ∃ after, next.events.get eventKey = some after ∧ after.status = event.status ∧
        after.claimExpiresAt = event.claimExpiresAt) :
    ClaimsExclusive eventKey (past ++ [moment]) now next := by
  have hsublist : (openClaims eventKey (past ++ [moment])).Sublist (openClaims eventKey past) := by
    rw [openClaims_snoc, hnothing, List.append_nil]
    split
    · exact List.nil_sublist _
    · exact List.Sublist.refl _
  constructor
  · intro claim hmem hunexpired
    obtain ⟨event, hget, hprocessing, hexpiry⟩ :=
      hholds.onFile claim (hsublist.subset hmem) hunexpired
    obtain ⟨after, hafter, hstatus, hsame⟩ := hkept event hget
    exact ⟨after, hafter, hstatus.trans hprocessing, hsame.trans hexpiry⟩
  · exact le_trans (hsublist.filter _).length_le hholds.single

theorem of_handedOut {event : ChannelProviderEventRecord}
    (hclaim : ChannelProviderEventMoment.completes moment eventKey = false)
    (hhanded : ChannelProviderEventMoment.handedOut moment eventKey = [event])
    (hget : next.events.get eventKey = some event) (hprocessing : event.status = .processing) :
    ClaimsExclusive eventKey (past ++ [moment]) now next := by
  have hopen : openClaims eventKey (past ++ [moment]) = openClaims eventKey past ++ [event] := by
    rw [openClaims_snoc, hclaim, hhanded]
    rfl
  constructor
  · intro claim hmem hunexpired
    rw [hopen, List.mem_append, List.mem_singleton] at hmem
    rcases hmem with hold | rfl
    · exact absurd hunexpired (List.filter_eq_nil_iff.mp hnone claim hold)
    · exact ⟨claim, hget, hprocessing, rfl⟩
  · rw [hopen, List.filter_append, hnone, List.nil_append]
    exact List.length_filter_le _ [event]

end ClaimsExclusive

namespace ChannelProviderEventsDomain

variable (platform : ChannelPlatform) {domain : ChannelProviderEventsDomain}

/-- A call hands an event to no second claimant while its claim lasts. -/
theorem claimsExclusive_step {past : List ChannelProviderEventMoment} {eventKey : String}
    (hclaimants : ClaimantsProcess domain) (request : ChannelProviderEventRequest)
    (hholds : ClaimsExclusive eventKey past request.now domain) :
    ClaimsExclusive eventKey (past ++ [(machine platform).moment domain request]) request.now
      (domain.perform platform request).2 := by
  have hstep := perform_step platform domain request eventKey
  generalize hbefore : domain.events.get eventKey = before at hstep
  generalize hafter : (domain.perform platform request).2.events.get eventKey = after at hstep
  generalize hhanded : ChannelProviderEventMoment.handedOut
    ((machine platform).moment domain request) eventKey = handed at hstep
  -- a claim completes nothing
  have hclaim : ∀ input, request.operation = .claim input →
      ChannelProviderEventMoment.completes ((machine platform).moment domain request) eventKey =
        false := by
    intro input hoperation
    rw [ChannelProviderEventMoment.completes]
    change (match request.operation with | .claim _ => false | .complete _ => _) = false
    rw [hoperation]
  cases hstep with
  | untouched =>
    refine hholds.of_kept hhanded ?_
    intro event hget
    exact ⟨event, hafter.trans (hbefore.symm.trans hget), rfl, rfl⟩
  | repeated =>
    refine hholds.of_kept hhanded ?_
    intro held hget
    obtain rfl := Option.mem_unique hbefore hget
    exact ⟨_, hafter, rfl, rfl⟩
  | created input _ hoperation hprocessing =>
    have hnone := hholds.none_running (fun held hget => absurd (hbefore.symm.trans hget) (by simp))
    exact .of_handedOut hnone (hclaim input hoperation) hhanded hafter hprocessing
  | reclaimed input _ _ hoperation hfree hprocessing =>
    have hnone := hholds.none_running (fun held hget => Option.mem_unique hbefore hget ▸ hfree)
    exact .of_handedOut hnone (hclaim input hoperation) hhanded hafter hprocessing
  | broken input _ _ hoperation hfree =>
    have hnone := hholds.none_running (fun _ hget => Option.mem_unique hbefore hget ▸ hfree)
    refine .of_none_running ?_
    rw [openClaims_snoc, hclaim input hoperation, hhanded]
    simpa using hnone
  | completed input event hoperation howner =>
    refine .of_none_running ?_
    have hcompletes : ChannelProviderEventMoment.completes
        ((machine platform).moment domain request) eventKey = true := by
      rw [ChannelProviderEventMoment.completes]
      change (match request.operation with
        | .claim _ => false
        | .complete _ =>
          decide ((domain.events.get eventKey).map ChannelProviderEventRecord.status =
            some .processing) &&
          decide (((domain.perform platform request).2.events.get eventKey).map
            ChannelProviderEventRecord.status ≠ some .processing)) = true
      rw [hoperation, hbefore, hafter]
      simp only [Option.map_some, event.completed_status, hclaimants eventKey event hbefore howner]
      cases input.status <;> rfl
    rw [openClaims_snoc, hcompletes]
    rfl

theorem run_claimsExclusive (orgs : List String) (requests : List ChannelProviderEventRequest)
    (eventKey : String) (now : Instant)
    (hclock : (requests.map ChannelProviderEventRequest.now ++ [now]).Pairwise (· ≤ ·)) :
    ClaimsExclusive eventKey ((machine platform).history (initial orgs) requests) now
      ((machine platform).run (initial orgs) requests) := by
  refine ((machine platform).history_invariant_clocked ChannelProviderEventRequest.now
    (fun _ => True)
    (fun past now domain => ClaimantsProcess domain ∧ ClaimsExclusive eventKey past now domain)
    ?_ ?_ _ ?_ requests now hclock (fun _ _ => trivial)).2
  · rintro past _ _ state hlater ⟨hclaimants, hholds⟩
    exact ⟨hclaimants, hholds.wait hlater⟩
  · rintro _ _ request ⟨hclaimants, hholds⟩ -
    exact ⟨claimantsProcess_step platform hclaimants request,
      claimsExclusive_step platform hclaimants request hholds⟩
  · intro _
    exact ⟨run_claimantsProcess platform orgs [], .of_none_running rfl⟩

end ChannelProviderEventsDomain

structure EventsProcessedOnce (platform : ChannelPlatform) (orgs : List String)
    (requests : List ChannelProviderEventRequest) : Prop where
  exclusive : ∀ eventKey now,
    (requests.map ChannelProviderEventRequest.now ++ [now]).Pairwise (· ≤ ·) →
    ((openClaims eventKey ((ChannelProviderEventsDomain.machine platform).history
      (ChannelProviderEventsDomain.initial orgs) requests)).filter (·.unexpired now)).length ≤ 1
  final : ∀ first rest eventKey event, requests = first ++ rest →
    ((ChannelProviderEventsDomain.machine platform).run
      (ChannelProviderEventsDomain.initial orgs) first).events.get eventKey = some event →
    event.finished = true →
    ∀ moment ∈ (ChannelProviderEventsDomain.machine platform).history
      ((ChannelProviderEventsDomain.machine platform).run
        (ChannelProviderEventsDomain.initial orgs) first) rest,
      ChannelProviderEventMoment.handedOut moment eventKey = []

namespace ChannelProviderEventsDomain

/-- Provider events are processed once, whatever order claims, completions and failures
come in. -/
theorem run_events_processed_once (platform : ChannelPlatform) (orgs : List String)
    (requests : List ChannelProviderEventRequest) : EventsProcessedOnce platform orgs requests := by
  constructor
  · intro eventKey now hclock
    exact (run_claimsExclusive platform orgs requests eventKey now hclock).single
  · intro first rest eventKey event _ hget hfinished
    exact (finished_run platform (run_claimantsProcess platform orgs first) hget hfinished rest).2

end ChannelProviderEventsDomain

end OpenCowork.ControlPlane
