import OpenCowork.ControlPlane.Channels.DeliveryStatus
import OpenCowork.ControlPlane.UsageQuotas

/-! # Claims that throw

A claim consumes its quota and marks the delivery before it checks the claimant, the
owner and the expiry. When one of these is refused the claim throws with the quota spent
and the delivery claimed by nobody for ever: without an expiry it is never due again. A
delivery that is created as claimed is lost in the same way.
-/

namespace OpenCowork.ControlPlane

open Foundation

namespace ClaimChannelDeliveryInput

/-- The claimant, the owner and the expiry pass their checks. -/
def wellFormed (input : ClaimChannelDeliveryInput) (now : Instant) : Bool :=
  (normalizeText input.claimedBy channelTextMaxLength "Delivery claimant").isOk &&
    (normalizeText (textOr input.lastClaimedBy input.claimedBy) channelTextMaxLength
      "Delivery owner").isOk &&
    (dateOf (now + input.ttl)).isOk

variable {input : ClaimChannelDeliveryInput} {delivery : ChannelDeliveryRecord} {now : Instant}

theorem claim_of_wellFormed (delivery : ChannelDeliveryRecord)
    (hinput : input.wellFormed now = true) :
    ∃ claimed expiresAt, input.claim delivery now = (.ok claimed, claimed) ∧
      claimed.claimExpiresAt = some expiresAt := by
  unfold wellFormed at hinput
  unfold claim
  cases hclaimant : normalizeText input.claimedBy channelTextMaxLength "Delivery claimant" with
  | error => simp [hclaimant, Except.isOk, Except.toBool] at hinput
  | ok =>
  cases howner : normalizeText (textOr input.lastClaimedBy input.claimedBy) channelTextMaxLength
      "Delivery owner" with
  | error => simp [howner, Except.isOk, Except.toBool] at hinput
  | ok =>
  cases hexpiry : dateOf (now + input.ttl) with
  | error => simp [hexpiry, Except.isOk, Except.toBool] at hinput
  | ok claimExpiresAt => exact ⟨_, claimExpiresAt, rfl, rfl⟩

theorem claim_of_malformed (delivery : ChannelDeliveryRecord)
    (hinput : input.wellFormed now = false) :
    ∃ error, (input.claim delivery now).1 = .error error ∧
      (input.claim delivery now).2.attemptCount = delivery.attemptCount ∧
      (input.claim delivery now).2.claimExpiresAt = delivery.claimExpiresAt := by
  unfold wellFormed at hinput
  unfold claim
  cases hclaimant : normalizeText input.claimedBy channelTextMaxLength "Delivery claimant" with
  | error thrown => exact ⟨thrown, rfl, rfl, rfl⟩
  | ok =>
  cases howner : normalizeText (textOr input.lastClaimedBy input.claimedBy) channelTextMaxLength
      "Delivery owner" with
  | error thrown => exact ⟨thrown, rfl, rfl, rfl⟩
  | ok =>
  cases hexpiry : dateOf (now + input.ttl) with
  | error thrown => exact ⟨thrown, rfl, rfl, rfl⟩
  | ok => simp [hclaimant, howner, hexpiry, Except.isOk, Except.toBool] at hinput

end ClaimChannelDeliveryInput

/-! ## The quota of a claim -/

namespace Neighbours

theorem charged_usageCounters_ne {state : Neighbours} {input : ConsumeUsageQuotaInput}
    {dateNow : Instant} (hallows : QuotaAllows state input dateNow) :
    (state.charged input dateNow).usageCounters ≠ state.usageCounters := by
  intro hsame
  have hcharged := state.reading_charged input dateNow input.counterKey
  rw [if_pos rfl, reading, hsame, ← reading] at hcharged
  have hcounted : Reading.countedIn (state.reading input.counterKey) (input.window dateNow) =
      Reading.countedIn (state.reading input.counterKey) (input.window dateNow) +
        input.amount := by
    conv_lhs => rw [hcharged]
    simp [Reading.countedIn]
  have hamount := hallows.amount.2
  linarith

end Neighbours

namespace ChannelDeliveriesDomain

variable {domain : ChannelDeliveriesDomain} {input : ClaimChannelDeliveryInput} {now : Instant}
  {quota : ChannelDeliveryQuota}

theorem consumeQuota_of_not_allows (hquota : input.quota = some quota)
    (hallows : ¬ Neighbours.QuotaAllows domain.neighbours (input.consumption quota now) now) :
    ∃ error, domain.consumeQuota input now = (.error error, domain.neighbours) := by
  have hconsumed := domain.neighbours.consumeUsageQuota_consumption now
    (input.consumption quota now)
  unfold consumeQuota
  rw [hquota]
  dsimp only
  generalize domain.neighbours.consumeUsageQuota now (input.consumption quota now) = outcome
    at hconsumed
  cases hconsumed with
  | thrown error => exact ⟨error, rfl⟩
  | refused _ hrefused => exact ⟨_, if_neg (by rw [hrefused]; simp)⟩
  | granted _ _ hgranted => exact absurd hgranted hallows

theorem consumeQuota_of_allows (hquota : input.quota = some quota)
    (hallows : Neighbours.QuotaAllows domain.neighbours (input.consumption quota now) now) :
    domain.consumeQuota input now =
      (.ok (), domain.neighbours.charged (input.consumption quota now) now) := by
  obtain ⟨_, hallowed, hconsumed⟩ := Neighbours.consumeUsageQuota_of_allows hallows
  unfold consumeQuota
  rw [hquota]
  dsimp only
  rw [hconsumed]
  exact if_pos hallowed

theorem consumeQuota_of_none (hquota : input.quota = none) :
    domain.consumeQuota input now = (.ok (), domain.neighbours) := by
  rw [consumeQuota, hquota]

end ChannelDeliveriesDomain

/-! ## Atomic and recoverable claims -/

def ChannelDeliveryRecord.progress (delivery : ChannelDeliveryRecord) :
    ChannelDeliveryStatus × Nat :=
  (delivery.status, delivery.attemptCount)

/-- Unless it answered, the operation changed no delivery's progress and no usage counter. -/
def ChannelDeliveryMoment.ThrowsCleanly (moment : ChannelDeliveryMoment) : Prop :=
  ∀ error, moment.output = .error error →
    (∀ storageKey, (moment.after.deliveries.get storageKey).map ChannelDeliveryRecord.progress =
        (moment.before.deliveries.get storageKey).map ChannelDeliveryRecord.progress) ∧
      moment.after.neighbours.usageCounters = moment.before.neighbours.usageCounters

/-- Every claimed delivery will be due again once its claim has run out. -/
def Recoverable (domain : ChannelDeliveriesDomain) : Prop :=
  ∀ storageKey delivery, domain.deliveries.get storageKey = some delivery →
    delivery.status = .claimed → ∃ expiresAt, delivery.claimExpiresAt = some expiresAt ∧
      ∀ now, expiresAt ≤ now → delivery.due now = true

/-- The conditions under which a claim that is refused has done nothing: it is well formed,
or nothing is due for it, or its quota stops it, or it has no quota and the delivery
due first is one whose claim ran out. -/
def ClaimChannelDeliveryInput.Safe (platform : ChannelPlatform) (domain : ChannelDeliveriesDomain)
    (input : ClaimChannelDeliveryInput) (now : Instant) : Prop :=
  input.wellFormed now = true ∨
    (∀ storageKey delivery, domain.deliveries.get storageKey = some delivery →
      input.mayClaim now delivery = false) ∨
    (∃ quota, input.quota = some quota ∧
      ¬ Neighbours.QuotaAllows domain.neighbours (input.consumption quota now) now) ∨
    (input.quota = none ∧ ∃ storageKey delivery,
      domain.candidate platform input now = some (storageKey, delivery) ∧
      delivery.status = .claimed)

/-- A safe claim, or a creation that adds no delivery as claimed. -/
def ChannelDeliveryRequest.Safe (platform : ChannelPlatform) (domain : ChannelDeliveriesDomain)
    (request : ChannelDeliveryRequest) : Prop :=
  match request.operation with
  | .create directory input => input.status = some .claimed → ∀ added,
      domain.admitted platform directory input request.dateNow ≠ .ok (.inr added)
  | .claimNext input => input.Safe platform domain (input.now.getD request.dateNow)
  | .ack _ => True

namespace ChannelDeliveriesDomain

variable {platform : ChannelPlatform} {domain : ChannelDeliveriesDomain}
  {input : ClaimChannelDeliveryInput} {now : Instant} {delivery : ChannelDeliveryRecord}
  {dateNow : Instant} {storageKey : ChannelDeliveryKey}

theorem exists_candidate (platform : ChannelPlatform)
    (hget : domain.deliveries.get storageKey = some delivery)
    (hdue : input.mayClaim now delivery = true) :
    ∃ first, domain.candidate platform input now = some first := by
  have hmem : (storageKey, delivery) ∈ (domain.deliveries.entries.filter fun entry =>
      input.mayClaim now entry.2).insertionSort
        fun left right => claimedBefore platform left right = true := by
    rw [List.mem_insertionSort, List.mem_filter]
    exact ⟨(domain.deliveries.get_eq_some_iff _ _).mp hget, hdue⟩
  exact ⟨_, List.head?_eq_some_head (List.ne_nil_of_mem hmem)⟩

theorem claimNext_of_candidate {neighbours : Neighbours}
    (hcandidate : domain.candidate platform input (input.now.getD dateNow) =
      some (storageKey, delivery))
    (hquota : domain.consumeQuota input (input.now.getD dateNow) = (.ok (), neighbours)) :
    domain.claimNext platform input dateNow =
      ((input.claim delivery (input.now.getD dateNow)).1.map some,
        { deliveries :=
            domain.deliveries.set storageKey (input.claim delivery (input.now.getD dateNow)).2
          neighbours := neighbours }) := by
  have hbindings : input.channelBindingIds ≠ some [] := by
    intro hempty
    have hclaim := (candidate_eq_some hcandidate).2
    simp [ClaimChannelDeliveryInput.mayClaim, hempty] at hclaim
  rw [claimNext, if_neg hbindings, hcandidate]
  rw [hquota]

theorem claimNext_error {error : StoreError}
    (hthrown : (domain.claimNext platform input dateNow).1 = .error error) :
    (∃ quota, input.quota = some quota ∧ ¬ Neighbours.QuotaAllows domain.neighbours
        (input.consumption quota (input.now.getD dateNow)) (input.now.getD dateNow) ∧
      (domain.claimNext platform input dateNow).2 = domain) ∨
    (input.wellFormed (input.now.getD dateNow) = false ∧
      ∃ storageKey delivery neighbours,
        domain.candidate platform input (input.now.getD dateNow) = some (storageKey, delivery) ∧
        domain.consumeQuota input (input.now.getD dateNow) = (.ok (), neighbours)) := by
  by_cases hbindings : input.channelBindingIds = some []
  · rw [claimNext, if_pos hbindings] at hthrown
    exact nomatch hthrown
  cases hcandidate : domain.candidate platform input (input.now.getD dateNow) with
  | none =>
    rw [claimNext, if_neg hbindings, hcandidate] at hthrown
    exact nomatch hthrown
  | some first =>
    obtain ⟨storageKey, delivery⟩ := first
    by_cases hstops : ∃ quota, input.quota = some quota ∧
        ¬ Neighbours.QuotaAllows domain.neighbours
          (input.consumption quota (input.now.getD dateNow)) (input.now.getD dateNow)
    · obtain ⟨quota, hquota, hallows⟩ := hstops
      obtain ⟨_, hrefused⟩ := consumeQuota_of_not_allows hquota hallows
      refine .inl ⟨quota, hquota, hallows, ?_⟩
      rw [claimNext, if_neg hbindings, hcandidate]
      rw [hrefused]
    · have hcharged : ∃ neighbours, domain.consumeQuota input (input.now.getD dateNow) =
          (.ok (), neighbours) := by
        cases hquota : input.quota with
        | none => exact ⟨_, consumeQuota_of_none hquota⟩
        | some quota =>
          exact ⟨_, consumeQuota_of_allows hquota
            (by_contra fun hrefused => hstops ⟨quota, hquota, hrefused⟩)⟩
      obtain ⟨neighbours, hquota⟩ := hcharged
      refine .inr ⟨?_, storageKey, delivery, neighbours, rfl, hquota⟩
      by_contra hformed
      rw [Bool.not_eq_false] at hformed
      obtain ⟨_, _, hclaim, _⟩ := input.claim_of_wellFormed delivery hformed
      rw [claimNext_of_candidate hcandidate hquota, hclaim] at hthrown
      exact nomatch hthrown

theorem throwsCleanly_iff :
    ChannelDeliveryMoment.ThrowsCleanly
        ((machine platform).moment domain ⟨dateNow, .claimNext input⟩) ↔
      input.Safe platform domain (input.now.getD dateNow) := by
  change (∀ error, (domain.claimNext platform input dateNow).1 = .error error →
    (∀ storageKey, ((domain.claimNext platform input dateNow).2.deliveries.get storageKey).map
        ChannelDeliveryRecord.progress =
      (domain.deliveries.get storageKey).map ChannelDeliveryRecord.progress) ∧
    (domain.claimNext platform input dateNow).2.neighbours.usageCounters =
      domain.neighbours.usageCounters) ↔ _
  constructor
  · intro hclean
    by_contra hunsafe
    obtain ⟨hformed, hdue, hstops, hexpired⟩ : input.wellFormed (input.now.getD dateNow) = false ∧
        (¬ ∀ storageKey delivery, domain.deliveries.get storageKey = some delivery →
          input.mayClaim (input.now.getD dateNow) delivery = false) ∧
        (∀ quota, input.quota = some quota → Neighbours.QuotaAllows domain.neighbours
          (input.consumption quota (input.now.getD dateNow)) (input.now.getD dateNow)) ∧
        (input.quota = none → ∀ storageKey delivery, domain.candidate platform input
          (input.now.getD dateNow) = some (storageKey, delivery) → delivery.status ≠ .claimed) := by
      unfold ClaimChannelDeliveryInput.Safe at hunsafe
      push Not at hunsafe
      exact ⟨by simpa using hunsafe.1, by push Not; simpa using hunsafe.2.1, hunsafe.2.2.1,
        hunsafe.2.2.2⟩
    push Not at hdue
    obtain ⟨held, found, hget, hclaims⟩ := hdue
    obtain ⟨⟨storageKey, delivery⟩, hcandidate⟩ :=
      exists_candidate platform hget (by simpa using hclaims)
    obtain ⟨error, herror, _, _⟩ := input.claim_of_malformed delivery hformed
    cases hquota : input.quota with
    | none =>
      have hrun := claimNext_of_candidate hcandidate (consumeQuota_of_none hquota)
      have hthrown : (domain.claimNext platform input dateNow).1 = .error error := by
        rw [hrun, herror]
        rfl
      have hprogress := (hclean error hthrown).1 storageKey
      rw [hrun, OrderedMap.get_set_self, (candidate_eq_some hcandidate).1] at hprogress
      have hstatus := congrArg Prod.fst (Option.some.inj hprogress)
      exact hexpired hquota storageKey delivery hcandidate
        (hstatus.symm.trans (input.claim_status delivery _))
    | some quota =>
      have hallows := hstops quota hquota
      have hrun := claimNext_of_candidate hcandidate (consumeQuota_of_allows hquota hallows)
      have hthrown : (domain.claimNext platform input dateNow).1 = .error error := by
        rw [hrun, herror]
        rfl
      have hcounters := (hclean error hthrown).2
      rw [hrun] at hcounters
      exact Neighbours.charged_usageCounters_ne hallows hcounters
  · intro hsafe error hthrown
    rcases claimNext_error hthrown with ⟨quota, _, _, hsame⟩ |
      ⟨hformed, storageKey, delivery, neighbours, hcandidate, hquota⟩
    · rw [hsame]
      exact ⟨fun _ => rfl, rfl⟩
    · obtain ⟨hget, hclaims⟩ := candidate_eq_some hcandidate
      rcases hsafe with hwell | hidle | ⟨_, hsome, hrefused⟩ |
        ⟨hnone, held, found, hfirst, hexpired⟩
      · exact absurd (hwell.symm.trans hformed) (by simp)
      · exact absurd (hclaims.symm.trans (hidle storageKey delivery hget)) (by simp)
      · obtain ⟨_, hrefusal⟩ := consumeQuota_of_not_allows hsome hrefused
        exact absurd (congrArg Prod.fst (hquota.symm.trans hrefusal)) (by simp)
      · obtain ⟨rfl, rfl⟩ := Prod.mk.inj (Option.mem_unique hcandidate hfirst)
        rw [claimNext_of_candidate hcandidate (consumeQuota_of_none hnone)]
        obtain ⟨_, _, hattempts, _⟩ := input.claim_of_malformed delivery hformed
        refine ⟨?_, rfl⟩
        intro other
        -- the delivery was claimed before and stays so, with the attempts it had
        by_cases hkey : storageKey = other
        · subst hkey
          rw [OrderedMap.get_set_self, hget, Option.map_some, Option.map_some,
            ChannelDeliveryRecord.progress, hattempts, input.claim_status, ← hexpired]
          rfl
        · rw [OrderedMap.get_set_of_ne _ _ hkey]

theorem claimed_due (hclaimed : delivery.status = .claimed)
    (hexpiry : ∃ expiresAt, delivery.claimExpiresAt = some expiresAt) :
    ∃ expiresAt, delivery.claimExpiresAt = some expiresAt ∧
      ∀ now, expiresAt ≤ now → delivery.due now = true := by
  obtain ⟨expiresAt, hexpiry⟩ := hexpiry
  refine ⟨expiresAt, hexpiry, ?_⟩
  intro _ hnow
  simp [ChannelDeliveryRecord.due, hclaimed, hexpiry, hnow]

/-- A safe call strands no delivery. -/
theorem recoverable_step {request : ChannelDeliveryRequest} (hrecoverable : Recoverable domain)
    (hsafe : request.Safe platform domain) : Recoverable (domain.perform platform request).2 := by
  intro storageKey delivery hget hclaimed
  have hstep := perform_step platform domain request storageKey
  rw [hget] at hstep
  generalize hbefore : domain.deliveries.get storageKey = before at hstep
  cases hstep with
  | untouched => exact hrecoverable storageKey delivery hbefore hclaimed
  | created _ input _ hoperation hadmitted =>
    obtain ⟨_, _, _, hnew⟩ := admitted_fresh hadmitted
    have hstatus := (newDelivery_claimedBy hnew).2.2
    rw [ChannelDeliveryRequest.Safe, hoperation] at hsafe
    refine absurd hadmitted (hsafe ?_ _)
    rw [hclaimed] at hstatus
    generalize input.status = status at hstatus
    cases status with
    | none => exact nomatch hstatus
    | some => rw [hstatus, Option.getD_some]
  | claimed input taken hoperation hcandidate hquota =>
    rw [ChannelDeliveryRequest.Safe, hoperation] at hsafe
    refine claimed_due hclaimed ?_
    by_cases hformed : input.wellFormed (input.now.getD request.dateNow) = true
    · obtain ⟨_, expiresAt, hclaim, hexpiry⟩ :=
        input.claim_of_wellFormed taken hformed
      rw [hclaim]
      exact ⟨expiresAt, hexpiry⟩
    · rw [Bool.not_eq_true] at hformed
      obtain ⟨_, _, _, hexpiry⟩ := input.claim_of_malformed taken hformed
      rw [hexpiry]
      obtain ⟨hget, hclaims⟩ := candidate_eq_some hcandidate
      rcases hsafe with hwell | hidle | ⟨_, hsome, hrefused⟩ |
        ⟨_, held, found, hfirst, hexpired⟩
      · exact absurd (hwell.symm.trans hformed) (by simp)
      · exact absurd (hclaims.symm.trans (hidle storageKey taken hget)) (by simp)
      · obtain ⟨_, hrefusal⟩ := consumeQuota_of_not_allows hsome hrefused
        rw [hrefusal] at hquota
        exact nomatch hquota
      · obtain ⟨rfl, rfl⟩ := Prod.mk.inj (Option.mem_unique hcandidate hfirst)
        obtain ⟨expiresAt, hheld, _⟩ := hrecoverable storageKey taken hget hexpired
        exact ⟨expiresAt, hheld⟩
  | acknowledged input =>
    rw [input.acknowledge_status] at hclaimed
    cases hack : input.status <;> rw [hack] at hclaimed <;> exact nomatch hclaimed

/-- What holds of claims in a state and along the run that reached it. -/
structure ClaimsRecoverable (platform : ChannelPlatform) (neighbours : Neighbours)
    (requests : List ChannelDeliveryRequest) : Prop where
  exact : ∀ input dateNow,
    ChannelDeliveryMoment.ThrowsCleanly ((machine platform).moment
        ((machine platform).run (initial neighbours) requests) ⟨dateNow, .claimNext input⟩) ↔
      input.Safe platform ((machine platform).run (initial neighbours) requests)
        (input.now.getD dateNow)
  atomic : ∀ moment ∈ (machine platform).history (initial neighbours) requests,
    moment.input.Safe platform moment.before →
    (∃ input, moment.input.operation = .claimNext input) →
    ChannelDeliveryMoment.ThrowsCleanly moment
  recoverable : (∀ moment ∈ (machine platform).history (initial neighbours) requests,
      moment.input.Safe platform moment.before) →
    Recoverable ((machine platform).run (initial neighbours) requests)

/-- In every reachable state a claim throws cleanly exactly if it is safe, and after a run
of safe operations every claimed delivery can be recovered. -/
theorem run_claims_recoverable (platform : ChannelPlatform) (neighbours : Neighbours)
    (requests : List ChannelDeliveryRequest) : ClaimsRecoverable platform neighbours requests := by
  constructor
  · exact fun input dateNow => throwsCleanly_iff
  · rintro moment hmem hsafe ⟨input, hoperation⟩
    obtain ⟨_, ⟨_, operation⟩, _, rfl, rfl⟩ :=
      (machine platform).exists_prefix_of_mem_history _ _ _ hmem
    obtain rfl : operation = .claimNext input := hoperation
    exact throwsCleanly_iff.mpr hsafe
  · intro hsafe
    apply Machine.history_invariant_of (machine platform)
      (fun moment => moment.input.Safe platform moment.before) (fun _ => Recoverable) ?_ _
      (fun _ _ hget => absurd hget (by simp [initial])) requests hsafe
    exact fun _ _ _ hrecoverable hmoment => recoverable_step hrecoverable hmoment

end ChannelDeliveriesDomain

/-- A claim in the name of nobody throws after it has spent the quota and marked the delivery,
which is not due at any later time that a worker tries. -/
theorem blank_claimant_strands_delivery :
    ((ChannelDeliveriesDomain.machine plainPlatform).history
      (ChannelDeliveriesDomain.initial (Neighbours.single "t" "u"))
      [⟨0, createDelivery "d" none⟩,
        ⟨1, .claimNext ⟨"t", " ", none, none, none, none, some ⟨"q", 10, none, 1000, none⟩⟩⟩,
        ⟨1000000, claimDelivery "g"⟩]).map
      (fun moment => ((moment.after.deliveries.get ("t", "binding", "d")).map
          fun delivery => (delivery.status, delivery.claimExpiresAt, delivery.attemptCount),
        (moment.after.neighbours.usageCounters.get (key "t" "q")).map UsageCounter.quantity,
        moment.output.isOk)) =
    [(some (.pending, none, 0), none, true), (some (.claimed, none, 0), some 1, false),
      (some (.claimed, none, 0), some 1, true)] := by
  decide +kernel

end OpenCowork.ControlPlane
