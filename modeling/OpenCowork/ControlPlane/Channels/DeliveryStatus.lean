import OpenCowork.ControlPlane.Channels.Deliveries

/-! # The status of a delivery over a run

A claim takes a delivery that is due, and an acknowledgement takes the one delivery it
names. One that names its claimant can only reach a delivery under that claim. One that
names none is the operator's override: it reaches any delivery, settled ones included.
-/

namespace OpenCowork.ControlPlane

open Foundation

inductive ChannelDeliveryStep (platform : ChannelPlatform) (domain : ChannelDeliveriesDomain)
    (request : ChannelDeliveryRequest) (storageKey : ChannelDeliveryKey) :
    Option ChannelDeliveryRecord → Option ChannelDeliveryRecord → Prop where
  | untouched (stored : Option ChannelDeliveryRecord) :
      ChannelDeliveryStep platform domain request storageKey stored stored
  | created (directory : ChannelDirectory) (input : CreateChannelDeliveryInput)
      (delivery : ChannelDeliveryRecord) (hoperation : request.operation = .create directory input)
      (hadmitted : domain.admitted platform directory input request.dateNow =
        .ok (.inr (storageKey, delivery))) :
      ChannelDeliveryStep platform domain request storageKey none (some delivery)
  | claimed (input : ClaimChannelDeliveryInput) (delivery : ChannelDeliveryRecord)
      (hoperation : request.operation = .claimNext input)
      (hcandidate : domain.candidate platform input (input.now.getD request.dateNow) =
        some (storageKey, delivery))
      (hquota : (domain.consumeQuota input (input.now.getD request.dateNow)).1 = .ok ()) :
      ChannelDeliveryStep platform domain request storageKey (some delivery)
        (some (input.claim delivery (input.now.getD request.dateNow)).2)
  | acknowledged (input : AckChannelDeliveryInput) (delivery : ChannelDeliveryRecord)
      (hoperation : request.operation = .ack input) (hnames : input.names delivery = true) :
      ChannelDeliveryStep platform domain request storageKey (some delivery)
        (some (input.acknowledge platform.toEnvironment delivery request.dateNow).2)

namespace ChannelDeliveriesDomain

variable {platform : ChannelPlatform} {domain : ChannelDeliveriesDomain}
  {storageKey : ChannelDeliveryKey} {delivery : ChannelDeliveryRecord}

theorem candidate_eq_some {input : ClaimChannelDeliveryInput} {nowMs : Instant}
    (hcandidate : domain.candidate platform input nowMs = some (storageKey, delivery)) :
    domain.deliveries.get storageKey = some delivery ∧ input.mayClaim nowMs delivery = true := by
  have hmem := List.mem_of_head? hcandidate
  rw [List.mem_insertionSort, List.mem_filter] at hmem
  exact ⟨(domain.deliveries.get_eq_some_iff _ _).mpr hmem.1, hmem.2⟩

theorem admitted_fresh {directory : ChannelDirectory} {input : CreateChannelDeliveryInput}
    {dateNow : Instant}
    (hadmitted : domain.admitted platform directory input dateNow =
      .ok (.inr (storageKey, delivery))) :
    domain.deliveries.get storageKey = none ∧ ∃ deliveryId provider,
      newDelivery platform input deliveryId provider dateNow = .ok delivery := by
  unfold admitted at hadmitted
  split at hadmitted
  · exact nomatch hadmitted
  next provider _ =>
  split at hadmitted
  · exact nomatch hadmitted
  next deliveryId _ =>
  split at hadmitted
  · exact nomatch hadmitted
  next hfree =>
  split at hadmitted
  · exact nomatch hadmitted
  next hrecord =>
  obtain ⟨rfl, rfl⟩ := Prod.mk.inj (Sum.inr.inj (Except.ok.inj hadmitted))
  exact ⟨hfree, deliveryId, provider, hrecord⟩

theorem step_of_set {request : ChannelDeliveryRequest} {other : ChannelDeliveryKey}
    {next : ChannelDeliveryRecord}
    (hstep : ChannelDeliveryStep platform domain request storageKey
      (domain.deliveries.get storageKey) (some next)) :
    ChannelDeliveryStep platform domain request other (domain.deliveries.get other)
      ((domain.deliveries.set storageKey next).get other) := by
  rw [OrderedMap.get_set]
  split
  next heq => exact heq ▸ hstep
  · exact .untouched _

theorem perform_step (platform : ChannelPlatform) (domain : ChannelDeliveriesDomain)
    (request : ChannelDeliveryRequest) (storageKey : ChannelDeliveryKey) :
    ChannelDeliveryStep platform domain request storageKey (domain.deliveries.get storageKey)
      ((domain.perform platform request).2.deliveries.get storageKey) := by
  obtain ⟨dateNow, operation⟩ := request
  cases operation with
  | create directory input =>
    change ChannelDeliveryStep _ _ _ _ _
      ((domain.create platform directory input dateNow).2.deliveries.get storageKey)
    unfold create
    split
    · exact .untouched _
    · exact .untouched _
    next delivery hadmitted =>
      refine step_of_set ?_
      rw [(admitted_fresh hadmitted).1]
      exact .created directory input delivery rfl hadmitted
  | claimNext input =>
    change ChannelDeliveryStep _ _ _ _ _
      ((domain.claimNext platform input dateNow).2.deliveries.get storageKey)
    unfold claimNext
    split
    · exact .untouched _
    split
    · exact .untouched _
    next delivery hcandidate =>
    split
    · exact .untouched _
    next hquota =>
      refine step_of_set ?_
      rw [(candidate_eq_some hcandidate).1]
      exact .claimed input delivery rfl hcandidate (congrArg Prod.fst hquota)
  | ack input =>
    change ChannelDeliveryStep _ _ _ _ _
      ((domain.ack platform input dateNow).2.deliveries.get storageKey)
    unfold ack
    split
    · exact .untouched _
    split
    next addressed delivery hmatches =>
      have hmem : (addressed, delivery) ∈ domain.deliveries.entries.filter fun entry =>
          input.names entry.2 := hmatches ▸ List.mem_singleton_self _
      rw [List.mem_filter] at hmem
      refine step_of_set ?_
      rw [(domain.deliveries.get_eq_some_iff _ _).mpr hmem.1]
      exact .acknowledged input delivery rfl hmem.2
    · exact .untouched _

end ChannelDeliveriesDomain

/-! ## Claims and settlement -/

/-- A delivery that was sent or given up. -/
def ChannelDeliveryRecord.settled (delivery : ChannelDeliveryRecord) : Bool :=
  delivery.status == .sent || delivery.status == .dead

/-- An acknowledgement without a claimant that names the delivery. -/
def ChannelDeliveryRequest.Overrides (request : ChannelDeliveryRequest)
    (delivery : ChannelDeliveryRecord) : Prop :=
  ∃ input, request.operation = .ack input ∧ truthyText input.claimedBy = none ∧
    input.names delivery = true

/-- A claim that answers with the delivery under the key, which it has just written. -/
def ChannelDeliveryMoment.HandsOut (moment : ChannelDeliveryMoment)
    (storageKey : ChannelDeliveryKey) : Prop :=
  ∃ input delivery, moment.input.operation = .claimNext input ∧
    moment.output = .ok (some delivery) ∧
    moment.before.deliveries.get storageKey ≠ some delivery ∧
    moment.after.deliveries.get storageKey = some delivery

namespace ClaimChannelDeliveryInput

variable (input : ClaimChannelDeliveryInput) (delivery : ChannelDeliveryRecord) (now : Instant)

theorem claim_status : (input.claim delivery now).2.status = .claimed := by
  unfold claim
  split
  · rfl
  split
  · rfl
  split <;> rfl

theorem mayClaim_unsettled (hclaim : input.mayClaim now delivery = true) :
    delivery.settled = false := by
  unfold mayClaim at hclaim
  rw [Bool.and_eq_true] at hclaim
  have hdue := hclaim.2
  unfold ChannelDeliveryRecord.due at hdue
  unfold ChannelDeliveryRecord.settled
  cases hstatus : delivery.status <;> simp_all

end ClaimChannelDeliveryInput

namespace AckChannelDeliveryInput

variable (input : AckChannelDeliveryInput) (env : Environment) (delivery : ChannelDeliveryRecord)
  (dateNow : Instant)

theorem acknowledge_claimedBy : (input.acknowledge env delivery dateNow).2.claimedBy = none := by
  unfold acknowledge
  split
  · rfl
  split <;> rfl

theorem acknowledge_status :
    (input.acknowledge env delivery dateNow).2.status = input.status.status := by
  unfold acknowledge
  split
  · rfl
  split <;> rfl

theorem names_claimant {claimant : String} (hclaimant : truthyText input.claimedBy = some claimant)
    (hnames : input.names delivery = true) : delivery.claimedBy = some claimant := by
  unfold names at hnames
  simp only [Bool.and_eq_true] at hnames
  have howner := hnames.1.2
  rw [hclaimant] at howner
  exact of_decide_eq_true howner

end AckChannelDeliveryInput

def ClaimantsHold (domain : ChannelDeliveriesDomain) : Prop :=
  ∀ storageKey delivery, domain.deliveries.get storageKey = some delivery →
    delivery.claimedBy ≠ none → delivery.status = .claimed

namespace ChannelDeliveriesDomain

variable (platform : ChannelPlatform) {delivery : ChannelDeliveryRecord}
  {domain : ChannelDeliveriesDomain} {storageKey : ChannelDeliveryKey}

theorem newDelivery_claimedBy {platform : ChannelPlatform} {input : CreateChannelDeliveryInput}
    {deliveryId provider : String} {dateNow : Instant}
    (hnew : newDelivery platform input deliveryId provider dateNow = .ok delivery) :
    delivery.claimedBy = none ∧ delivery.claimExpiresAt = none ∧
      delivery.status = input.status.getD .pending := by
  unfold newDelivery at hnew
  iterate 6
    split at hnew
    · exact nomatch hnew
  obtain rfl := Except.ok.inj hnew
  exact ⟨rfl, rfl, rfl⟩

variable (hholds : ClaimantsHold domain)
include hholds

theorem claimantsHold_step
    (request : ChannelDeliveryRequest) : ClaimantsHold (domain.perform platform request).2 := by
  intro storageKey delivery hget hclaimed
  have hstep := perform_step platform domain request storageKey
  rw [hget] at hstep
  generalize hbefore : domain.deliveries.get storageKey = before at hstep
  cases hstep with
  | untouched => exact hholds storageKey delivery hbefore hclaimed
  | created _ _ _ _ hadmitted =>
    obtain ⟨_, _, _, hnew⟩ := admitted_fresh hadmitted
    exact absurd (newDelivery_claimedBy hnew).1 hclaimed
  | claimed input taken => exact input.claim_status taken _
  | acknowledged input taken =>
    exact absurd (input.acknowledge_claimedBy platform.toEnvironment taken _) hclaimed

omit hholds in
theorem run_claimantsHold (neighbours : Neighbours) (requests : List ChannelDeliveryRequest) :
    ClaimantsHold ((machine platform).run (initial neighbours) requests) :=
  (machine platform).run_invariant ClaimantsHold
    (fun _ request hholds => claimantsHold_step platform hholds request) _
    (fun _ _ hget => absurd hget (by simp [initial])) requests

variable (hget : domain.deliveries.get storageKey = some delivery)
include hget

theorem settled_step {request : ChannelDeliveryRequest} (hsettled : delivery.settled = true)
    (hoverride : ¬ request.Overrides delivery) :
    (domain.perform platform request).2.deliveries.get storageKey = some delivery := by
  have hstep := perform_step platform domain request storageKey
  rw [hget] at hstep
  generalize (domain.perform platform request).2.deliveries.get storageKey = after at hstep ⊢
  cases hstep with
  | untouched => rfl
  | claimed input _ _ hcandidate =>
    have hunsettled := input.mayClaim_unsettled _ _ (candidate_eq_some hcandidate).2
    exact absurd (hsettled.symm.trans hunsettled) (by simp)
  | acknowledged input _ hoperation hnames =>
    cases hclaimant : truthyText input.claimedBy with
    | none => exact absurd ⟨input, hoperation, hclaimant, hnames⟩ hoverride
    | some =>
      have hclaimed := hholds storageKey delivery hget
        (by rw [input.names_claimant delivery hclaimant hnames]; exact nofun)
      rw [ChannelDeliveryRecord.settled, hclaimed] at hsettled
      exact absurd hsettled (by decide)

/-- A settled delivery is neither changed nor handed out again. -/
theorem settled_run (hsettled : delivery.settled = true) {requests : List ChannelDeliveryRequest}
    (hoverrides : ∀ request ∈ requests, ¬ request.Overrides delivery) :
    ((machine platform).run domain requests).deliveries.get storageKey = some delivery ∧
      ∀ moment ∈ (machine platform).history domain requests,
        ¬ ChannelDeliveryMoment.HandsOut moment storageKey := by
  induction requests generalizing domain with
  | nil => exact ⟨hget, by simp⟩
  | cons request _ ih =>
    have hnext := settled_step platform hholds hget hsettled (hoverrides request (.head _))
    obtain ⟨hlast, hlater⟩ := ih (claimantsHold_step platform hholds request) hnext
      fun other hother => hoverrides other (.tail _ hother)
    refine ⟨hlast, ?_⟩
    intro moment hmem
    rw [Machine.history_cons, List.mem_cons] at hmem
    rcases hmem with rfl | hmem
    · rintro ⟨_, handed, _, _, hbefore, hafter⟩
      have hsame : (domain.perform platform request).2.deliveries.get storageKey =
        some handed := hafter
      -- the delivery handed out would be the settled one
      exact hbefore (hget.trans (hnext.symm.trans hsame))
    · exact hlater moment hmem

omit hget

omit hholds

/-- What holds of the statuses along a run. -/
structure StatusesKept (neighbours : Neighbours) (requests : List ChannelDeliveryRequest) :
    Prop where
  acknowledged : ∀ moment ∈ (machine platform).history (initial neighbours) requests,
    ∀ input claimant storageKey delivery, moment.input.operation = .ack input →
    truthyText input.claimedBy = some claimant →
    moment.before.deliveries.get storageKey = some delivery →
    moment.after.deliveries.get storageKey ≠ some delivery →
    delivery.status = .claimed ∧ delivery.claimedBy = some claimant
  settled : ∀ first rest storageKey delivery, requests = first ++ rest →
    ((machine platform).run (initial neighbours) first).deliveries.get storageKey =
      some delivery →
    delivery.settled = true → (∀ request ∈ rest, ¬ request.Overrides delivery) →
    ((machine platform).run (initial neighbours) requests).deliveries.get storageKey =
        some delivery ∧
      ∀ moment ∈ (machine platform).history ((machine platform).run (initial neighbours) first)
        rest, ¬ ChannelDeliveryMoment.HandsOut moment storageKey

/-- In every run, an acknowledgement that names its claimant changes only a delivery under
that claim, and a delivery that was sent or given up is neither changed nor handed out
until an acknowledgement overrides it. -/
theorem run_statuses_kept (neighbours : Neighbours) (requests : List ChannelDeliveryRequest) :
    StatusesKept platform neighbours requests := by
  constructor
  · intro moment hmem input claimant storageKey delivery hack hclaimant hbefore hafter
    obtain ⟨first, request, rest, rfl, rfl⟩ :=
      (machine platform).exists_prefix_of_mem_history _ _ _ hmem
    have hholds := run_claimantsHold platform neighbours first
    generalize (machine platform).run (initial neighbours) first = domain at hholds hbefore hafter
    have hstep := perform_step platform domain request storageKey
    have hchanged : (domain.perform platform request).2.deliveries.get storageKey ≠
        some delivery := hafter
    rw [show domain.deliveries.get storageKey = some delivery from hbefore] at hstep
    generalize (domain.perform platform request).2.deliveries.get storageKey = after
      at hstep hchanged
    have hoperation : request.operation = .ack input := hack
    cases hstep with
    | untouched => exact absurd rfl hchanged
    | claimed _ _ hother => exact nomatch hoperation.symm.trans hother
    | acknowledged _ _ hother hnames =>
      obtain rfl := ChannelDeliveryOperation.ack.inj (hoperation.symm.trans hother)
      have howner := input.names_claimant delivery hclaimant hnames
      exact ⟨hholds storageKey delivery hbefore (by rw [howner]; exact nofun), howner⟩
  · rintro first rest storageKey delivery rfl hget hsettled hoverrides
    rw [Machine.run_append]
    exact settled_run platform (run_claimantsHold platform neighbours first) hget hsettled
      hoverrides

end ChannelDeliveriesDomain

/-! ## The operator's retry -/

def oneBinding : ChannelDirectory where
  getHeadlessAgent := fun _ _ => some "agent"
  getChannelBinding := fun _ _ => some ⟨"binding", "agent", "telegram"⟩
  getChannelSessionBinding := fun _ _ => none

def createDelivery (deliveryId : String) (status : Option ChannelDeliveryStatus) :
    ChannelDeliveryOperation :=
  .create oneBinding
    { deliveryId := deliveryId
      orgId := "t"
      agentId := "agent"
      channelBindingId := "binding"
      sessionBindingId := none
      provider := "telegram"
      target := Json.emptyObject
      eventType := "message"
      payload := Json.emptyObject
      status := status
      nextAttemptAt := none
      createdAt := none }

def claimDelivery (claimedBy : String) : ChannelDeliveryOperation :=
  .claimNext
    { orgId := "t"
      claimedBy := claimedBy
      lastClaimedBy := none
      channelBindingIds := none
      now := none
      ttlMs := none
      quota := none }

def ackDelivery (deliveryId : String) (claimedBy : Option String) (status : ChannelDeliveryAck) :
    ChannelDeliveryOperation :=
  .ack
    { orgId := "t"
      deliveryId := deliveryId
      channelBindingId := none
      channelBindingIds := none
      claimedBy := claimedBy
      lastClaimedBy := none
      status := status
      lastError := none
      nextAttemptAt := none
      updatedAt := none }

/-- A retry reaches a delivery that was given up and not claimed, which is then handed out
again. -/
theorem retry_revives_dead_delivery :
    ((ChannelDeliveriesDomain.machine plainPlatform).history
      (ChannelDeliveriesDomain.initial (Neighbours.single "t" "u"))
      [⟨0, createDelivery "d" none⟩, ⟨1, claimDelivery "g"⟩, ⟨2, ackDelivery "d" (some "g") .dead⟩,
        ⟨3, ackDelivery "d" none .failed⟩, ⟨4, claimDelivery "h"⟩]).map
      (fun moment => (moment.after.deliveries.get ("t", "binding", "d")).map
        ChannelDeliveryRecord.status) =
    [some .pending, some .claimed, some .dead, some .failed, some .claimed] := by
  decide +kernel

end OpenCowork.ControlPlane
