import OpenCowork.ControlPlane.Channels.Inputs

/-! # The in-memory channel deliveries

Messages on their way to a channel provider: a delivery is created, claimed by a
gateway for a while, and acknowledged as sent, failed or dead. As in the sessions
domain, a mutation made before a throw stays.
-/

namespace OpenCowork.ControlPlane

open Foundation

inductive ChannelDeliveryStatus where
  | pending | claimed | sent | failed | dead
  deriving DecidableEq, Repr

structure ChannelDeliveryRecord where
  (deliveryId orgId agentId channelBindingId : String)
  sessionBindingId : Option String
  provider : String
  target : Json
  eventType : String
  payload : Json
  status : ChannelDeliveryStatus
  attemptCount : Nat
  (claimedBy lastClaimedBy : Option String)
  claimExpiresAt : Option Instant
  nextAttemptAt : Instant
  lastError : Option String
  (createdAt updatedAt : Instant)
  deriving DecidableEq

/-- The parts of the bindings on file that a delivery is checked against. -/
structure ChannelBindingRecord where
  (bindingId agentId provider : String)

structure ChannelSessionBindingRecord where
  (channelBindingId agentId provider : String)

/-- What the neighbouring channel domains hold, by organisation and id. An agent is
known by its id. -/
structure ChannelDirectory where
  getHeadlessAgent : String → String → Option String
  getChannelBinding : String → String → Option ChannelBindingRecord
  getChannelSessionBinding : String → String → Option ChannelSessionBindingRecord

structure CreateChannelDeliveryInput where
  (deliveryId orgId agentId channelBindingId : String)
  sessionBindingId : Option String
  provider : String
  target : Json
  eventType : String
  payload : Json
  status : Option ChannelDeliveryStatus
  (nextAttemptAt createdAt : Option Instant)

/-- A usage quota without the organisation and the time, which the claim supplies. -/
structure ChannelDeliveryQuota where
  quotaKey : String
  limit : ℚ
  quantity : Option ℚ
  windowMs : ℚ
  policyCode : Option String

structure ClaimChannelDeliveryInput where
  (orgId claimedBy : String)
  lastClaimedBy : Option String
  channelBindingIds : Option (List String)
  now : Option Instant
  ttlMs : Option ℚ
  quota : Option ChannelDeliveryQuota

/-- The outcomes that an acknowledgement may report. -/
inductive ChannelDeliveryAck where
  | sent | failed | dead
  deriving DecidableEq, Repr

structure AckChannelDeliveryInput where
  (orgId deliveryId : String)
  channelBindingId : Option String
  channelBindingIds : Option (List String)
  (claimedBy lastClaimedBy : Option String)
  status : ChannelDeliveryAck
  lastError : Option String
  (nextAttemptAt updatedAt : Option Instant)

def ChannelDeliveryAck.status : ChannelDeliveryAck → ChannelDeliveryStatus
  | sent => .sent
  | failed => .failed
  | dead => .dead

/-- The organisation, the binding and the public id, which the storage key keeps apart. -/
abbrev ChannelDeliveryKey := String × String × String

def CreateChannelDeliveryInput.storageKey (input : CreateChannelDeliveryInput)
    (deliveryId : String) : ChannelDeliveryKey :=
  (input.orgId, input.channelBindingId, deliveryId)

namespace ChannelDeliveryRecord

variable (delivery : ChannelDeliveryRecord)

/-- Due at an instant: not yet claimed and its time has come, or its claim ran out. -/
def due (nowMs : Instant) : Bool :=
  (delivery.status == .pending && decide (delivery.nextAttemptAt ≤ nowMs)) ||
    (delivery.status == .failed && decide (delivery.nextAttemptAt ≤ nowMs)) ||
    (delivery.status == .claimed &&
      match delivery.claimExpiresAt with
      | none => false
      | some expiresAt => decide (expiresAt ≤ nowMs))

end ChannelDeliveryRecord

namespace ClaimChannelDeliveryInput

variable (input : ClaimChannelDeliveryInput)

def mayClaim (nowMs : Instant) (delivery : ChannelDeliveryRecord) : Bool :=
  decide (delivery.orgId = input.orgId) &&
    (match input.channelBindingIds with
      | none => true
      | some bindingIds => bindingIds.contains delivery.channelBindingId) &&
    delivery.due nowMs

/-- `input.ttlMs || 30_000`. -/
def ttl : ℚ :=
  match input.ttlMs with
  | none => 30000
  | some ttlMs => if ttlMs = 0 then 30000 else ttlMs

def consumption (quota : ChannelDeliveryQuota) (now : Instant) : ConsumeUsageQuotaInput where
  orgId := input.orgId
  quotaKey := quota.quotaKey
  limit := quota.limit
  quantity := quota.quantity
  windowMs := quota.windowMs
  now := some now
  policyCode := quota.policyCode

/-- The claim of a delivery, field by field; a field that does not pass its check throws
with the fields before it written. -/
def claim (delivery : ChannelDeliveryRecord) (now : Instant) :
    Outcome ChannelDeliveryRecord ChannelDeliveryRecord :=
  let delivery := { delivery with status := .claimed }
  match normalizeText input.claimedBy channelTextMaxLength "Delivery claimant" with
  | .error thrown => (.error thrown, delivery)
  | .ok claimedBy =>
  let delivery := { delivery with claimedBy := some claimedBy }
  match normalizeText (textOr input.lastClaimedBy input.claimedBy) channelTextMaxLength
    "Delivery owner" with
  | .error thrown => (.error thrown, delivery)
  | .ok lastClaimedBy =>
  let delivery := { delivery with lastClaimedBy := some lastClaimedBy }
  match dateOf (now + input.ttl) with
  | .error thrown => (.error thrown, delivery)
  | .ok claimExpiresAt =>
    let delivery :=
      { delivery with
        claimExpiresAt := some claimExpiresAt
        attemptCount := delivery.attemptCount + 1
        updatedAt := now }
    (.ok delivery, delivery)

end ClaimChannelDeliveryInput

namespace AckChannelDeliveryInput

variable (input : AckChannelDeliveryInput)

def names (delivery : ChannelDeliveryRecord) : Bool :=
  (decide (delivery.orgId = input.orgId) && decide (delivery.deliveryId = input.deliveryId)) &&
    (match truthyText input.channelBindingId with
      | none => true
      | some bindingId => decide (delivery.channelBindingId = bindingId)) &&
    (match input.channelBindingIds with
      | none => true
      | some bindingIds => bindingIds.contains delivery.channelBindingId) &&
    (match truthyText input.claimedBy with
      | none => true
      | some claimedBy => decide (delivery.claimedBy = some claimedBy)) &&
    (match truthyText input.lastClaimedBy with
      | none => true
      | some lastClaimedBy => decide (delivery.lastClaimedBy = some lastClaimedBy))

/-- The acknowledgement of a delivery; a blank error text throws half-way. -/
def acknowledge (env : Environment) (delivery : ChannelDeliveryRecord) (dateNow : Instant) :
    Outcome ChannelDeliveryRecord ChannelDeliveryRecord :=
  let settled : ChannelDeliveryRecord :=
    { delivery with
      status := input.status.status
      claimedBy := none
      claimExpiresAt := none }
  let finish (lastError : Option String) : ChannelDeliveryRecord :=
    { settled with
      lastError := lastError
      nextAttemptAt := input.nextAttemptAt.getD (input.updatedAt.getD dateNow)
      updatedAt := input.updatedAt.getD dateNow }
  match truthyText input.lastError with
  | none => (.ok (finish none), finish none)
  | some text =>
    match env.redactOperationalText text 1024 "Delivery error" with
    | .error thrown => (.error thrown, settled)
    | .ok lastError => (.ok (finish (some lastError)), finish (some lastError))

end AckChannelDeliveryInput

/-- The deliveries by storage key, and the neighbours with the usage counters. -/
structure ChannelDeliveriesDomain where
  deliveries : OrderedMap ChannelDeliveryKey ChannelDeliveryRecord
  neighbours : Neighbours

namespace ChannelDeliveriesDomain

variable (platform : ChannelPlatform) (domain : ChannelDeliveriesDomain)
  (directory : ChannelDirectory)

def checkDirectory (input : CreateChannelDeliveryInput) :
    Except StoreError String :=
  if domain.neighbours.orgExists input.orgId = false then
    .error (.error ("Unknown org " ++ input.orgId ++ "."))
  else
  match directory.getHeadlessAgent input.orgId input.agentId with
  | none => .error (.error ("Unknown headless agent " ++ input.agentId ++ "."))
  | some agentId =>
  match directory.getChannelBinding input.orgId input.channelBindingId with
  | none => .error (.error ("Unknown channel binding " ++ input.channelBindingId ++ "."))
  | some channelBinding =>
  match normalizeChannelProviderId input.provider with
  | .error thrown => .error thrown
  | .ok provider =>
  if channelBinding.agentId ≠ agentId then
    .error (.error "Channel delivery binding does not match headless agent.")
  else if channelBinding.provider ≠ provider then
    .error (.error "Channel delivery provider does not match channel binding.")
  else
  match truthyText input.sessionBindingId with
  | none => .ok provider
  | some sessionBindingId =>
  match directory.getChannelSessionBinding input.orgId sessionBindingId with
  | none => .error (.error ("Unknown channel session binding " ++ sessionBindingId ++ "."))
  | some sessionBinding =>
    if sessionBinding.agentId ≠ agentId ∨
        sessionBinding.channelBindingId ≠ channelBinding.bindingId ∨
        sessionBinding.provider ≠ provider then
      .error (.error "Channel delivery session binding does not match channel binding.")
    else .ok provider

def newDelivery (input : CreateChannelDeliveryInput) (deliveryId provider : String)
    (dateNow : Instant) : Except StoreError ChannelDeliveryRecord :=
  match normalizeText input.agentId channelTextMaxLength "Headless agent id" with
  | .error thrown => .error thrown
  | .ok agentId =>
  match normalizeText input.channelBindingId channelTextMaxLength "Channel binding id" with
  | .error thrown => .error thrown
  | .ok channelBindingId =>
  match normalizeNullableText input.sessionBindingId channelTextMaxLength
    "Channel session binding id" with
  | .error thrown => .error thrown
  | .ok sessionBindingId =>
  match platform.normalizeRecord input.target "Channel delivery target" with
  | .error thrown => .error thrown
  | .ok target =>
  match normalizeText input.eventType channelTextMaxLength "Channel delivery event type" with
  | .error thrown => .error thrown
  | .ok eventType =>
  match platform.normalizeRecord input.payload "Channel delivery payload" with
  | .error thrown => .error thrown
  | .ok payload =>
    .ok
      { deliveryId := deliveryId
        orgId := input.orgId
        agentId := agentId
        channelBindingId := channelBindingId
        sessionBindingId := sessionBindingId
        provider := provider
        target := target
        eventType := eventType
        payload := payload
        status := input.status.getD .pending
        attemptCount := 0
        claimedBy := none
        lastClaimedBy := none
        claimExpiresAt := none
        nextAttemptAt := input.nextAttemptAt.getD (input.createdAt.getD dateNow)
        lastError := none
        createdAt := input.createdAt.getD dateNow
        updatedAt := input.createdAt.getD dateNow }

/-- The record that a creation would add, under its key, if nothing refuses it and the key
is free. -/
def admitted (input : CreateChannelDeliveryInput)
    (dateNow : Instant) :
    Except StoreError (ChannelDeliveryRecord ⊕ ChannelDeliveryKey × ChannelDeliveryRecord) :=
  match domain.checkDirectory directory input with
  | .error thrown => .error thrown
  | .ok provider =>
  match normalizeText input.deliveryId channelTextMaxLength "Channel delivery id" with
  | .error thrown => .error thrown
  | .ok deliveryId =>
  match domain.deliveries.get (input.storageKey deliveryId) with
  | some existing => .ok (.inl existing)
  | none =>
  match newDelivery platform input deliveryId provider dateNow with
  | .error thrown => .error thrown
  | .ok delivery => .ok (.inr (input.storageKey deliveryId, delivery))

/-- A creation answers with the delivery that exists under its key or adds one. -/
def create (input : CreateChannelDeliveryInput)
    (dateNow : Instant) : Outcome ChannelDeliveriesDomain ChannelDeliveryRecord :=
  match domain.admitted platform directory input dateNow with
  | .error thrown => (.error thrown, domain)
  | .ok (.inl existing) => (.ok existing, domain)
  | .ok (.inr (storageKey, delivery)) =>
    (.ok delivery, { domain with deliveries := domain.deliveries.set storageKey delivery })

/-- Earliest attempt first, then by creation; the ISO texts are compared. -/
def claimedBefore (left right : ChannelDeliveryKey × ChannelDeliveryRecord) : Bool :=
  match platform.localeCompare (platform.isoString left.2.nextAttemptAt)
      (platform.isoString right.2.nextAttemptAt) with
  | .lt => true
  | .gt => false
  | .eq => platform.localeCompare (platform.isoString left.2.createdAt)
      (platform.isoString right.2.createdAt) != .gt

def candidate (input : ClaimChannelDeliveryInput) (nowMs : Instant) :
    Option (ChannelDeliveryKey × ChannelDeliveryRecord) :=
  ((domain.deliveries.entries.filter fun entry => input.mayClaim nowMs entry.2).insertionSort
    fun left right => claimedBefore platform left right = true).head?

def consumeQuota (input : ClaimChannelDeliveryInput) (now : Instant) : Outcome Neighbours Unit :=
  match input.quota with
  | none => (.ok (), domain.neighbours)
  | some quota =>
    match domain.neighbours.consumeUsageQuota now (input.consumption quota now) with
    | (.error thrown, neighbours) => (.error thrown, neighbours)
    | (.ok result, neighbours) =>
      if result.allowed then (.ok (), neighbours)
      else
        (.error (.quotaExceeded "Gateway delivery quota exceeded."
          (textOr result.policyCode "quota.gateway_deliveries_per_hour_exceeded")
          result.retryAfterMs result.limit result.used result.resetAt), neighbours)

def claimNext (input : ClaimChannelDeliveryInput) (dateNow : Instant) :
    Outcome ChannelDeliveriesDomain (Option ChannelDeliveryRecord) :=
  if input.channelBindingIds = some [] then (.ok none, domain)
  else
  match domain.candidate platform input (input.now.getD dateNow) with
  | none => (.ok none, domain)
  | some (storageKey, delivery) =>
  match domain.consumeQuota input (input.now.getD dateNow) with
  | (.error thrown, neighbours) => (.error thrown, { domain with neighbours })
  | (.ok (), neighbours) =>
    let (result, claimed) := input.claim delivery (input.now.getD dateNow)
    (result.map some,
      { deliveries := domain.deliveries.set storageKey claimed
        neighbours := neighbours })

/-- An acknowledgement must name exactly one delivery. -/
def ack (input : AckChannelDeliveryInput) (dateNow : Instant) :
    Outcome ChannelDeliveriesDomain (Option ChannelDeliveryRecord) :=
  if input.channelBindingIds = some [] then (.ok none, domain)
  else
  match domain.deliveries.entries.filter fun entry => input.names entry.2 with
  | [(storageKey, delivery)] =>
    let (result, settled) := input.acknowledge platform.toEnvironment delivery dateNow
    (result.map some, { domain with deliveries := domain.deliveries.set storageKey settled })
  | _ => (.ok none, domain)

end ChannelDeliveriesDomain

inductive ChannelDeliveryOperation where
  | create (directory : ChannelDirectory) (input : CreateChannelDeliveryInput)
  | claimNext (input : ClaimChannelDeliveryInput)
  | ack (input : AckChannelDeliveryInput)

/-- An operation and the reading of the clock at which it runs. -/
structure ChannelDeliveryRequest where
  dateNow : Instant
  operation : ChannelDeliveryOperation

namespace ChannelDeliveriesDomain

variable (platform : ChannelPlatform)

def perform (domain : ChannelDeliveriesDomain) (request : ChannelDeliveryRequest) :
    Except StoreError (Option ChannelDeliveryRecord) × ChannelDeliveriesDomain :=
  match request.operation with
  | .create directory input =>
    ((domain.create platform directory input request.dateNow).1.map some,
      (domain.create platform directory input request.dateNow).2)
  | .claimNext input => domain.claimNext platform input request.dateNow
  | .ack input => domain.ack platform input request.dateNow

def machine : Machine ChannelDeliveriesDomain ChannelDeliveryRequest
    (Except StoreError (Option ChannelDeliveryRecord)) where
  step := perform platform

/-- A store without deliveries. -/
def initial (neighbours : Neighbours) : ChannelDeliveriesDomain := ⟨OrderedMap.empty, neighbours⟩

end ChannelDeliveriesDomain

/-- One operation of a run, with the stores around it. -/
abbrev ChannelDeliveryMoment :=
  Moment ChannelDeliveriesDomain ChannelDeliveryRequest
    (Except StoreError (Option ChannelDeliveryRecord))

end OpenCowork.ControlPlane
