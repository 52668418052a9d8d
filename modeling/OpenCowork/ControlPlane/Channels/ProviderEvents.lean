import OpenCowork.ControlPlane.Channels.Inputs

/-! # The in-memory channel provider events

Webhooks of a provider, deduplicated by an event key. Whoever claims an event first
processes it, until the claim runs out or is completed; a failure may be retried. As in
the other domains, a mutation made before a throw stays.
-/

namespace OpenCowork.ControlPlane

open Foundation

inductive ChannelProviderEventStatus where
  | received | processing | processed | failed
  deriving DecidableEq, Repr

structure ChannelProviderEventRecord where
  (eventId orgId : String)
  channelBindingId : Option String
  (provider providerInstanceId : String)
  externalWorkspaceId : Option String
  (providerEventId eventType : String)
  status : ChannelProviderEventStatus
  claimedBy : Option String
  claimExpiresAt : Option Instant
  attemptCount : Nat
  retryable : Bool
  lastError : Option String
  metadata : Json
  processedAt : Option Instant
  (createdAt updatedAt : Instant)
  deriving DecidableEq

structure ClaimChannelProviderEventInput where
  eventId : Option String
  (orgId provider providerInstanceId : String)
  (channelBindingId externalWorkspaceId : Option String)
  (providerEventId eventType claimedBy : String)
  ttlMs : Option ℚ
  now : Option Instant
  metadata : Option Json

/-- The outcomes that a completion may report. -/
inductive ChannelProviderEventCompletion where
  | processed | failed
  deriving DecidableEq, Repr

structure CompleteChannelProviderEventInput where
  (orgId eventId : String)
  channelBindingIds : Option (List String)
  claimedBy : String
  status : ChannelProviderEventCompletion
  retryable : Option Bool
  lastError : Option String
  updatedAt : Option Instant

def ChannelProviderEventCompletion.status :
    ChannelProviderEventCompletion → ChannelProviderEventStatus
  | processed => .processed
  | failed => .failed

def normalizeChannelProviderEventType (value : String) : Except StoreError String :=
  match normalizeText (if value = "" then "message" else value) 32
    "Channel provider event type" with
  | .error thrown => .error thrown
  | .ok eventType =>
    if ["message", "command", "interaction"].contains eventType then .ok eventType
    else .error (.error ("Unsupported channel provider event type " ++ eventType ++ "."))

namespace ClaimChannelProviderEventInput

variable (input : ClaimChannelProviderEventInput)

def eventKey : Except StoreError String :=
  match normalizeNullableText input.channelBindingId channelTextMaxLength "Channel binding id" with
  | .error thrown => .error thrown
  | .ok channelBindingId =>
  match normalizeChannelProviderId input.provider with
  | .error thrown => .error thrown
  | .ok provider =>
  match normalizeText input.providerInstanceId channelTextMaxLength
    "Channel provider instance id" with
  | .error thrown => .error thrown
  | .ok providerInstanceId =>
  match normalizeNullableText input.externalWorkspaceId channelTextMaxLength
    "Channel external workspace id" with
  | .error thrown => .error thrown
  | .ok externalWorkspaceId =>
  match normalizeText input.eventType channelTextMaxLength "Channel provider event type" with
  | .error thrown => .error thrown
  | .ok eventType =>
  match normalizeText input.providerEventId channelTextMaxLength "Channel provider event id" with
  | .error thrown => .error thrown
  | .ok providerEventId =>
    .ok (String.intercalate "\x00" [input.orgId, channelBindingId.getD "", provider,
      providerInstanceId, externalWorkspaceId.getD "", eventType, providerEventId])

/-- `Math.max(1, Math.min(input.ttlMs || 5 * 60_000, 60 * 60_000))`. -/
def ttl : ℚ :=
  let ttlMs := match input.ttlMs with
    | none => 300000
    | some ttlMs => if ttlMs = 0 then 300000 else ttlMs
  max 1 (min ttlMs 3600000)

/-- The record of an event that is claimed for the first time, its fields checked in order. -/
def newEvent (platform : ChannelPlatform) (provider eventType : String) (now : Instant) :
    Except StoreError ChannelProviderEventRecord :=
  match normalizeText (textOr input.eventId (platform.stableId "channel_provider_event"
      [input.orgId, input.channelBindingId.getD "", provider, input.providerInstanceId,
        input.externalWorkspaceId.getD "", eventType, input.providerEventId]))
    channelTextMaxLength "Channel provider event id" with
  | .error thrown => .error thrown
  | .ok eventId =>
  match normalizeNullableText input.channelBindingId channelTextMaxLength "Channel binding id" with
  | .error thrown => .error thrown
  | .ok channelBindingId =>
  match normalizeText input.providerInstanceId channelTextMaxLength
    "Channel provider instance id" with
  | .error thrown => .error thrown
  | .ok providerInstanceId =>
  match normalizeNullableText input.externalWorkspaceId channelTextMaxLength
    "Channel external workspace id" with
  | .error thrown => .error thrown
  | .ok externalWorkspaceId =>
  match normalizeText input.providerEventId channelTextMaxLength "Provider event id" with
  | .error thrown => .error thrown
  | .ok providerEventId =>
  match normalizeText input.claimedBy channelTextMaxLength "Provider event claimant" with
  | .error thrown => .error thrown
  | .ok claimedBy =>
  match dateOf (now + input.ttl) with
  | .error thrown => .error thrown
  | .ok claimExpiresAt =>
  match platform.normalizeRecord (input.metadata.getD Json.emptyObject)
    "Channel provider event metadata" with
  | .error thrown => .error thrown
  | .ok metadata =>
    .ok
      { eventId := eventId
        orgId := input.orgId
        channelBindingId := channelBindingId
        provider := provider
        providerInstanceId := providerInstanceId
        externalWorkspaceId := externalWorkspaceId
        providerEventId := providerEventId
        eventType := eventType
        status := .processing
        claimedBy := some claimedBy
        claimExpiresAt := some claimExpiresAt
        attemptCount := 1
        retryable := true
        lastError := none
        metadata := metadata
        processedAt := none
        createdAt := now
        updatedAt := now }

/-- A new claim of an event on file, field by field. -/
def reclaim (platform : ChannelPlatform) (provider eventType : String) (now : Instant)
    (event : ChannelProviderEventRecord) :
    Outcome ChannelProviderEventRecord ChannelProviderEventRecord :=
  let event := { event with provider := provider }
  match normalizeNullableText input.channelBindingId channelTextMaxLength "Channel binding id" with
  | .error thrown => (.error thrown, event)
  | .ok channelBindingId =>
  let event :=
    { event with
      channelBindingId := channelBindingId
      eventType := eventType
      status := .processing }
  match normalizeText input.claimedBy channelTextMaxLength "Provider event claimant" with
  | .error thrown => (.error thrown, event)
  | .ok claimedBy =>
  let event := { event with claimedBy := some claimedBy }
  match dateOf (now + input.ttl) with
  | .error thrown => (.error thrown, event)
  | .ok claimExpiresAt =>
  let event :=
    { event with
      claimExpiresAt := some claimExpiresAt
      attemptCount := event.attemptCount + 1
      retryable := true
      lastError := none }
  match platform.normalizeRecord (input.metadata.getD Json.emptyObject)
    "Channel provider event metadata" with
  | .error thrown => (.error thrown, event)
  | .ok metadata =>
    let event := { event with metadata := metadata, processedAt := none }
    (.ok event, event)

end ClaimChannelProviderEventInput

namespace ChannelProviderEventRecord

variable (event : ChannelProviderEventRecord)

/-- Whether a redelivery may claim the event at an instant. -/
def canReclaim (nowMs : Instant) : Bool :=
  (event.status == .processing &&
      match event.claimExpiresAt with
      | none => false
      | some expiresAt => decide (expiresAt ≤ nowMs)) ||
    (event.status == .failed && event.retryable) ||
    event.status == .received

/-- Whether a caller that is restricted to bindings may touch the event. -/
def inScope (channelBindingIds : Option (List String)) : Bool :=
  match channelBindingIds with
  | none => true
  | some bindingIds =>
    match event.channelBindingId with
    | none => false
    | some bindingId => bindingIds.contains bindingId

/-- The completion of an event; a blank error text throws half-way. -/
def completed (env : Environment) (input : CompleteChannelProviderEventInput)
    (dateNow : Instant) : Outcome ChannelProviderEventRecord ChannelProviderEventRecord :=
  let updatedAt := input.updatedAt.getD dateNow
  let event :=
    { event with
      status := input.status.status
      claimedBy := none
      claimExpiresAt := none
      retryable := decide (input.status = .failed) && input.retryable.getD true }
  let finish (lastError : Option String) : ChannelProviderEventRecord :=
    { event with
      lastError := lastError
      processedAt := if input.status = .processed then some updatedAt else event.processedAt
      updatedAt := updatedAt }
  match if input.status = .failed then truthyText input.lastError else none with
  | none => (.ok (finish none), finish none)
  | some text =>
    match env.redactOperationalText text 1024 "Provider event error" with
    | .error thrown => (.error thrown, event)
    | .ok lastError => (.ok (finish (some lastError)), finish (some lastError))

end ChannelProviderEventRecord

structure ChannelProviderEventClaimResult where
  event : ChannelProviderEventRecord
  (claimed duplicate : Bool)

/-- The events by their keys, and the organisations that exist. -/
structure ChannelProviderEventsDomain where
  events : OrderedMap String ChannelProviderEventRecord
  orgs : List String

namespace ChannelProviderEventsDomain

variable (platform : ChannelPlatform) (domain : ChannelProviderEventsDomain)

def claim (input : ClaimChannelProviderEventInput) (dateNow : Instant) :
    Outcome ChannelProviderEventsDomain ChannelProviderEventClaimResult :=
  if input.orgId ∉ domain.orgs then
    (.error (.error ("Unknown org " ++ input.orgId ++ ".")), domain)
  else
  match input.eventKey with
  | .error thrown => (.error thrown, domain)
  | .ok eventKey =>
  match normalizeChannelProviderId input.provider with
  | .error thrown => (.error thrown, domain)
  | .ok provider =>
  match normalizeChannelProviderEventType input.eventType with
  | .error thrown => (.error thrown, domain)
  | .ok eventType =>
  match domain.events.get eventKey with
  | none =>
    match input.newEvent platform provider eventType (input.now.getD dateNow) with
    | .error thrown => (.error thrown, domain)
    | .ok event =>
      (.ok ⟨event, true, false⟩, { domain with events := domain.events.set eventKey event })
  | some existing =>
    let updated := { existing with updatedAt := input.now.getD dateNow }
    if existing.canReclaim (input.now.getD dateNow) then
      let (result, event) :=
        input.reclaim platform provider eventType (input.now.getD dateNow) updated
      (result.map fun event => ⟨event, true, false⟩,
        { domain with events := domain.events.set eventKey event })
    else
      (.ok ⟨updated, false, true⟩, { domain with events := domain.events.set eventKey updated })

def findEvent (input : CompleteChannelProviderEventInput) :
    Option (String × ChannelProviderEventRecord) :=
  domain.events.entries.find? fun entry =>
    decide (entry.2.orgId = input.orgId) && decide (entry.2.eventId = input.eventId)

def complete (input : CompleteChannelProviderEventInput) (dateNow : Instant) :
    Outcome ChannelProviderEventsDomain (Option ChannelProviderEventRecord) :=
  match domain.findEvent input with
  | none => (.ok none, domain)
  | some (eventKey, event) =>
  if event.inScope input.channelBindingIds = false then (.ok none, domain)
  else
  match normalizeText input.claimedBy channelTextMaxLength "Provider event claimant" with
  | .error thrown => (.error thrown, domain)
  | .ok claimedBy =>
    if event.claimedBy ≠ some claimedBy then (.ok none, domain)
    else
      let (result, completed) := event.completed platform.toEnvironment input dateNow
      (result.map some, { domain with events := domain.events.set eventKey completed })

end ChannelProviderEventsDomain

inductive ChannelProviderEventOperation where
  | claim (input : ClaimChannelProviderEventInput)
  | complete (input : CompleteChannelProviderEventInput)

/-- An operation and the reading of the clock at which it runs. -/
structure ChannelProviderEventRequest where
  dateNow : Instant
  operation : ChannelProviderEventOperation

inductive ChannelProviderEventAnswer where
  | thrown (error : StoreError)
  | claim (result : ChannelProviderEventClaimResult)
  | completed (event : Option ChannelProviderEventRecord)

/-- The time that an operation goes by. -/
def ChannelProviderEventRequest.now (request : ChannelProviderEventRequest) : Instant :=
  match request.operation with
  | .claim input => input.now.getD request.dateNow
  | .complete input => input.updatedAt.getD request.dateNow

namespace ChannelProviderEventsDomain

variable (platform : ChannelPlatform)

def answer {α : Type} (wrap : α → ChannelProviderEventAnswer)
    (outcome : Outcome ChannelProviderEventsDomain α) :
    ChannelProviderEventAnswer × ChannelProviderEventsDomain :=
  match outcome with
  | (.error thrown, next) => (.thrown thrown, next)
  | (.ok value, next) => (wrap value, next)

def perform (domain : ChannelProviderEventsDomain) (request : ChannelProviderEventRequest) :
    ChannelProviderEventAnswer × ChannelProviderEventsDomain :=
  match request.operation with
  | .claim input => answer .claim (domain.claim platform input request.dateNow)
  | .complete input => answer .completed (domain.complete platform input request.dateNow)

def machine : Machine ChannelProviderEventsDomain ChannelProviderEventRequest
    ChannelProviderEventAnswer where
  step := perform platform

/-- A store without events. -/
def initial (orgs : List String) : ChannelProviderEventsDomain := ⟨OrderedMap.empty, orgs⟩

end ChannelProviderEventsDomain

/-- One operation of a run, with the stores around it. -/
abbrev ChannelProviderEventMoment :=
  Moment ChannelProviderEventsDomain ChannelProviderEventRequest ChannelProviderEventAnswer

end OpenCowork.ControlPlane
