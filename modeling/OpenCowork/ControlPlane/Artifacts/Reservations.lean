import OpenCowork.ControlPlane.Neighbours

/-! # The artifact-upload-reservations domain

Reservations of upload space, the claims under which they are finalized or cleaned up, and
the quota that a reservation draws on and hands back. Timestamps are the instants that
their texts denote; a given date that is none is absent.
-/

namespace OpenCowork.ControlPlane

open Foundation

inductive ArtifactKind where
  | document | chart | deck | spreadsheet | draft
  deriving DecidableEq, Repr

inductive ArtifactStatus where
  | draft | inReview | final
  deriving DecidableEq, Repr

structure ArtifactUploadPublicationMetadata where
  kind : ArtifactKind
  artifactStatus : ArtifactStatus
  (authorAgentId projectId taskId statusUpdatedBy statusUpdatedAt : Option String)
  deriving DecidableEq, Repr

/-- The metadata as a caller sends it; kind and status are still plain text. -/
structure PublicationInput where
  (kind artifactStatus : String)
  (authorAgentId projectId taskId statusUpdatedBy statusUpdatedAt : Option String)

def ArtifactKind.ofText : String → Option ArtifactKind
  | "document" => some .document
  | "chart" => some .chart
  | "deck" => some .deck
  | "spreadsheet" => some .spreadsheet
  | "draft" => some .draft
  | _ => none

def ArtifactStatus.ofText : String → Option ArtifactStatus
  | "draft" => some .draft
  | "in-review" => some .inReview
  | "final" => some .final
  | _ => none

def emptyPublication : ArtifactUploadPublicationMetadata where
  kind := .draft
  artifactStatus := .draft
  authorAgentId := none
  projectId := none
  taskId := none
  statusUpdatedBy := none
  statusUpdatedAt := none

def publicationInvalid : StoreError := .error "Artifact upload publication metadata is invalid."

def boundedNullableString (value : Option String) : Except StoreError (Option String) :=
  match value with
  | none => .ok none
  | some text =>
    let normalized := Text.trim text
    if normalized = "" then .ok none
    else if 512 < normalized.utf8ByteSize then .error publicationInvalid
    else .ok (some normalized)

def twoDigits (tens units : Char) : Option Nat :=
  if tens.isDigit && units.isDigit then
    some ((tens.toNat - 48) * 10 + (units.toNat - 48))
  else none

/-- `Z`, or an offset in hours and minutes. -/
def isZone : List Char → Bool
  | ['Z'] => true
  | [sign, h, h', ':', m, m'] =>
    (sign == '+' || sign == '-') &&
      (twoDigits h h').any (fun hours => decide (hours ≤ 23)) &&
      (twoDigits m m').any fun minutes => decide (minutes ≤ 59)
  | _ => false

/-- The digits of a second's fraction, if there is one, and what follows them. -/
def splitFraction : List Char → Option (List Char × List Char)
  | '.' :: rest =>
    let digits := rest.takeWhile Char.isDigit
    if 1 ≤ digits.length ∧ digits.length ≤ 3 then some (digits, rest.dropWhile Char.isDigit)
    else none
  | rest => some ([], rest)

def isTimeOfDay (hours minutes seconds : Nat) (fraction : List Char) : Bool :=
  decide (hours ≤ 23 ∧ minutes ≤ 59 ∧ seconds ≤ 59) ||
    (decide (hours = 24 ∧ minutes = 0 ∧ seconds = 0) && fraction.all (· == '0'))

/-- An ISO date and time with a zone that denotes an instant. -/
def isIsoInstant (text : String) : Bool :=
  match text.toList with
  | y :: y' :: y'' :: y''' :: '-' :: m :: m' :: '-' :: d :: d' :: 'T' ::
      h :: h' :: ':' :: n :: n' :: ':' :: s :: s' :: rest =>
      [y, y', y'', y'''].all Char.isDigit &&
        (match twoDigits m m', twoDigits d d', twoDigits h h', twoDigits n n', twoDigits s s',
            splitFraction rest with
        | some month, some day, some hours, some minutes, some seconds, some (fraction, zone) =>
          decide (1 ≤ month ∧ month ≤ 12 ∧ 1 ≤ day ∧ day ≤ 31) &&
            isTimeOfDay hours minutes seconds fraction && isZone zone
        | _, _, _, _, _, _ => false)
  | _ => false

def boundedNullableDate (value : Option String) : Except StoreError (Option String) :=
  match boundedNullableString value with
  | .error thrown => .error thrown
  | .ok none => .ok none
  | .ok (some normalized) =>
    if isIsoInstant normalized then .ok (some normalized) else .error publicationInvalid

/-- Metadata that is left out counts as that of a draft. -/
def normalizeArtifactUploadPublicationMetadata (value : Option PublicationInput) :
    Except StoreError ArtifactUploadPublicationMetadata :=
  match value with
  | none => .ok emptyPublication
  | some value =>
    match ArtifactKind.ofText value.kind, ArtifactStatus.ofText value.artifactStatus with
    | some kind, some artifactStatus => do
        let authorAgentId ← boundedNullableString value.authorAgentId
        let projectId ← boundedNullableString value.projectId
        let taskId ← boundedNullableString value.taskId
        let statusUpdatedBy ← boundedNullableString value.statusUpdatedBy
        let statusUpdatedAt ← boundedNullableDate value.statusUpdatedAt
        return { kind, artifactStatus, authorAgentId, projectId, taskId, statusUpdatedBy,
                 statusUpdatedAt }
    | _, _ => .error publicationInvalid

example : isIsoInstant "2026-02-31T24:00:00.0Z" = true := by decide +kernel

inductive ArtifactUploadReservationStatus where
  | reserved | finalizing | finalized | cleanupPending | cleaned
  deriving DecidableEq, Repr

inductive ArtifactUploadCleanupReason where
  | aborted | expired | mismatch | failed
  deriving DecidableEq, Repr

structure ArtifactUploadReservationRecord where
  (orgId tenantId userId sessionId artifactId objectKey stagingObjectKey finalObjectKey : String)
  filename : String
  (contentType checksumSha256 : Option String)
  stagingCleanedAt : Option Instant
  publication : ArtifactUploadPublicationMetadata
  quotaKey : Option String
  quotaWindowMs : Option ℚ
  quotaWindowStartedAtMs : Option Int
  reservedBytes : ℚ
  status : ArtifactUploadReservationStatus
  cleanupReason : Option ArtifactUploadCleanupReason
  cleanupRequestedAt : Option Instant
  (claimOwner claimToken : Option String)
  claimExpiresAt : Option Instant
  (cleanupAttempts cleanupPasses finalizationAttempts : Nat)
  nextCleanupAttemptAt : Option Instant
  lastErrorCode : Option String
  (expiresAt createdAt updatedAt : Instant)
  deriving DecidableEq

structure ArtifactUploadReservationIdentity where
  (orgId tenantId sessionId artifactId : String)

abbrev GivenDate := Option Instant

structure CreateArtifactUploadReservationInput extends ArtifactUploadReservationIdentity where
  (userId objectKey : String)
  (stagingObjectKey finalObjectKey : Option String)
  filename : String
  (contentType checksumSha256 : Option String)
  publication : Option PublicationInput
  /-- Absent where the number is not finite. -/
  reservedBytes : Option ℚ
  expiresAt : GivenDate
  quota : Option ConsumeUsageQuotaInput
  createdAt : Option GivenDate

structure ReservationClaim where
  (claimOwner claimToken : String)
  deriving DecidableEq, Repr

structure ReleaseArtifactUploadClaimInput where
  claim : ReservationClaim
  errorCode : String
  (retryAt cleanupNotBefore : GivenDate)
  maxAttempts : ℚ
  cleanupOnExhaustion : Option Bool

/-- An expected owner or token is left out, null or text. -/
structure RequestArtifactUploadCleanupInput where
  reason : ArtifactUploadCleanupReason
  claim : ReservationClaim
  claimTtlMs : ℚ
  cleanupNotBefore : GivenDate
  (expectedFinalizationClaimOwner expectedFinalizationClaimToken : Option (Option String))

structure ClaimArtifactUploadReconciliationInput where
  claim : ReservationClaim
  (claimTtlMs limit : ℚ)

structure PruneArtifactUploadReservationsInput where
  olderThan : Instant
  limit : ℚ

inductive ReconciliationAction where
  | finalize | cleanup | cleanupStaging
  deriving DecidableEq, Repr

structure ArtifactUploadReconciliationClaim where
  action : ReconciliationAction
  reservation : ArtifactUploadReservationRecord

structure UsageQuotaAdjustment where
  (orgId quotaKey : String)
  windowStartedAtMs : Int
  quantityDelta : ℚ

def reservationKey (identity : ArtifactUploadReservationIdentity) : String :=
  key identity.orgId (key identity.tenantId (key identity.sessionId identity.artifactId))

def normalizeNonNegativeInteger (value : Option ℚ) (label : String) : Except StoreError ℚ :=
  match value with
  | none => .error (.error (label ++ " must be a non-negative integer."))
  | some parsed =>
    if parsed.den = 1 ∧ 0 ≤ parsed then .ok parsed
    else .error (.error (label ++ " must be a non-negative integer."))

def isoDate (date : GivenDate) : Except StoreError Instant :=
  match date with
  | none => .error (.error "Invalid time value")
  | some instant => .ok instant

/-- `new Date(nowMs + Math.max(1, Math.floor(claimTtlMs)))`. -/
def claimExpiry (nowMs : Instant) (claimTtlMs : ℚ) : Instant := nowMs + max 1 claimTtlMs.floor

/-- What an operation answers and makes of the one reservation it is about. -/
abbrev RecordOutcome :=
  Except StoreError (Option ArtifactUploadReservationRecord × ArtifactUploadReservationRecord)

namespace ArtifactUploadReservationRecord

variable (reservation : ArtifactUploadReservationRecord) (claim : ReservationClaim)
  (nowMs : Instant) (claimTtlMs : ℚ) (now : Instant)

def hasClaim : Bool :=
  decide (reservation.claimOwner = some claim.claimOwner) &&
    decide (reservation.claimToken = some claim.claimToken)

def claimIsActive : Bool :=
  reservation.claimOwner.isSome && reservation.claimToken.isSome &&
    reservation.claimExpiresAt.any fun expiresAt => decide (nowMs < expiresAt)

def retryIsDue : Bool :=
  reservation.nextCleanupAttemptAt.all fun attemptAt => decide (attemptAt ≤ nowMs)

/-- The record without its claim. -/
def unclaimed : ArtifactUploadReservationRecord :=
  { reservation with claimOwner := none, claimToken := none, claimExpiresAt := none }

def claimedBy :
    ArtifactUploadReservationRecord :=
  { reservation with
    claimOwner := some claim.claimOwner
    claimToken := some claim.claimToken
    claimExpiresAt := some (claimExpiry now claimTtlMs)
    updatedAt := now }

/-- The operation answers `null` and changes nothing. -/
def declined : RecordOutcome := .ok (none, reservation)

def answered : RecordOutcome := .ok (some reservation, reservation)

/-- The operation answers what it makes of the reservation. -/
def becomes (next : ArtifactUploadReservationRecord) : RecordOutcome := .ok (some next, next)

def claimFinalization :
    RecordOutcome :=
  let sameClaim := decide (reservation.status = .finalizing) && reservation.hasClaim claim
  let claimAvailable := decide (reservation.status = .reserved) ||
    (decide (reservation.status = .finalizing) &&
      reservation.claimExpiresAt.all (fun expiresAt => decide (expiresAt ≤ now)) &&
      reservation.retryIsDue now)
  if !sameClaim && !claimAvailable then reservation.declined
  else if reservation.status = .reserved ∧ reservation.expiresAt ≤ now then reservation.declined
  else
    becomes { reservation.claimedBy claim claimTtlMs now with
      status := .finalizing
      lastErrorCode := none }

def completeFinalization : RecordOutcome :=
  if reservation.status = .finalized then reservation.answered
  else if reservation.status ≠ .finalizing ∨ reservation.hasClaim claim = false then
    reservation.declined
  else
    becomes { reservation.unclaimed with
      status := .finalized
      nextCleanupAttemptAt := none
      lastErrorCode := none
      updatedAt := now }

def releaseClaim (input : ReleaseArtifactUploadClaimInput) (now : Instant) : RecordOutcome :=
  if reservation.status ≠ .finalizing ∨ reservation.hasClaim input.claim = false then
    reservation.answered
  else
    let finalizationAttempts := reservation.finalizationAttempts + 1
    let exhausted := input.cleanupOnExhaustion != some false &&
      decide (max 1 input.maxAttempts.floor ≤ (finalizationAttempts : Int))
    let released : ArtifactUploadReservationRecord :=
      { reservation.unclaimed with
        finalizationAttempts := finalizationAttempts
        lastErrorCode := some input.errorCode
        updatedAt := now }
    if exhausted then
      match isoDate input.cleanupNotBefore with
      | .error thrown => .error thrown
      | .ok cleanupNotBefore =>
        becomes { released with
          status := .cleanupPending
          cleanupReason := some (reservation.cleanupReason.getD .failed)
          cleanupRequestedAt := some (reservation.cleanupRequestedAt.getD now)
          nextCleanupAttemptAt := some (max now cleanupNotBefore) }
    else
      match isoDate input.retryAt with
      | .error thrown => .error thrown
      | .ok retryAt => becomes { released with nextCleanupAttemptAt := some retryAt }

def requestCleanup (input : RequestArtifactUploadCleanupInput) (now : Instant) : RecordOutcome :=
  if reservation.status = .cleaned ∨ reservation.status = .finalized then reservation.answered
  else if reservation.status = .cleanupPending ∧ (reservation.hasClaim input.claim ||
      reservation.claimIsActive now || !reservation.retryIsDue now) = true then
    reservation.answered
  else if reservation.status = .finalizing ∧
      (some reservation.claimOwner ≠ input.expectedFinalizationClaimOwner ∨
        some reservation.claimToken ≠ input.expectedFinalizationClaimToken) then
    reservation.declined
  else
    let cleanupPending : ArtifactUploadReservationRecord :=
      { reservation with
        status := .cleanupPending
        cleanupReason := some (reservation.cleanupReason.getD input.reason)
        cleanupRequestedAt := some (reservation.cleanupRequestedAt.getD now)
        nextCleanupAttemptAt := none
        lastErrorCode := none
        updatedAt := now }
    match input.cleanupNotBefore with
    | none => becomes (cleanupPending.claimedBy input.claim input.claimTtlMs now)
    | some cleanupNotBefore =>
      if now < cleanupNotBefore then
        becomes { cleanupPending.unclaimed with nextCleanupAttemptAt := some cleanupNotBefore }
      else becomes (cleanupPending.claimedBy input.claim input.claimTtlMs now)

def deferCleanup (retryAt : GivenDate) (now : Instant) :
    RecordOutcome :=
  if reservation.status ≠ .cleanupPending ∧ reservation.status ≠ .finalized then
    reservation.declined
  else if reservation.hasClaim claim = false then reservation.declined
  else
    match isoDate retryAt with
    | .error thrown => .error thrown
    | .ok retryAt =>
      becomes { reservation.unclaimed with
        cleanupPasses := reservation.cleanupPasses + 1
        nextCleanupAttemptAt := some retryAt
        lastErrorCode := none
        updatedAt := now }

/-- The guards of `completeCleanup`; what is done to a reservation that passes them depends
on its status. -/
def completeCleanup : RecordOutcome :=
  let settled : ArtifactUploadReservationRecord :=
    { reservation.unclaimed with
      nextCleanupAttemptAt := none
      lastErrorCode := none
      updatedAt := now }
  if reservation.status = .cleaned then reservation.answered
  else if reservation.status ≠ .cleanupPending ∧ reservation.status ≠ .finalized then
    reservation.declined
  else if reservation.hasClaim claim = false then reservation.declined
  else if reservation.cleanupPasses < 1 then reservation.declined
  else if reservation.status = .finalized then
    becomes { settled with stagingCleanedAt := some now }
  else becomes { settled with status := .cleaned }

def failCleanup (errorCode : String) (retryAt : GivenDate)
    (now : Instant) : RecordOutcome :=
  if reservation.status ≠ .cleanupPending ∧ reservation.status ≠ .finalized then
    reservation.answered
  else if reservation.hasClaim claim = false then reservation.answered
  else
    match isoDate retryAt with
    | .error thrown => .error thrown
    | .ok retryAt =>
      becomes { reservation.unclaimed with
        cleanupAttempts := reservation.cleanupAttempts + 1
        nextCleanupAttemptAt := some retryAt
        lastErrorCode := some errorCode
        updatedAt := now }

def reconcile (input : ClaimArtifactUploadReconciliationInput) (now : Instant) :
    Option ArtifactUploadReconciliationClaim :=
  let claimed := reservation.claimedBy input.claim input.claimTtlMs now
  let isExpired := decide (reservation.expiresAt ≤ now)
  match reservation.status with
  | .cleanupPending =>
    if reservation.claimIsActive now || !reservation.retryIsDue now then none
    else some ⟨.cleanup, claimed⟩
  | .finalized =>
    if reservation.stagingCleanedAt.isSome || !isExpired || reservation.claimIsActive now ||
        !reservation.retryIsDue now then none
    else some ⟨.cleanupStaging, claimed⟩
  | .reserved =>
    if !isExpired then none else some ⟨.finalize, { claimed with status := .finalizing }⟩
  | .finalizing =>
    if reservation.claimIsActive now || !reservation.retryIsDue now then none
    else some ⟨.finalize, { claimed with status := .finalizing }⟩
  | .cleaned => none

/-- What is handed back when the reservation is cleaned: nothing without a quota. -/
def refund : Option UsageQuotaAdjustment :=
  match reservation.quotaKey, reservation.quotaWindowStartedAtMs with
  | some quotaKey, some windowStartedAtMs =>
    if quotaKey = "" then none
    else some
      { orgId := reservation.orgId
        quotaKey := quotaKey
        windowStartedAtMs := windowStartedAtMs
        quantityDelta := -reservation.reservedBytes }
  | _, _ => none

/-- Terminal reservations that have not changed since a date are removed for good. -/
def prunable (olderThan : Instant) : Bool :=
  decide (reservation.updatedAt < olderThan) &&
    (decide (reservation.status = .cleaned) ||
      (decide (reservation.status = .finalized) && reservation.stagingCleanedAt.isSome))

end ArtifactUploadReservationRecord

/-- The reservations, and the sessions and usage counters behind their host. -/
structure ArtifactUploads where
  reservations : OrderedMap String ArtifactUploadReservationRecord
  domain : SessionsDomain Neighbours

structure CreatedReservation where
  reservation : Option ArtifactUploadReservationRecord
  quota : Option QuotaConsumptionRecord

namespace CreateArtifactUploadReservationInput

variable (input : CreateArtifactUploadReservationInput) (existing : ArtifactUploadReservationRecord)
  (publication : ArtifactUploadPublicationMetadata) (dateNow : Instant)

/-- `value || null` on optional text. -/
def orNull (value : Option String) : Option String := if value = some "" then none else value

/-- The comparison with an existing reservation up to the reserved bytes, which are
normalized only if everything before them is the same. -/
def sameUpload : Bool :=
  decide (existing.userId = input.userId) &&
    decide (existing.stagingObjectKey = textOr input.stagingObjectKey input.objectKey) &&
    decide (existing.finalObjectKey = textOr input.finalObjectKey input.objectKey) &&
    decide (existing.filename = input.filename) &&
    decide (existing.contentType = orNull input.contentType) &&
    decide (existing.checksumSha256 = orNull input.checksumSha256) &&
    decide (existing.publication = publication)

def normalizedBytes : Except StoreError ℚ :=
  normalizeNonNegativeInteger input.reservedBytes "Reserved artifact bytes"

/-- `input.createdAt || input.quota?.now || new Date()`. -/
def creationDate : GivenDate :=
  input.createdAt.getD (some ((input.quota.bind ConsumeUsageQuotaInput.now).getD dateNow))

def conflict : StoreError :=
  .error "Artifact upload idempotency key conflicts with an existing reservation."

/-- A repeated call answers the reservation that exists, or finds that it differs. -/
def replay : Except StoreError CreatedReservation :=
  if input.sameUpload existing publication = false then .error conflict
  else
    match input.normalizedBytes with
    | .error thrown => .error thrown
    | .ok reservedBytes =>
      if existing.reservedBytes = reservedBytes then .ok ⟨some existing, none⟩
      else .error conflict

def newReservation (reservedBytes : ℚ)
    (expiresAt now : Instant) : ArtifactUploadReservationRecord where
  orgId := input.orgId
  tenantId := input.tenantId
  userId := input.userId
  sessionId := input.sessionId
  artifactId := input.artifactId
  objectKey := input.objectKey
  stagingObjectKey := textOr input.stagingObjectKey input.objectKey
  finalObjectKey := textOr input.finalObjectKey input.objectKey
  filename := input.filename
  contentType := orNull input.contentType
  checksumSha256 := orNull input.checksumSha256
  stagingCleanedAt := none
  publication := publication
  quotaKey := input.quota.map ConsumeUsageQuotaInput.quotaKey
  quotaWindowMs := input.quota.map ConsumeUsageQuotaInput.windowMs
  quotaWindowStartedAtMs := input.quota.map fun quota =>
    Neighbours.quotaWindowStart (quota.now.getD now) quota.windowMs
  reservedBytes := reservedBytes
  status := .reserved
  cleanupReason := none
  cleanupRequestedAt := none
  claimOwner := none
  claimToken := none
  claimExpiresAt := none
  cleanupAttempts := 0
  cleanupPasses := 0
  finalizationAttempts := 0
  nextCleanupAttemptAt := none
  lastErrorCode := none
  expiresAt := expiresAt
  createdAt := now
  updatedAt := now

/-- The record as `create` writes it; its fields are evaluated in this order. -/
def recordOf :
    Except StoreError ArtifactUploadReservationRecord := do
  let reservedBytes ← input.normalizedBytes
  let expiresAt ← isoDate input.expiresAt
  let now ← isoDate (input.creationDate dateNow)
  return input.newReservation publication reservedBytes expiresAt now

end CreateArtifactUploadReservationInput

namespace ArtifactUploads

section

variable (audit : AuditEnvironment) (uploads : ArtifactUploads)

def consumeQuota (quota : Option ConsumeUsageQuotaInput) (dateNow : Instant) :
    Outcome Neighbours (Option QuotaConsumptionRecord) :=
  match quota with
  | none => (.ok none, uploads.domain.neighbours)
  | some quota =>
    match uploads.domain.neighbours.consumeUsageQuota dateNow quota with
    | (.error thrown, neighbours) => (.error thrown, neighbours)
    | (.ok consumed, neighbours) => (.ok (some consumed), neighbours)

/-- `create`. The quota reads the clock at `dateNow`, the record afterwards at `dateThen`. What
the quota has consumed by then stays consumed if the record cannot be written. -/
def create (input : CreateArtifactUploadReservationInput) (dateNow dateThen : Instant) :
    Outcome ArtifactUploads CreatedReservation :=
  if uploads.domain.neighbours.orgExists input.orgId = false then
    (.error (.error ("Unknown org " ++ input.orgId ++ ".")), uploads)
  else
  match uploads.domain.requireSession (Neighbours.host audit) input.tenantId input.sessionId with
  | .error thrown => (.error thrown, uploads)
  | .ok _ =>
  match normalizeArtifactUploadPublicationMetadata input.publication with
  | .error thrown => (.error thrown, uploads)
  | .ok publication =>
  let recordKey := reservationKey input.toArtifactUploadReservationIdentity
  match uploads.reservations.get recordKey with
  | some existing => (input.replay existing publication, uploads)
  | none =>
  match uploads.consumeQuota input.quota dateNow with
  | (.error thrown, neighbours) =>
    (.error thrown, { uploads with domain := { uploads.domain with neighbours } })
  | (.ok quota, neighbours) =>
    let charged := { uploads with domain := { uploads.domain with neighbours } }
    if quota.any (fun consumed => !consumed.allowed) then (.ok ⟨none, quota⟩, charged)
    else
      match input.recordOf publication dateThen with
      | .error thrown => (.error thrown, charged)
      | .ok reservation =>
        (.ok ⟨some reservation, quota⟩, { charged with
          reservations := charged.reservations.set recordKey reservation })

/-- Run an operation of one reservation in place; an unknown one answers `null`. -/
def withReservation (identity : ArtifactUploadReservationIdentity)
    (operation : ArtifactUploadReservationRecord → RecordOutcome) :
    Outcome ArtifactUploads (Option ArtifactUploadReservationRecord) :=
  let recordKey := reservationKey identity
  match uploads.reservations.get recordKey with
  | none => (.ok none, uploads)
  | some reservation =>
    match operation reservation with
    | .error thrown => (.error thrown, uploads)
    | .ok (answer, next) =>
      (.ok answer, { uploads with reservations := uploads.reservations.set recordKey next })

def handBack (refund : Option UsageQuotaAdjustment) : Outcome ArtifactUploads Unit :=
  match refund with
  | none => (.ok (), uploads)
  | some refund =>
    let (answer, neighbours) := uploads.domain.neighbours.adjustUsageQuota refund.orgId
      refund.quotaKey refund.windowStartedAtMs refund.quantityDelta
    (answer, { uploads with domain := { uploads.domain with neighbours } })

/-- `completeCleanup`: the quota is handed back between the guards and the change of status. -/
def completeCleanup (identity : ArtifactUploadReservationIdentity) (claim : ReservationClaim)
    (now : Instant) : Outcome ArtifactUploads (Option ArtifactUploadReservationRecord) :=
  let recordKey := reservationKey identity
  match uploads.reservations.get recordKey with
  | none => (.ok none, uploads)
  | some reservation =>
    match reservation.completeCleanup claim now with
    | .error thrown => (.error thrown, uploads)
    | .ok (answer, next) =>
      let refund := if reservation.status = .cleanupPending ∧ next.status = .cleaned then
        reservation.refund else none
      match uploads.handBack refund with
      | (.error thrown, refunded) => (.error thrown, refunded)
      | (.ok (), refunded) =>
        (.ok answer, { refunded with
          reservations := refunded.reservations.set recordKey next })

def reconcileEntries (input : ClaimArtifactUploadReconciliationInput) (now : Instant) :
    Nat → List (String × ArtifactUploadReservationRecord) →
      OrderedMap String ArtifactUploadReservationRecord →
      List ArtifactUploadReconciliationClaim × OrderedMap String ArtifactUploadReservationRecord
  | _, [], reservations => ([], reservations)
  | 0, _ :: _, reservations => ([], reservations)
  | limit + 1, (recordKey, reservation) :: rest, reservations =>
    match reservation.reconcile input now with
    | none => reconcileEntries input now (limit + 1) rest reservations
    | some claim =>
      let (claims, claimed) := reconcileEntries input now limit rest
        (reservations.set recordKey claim.reservation)
      (claim :: claims, claimed)

end

section

variable (env : Environment) (uploads : ArtifactUploads)
  (left right : String × ArtifactUploadReservationRecord)

def keyBefore : Prop := env.localeCompare left.1 right.1 ≠ .gt

instance : DecidableRel (keyBefore env) := fun left right =>
  inferInstanceAs (Decidable (env.localeCompare left.1 right.1 ≠ .gt))

/-- Least recently updated first, then by key. -/
def prunedBefore : Prop :=
  left.2.updatedAt < right.2.updatedAt ∨
    (left.2.updatedAt = right.2.updatedAt ∧ env.localeCompare left.1 right.1 ≠ .gt)

instance : DecidableRel (prunedBefore env) := fun left right =>
  inferInstanceAs (Decidable (left.2.updatedAt < right.2.updatedAt ∨
    (left.2.updatedAt = right.2.updatedAt ∧ env.localeCompare left.1 right.1 ≠ .gt)))

def claimReconciliation (input : ClaimArtifactUploadReconciliationInput) (now : Instant) :
    List ArtifactUploadReconciliationClaim × ArtifactUploads :=
  let (claims, reservations) := reconcileEntries input now input.limit.floor.toNat
    (uploads.reservations.entries.insertionSort (keyBefore env)) uploads.reservations
  (claims, { uploads with reservations })

def prune (input : PruneArtifactUploadReservationsInput) : Nat × ArtifactUploads :=
  let terminal := ((uploads.reservations.entries.filter fun entry =>
    entry.2.prunable input.olderThan).insertionSort (prunedBefore env)).take
      (min 1000 input.limit.floor.toNat)
  (terminal.length, { uploads with
    reservations := terminal.foldl (fun reservations entry => reservations.erase entry.1)
      uploads.reservations })

end

end ArtifactUploads

/-! ## The domain as a machine -/

inductive ReservationOperation where
  | create (input : CreateArtifactUploadReservationInput) (dateThen : Instant)
  | claimFinalization (identity : ArtifactUploadReservationIdentity) (claim : ReservationClaim)
      (claimTtlMs : ℚ)
  | completeFinalization (identity : ArtifactUploadReservationIdentity) (claim : ReservationClaim)
  | releaseClaim (identity : ArtifactUploadReservationIdentity)
      (input : ReleaseArtifactUploadClaimInput)
  | requestCleanup (identity : ArtifactUploadReservationIdentity)
      (input : RequestArtifactUploadCleanupInput)
  | deferCleanup (identity : ArtifactUploadReservationIdentity) (claim : ReservationClaim)
      (retryAt : GivenDate)
  | completeCleanup (identity : ArtifactUploadReservationIdentity) (claim : ReservationClaim)
  | failCleanup (identity : ArtifactUploadReservationIdentity) (claim : ReservationClaim)
      (errorCode : String) (retryAt : GivenDate)
  | claimReconciliation (input : ClaimArtifactUploadReconciliationInput)
  | prune (input : PruneArtifactUploadReservationsInput)

/-- An operation and the instant at which it is carried out. -/
structure ReservationRequest where
  now : Instant
  operation : ReservationOperation

inductive ReservationAnswer where
  | created (answer : Except StoreError CreatedReservation)
  | reservation (answer : Except StoreError (Option ArtifactUploadReservationRecord))
  | claims (claims : List ArtifactUploadReconciliationClaim)
  | pruned (count : Nat)

namespace ArtifactUploads

variable (env : Environment) (audit : AuditEnvironment)

def aboutOne (outcome : Outcome ArtifactUploads (Option ArtifactUploadReservationRecord)) :
    ReservationAnswer × ArtifactUploads :=
  (.reservation outcome.1, outcome.2)

def perform (uploads : ArtifactUploads) (request : ReservationRequest) :
    ReservationAnswer × ArtifactUploads :=
  match request.operation with
  | .create input dateThen =>
    let (answer, next) := uploads.create audit input request.now dateThen
    (.created answer, next)
  | .claimFinalization identity claim claimTtlMs =>
    aboutOne (uploads.withReservation identity
      (·.claimFinalization claim claimTtlMs request.now))
  | .completeFinalization identity claim =>
    aboutOne (uploads.withReservation identity (·.completeFinalization claim request.now))
  | .releaseClaim identity input =>
    aboutOne (uploads.withReservation identity (·.releaseClaim input request.now))
  | .requestCleanup identity input =>
    aboutOne (uploads.withReservation identity (·.requestCleanup input request.now))
  | .deferCleanup identity claim retryAt =>
    aboutOne (uploads.withReservation identity (·.deferCleanup claim retryAt request.now))
  | .completeCleanup identity claim => aboutOne (uploads.completeCleanup identity claim request.now)
  | .failCleanup identity claim errorCode retryAt =>
    aboutOne (uploads.withReservation identity
      (·.failCleanup claim errorCode retryAt request.now))
  | .claimReconciliation input =>
    let (claims, next) := uploads.claimReconciliation env input request.now
    (.claims claims, next)
  | .prune input =>
    let (count, next) := uploads.prune env input
    (.pruned count, next)

end ArtifactUploads

end OpenCowork.ControlPlane
