import OpenCowork.ControlPlane.Artifacts.LifeCycle

/-! # Creating a reservation

A reservation is written after its quota was consumed, and nothing takes the consumption
back: a field that cannot be written by then leaves the quota charged. The window on record
is computed anew, from a clock that need not be the one the quota went by.
-/

namespace OpenCowork.ControlPlane

open Foundation

variable {input : CreateArtifactUploadReservationInput} {quota : ConsumeUsageQuotaInput}
  {dateThen : Instant} {reservation : ArtifactUploadReservationRecord}

/-- What a call of `create` owes: a throwing one leaves everything as it was, and a reservation
that drew on a quota names the window it drew on, now and whenever it is handed back. -/
structure CreatesWhole (env : Environment) (audit : AuditEnvironment) (uploads : ArtifactUploads)
    (input : CreateArtifactUploadReservationInput) (dateNow dateThen : Instant) : Prop where
  atomic : ∀ thrown, (uploads.create audit input dateNow dateThen).1 = .error thrown →
    (uploads.create audit input dateNow dateThen).2 = uploads
  window : ∀ reservation quota,
    (uploads.create audit input dateNow dateThen).1 = .ok ⟨some reservation, some quota⟩ →
    ∃ consumed, input.quota = some consumed ∧
      reservation.quotaWindowStartedAtMs = some (consumed.window dateNow)
  refund : ∀ reservation quota,
    (uploads.create audit input dateNow dateThen).1 = .ok ⟨some reservation, some quota⟩ →
    ∀ requests later, (∀ moment ∈ (reservationMachine env audit).history
        (uploads.create audit input dateNow dateThen).2 requests,
      ReservationMoment.Keeps (reservationKey input.toArtifactUploadReservationIdentity) moment) →
    ((reservationMachine env audit).run
        (uploads.create audit input dateNow dateThen).2 requests).reservations.get
      (reservationKey input.toArtifactUploadReservationIdentity) = some later →
    ∀ refund, later.refund = some refund →
      ∃ consumed, input.quota = some consumed ∧ refund.quotaKey = consumed.quotaKey ∧
        refund.windowStartedAtMs = consumed.window dateNow

/-- The call gets as far as the quota: organisation, session and metadata are in order, and
the upload is new. -/
structure ReachesQuota (audit : AuditEnvironment) (uploads : ArtifactUploads)
    (input : CreateArtifactUploadReservationInput) : Prop where
  org : uploads.domain.neighbours.orgExists input.orgId = true
  session : ∃ session, uploads.domain.requireSession (Neighbours.host audit) input.tenantId
    input.sessionId = .ok session
  publication : ∃ publication,
    normalizeArtifactUploadPublicationMetadata input.publication = .ok publication
  new : uploads.reservations.get (reservationKey input.toArtifactUploadReservationIdentity) = none

/-- The record of an upload that drew on a quota can be written, and both clocks are in the
same window. -/
structure RecordsQuota (input : CreateArtifactUploadReservationInput)
    (quota : ConsumeUsageQuotaInput) (dateNow dateThen : Instant) : Prop where
  bytes : ∃ bytes, input.reservedBytes = some bytes ∧ bytes.den = 1 ∧ 0 ≤ bytes
  expires : ∃ expiresAt, input.expiresAt = some expiresAt
  date : ∃ now, input.creationDate dateThen = some now ∧
    Neighbours.quotaWindowStart (quota.now.getD now) quota.windowMs = quota.window dateNow

theorem normalizeNonNegativeInteger_ok_iff {value : Option ℚ} {label : String} :
    (∃ normalized, normalizeNonNegativeInteger value label = .ok normalized) ↔
      ∃ number, value = some number ∧ number.den = 1 ∧ 0 ≤ number := by
  unfold normalizeNonNegativeInteger
  cases value with
  | none => simp
  | some number =>
    by_cases hnumber : number.den = 1 ∧ 0 ≤ number
    · simp [hnumber]
    · simp [hnumber]

theorem isoDate_ok {date : GivenDate} {instant : Instant} (h : isoDate date = .ok instant) :
    date = some instant := by
  cases date with
  | none => exact nomatch h
  | some => rw [Except.ok.inj h]

/-- The call draws on a quota. -/
structure DrawsOn (audit : AuditEnvironment) (uploads : ArtifactUploads)
    (input : CreateArtifactUploadReservationInput) (dateNow : Instant)
    (quota : ConsumeUsageQuotaInput) : Prop where
  given : input.quota = some quota
  reaches : ReachesQuota audit uploads input
  allows : uploads.domain.neighbours.QuotaAllows quota dateNow

namespace ArtifactUploads

def charged (uploads : ArtifactUploads) (quota : ConsumeUsageQuotaInput) (dateNow : Instant) :
    ArtifactUploads :=
  { uploads with
    domain := { uploads.domain with
      neighbours := uploads.domain.neighbours.charged quota dateNow } }

def withRecord (uploads : ArtifactUploads) (input : CreateArtifactUploadReservationInput)
    (reservation : ArtifactUploadReservationRecord) : ArtifactUploads :=
  { uploads with
    reservations := uploads.reservations.set
      (reservationKey input.toArtifactUploadReservationIdentity) reservation }

/-- The ways in which a call of `create` ends. -/
inductive Creation (audit : AuditEnvironment) (uploads : ArtifactUploads)
    (input : CreateArtifactUploadReservationInput) (dateNow dateThen : Instant) :
    Outcome ArtifactUploads CreatedReservation → Prop
  | idle (answer : Except StoreError CreatedReservation)
      (hanswer : ∀ reservation quota, answer ≠ .ok ⟨some reservation, some quota⟩)
      (hundrawn : ∀ quota, ¬ DrawsOn audit uploads input dateNow quota) :
      Creation audit uploads input dateNow dateThen (answer, uploads)
  | free (reservation : ArtifactUploadReservationRecord) (hquota : input.quota = none) :
      Creation audit uploads input dateNow dateThen
        (.ok ⟨some reservation, none⟩, uploads.withRecord input reservation)
  | failed (quota : ConsumeUsageQuotaInput) (hdraws : DrawsOn audit uploads input dateNow quota)
      (publication : ArtifactUploadPublicationMetadata) (thrown : StoreError)
      (hrecord : input.recordOf publication dateThen = .error thrown) :
      Creation audit uploads input dateNow dateThen
        (.error thrown, uploads.charged quota dateNow)
  | written (quota : ConsumeUsageQuotaInput) (hdraws : DrawsOn audit uploads input dateNow quota)
      (publication : ArtifactUploadPublicationMetadata) (consumed : QuotaConsumptionRecord)
      (reservation : ArtifactUploadReservationRecord)
      (hrecord : input.recordOf publication dateThen = .ok reservation) :
      Creation audit uploads input dateNow dateThen (.ok ⟨some reservation, some consumed⟩,
        (uploads.charged quota dateNow).withRecord input reservation)

variable {audit : AuditEnvironment} {uploads : ArtifactUploads}
  {input : CreateArtifactUploadReservationInput} {dateNow dateThen : Instant}

inductive Consuming (uploads : ArtifactUploads) (quota : Option ConsumeUsageQuotaInput)
    (dateNow : Instant) : Outcome Neighbours (Option QuotaConsumptionRecord) → Prop
  | unmetered (hquota : quota = none) :
      Consuming uploads quota dateNow (.ok none, uploads.domain.neighbours)
  | thrown (error : StoreError)
      (hrefused : ∀ given, quota = some given →
        ¬ uploads.domain.neighbours.QuotaAllows given dateNow) :
      Consuming uploads quota dateNow (.error error, uploads.domain.neighbours)
  | refused (record : QuotaConsumptionRecord) (hrecord : record.allowed = false)
      (hrefused : ∀ given, quota = some given →
        ¬ uploads.domain.neighbours.QuotaAllows given dateNow) :
      Consuming uploads quota dateNow (.ok (some record), uploads.domain.neighbours)
  | granted (given : ConsumeUsageQuotaInput) (hquota : quota = some given)
      (hallows : uploads.domain.neighbours.QuotaAllows given dateNow)
      (record : QuotaConsumptionRecord) (hrecord : record.allowed = true) :
      Consuming uploads quota dateNow
        (.ok (some record), uploads.domain.neighbours.charged given dateNow)

theorem consumeQuota_consuming (uploads : ArtifactUploads)
    (quota : Option ConsumeUsageQuotaInput) (dateNow : Instant) :
    Consuming uploads quota dateNow (uploads.consumeQuota quota dateNow) := by
  cases quota with
  | none => exact .unmetered rfl
  | some given =>
    unfold consumeQuota
    dsimp only
    by_cases hallows : uploads.domain.neighbours.QuotaAllows given dateNow
    · obtain ⟨record, hrecord, hconsumed⟩ := Neighbours.consumeUsageQuota_of_allows hallows
      rw [hconsumed]
      exact .granted given rfl hallows record hrecord
    · have hrefused : ∀ other, some given = some other →
          ¬ uploads.domain.neighbours.QuotaAllows other dateNow :=
        fun _ hother => Option.some.inj hother ▸ hallows
      have hconsumption :=
        Neighbours.consumeUsageQuota_consumption uploads.domain.neighbours dateNow given
      generalize uploads.domain.neighbours.consumeUsageQuota dateNow given = outcome
        at hconsumption ⊢
      cases hconsumption with
      | thrown error => exact .thrown error hrefused
      | refused record hrecord => exact .refused record hrecord hrefused
      | granted _ _ hgranted => exact absurd hgranted hallows

theorem create_creation (audit : AuditEnvironment) (uploads : ArtifactUploads)
    (input : CreateArtifactUploadReservationInput) (dateNow dateThen : Instant) :
    Creation audit uploads input dateNow dateThen
      (uploads.create audit input dateNow dateThen) := by
  unfold create
  split
  next horg =>
    refine .idle _ (fun _ _ h => nomatch h) fun quota hdraws => ?_
    rw [hdraws.reaches.org] at horg
    exact nomatch horg
  next horg =>
  split
  next thrown hsession =>
    refine .idle _ (fun _ _ h => nomatch h) fun quota hdraws => ?_
    obtain ⟨session, hfound⟩ := hdraws.reaches.session
    exact nomatch hsession.symm.trans hfound
  next session hsession =>
  split
  next thrown hpublication =>
    refine .idle _ (fun _ _ h => nomatch h) fun quota hdraws => ?_
    obtain ⟨publication, hnormalized⟩ := hdraws.reaches.publication
    exact nomatch hpublication.symm.trans hnormalized
  next publication hpublication =>
  dsimp only
  split
  next hexisting =>
    refine .idle _ (fun reservation quota => ?_) fun quota hdraws =>
      nomatch hexisting.symm.trans hdraws.reaches.new
    unfold CreateArtifactUploadReservationInput.replay
    split
    · exact fun h => nomatch h
    split
    · exact fun h => nomatch h
    split
    · exact fun h => nomatch h
    · exact fun h => nomatch h
  next hnew =>
  have hreaches : ReachesQuota audit uploads input :=
    ⟨Bool.not_eq_false _ ▸ horg, ⟨session, hsession⟩, ⟨publication, hpublication⟩, hnew⟩
  have hconsuming := uploads.consumeQuota_consuming input.quota dateNow
  generalize uploads.consumeQuota input.quota dateNow = outcome at hconsuming ⊢
  cases hconsuming with
  | thrown _ hrefused =>
    exact .idle _ (fun _ _ h => nomatch h) fun quota hdraws =>
      hrefused quota hdraws.given hdraws.allows
  | refused _ hrecord hrefused =>
    dsimp only
    rw [if_pos (by simp [hrecord])]
    exact .idle _ (fun _ _ h => nomatch h) fun quota hdraws =>
      hrefused quota hdraws.given hdraws.allows
  | unmetered hquota =>
    dsimp only
    rw [if_neg (by simp)]
    split
    · exact .idle _ (fun _ _ h => nomatch h) fun _ hdraws =>
        nomatch hquota.symm.trans hdraws.given
    · exact .free _ hquota
  | granted given hquota hallows record hrecord =>
    dsimp only
    rw [if_neg (by simp [hrecord])]
    split
    next thrown hfailed =>
      exact .failed given ⟨hquota, hreaches, hallows⟩ publication thrown hfailed
    next reservation hwritten =>
      exact .written given ⟨hquota, hreaches, hallows⟩ publication record reservation hwritten

theorem charged_ne {quota : ConsumeUsageQuotaInput}
    (hallows : uploads.domain.neighbours.QuotaAllows quota dateNow) :
    uploads.charged quota dateNow ≠ uploads := by
  intro heq
  have hreading : (uploads.charged quota dateNow).domain.neighbours.reading quota.counterKey =
      uploads.domain.neighbours.reading quota.counterKey := by rw [heq]
  have hcharged := uploads.domain.neighbours.reading_charged quota dateNow quota.counterKey
  rw [if_pos rfl] at hcharged
  have hcounted : Reading.countedIn ((uploads.charged quota dateNow).domain.neighbours.reading
      quota.counterKey) (quota.window dateNow) =
      Reading.countedIn (uploads.domain.neighbours.reading quota.counterKey)
        (quota.window dateNow) + quota.amount := by
    rw [charged, hcharged]
    exact if_pos rfl
  rw [hreading] at hcounted
  linarith [hallows.amount.2]

end ArtifactUploads

theorem CreateArtifactUploadReservationInput.recordOf_of_records
    {dateNow : Instant} (hrecords : RecordsQuota input quota dateNow dateThen)
    (publication : ArtifactUploadPublicationMetadata) :
    ∃ reservation, input.recordOf publication dateThen = .ok reservation := by
  obtain ⟨bytes, hbytes⟩ := normalizeNonNegativeInteger_ok_iff.mpr hrecords.bytes
  obtain ⟨expiresAt, hexpires⟩ := hrecords.expires
  obtain ⟨now, hnow, _⟩ := hrecords.date
  refine ⟨input.newReservation publication bytes expiresAt now, ?_⟩
  have hnormalized : input.normalizedBytes = .ok bytes := hbytes
  rw [recordOf, hnormalized, hexpires, hnow]
  rfl

theorem CreateArtifactUploadReservationInput.window_of_recordOf
    {publication : ArtifactUploadPublicationMetadata} (hquota : input.quota = some quota)
    (h : input.recordOf publication dateThen = .ok reservation) :
    ∃ now, input.creationDate dateThen = some now ∧
      reservation.quotaKey = some quota.quotaKey ∧
      reservation.quotaWindowStartedAtMs =
        some (Neighbours.quotaWindowStart (quota.now.getD now) quota.windowMs) := by
  obtain ⟨_, _, now, _, _, hnow, rfl⟩ := input.recordOf_ok h
  refine ⟨now, isoDate_ok hnow, ?_, ?_⟩
  · simp only [newReservation, hquota, Option.map_some]
  · simp only [newReservation, hquota, Option.map_some]

theorem ArtifactUploadReservationRecord.refund_eq_some {refund : UsageQuotaAdjustment}
    (h : reservation.refund = some refund) :
    reservation.quotaKey = some refund.quotaKey ∧
      reservation.quotaWindowStartedAtMs = some refund.windowStartedAtMs := by
  unfold ArtifactUploadReservationRecord.refund at h
  split at h
  next hkey hwindow =>
    split at h
    · exact nomatch h
    · obtain rfl := Option.some.inj h
      exact ⟨hkey, hwindow⟩
  · exact nomatch h

/-- `create` is all-or-nothing, with the right window on record, exactly if the record of
every upload that draws on a quota can be written and both clocks are in the same window. -/
theorem create_whole_iff (env : Environment) (audit : AuditEnvironment)
    (uploads : ArtifactUploads) (input : CreateArtifactUploadReservationInput)
    (dateNow dateThen : Instant) :
    CreatesWhole env audit uploads input dateNow dateThen ↔
      ∀ quota, DrawsOn audit uploads input dateNow quota →
        RecordsQuota input quota dateNow dateThen := by
  have hcreation := uploads.create_creation audit input dateNow dateThen
  constructor
  · rintro ⟨hatomic, hwindow, _⟩ quota hdraws
    generalize uploads.create audit input dateNow dateThen = outcome at hcreation hatomic hwindow
    cases hcreation with
    | idle _ _ hundrawn => exact absurd hdraws (hundrawn quota)
    | free _ hquota => exact nomatch hquota.symm.trans hdraws.given
    | failed _ hgiven _ thrown =>
      exact absurd (hatomic thrown rfl) (ArtifactUploads.charged_ne hgiven.allows)
    | written given hgiven _ consumed reservation hrecord =>
      obtain rfl : given = quota := Option.mem_unique hgiven.given hdraws.given
      obtain ⟨bytes, expiresAt, _, hbytes, hexpires, _, _⟩ := input.recordOf_ok hrecord
      obtain ⟨now, hnow, _, hrecorded⟩ := input.window_of_recordOf hgiven.given hrecord
      obtain ⟨named, hnamed, hsame⟩ := hwindow reservation consumed rfl
      obtain rfl : given = named := Option.mem_unique hgiven.given hnamed
      exact ⟨normalizeNonNegativeInteger_ok_iff.mp ⟨bytes, hbytes⟩,
        ⟨expiresAt, isoDate_ok hexpires⟩,
        ⟨now, hnow, Option.mem_unique hrecorded hsame⟩⟩
  · intro hrecords
    -- a record that was written has the window that the quota went by
    have hwritten : ∀ quota publication reservation, DrawsOn audit uploads input dateNow quota →
        input.recordOf publication dateThen = .ok reservation →
        reservation.quotaKey = some quota.quotaKey ∧
          reservation.quotaWindowStartedAtMs = some (quota.window dateNow) := by
      intro quota publication reservation hdraws hrecord
      obtain ⟨now, hnow, hkey, hwindow⟩ := input.window_of_recordOf hdraws.given hrecord
      obtain ⟨instant, hinstant, hsame⟩ := (hrecords quota hdraws).date
      obtain rfl : now = instant := Option.mem_unique hnow hinstant
      exact ⟨hkey, hwindow.trans (congrArg some hsame)⟩
    refine ⟨?_, ?_, ?_⟩
    · intro thrown hthrown
      generalize uploads.create audit input dateNow dateThen = outcome at hcreation hthrown ⊢
      cases hcreation with
      | idle => rfl
      | free => exact nomatch hthrown
      | failed quota hdraws publication _ hrecord =>
        obtain ⟨reservation, hok⟩ := input.recordOf_of_records (hrecords quota hdraws) publication
        exact nomatch hrecord.symm.trans hok
      | written => exact nomatch hthrown
    · intro reservation consumed hanswer
      generalize uploads.create audit input dateNow dateThen = outcome at hcreation hanswer
      cases hcreation with
      | idle _ hnone => exact absurd hanswer (hnone reservation consumed)
      | free => exact nomatch hanswer
      | failed => exact nomatch hanswer
      | written quota hdraws publication _ record hrecord =>
        obtain ⟨rfl, _⟩ : record = reservation ∧ _ := by simpa using Except.ok.inj hanswer
        exact ⟨quota, hdraws.given, (hwritten quota publication record hdraws hrecord).2⟩
    · intro reservation consumed hanswer requests later hkeeps hlater refund hrefund
      generalize uploads.create audit input dateNow dateThen = outcome
        at hcreation hanswer hkeeps hlater
      cases hcreation with
      | idle _ hnone => exact absurd hanswer (hnone reservation consumed)
      | free => exact nomatch hanswer
      | failed => exact nomatch hanswer
      | written quota hdraws publication _ record hrecord =>
        obtain ⟨hkey, hwindow⟩ := hwritten quota publication record hdraws hrecord
        obtain ⟨next, hnext, hsame⟩ := ArtifactUploads.run_moves env audit requests
          (OrderedMap.get_set_self _ _ record) (SameReservation.refl record)
          (fun _ _ _ _ hsame hmoves => hsame.trans hmoves.2) hkeeps
        obtain rfl : later = next := Option.mem_unique hlater hnext
        rw [hsame.refund] at hrefund
        obtain ⟨hrefundKey, hrefundWindow⟩ := record.refund_eq_some hrefund
        exact ⟨quota, hdraws.given, Option.mem_unique hrefundKey hkey,
          Option.mem_unique hrefundWindow hwindow⟩

/-- The answer of a call and the counter of the quota after it. -/
def creationOutcome (input : CreateArtifactUploadReservationInput) (dateNow dateThen : Instant) :
    Except StoreError (Option (Option Int)) × Option (Int × ℚ) :=
  let (answer, after) := openUploads.create plainAudit input dateNow dateThen
  (answer.map fun created =>
      created.reservation.map ArtifactUploadReservationRecord.quotaWindowStartedAtMs,
    (after.domain.neighbours.usageCounters.get (key "t" "bytes")).map fun counter =>
      (counter.windowStartedAtMs, counter.quantity))

/-- A date of expiry that is none makes the call throw with the quota charged; a date of
creation before the window of the quota goes on record in its place. -/
theorem create_charges_and_misdates :
    creationOutcome { uploadRequest "a" 5 (some (byteQuota 5 none)) with expiresAt := none }
        110 110 = (.error (.error "Invalid time value"), some (100, 5)) ∧
      creationOutcome { uploadRequest "a" 5 (some (byteQuota 5 none)) with
        createdAt := some (some 90) } 110 110 = (.ok (some (some 0)), some (100, 5)) := by
  constructor <;> decide +kernel

end OpenCowork.ControlPlane
