import OpenCowork.ControlPlane.UsageQuotas
import OpenCowork.ControlPlane.Artifacts.Reservations

/-! # The life cycle of a reservation

Every operation moves one reservation along one kind of transition. Finalized and cleaned
reservations stay what they are, a cleanup claim is displaced by nobody before it expires,
and the quota is handed back in the step that cleans the reservation.
-/

namespace OpenCowork.ControlPlane

open Foundation ArtifactUploadReservationRecord OrderedMap

structure CleanupClaim where
  holder : ReservationClaim
  expiresAt : Instant
  deriving DecidableEq, Repr

namespace ArtifactUploadReservationRecord

/-- The claim on a reservation that is to be cleaned, or whose staging object is. -/
def cleanupClaim (reservation : ArtifactUploadReservationRecord) : Option CleanupClaim :=
  if reservation.status = .cleanupPending ∨ reservation.status = .finalized then
    match reservation.claimOwner, reservation.claimToken, reservation.claimExpiresAt with
    | some claimOwner, some claimToken, some expiresAt => some ⟨⟨claimOwner, claimToken⟩, expiresAt⟩
    | _, _, _ => none
  else none

end ArtifactUploadReservationRecord

namespace ReservationOperation

def Ends (recordKey : String) (holder : ReservationClaim) : ReservationOperation → Prop
  | .deferCleanup identity claim _ => reservationKey identity = recordKey ∧ claim = holder
  | .completeCleanup identity claim => reservationKey identity = recordKey ∧ claim = holder
  | .failCleanup identity claim _ _ => reservationKey identity = recordKey ∧ claim = holder
  | _ => False

def Completes (recordKey : String) (holder : ReservationClaim) (operation : ReservationOperation) :
    Prop :=
  ∃ identity, operation = .completeCleanup identity holder ∧ reservationKey identity = recordKey

theorem Completes.ends {recordKey : String} {holder : ReservationClaim}
    {operation : ReservationOperation} (h : operation.Completes recordKey holder) :
    operation.Ends recordKey holder := by
  obtain ⟨_, rfl, hkey⟩ := h
  exact ⟨hkey, rfl⟩

end ReservationOperation

structure SameReservation (before after : ArtifactUploadReservationRecord) : Prop where
  orgId : after.orgId = before.orgId
  quotaKey : after.quotaKey = before.quotaKey
  quotaWindowStartedAtMs : after.quotaWindowStartedAtMs = before.quotaWindowStartedAtMs
  reservedBytes : after.reservedBytes = before.reservedBytes

theorem SameReservation.refl (reservation : ArtifactUploadReservationRecord) :
    SameReservation reservation reservation := ⟨rfl, rfl, rfl, rfl⟩

theorem SameReservation.trans {first second third : ArtifactUploadReservationRecord}
    (hfirst : SameReservation first second) (hsecond : SameReservation second third) :
    SameReservation first third where
  orgId := hsecond.orgId.trans hfirst.orgId
  quotaKey := hsecond.quotaKey.trans hfirst.quotaKey
  quotaWindowStartedAtMs := hsecond.quotaWindowStartedAtMs.trans hfirst.quotaWindowStartedAtMs
  reservedBytes := hsecond.reservedBytes.trans hfirst.reservedBytes

theorem SameReservation.refund {before after : ArtifactUploadReservationRecord}
    (hsame : SameReservation before after) : after.refund = before.refund := by
  unfold ArtifactUploadReservationRecord.refund
  rw [hsame.orgId, hsame.quotaKey, hsame.quotaWindowStartedAtMs, hsame.reservedBytes]

/-- The kinds of change that one reservation goes through under an operation. -/
inductive ReservationTransition (recordKey : String) (now : Instant)
    (operation : ReservationOperation) (before after : ArtifactUploadReservationRecord) : Prop
  | kept (hafter : after = before)
  | finalizing (hbefore : before.status = .reserved ∨ before.status = .finalizing)
      (hafter : after.status = .finalizing)
  | finalized (hbefore : before.status = .finalizing) (hafter : after.status = .finalized)
      (hunclaimed : after.claimOwner = none)
  | abandoned (hbefore : before.status = .reserved ∨ before.status = .finalizing ∨
        (before.status = .cleanupPending ∧ before.claimIsActive now = false))
      (hafter : after.status = .cleanupPending) (hunclaimed : after.claimOwner = none)
  | pending (hbefore : before.status = .reserved ∨ before.status = .finalizing ∨
        (before.status = .cleanupPending ∧ before.claimIsActive now = false))
      (hafter : after.status = .cleanupPending)
      (hends : ∀ holder, ¬ operation.Ends recordKey holder)
  | reclaimed (hbefore : before.status = .cleanupPending ∨ before.status = .finalized)
      (hfree : before.claimIsActive now = false) (hafter : after.status = before.status)
      (hends : ∀ holder, ¬ operation.Ends recordKey holder)
  | givenUp (holder : ReservationClaim) (hholder : before.hasClaim holder = true)
      (hends : operation.Ends recordKey holder)
      (hbefore : before.status = .cleanupPending ∨ before.status = .finalized)
      (hafter : after.status = before.status) (hunclaimed : after.claimOwner = none)
  | cleaned (holder : ReservationClaim) (hholder : before.hasClaim holder = true)
      (hcompletes : operation.Completes recordKey holder)
      (hbefore : before.status = .cleanupPending) (hafter : after.status = .cleaned)

namespace ArtifactUploadReservationRecord

variable {now : Instant} {reservation next : ArtifactUploadReservationRecord}
  {answer : Option ArtifactUploadReservationRecord} {recordKey : String}

theorem becomes_ok {made : ArtifactUploadReservationRecord}
    (h : becomes made = .ok (answer, next)) : next = made :=
  (Prod.mk.inj (Except.ok.inj h)).2.symm

theorem declined_ok (h : reservation.declined = .ok (answer, next)) : next = reservation :=
  (Prod.mk.inj (Except.ok.inj h)).2.symm

theorem answered_ok (h : reservation.answered = .ok (answer, next)) : next = reservation :=
  (Prod.mk.inj (Except.ok.inj h)).2.symm

/-- One kind of change, which leaves the quota on record. -/
def Moves (recordKey : String) (now : Instant) (operation : ReservationOperation)
    (before after : ArtifactUploadReservationRecord) : Prop :=
  ReservationTransition recordKey now operation before after ∧ SameReservation before after

theorem Moves.kept {operation : ReservationOperation}
    (hafter : next = reservation) : Moves recordKey now operation reservation next :=
  ⟨.kept hafter, hafter ▸ .refl reservation⟩

section

variable (identity : ArtifactUploadReservationIdentity) {claim : ReservationClaim}
  {retryAt : GivenDate}

theorem claimFinalization_moves {claimTtlMs : ℚ}
    (h : reservation.claimFinalization claim claimTtlMs now = .ok (answer, next)) :
    Moves (reservationKey identity) now (.claimFinalization identity claim claimTtlMs)
      reservation next := by
  unfold claimFinalization at h
  dsimp only at h
  split at h
  · exact .kept (declined_ok h)
  next hclaim =>
    split at h
    · exact .kept (declined_ok h)
    · obtain rfl := becomes_ok h
      refine ⟨.finalizing ?_ rfl, ⟨rfl, rfl, rfl, rfl⟩⟩
      by_contra hstatus
      obtain ⟨hreserved, hfinalizing⟩ := not_or.mp hstatus
      simp [hreserved, hfinalizing] at hclaim

theorem completeFinalization_moves
    (h : reservation.completeFinalization claim now = .ok (answer, next)) :
    Moves (reservationKey identity) now (.completeFinalization identity claim)
      reservation next := by
  unfold completeFinalization at h
  split at h
  · exact .kept (answered_ok h)
  split at h
  · exact .kept (declined_ok h)
  next hclaim =>
    obtain rfl := becomes_ok h
    exact ⟨.finalized (not_not.mp (not_or.mp hclaim).1) rfl rfl, ⟨rfl, rfl, rfl, rfl⟩⟩

theorem releaseClaim_moves {input : ReleaseArtifactUploadClaimInput}
    (h : reservation.releaseClaim input now = .ok (answer, next)) :
    Moves (reservationKey identity) now (.releaseClaim identity input) reservation next := by
  unfold releaseClaim at h
  split at h
  · exact .kept (answered_ok h)
  next hclaim =>
  have hstatus : reservation.status = .finalizing := not_not.mp (not_or.mp hclaim).1
  dsimp only at h
  split at h
  · split at h
    · exact nomatch h
    · obtain rfl := becomes_ok h
      exact ⟨.abandoned (.inr (.inl hstatus)) rfl rfl, ⟨rfl, rfl, rfl, rfl⟩⟩
  · split at h
    · exact nomatch h
    · obtain rfl := becomes_ok h
      exact ⟨.finalizing (.inr hstatus) hstatus, ⟨rfl, rfl, rfl, rfl⟩⟩

theorem requestCleanup_moves {input : RequestArtifactUploadCleanupInput}
    (h : reservation.requestCleanup input now = .ok (answer, next)) :
    Moves (reservationKey identity) now (.requestCleanup identity input) reservation next := by
  unfold requestCleanup at h
  split at h
  · exact .kept (answered_ok h)
  next hopen =>
  split at h
  · exact .kept (answered_ok h)
  next hfree =>
  split at h
  · exact .kept (declined_ok h)
  -- neither settled nor under a claim that still runs
  have hbefore : reservation.status = .reserved ∨ reservation.status = .finalizing ∨
      (reservation.status = .cleanupPending ∧ reservation.claimIsActive now = false) := by
    obtain ⟨hcleaned, hfinalized⟩ := not_or.mp hopen
    cases hstatus : reservation.status with
    | reserved => exact .inl rfl
    | finalizing => exact .inr (.inl rfl)
    | finalized => exact absurd hstatus hfinalized
    | cleanupPending =>
      refine .inr (.inr ⟨rfl, ?_⟩)
      cases hactive : reservation.claimIsActive now with
      | false => rfl
      | true => exact absurd ⟨hstatus, by simp [hactive]⟩ hfree
    | cleaned => exact absurd hstatus hcleaned
  dsimp only at h
  split at h
  · obtain rfl := becomes_ok h
    exact ⟨.pending hbefore rfl fun _ hends => hends, ⟨rfl, rfl, rfl, rfl⟩⟩
  split at h
  · obtain rfl := becomes_ok h
    exact ⟨.abandoned hbefore rfl rfl, ⟨rfl, rfl, rfl, rfl⟩⟩
  · obtain rfl := becomes_ok h
    exact ⟨.pending hbefore rfl fun _ hends => hends, ⟨rfl, rfl, rfl, rfl⟩⟩

theorem cleanable {status : ArtifactUploadReservationStatus}
    (h : ¬(status ≠ .cleanupPending ∧ status ≠ .finalized)) :
    status = .cleanupPending ∨ status = .finalized := by
  by_contra hneither
  exact h (not_or.mp hneither)

theorem deferCleanup_moves (h : reservation.deferCleanup claim retryAt now = .ok (answer, next)) :
    Moves (reservationKey identity) now (.deferCleanup identity claim retryAt)
      reservation next := by
  unfold deferCleanup at h
  split at h
  · exact .kept (declined_ok h)
  next hstatus =>
  split at h
  · exact .kept (declined_ok h)
  next hclaim =>
  split at h
  · exact nomatch h
  · obtain rfl := becomes_ok h
    exact ⟨.givenUp claim (Bool.not_eq_false _ ▸ hclaim) ⟨rfl, rfl⟩ (cleanable hstatus) rfl rfl,
      ⟨rfl, rfl, rfl, rfl⟩⟩

theorem failCleanup_moves {errorCode : String}
    (h : reservation.failCleanup claim errorCode retryAt now = .ok (answer, next)) :
    Moves (reservationKey identity) now (.failCleanup identity claim errorCode retryAt)
      reservation next := by
  unfold failCleanup at h
  split at h
  · exact .kept (answered_ok h)
  next hstatus =>
  split at h
  · exact .kept (answered_ok h)
  next hclaim =>
  split at h
  · exact nomatch h
  · obtain rfl := becomes_ok h
    exact ⟨.givenUp claim (Bool.not_eq_false _ ▸ hclaim) ⟨rfl, rfl⟩ (cleanable hstatus) rfl rfl,
      ⟨rfl, rfl, rfl, rfl⟩⟩

theorem completeCleanup_moves (h : reservation.completeCleanup claim now = .ok (answer, next)) :
    Moves (reservationKey identity) now (.completeCleanup identity claim) reservation next := by
  unfold completeCleanup at h
  dsimp only at h
  split at h
  · exact .kept (answered_ok h)
  split at h
  · exact .kept (declined_ok h)
  next hstatus =>
  split at h
  · exact .kept (declined_ok h)
  next hclaim =>
  have hholder : reservation.hasClaim claim = true := Bool.not_eq_false _ ▸ hclaim
  split at h
  · exact .kept (declined_ok h)
  split at h
  next hfinalized =>
    obtain rfl := becomes_ok h
    exact ⟨.givenUp claim hholder ⟨rfl, rfl⟩ (.inr hfinalized) rfl rfl, ⟨rfl, rfl, rfl, rfl⟩⟩
  next hfinalized =>
    obtain rfl := becomes_ok h
    exact ⟨.cleaned claim hholder ⟨identity, rfl, rfl⟩
      ((cleanable hstatus).resolve_right hfinalized) rfl, ⟨rfl, rfl, rfl, rfl⟩⟩

end

theorem reconcile_moves {input : ClaimArtifactUploadReconciliationInput}
    {claim : ArtifactUploadReconciliationClaim} (h : reservation.reconcile input now = some claim) :
    Moves recordKey now (.claimReconciliation input) reservation claim.reservation := by
  unfold reconcile at h
  dsimp only at h
  split at h
  next hstatus =>
    split at h
    · exact nomatch h
    next hfree =>
      obtain rfl := Option.some.inj h
      simp only [Bool.or_eq_true, not_or, Bool.not_eq_true] at hfree
      exact ⟨.reclaimed (.inl hstatus) hfree.1 rfl fun _ hends => hends, ⟨rfl, rfl, rfl, rfl⟩⟩
  next hstatus =>
    split at h
    · exact nomatch h
    next hfree =>
      obtain rfl := Option.some.inj h
      simp only [Bool.or_eq_true, not_or, Bool.not_eq_true] at hfree
      exact ⟨.reclaimed (.inr hstatus) hfree.1.2 rfl fun _ hends => hends, ⟨rfl, rfl, rfl, rfl⟩⟩
  next hstatus =>
    split at h
    · exact nomatch h
    · obtain rfl := Option.some.inj h
      exact ⟨.finalizing (.inl hstatus) rfl, ⟨rfl, rfl, rfl, rfl⟩⟩
  next hstatus =>
    split at h
    · exact nomatch h
    · obtain rfl := Option.some.inj h
      exact ⟨.finalizing (.inr hstatus) rfl, ⟨rfl, rfl, rfl, rfl⟩⟩
  · exact nomatch h

end ArtifactUploadReservationRecord

theorem CreateArtifactUploadReservationInput.recordOf_ok
    (input : CreateArtifactUploadReservationInput)
    {publication : ArtifactUploadPublicationMetadata} {dateNow : Instant}
    {reservation : ArtifactUploadReservationRecord}
    (h : input.recordOf publication dateNow = .ok reservation) :
    ∃ reservedBytes expiresAt now, input.normalizedBytes = .ok reservedBytes ∧
      isoDate input.expiresAt = .ok expiresAt ∧ isoDate (input.creationDate dateNow) = .ok now ∧
      reservation = input.newReservation publication reservedBytes expiresAt now := by
  unfold recordOf at h
  cases hbytes : input.normalizedBytes with
  | error =>
    rw [hbytes] at h
    exact nomatch h
  | ok reservedBytes =>
  cases hexpires : isoDate input.expiresAt with
  | error =>
    rw [hbytes, hexpires] at h
    exact nomatch h
  | ok expiresAt =>
  cases hnow : isoDate (input.creationDate dateNow) with
  | error =>
    rw [hbytes, hexpires, hnow] at h
    exact nomatch h
  | ok now =>
    rw [hbytes, hexpires, hnow] at h
    exact ⟨reservedBytes, expiresAt, now, rfl, rfl, rfl, (Except.ok.inj h).symm⟩

inductive KeyChange (recordKey : String) (request : ReservationRequest)
    (before after : Option ArtifactUploadReservationRecord) : Prop
  | same (hafter : after = before)
  | created (reservation : ArtifactUploadReservationRecord) (hbefore : before = none)
      (hafter : after = some reservation) (hstatus : reservation.status = .reserved)
  | moved (reservation next : ArtifactUploadReservationRecord) (hbefore : before = some reservation)
      (hafter : after = some next)
      (hmoves : reservation.Moves recordKey request.now request.operation next)
  | removed (reservation : ArtifactUploadReservationRecord) (hbefore : before = some reservation)
      (hafter : after = none)

namespace ArtifactUploads

variable {uploads : ArtifactUploads} {request : ReservationRequest} {recordKey : String}
  {identity : ArtifactUploadReservationIdentity} {now : Instant}

theorem KeyChange.of_set {reservation next : ArtifactUploadReservationRecord} {own : String}
    (hget : uploads.reservations.get own = some reservation)
    (hmoves : reservation.Moves own request.now request.operation next) :
    KeyChange recordKey request (uploads.reservations.get recordKey)
      ((uploads.reservations.set own next).get recordKey) := by
  by_cases hkey : own = recordKey
  · subst hkey
    exact .moved reservation next hget (get_set_self _ _ _) hmoves
  · exact .same (get_set_of_ne _ _ hkey)

theorem withReservation_change {operation : ArtifactUploadReservationRecord → RecordOutcome}
    (hmoves : ∀ reservation answer next, operation reservation = .ok (answer, next) →
      reservation.Moves (reservationKey identity) request.now request.operation next) :
    KeyChange recordKey request (uploads.reservations.get recordKey)
      ((uploads.withReservation identity operation).2.reservations.get recordKey) := by
  unfold withReservation
  dsimp only
  split
  · exact .same rfl
  next reservation hget =>
  split
  · exact .same rfl
  next answer next hoperation =>
  exact KeyChange.of_set hget (hmoves reservation answer next hoperation)

theorem withReservation_domain (uploads : ArtifactUploads)
    (identity : ArtifactUploadReservationIdentity)
    (operation : ArtifactUploadReservationRecord → RecordOutcome) :
    (uploads.withReservation identity operation).2.domain = uploads.domain := by
  unfold withReservation
  dsimp only
  split
  · rfl
  split <;> rfl

theorem handBack_reservations (refund : Option UsageQuotaAdjustment) :
    (uploads.handBack refund).2.reservations = uploads.reservations := by
  unfold handBack
  split <;> rfl

theorem completeCleanup_change {claim : ReservationClaim}
    (hrequest : request = ⟨now, .completeCleanup identity claim⟩) :
    KeyChange recordKey request (uploads.reservations.get recordKey)
      ((uploads.completeCleanup identity claim now).2.reservations.get recordKey) := by
  subst hrequest
  unfold completeCleanup
  dsimp only
  split
  · exact .same rfl
  next reservation hget =>
  split
  · exact .same rfl
  next next hcleanup =>
  split
  next _ hback =>
    have hkept := uploads.handBack_reservations
      (if reservation.status = .cleanupPending ∧ next.status = .cleaned then
        reservation.refund else none)
    rw [hback] at hkept
    exact .same (by rw [hkept])
  next hback =>
    have hkept := uploads.handBack_reservations
      (if reservation.status = .cleanupPending ∧ next.status = .cleaned then
        reservation.refund else none)
    rw [hback] at hkept
    dsimp only at hkept ⊢
    rw [hkept]
    exact KeyChange.of_set hget (completeCleanup_moves identity hcleanup)

variable (input : ClaimArtifactUploadReconciliationInput)
include input

theorem reconcileEntries_get_of_not_mem (now : Instant) {limit : Nat}
    {entries : List (String × ArtifactUploadReservationRecord)}
    {reservations : OrderedMap String ArtifactUploadReservationRecord}
    (habsent : recordKey ∉ entries.map Prod.fst) :
    (reconcileEntries input now limit entries reservations).2.get recordKey =
      reservations.get recordKey := by
  induction entries generalizing limit reservations with
  | nil => cases limit <;> rfl
  | cons entry _ ih =>
    obtain ⟨_, _⟩ := entry
    rw [List.map_cons, List.mem_cons, not_or] at habsent
    obtain ⟨hne, hrest⟩ := habsent
    cases limit with
    | zero => rfl
    | succ =>
      rw [reconcileEntries]
      split
      · exact ih hrest
      · dsimp only
        rw [ih hrest, get_set_of_ne _ _ (Ne.symm hne)]

/-- The reconciliation claims each reservation at most once, as the snapshot has it. -/
theorem reconcileEntries_get (now : Instant) (limit : Nat)
    (entries : List (String × ArtifactUploadReservationRecord))
    (reservations : OrderedMap String ArtifactUploadReservationRecord)
    (hdistinct : (entries.map Prod.fst).Nodup)
    (hentries : ∀ entry ∈ entries, reservations.get entry.1 = some entry.2) (recordKey : String) :
    (reconcileEntries input now limit entries reservations).2.get recordKey =
        reservations.get recordKey ∨
      ∃ reservation claim, reservations.get recordKey = some reservation ∧
        reservation.reconcile input now = some claim ∧
        (reconcileEntries input now limit entries reservations).2.get recordKey =
          some claim.reservation := by
  induction entries generalizing limit reservations with
  | nil => exact .inl (by cases limit <;> rfl)
  | cons entry rest ih =>
    obtain ⟨own, reservation⟩ := entry
    rw [List.map_cons, List.nodup_cons] at hdistinct
    have hown : reservations.get own = some reservation := hentries _ (.head _)
    have hrest : ∀ entry ∈ rest, reservations.get entry.1 = some entry.2 :=
      fun entry hentry => hentries entry (.tail _ hentry)
    cases limit with
    | zero => exact .inl rfl
    | succ limit =>
      rw [reconcileEntries]
      split
      · exact ih _ _ hdistinct.2 hrest
      next claim hclaim =>
      by_cases hkey : own = recordKey
      · subst hkey
        refine .inr ⟨reservation, claim, hown, hclaim, ?_⟩
        rw [reconcileEntries_get_of_not_mem input now hdistinct.1, get_set_self]
      · have hlater : ∀ entry ∈ rest,
            (reservations.set own claim.reservation).get entry.1 = some entry.2 := by
          intro entry hentry
          have hne : own ≠ entry.1 := by
            intro heq
            have hmem : entry.1 ∈ rest.map Prod.fst := List.mem_map_of_mem hentry
            exact hdistinct.1 (heq ▸ hmem)
          rw [get_set_of_ne _ _ hne]
          exact hrest entry hentry
        have hnext := ih limit _ hdistinct.2 hlater
        rwa [get_set_of_ne _ _ hkey] at hnext

omit input

theorem claimReconciliation_change (env : Environment)
    {input : ClaimArtifactUploadReconciliationInput}
    (hrequest : request = ⟨now, .claimReconciliation input⟩) :
    KeyChange recordKey request (uploads.reservations.get recordKey)
      ((uploads.claimReconciliation env input now).2.reservations.get recordKey) := by
  subst hrequest
  have hperm := List.perm_insertionSort (keyBefore env) uploads.reservations.entries
  have hget := reconcileEntries_get input now input.limit.floor.toNat _ uploads.reservations
    ((hperm.map Prod.fst).nodup_iff.mpr uploads.reservations.nodupKeys)
    (fun _ hentry =>
      (get_eq_some_iff _ _ _).mpr (hperm.mem_iff.mp hentry)) recordKey
  rcases hget with hsame | ⟨reservation, claim, hbefore, hclaim, hafter⟩
  · exact .same hsame
  · exact .moved reservation claim.reservation hbefore hafter (reconcile_moves hclaim)

theorem get_foldl_erase (entries : List (String × ArtifactUploadReservationRecord))
    (reservations : OrderedMap String ArtifactUploadReservationRecord) (recordKey : String) :
    (entries.foldl (fun reservations entry => reservations.erase entry.1) reservations).get
        recordKey = reservations.get recordKey ∨
      (entries.foldl (fun reservations entry => reservations.erase entry.1) reservations).get
        recordKey = none := by
  induction entries generalizing reservations with
  | nil => exact .inl rfl
  | cons entry _ ih =>
    rw [List.foldl_cons]
    by_cases hkey : entry.1 = recordKey
    · right
      rcases ih (reservations.erase entry.1) with hsame | hnone
      · rw [hsame, hkey, get_erase_self]
      · exact hnone
    · have hnext := ih (reservations.erase entry.1)
      rwa [get_erase_of_ne _ hkey] at hnext

theorem prune_change (env : Environment) (input : PruneArtifactUploadReservationsInput) :
    KeyChange recordKey request (uploads.reservations.get recordKey)
      ((uploads.prune env input).2.reservations.get recordKey) := by
  have herased := get_foldl_erase (((uploads.reservations.entries.filter fun entry =>
    entry.2.prunable input.olderThan).insertionSort (prunedBefore env)).take
      (min 1000 input.limit.floor.toNat)) uploads.reservations recordKey
  rcases herased with hsame | hnone
  · exact .same hsame
  · cases hbefore : uploads.reservations.get recordKey with
    | none => exact .same hnone
    | some => exact .removed _ rfl hnone

theorem create_change (audit : AuditEnvironment) {input : CreateArtifactUploadReservationInput}
    {dateNow dateThen : Instant} :
    KeyChange recordKey request (uploads.reservations.get recordKey)
      ((uploads.create audit input dateNow dateThen).2.reservations.get recordKey) := by
  unfold create
  dsimp only
  split
  · exact .same rfl
  split
  · exact .same rfl
  split
  · exact .same rfl
  split
  · exact .same rfl
  next hfree =>
  split
  · exact .same rfl
  split
  · exact .same rfl
  split
  · exact .same rfl
  next hrecord =>
  by_cases hkey : reservationKey input.toArtifactUploadReservationIdentity = recordKey
  · subst hkey
    obtain ⟨_, _, _, _, _, _, rfl⟩ := input.recordOf_ok hrecord
    exact .created _ hfree (get_set_self _ _ _) rfl
  · exact .same (get_set_of_ne _ _ hkey)

theorem perform_change (env : Environment) (audit : AuditEnvironment) (uploads : ArtifactUploads)
    (request : ReservationRequest) (recordKey : String) :
    KeyChange recordKey request (uploads.reservations.get recordKey)
      ((uploads.perform env audit request).2.reservations.get recordKey) := by
  obtain ⟨_, operation⟩ := request
  cases operation with
  | create => exact create_change audit
  | claimFinalization =>
    exact withReservation_change fun _ _ _ h => claimFinalization_moves _ h
  | completeFinalization =>
    exact withReservation_change fun _ _ _ h => completeFinalization_moves _ h
  | releaseClaim =>
    exact withReservation_change fun _ _ _ h => releaseClaim_moves _ h
  | requestCleanup =>
    exact withReservation_change fun _ _ _ h => requestCleanup_moves _ h
  | deferCleanup =>
    exact withReservation_change fun _ _ _ h => deferCleanup_moves _ h
  | completeCleanup => exact completeCleanup_change rfl
  | failCleanup =>
    exact withReservation_change fun _ _ _ h => failCleanup_moves _ h
  | claimReconciliation => exact claimReconciliation_change env rfl
  | prune input => exact prune_change env input

end ArtifactUploads

/-! ## Runs -/

def reservationMachine (env : Environment) (audit : AuditEnvironment) :
    Machine ArtifactUploads ReservationRequest ReservationAnswer where
  step := ArtifactUploads.perform env audit

abbrev ReservationMoment := Moment ArtifactUploads ReservationRequest ReservationAnswer

def ArtifactUploads.cleanupClaimAt (uploads : ArtifactUploads) (recordKey : String) :
    Option CleanupClaim :=
  (uploads.reservations.get recordKey).bind ArtifactUploadReservationRecord.cleanupClaim

namespace ReservationMoment

variable (recordKey : String) (moment : ReservationMoment)

/-- The reservation is not pruned in this moment. -/
def Keeps : Prop :=
  moment.after.reservations.get recordKey = none → moment.before.reservations.get recordKey = none

def Cleans : Prop :=
  ∃ reservation next, moment.before.reservations.get recordKey = some reservation ∧
    reservation.status = .cleanupPending ∧
    moment.after.reservations.get recordKey = some next ∧ next.status = .cleaned

def Issues (claim : CleanupClaim) : Prop :=
  moment.after.cleanupClaimAt recordKey = some claim ∧
    moment.before.cleanupClaimAt recordKey ≠ some claim

/-- The quota is handed back for the reservation that the moment cleans, and for no other; all
else that reaches the counters is what a new reservation consumes. -/
structure RefundsCleaned : Prop where
  cleaned : ∀ recordKey reservation, moment.Cleans recordKey →
    moment.before.reservations.get recordKey = some reservation →
    moment.after.domain = (moment.before.handBack reservation.refund).2.domain
  otherwise : (∀ recordKey, ¬ moment.Cleans recordKey) →
    moment.after.domain = moment.before.domain ∨
      ∃ input dateThen, moment.input.operation = .create input dateThen ∧
        moment.after.domain = { moment.before.domain with
          neighbours := (moment.before.consumeQuota input.quota moment.input.now).2 }

end ReservationMoment

section Steps

variable {recordKey : String}

namespace ArtifactUploadReservationRecord

variable {reservation next : ArtifactUploadReservationRecord} {claim : CleanupClaim} {now : Instant}
  {operation : ReservationOperation}

theorem cleanupClaim_of_unclaimed (h : reservation.claimOwner = none) :
    reservation.cleanupClaim = none := by
  unfold cleanupClaim
  rw [h]
  split <;> rfl

theorem cleanupClaim_of_status (hpending : reservation.status ≠ .cleanupPending)
    (hfinalized : reservation.status ≠ .finalized) : reservation.cleanupClaim = none := by
  unfold cleanupClaim
  rw [if_neg (not_or.mpr ⟨hpending, hfinalized⟩)]

variable (h : reservation.cleanupClaim = some claim)
include h

theorem cleanupClaim_eq_some :
    (reservation.status = .cleanupPending ∨ reservation.status = .finalized) ∧
      reservation.claimOwner = some claim.holder.claimOwner ∧
      reservation.claimToken = some claim.holder.claimToken ∧
      reservation.claimExpiresAt = some claim.expiresAt := by
  unfold cleanupClaim at h
  split at h
  next hstatus =>
    split at h
    next howner htoken hexpires =>
      obtain rfl := Option.some.inj h
      exact ⟨hstatus, howner, htoken, hexpires⟩
    · exact nomatch h
  · exact nomatch h

theorem claimIsActive_iff
    (now : Instant) : reservation.claimIsActive now = true ↔ now < claim.expiresAt := by
  obtain ⟨_, howner, htoken, hexpires⟩ := cleanupClaim_eq_some h
  unfold claimIsActive
  rw [howner, htoken, hexpires]
  simp

theorem holder_of_hasClaim {holder : ReservationClaim}
    (hholder : reservation.hasClaim holder = true) : holder = claim.holder := by
  obtain ⟨_, howner, htoken, _⟩ := cleanupClaim_eq_some h
  unfold hasClaim at hholder
  rw [howner, htoken, Bool.and_eq_true] at hholder
  have howners := Option.some.inj (of_decide_eq_true hholder.1)
  have htokens := Option.some.inj (of_decide_eq_true hholder.2)
  exact (congrArg₂ ReservationClaim.mk howners htokens).symm

omit h

variable (hmoves : reservation.Moves recordKey now operation next)
include hmoves

theorem Moves.settled (hsettled : reservation.status = .finalized ∨ reservation.status = .cleaned) :
    next.status = reservation.status := by
  cases hmoves.1 with
  | kept hafter => rw [hafter]
  | finalizing hbefore | finalized hbefore | abandoned hbefore | pending hbefore
  | cleaned _ _ _ hbefore =>
    rcases hsettled with h | h <;> rw [h] at hbefore <;> simp at hbefore
  | reclaimed _ _ hafter | givenUp _ _ _ _ hafter => exact hafter

theorem Moves.keeps_claim (hclaim : reservation.cleanupClaim = some claim)
    (hruns : now < claim.expiresAt)
    (hheld : ¬ operation.Ends recordKey claim.holder) : next.cleanupClaim = some claim := by
  have hactive := (claimIsActive_iff hclaim now).mpr hruns
  have hstatus := (cleanupClaim_eq_some hclaim).1
  cases hmoves.1 with
  | kept hafter => rw [hafter, hclaim]
  | finalizing hbefore => rcases hstatus with h | h <;> rw [h] at hbefore <;> simp at hbefore
  | finalized hbefore =>
    rcases hstatus with h | h <;> rw [h] at hbefore <;> simp at hbefore
  | abandoned hbefore =>
    rcases hstatus with h | h <;> simp [h, hactive] at hbefore
  | pending hbefore => rcases hstatus with h | h <;> simp [h, hactive] at hbefore
  | reclaimed _ hfree => exact absurd (hactive.symm.trans hfree) (by simp)
  | givenUp _ hholder hends =>
    exact absurd (holder_of_hasClaim hclaim hholder ▸ hends) hheld
  | cleaned _ hholder hcompletes =>
    exact absurd (holder_of_hasClaim hclaim hholder ▸ hcompletes.ends) hheld

theorem Moves.claim_expired {earlier : CleanupClaim}
    (hearlier : reservation.cleanupClaim = some earlier) (hclaim : next.cleanupClaim = some claim)
    (hnew : earlier ≠ claim) : earlier.expiresAt ≤ now := by
  by_contra hruns
  have hheld := hmoves.keeps_claim hearlier (not_le.mp hruns)
  by_cases hends : operation.Ends recordKey earlier.holder
  · cases hmoves.1 with
    | kept hafter =>
      rw [hafter, hearlier] at hclaim
      exact hnew (Option.some.inj hclaim)
    | finalizing _ hafter | cleaned _ _ _ _ hafter =>
      rw [cleanupClaim_of_status (by simp [hafter]) (by simp [hafter])] at hclaim
      exact nomatch hclaim
    | finalized _ _ hunclaimed | abandoned _ _ hunclaimed | givenUp _ _ _ _ _ hunclaimed =>
      rw [cleanupClaim_of_unclaimed hunclaimed] at hclaim
      exact nomatch hclaim
    | pending _ _ hnone | reclaimed _ _ _ hnone => exact hnone _ hends
  · rw [hheld hends] at hclaim
    exact hnew (Option.some.inj hclaim)

end ArtifactUploadReservationRecord

end Steps

namespace ArtifactUploads

variable (env : Environment) (audit : AuditEnvironment) (requests : List ReservationRequest)
  {uploads : ArtifactUploads} {recordKey : String} {request : ReservationRequest}
  {reservation : ArtifactUploadReservationRecord} {claim : CleanupClaim}

theorem moment_change (uploads : ArtifactUploads) (request : ReservationRequest)
    (recordKey : String) :
    KeyChange recordKey request (uploads.reservations.get recordKey)
      (((reservationMachine env audit).step uploads request).2.reservations.get recordKey) :=
  uploads.perform_change env audit request recordKey

section

variable (hget : uploads.reservations.get recordKey = some reservation)
include hget

theorem moves_of_keeps (hkeeps : ReservationMoment.Keeps recordKey
      ((reservationMachine env audit).moment uploads request)) :
    ∃ next, ((reservationMachine env audit).step uploads request).2.reservations.get recordKey =
        some next ∧
      reservation.Moves recordKey request.now request.operation next := by
  cases moment_change env audit uploads request recordKey with
  | same hafter => exact ⟨reservation, hafter.trans hget, .kept rfl⟩
  | created _ hbefore =>
    rw [hget] at hbefore
    exact nomatch hbefore
  | moved before next hbefore hafter hmoves =>
    obtain rfl : reservation = before := Option.mem_unique hget hbefore
    exact ⟨next, hafter, hmoves⟩
  | removed _ _ hafter =>
    have hnone := hkeeps hafter
    exact nomatch hget.symm.trans hnone

theorem moves_of_next (hnext : ((reservationMachine env audit).step uploads
    request).2.reservations.get recordKey = some next) :
    reservation.Moves recordKey request.now request.operation next := by
  obtain ⟨moved, hmoved, hmoves⟩ := moves_of_keeps env audit hget
    fun hnone => nomatch hnext.symm.trans hnone
  obtain rfl : next = moved := Option.mem_unique hnext hmoved
  exact hmoves

theorem run_moves {good : ArtifactUploadReservationRecord → Prop} (hgood : good reservation)
    (hmoves : ∀ before now operation next, good before →
      before.Moves recordKey now operation next → good next)
    (hkeeps : ∀ moment ∈ (reservationMachine env audit).history uploads requests,
      ReservationMoment.Keeps recordKey moment) :
    ∃ next, ((reservationMachine env audit).run uploads requests).reservations.get recordKey =
      some next ∧ good next := by
  induction requests generalizing uploads reservation with
  | nil => exact ⟨reservation, hget, hgood⟩
  | cons _ _ ih =>
    obtain ⟨_, hmiddle, hmoved⟩ := moves_of_keeps env audit hget (hkeeps _ (.head _))
    exact ih hmiddle (hmoves _ _ _ _ hgood hmoved)
      fun moment hmoment => hkeeps moment (.tail _ hmoment)

theorem run_settled (hsettled : reservation.status = .finalized ∨ reservation.status = .cleaned)
    (hkeeps : ∀ moment ∈ (reservationMachine env audit).history uploads requests,
      ReservationMoment.Keeps recordKey moment) :
    ∃ next, ((reservationMachine env audit).run uploads requests).reservations.get recordKey =
      some next ∧ next.status = reservation.status :=
  run_moves env audit requests hget rfl
    (fun _ _ _ _ hstatus hmoves => (hmoves.settled (hstatus ▸ hsettled)).trans hstatus) hkeeps

end

theorem run_keeps_claim (hclaim : uploads.cleanupClaimAt recordKey = some claim)
    (hruns : ∀ request ∈ requests, request.now < claim.expiresAt)
    (hheld : ∀ request ∈ requests, ¬ request.operation.Ends recordKey claim.holder)
    (hkeeps : ∀ moment ∈ (reservationMachine env audit).history uploads requests,
      ReservationMoment.Keeps recordKey moment) :
    ((reservationMachine env audit).run uploads requests).cleanupClaimAt recordKey =
      some claim := by
  induction requests generalizing uploads with
  | nil => exact hclaim
  | cons request _ ih =>
    obtain ⟨_, hget, hreservation⟩ := Option.bind_eq_some_iff.mp hclaim
    obtain ⟨_, hnext, hmoves⟩ := moves_of_keeps env audit hget (hkeeps _ (.head _))
    apply ih
    · rw [cleanupClaimAt, hnext]
      exact hmoves.keeps_claim hreservation (hruns request (.head _)) (hheld request (.head _))
    · exact fun request hrequest => hruns request (.tail _ hrequest)
    · exact fun request hrequest => hheld request (.tail _ hrequest)
    · exact fun moment hmoment => hkeeps moment (.tail _ hmoment)

theorem expired_of_issues {earlier : CleanupClaim}
    (hearlier : uploads.cleanupClaimAt recordKey = some earlier)
    (hissues : ReservationMoment.Issues recordKey
      ((reservationMachine env audit).moment uploads request) claim) :
    earlier.expiresAt ≤ request.now := by
  obtain ⟨_, hget, hreservation⟩ := Option.bind_eq_some_iff.mp hearlier
  obtain ⟨next, hnext, hclaim⟩ := Option.bind_eq_some_iff.mp hissues.1
  have hmoves := moves_of_next env audit hget hnext
  refine hmoves.claim_expired hreservation hclaim ?_
  rintro rfl
  exact hissues.2 hearlier

theorem completes_of_cleans
    (hcleans : ReservationMoment.Cleans recordKey
      ((reservationMachine env audit).moment uploads request)) :
    ∃ identity claim, request.operation = .completeCleanup identity claim ∧
      reservationKey identity = recordKey := by
  obtain ⟨_, next, hget, hpending, hnext, hcleaned⟩ := hcleans
  have hmoves := moves_of_next env audit hget hnext
  cases hmoves.1 with
  | cleaned holder _ hcompletes =>
    obtain ⟨identity, hoperation, hkey⟩ := hcompletes
    exact ⟨identity, holder, hoperation, hkey⟩
  | kept hafter | reclaimed _ _ hafter | givenUp _ _ _ _ hafter =>
    simp [hafter, hpending] at hcleaned
  | finalizing _ hafter | finalized _ hafter | abandoned _ hafter | pending _ hafter =>
    simp [hafter] at hcleaned

theorem handBack_of_error {refunded : ArtifactUploads}
    {refund : Option UsageQuotaAdjustment} {thrown : StoreError}
    (h : uploads.handBack refund = (.error thrown, refunded)) : refunded = uploads := by
  unfold handBack at h
  split at h
  · exact nomatch (Prod.mk.inj h).1
  next refund =>
    dsimp only at h
    have hadjustment := uploads.domain.neighbours.adjustUsageQuota_adjustment refund.orgId
      refund.quotaKey refund.windowStartedAtMs refund.quantityDelta
    generalize uploads.domain.neighbours.adjustUsageQuota refund.orgId refund.quotaKey
      refund.windowStartedAtMs refund.quantityDelta = outcome at h hadjustment
    cases hadjustment with
    | missed => exact (Prod.mk.inj h).2.symm
    | applied => exact nomatch (Prod.mk.inj h).1

/-- Completing a cleanup hands the quota back exactly if the reservation becomes cleaned. -/
theorem completeCleanup_refunds (uploads : ArtifactUploads)
    (identity : ArtifactUploadReservationIdentity) (claim : ReservationClaim) (now : Instant) :
    (∃ reservation next, uploads.reservations.get (reservationKey identity) = some reservation ∧
      reservation.status = .cleanupPending ∧
      (uploads.completeCleanup identity claim now).2.reservations.get (reservationKey identity) =
        some next ∧ next.status = .cleaned ∧
      (uploads.completeCleanup identity claim now).2.domain =
        (uploads.handBack reservation.refund).2.domain) ∨
      ((uploads.completeCleanup identity claim now).2.domain = uploads.domain ∧
        ∀ reservation next,
          uploads.reservations.get (reservationKey identity) = some reservation →
          reservation.status = .cleanupPending →
          (uploads.completeCleanup identity claim now).2.reservations.get
            (reservationKey identity) = some next → next.status ≠ .cleaned) := by
  unfold completeCleanup
  dsimp only
  split
  next hnone => exact .inr ⟨rfl, fun reservation _ hget => nomatch hnone.symm.trans hget⟩
  next reservation hget =>
  have hsame : ∀ other next, uploads.reservations.get (reservationKey identity) = some other →
      other.status = .cleanupPending →
      uploads.reservations.get (reservationKey identity) = some next → next.status ≠ .cleaned := by
    intro other next hother hpending hnext
    rw [← Option.mem_unique hother hnext, hpending]
    simp
  split
  · exact .inr ⟨rfl, hsame⟩
  next next _ =>
  by_cases hcleans : reservation.status = .cleanupPending ∧ next.status = .cleaned
  · rw [if_pos hcleans]
    split
    next _ hback =>
      rw [handBack_of_error hback]
      exact .inr ⟨rfl, hsame⟩
    next hback =>
      refine .inl ⟨reservation, next, hget, hcleans.1, get_set_self _ _ _, hcleans.2, ?_⟩
      rw [hback]
  · rw [if_neg hcleans, handBack]
    refine .inr ⟨rfl, fun other made hother hpending hmade => ?_⟩
    dsimp only at hmade
    rw [get_set_self] at hmade
    obtain rfl : reservation = other := Option.mem_unique hget hother
    obtain rfl : next = made := Option.some.inj hmade
    exact fun hcleaned => hcleans ⟨hpending, hcleaned⟩

theorem create_domain (uploads : ArtifactUploads) (input : CreateArtifactUploadReservationInput)
    (dateNow dateThen : Instant) :
    (uploads.create audit input dateNow dateThen).2.domain = uploads.domain ∨
      (uploads.create audit input dateNow dateThen).2.domain = { uploads.domain with
        neighbours := (uploads.consumeQuota input.quota dateNow).2 } := by
  unfold create
  dsimp only
  split
  · exact .inl rfl
  split
  · exact .inl rfl
  split
  · exact .inl rfl
  split
  · exact .inl rfl
  right
  split
  next hconsumed => rw [hconsumed]
  next hconsumed =>
  split
  · rw [hconsumed]
  split
  · rw [hconsumed]
  · rw [hconsumed]

theorem moment_refunds (uploads : ArtifactUploads) (request : ReservationRequest) :
    ReservationMoment.RefundsCleaned ((reservationMachine env audit).moment uploads request) where
  cleaned := by
    intro _ reservation hcleans hget
    obtain ⟨identity, claim, hoperation, rfl⟩ := completes_of_cleans env audit hcleans
    obtain ⟨pending, next, hbefore, hpending, hnext, hcleaned⟩ := hcleans
    obtain ⟨now, operation⟩ := request
    obtain rfl : operation = .completeCleanup identity claim := hoperation
    rcases uploads.completeCleanup_refunds identity claim now with
      ⟨own, _, hown, _, _, _, hdomain⟩ | ⟨_, hnot⟩
    · obtain rfl : own = reservation := Option.mem_unique hown hget
      exact hdomain
    · exact absurd hcleaned (hnot pending next hbefore hpending hnext)
  otherwise := by
    intro hnone
    obtain ⟨now, operation⟩ := request
    cases operation with
    | create input dateThen =>
      rcases create_domain audit uploads input now dateThen with hsame | hconsumed
      · exact .inl hsame
      · exact .inr ⟨input, dateThen, rfl, hconsumed⟩
    | completeCleanup identity claim =>
      left
      rcases uploads.completeCleanup_refunds identity claim now with
        ⟨reservation, next, hget, hpending, hnext, hcleaned, _⟩ | ⟨hsame, _⟩
      · exact absurd ⟨reservation, next, hget, hpending, hnext, hcleaned⟩ (hnone _)
      · exact hsame
    | claimReconciliation | prune => exact .inl rfl
    | claimFinalization | completeFinalization | releaseClaim | requestCleanup | deferCleanup
    | failCleanup => exact .inl (withReservation_domain _ _ _)

theorem cleans_once (uploads : ArtifactUploads) (recordKey : String)
    (hkeeps : ∀ moment ∈ (reservationMachine env audit).history uploads requests,
      ReservationMoment.Keeps recordKey moment) :
    ((reservationMachine env audit).history uploads requests).Pairwise fun first second =>
      ¬(ReservationMoment.Cleans recordKey first ∧ ReservationMoment.Cleans recordKey second) := by
  induction requests generalizing uploads with
  | nil => exact .nil
  | cons _ _ ih =>
    rw [Machine.history_cons] at hkeeps ⊢
    refine .cons ?_ (ih _ fun moment hmoment => hkeeps moment (.tail _ hmoment))
    rintro moment hmoment ⟨⟨_, cleaned, _, _, hcleaned, hstatus⟩, hagain⟩
    obtain ⟨before, _, _, rfl, rfl⟩ :=
      (reservationMachine env audit).exists_prefix_of_mem_history _ _ moment hmoment
    -- until then the reservation has stayed cleaned
    obtain ⟨last, hlast, hsettled⟩ := run_settled env audit before hcleaned (.inr hstatus) (by
      intro moment hmoment
      apply hkeeps moment
      rw [Machine.history_append]
      exact .tail _ (List.mem_append_left _ hmoment))
    obtain ⟨pending, _, hpending, hstill, _⟩ := hagain
    obtain rfl : last = pending := Option.mem_unique hlast hpending
    rw [hsettled, hstatus] at hstill
    exact nomatch hstill

end ArtifactUploads

/-- What holds of a run for the reservation under a key, as long as that is not pruned: once
finalized or cleaned it stays so; two cleanup claims follow each other only after the first has
expired or was given up by its holder; the quota is handed back in the step that cleans the
reservation, in no other, and in at most one. -/
structure ReservationLifeCycle (machine : Machine ArtifactUploads ReservationRequest
    ReservationAnswer) (uploads : ArtifactUploads) (requests : List ReservationRequest)
    (recordKey : String) : Prop where
  settled : ∀ past later reservation, requests = past ++ later →
    (machine.run uploads past).reservations.get recordKey = some reservation →
    (reservation.status = .finalized ∨ reservation.status = .cleaned) →
    (∀ moment ∈ machine.history (machine.run uploads past) later,
      ReservationMoment.Keeps recordKey moment) →
    ∃ next, (machine.run uploads requests).reservations.get recordKey = some next ∧
      next.status = reservation.status
  exclusive : ∀ past first between second later earlier claim,
    requests = past ++ first :: between ++ second :: later →
    ReservationMoment.Issues recordKey (machine.moment (machine.run uploads past) first)
      earlier →
    ReservationMoment.Issues recordKey
      (machine.moment (machine.run uploads (past ++ first :: between)) second) claim →
    (∀ moment ∈ machine.history (machine.run uploads (past ++ [first])) between,
      ReservationMoment.Keeps recordKey moment) →
    earlier.expiresAt ≤ second.now ∨
      ∃ request ∈ between, request.operation.Ends recordKey earlier.holder
  refunds : ∀ moment ∈ machine.history uploads requests, ReservationMoment.RefundsCleaned moment
  once : (∀ moment ∈ machine.history uploads requests, ReservationMoment.Keeps recordKey moment) →
    (machine.history uploads requests).Pairwise fun first second =>
      ¬(ReservationMoment.Cleans recordKey first ∧ ReservationMoment.Cleans recordKey second)

/-- Every run with a clock that does not go back. -/
theorem reservation_life_cycle (env : Environment) (audit : AuditEnvironment)
    (uploads : ArtifactUploads) (requests : List ReservationRequest) (recordKey : String)
    (hclock : (requests.map ReservationRequest.now).Pairwise (· ≤ ·)) :
    ReservationLifeCycle (reservationMachine env audit) uploads requests recordKey := by
  let machine := reservationMachine env audit
  refine ⟨?_, ?_, ?_, ArtifactUploads.cleans_once env audit requests uploads recordKey⟩
  · rintro past later reservation rfl hget hsettled hkeeps
    rw [Machine.run_append]
    exact ArtifactUploads.run_settled env audit later hget hsettled hkeeps
  · rintro past first between second later earlier claim rfl hfirst hsecond hkeeps
    by_contra hneither
    obtain ⟨hruns, hheld⟩ := not_or.mp hneither
    have hrun : machine.run uploads (past ++ first :: between) =
        machine.run (machine.run uploads (past ++ [first])) between := by
      rw [← Machine.run_append, List.append_assoc, List.singleton_append]
    have hlast : machine.run uploads (past ++ [first]) =
        (machine.moment (machine.run uploads past) first).after := by
      rw [Machine.run_append]
      rfl
    rw [List.append_assoc, List.cons_append, List.map_append, List.map_cons, List.map_append,
      List.map_cons] at hclock
    have hlater := (List.pairwise_cons.mp (List.pairwise_append.mp hclock).2.1).2
    have hkept := ArtifactUploads.run_keeps_claim env audit between (hlast ▸ hfirst.1)
      (fun request hrequest => by
        have hle := (List.pairwise_append.mp hlater).2.2 _ (List.mem_map_of_mem hrequest)
          _ (.head _)
        exact hle.trans_lt (not_le.mp hruns))
      (fun request hrequest hends => hheld ⟨request, hrequest, hends⟩) hkeeps
    exact hruns (ArtifactUploads.expired_of_issues env audit (hrun ▸ hkept) hsecond)
  · intro moment hmoment
    obtain ⟨_, request, _, _, rfl⟩ :=
      machine.exists_prefix_of_mem_history uploads requests moment hmoment
    exact ArtifactUploads.moment_refunds env audit _ request

/-! ## Cleaned reservations -/

/-- A store with one session and no reservation. -/
def openUploads : ArtifactUploads where
  reservations := OrderedMap.empty
  domain :=
    { sessions := OrderedMap.empty.set (key "t" "s") (SessionsDomain.newSession
        { tenantId := "t"
          userId := "u"
          sessionId := "s"
          opencodeSessionId := ""
          profileName := "default"
          title := none
          createdAt := none
          quota := none } 0)
      neighbours := Neighbours.single "t" "u" }

def uploadOf (artifactId : String) : ArtifactUploadReservationIdentity where
  orgId := "t"
  tenantId := "t"
  sessionId := "s"
  artifactId := artifactId

/-- Upload bytes, a hundred to every window of 100 ms. -/
def byteQuota (quantity : ℚ) (now : Option Instant) : ConsumeUsageQuotaInput where
  orgId := "t"
  quotaKey := "bytes"
  limit := 100
  quantity := some quantity
  windowMs := 100
  now := now
  policyCode := none

def uploadRequest (artifactId : String) (bytes : ℚ) (quota : Option ConsumeUsageQuotaInput) :
    CreateArtifactUploadReservationInput :=
  { uploadOf artifactId with
    userId := "u"
    objectKey := "o"
    stagingObjectKey := none
    finalObjectKey := none
    filename := "f"
    contentType := none
    checksumSha256 := none
    publication := none
    reservedBytes := some bytes
    expiresAt := some 1000
    quota := quota
    createdAt := none }

def janitor : ReservationClaim := ⟨"w", "c"⟩

/-- A cleanup in two passes that ends at the given instant. -/
def cleanUp (artifactId : String) (now : Instant) : List ReservationRequest :=
  [⟨now - 30, .requestCleanup (uploadOf artifactId)
      { reason := .aborted
        claim := janitor
        claimTtlMs := 100
        cleanupNotBefore := none
        expectedFinalizationClaimOwner := none
        expectedFinalizationClaimToken := none }⟩,
    ⟨now - 20, .deferCleanup (uploadOf artifactId) janitor (some (now - 10))⟩,
    ⟨now - 10, .claimReconciliation ⟨janitor, 100, 10⟩⟩,
    ⟨now, .completeCleanup (uploadOf artifactId) janitor⟩]

def cleanedState (requests : List ReservationRequest) (artifactId : String) :
    Option ArtifactUploadReservationStatus × Option (Int × ℚ) :=
  let uploads := (reservationMachine plainEnvironment plainAudit).run openUploads requests
  ((uploads.reservations.get (reservationKey (uploadOf artifactId))).map
      ArtifactUploadReservationRecord.status,
    (uploads.domain.neighbours.usageCounters.get (key "t" "bytes")).map fun counter =>
      (counter.windowStartedAtMs, counter.quantity))

/-- Five bytes in window 100, two in window 200, and the cleanup of the five. -/
def lateCleanup : List ReservationRequest :=
  ⟨110, .create (uploadRequest "a" 5 (some (byteQuota 5 none))) 110⟩ ::
    ⟨210, .create (uploadRequest "b" 2 (some (byteQuota 2 none))) 210⟩ :: cleanUp "a" 290

/-- A reservation without a quota is cleaned and nothing is handed back; neither are the bytes
of a window that the counter has left. -/
theorem cleaned_without_refund :
    cleanedState (⟨110, .create (uploadRequest "a" 5 none) 110⟩ :: cleanUp "a" 190) "a" =
        (some .cleaned, none) ∧
      cleanedState (lateCleanup.take 5) "a" = (some .cleanupPending, some (200, 2)) ∧
      cleanedState lateCleanup "a" = (some .cleaned, some (200, 2)) := by
  refine ⟨?_, ?_, ?_⟩ <;> decide +kernel

/-- Cleaned within its window, a reservation hands its bytes back. -/
example : cleanedState (⟨110, .create (uploadRequest "a" 5 (some (byteQuota 5 none))) 110⟩ ::
    cleanUp "a" 190) "a" = (some .cleaned, some (100, 0)) := by decide +kernel

theorem late_cleanup_life_cycle :
    ReservationLifeCycle (reservationMachine plainEnvironment plainAudit) openUploads lateCleanup
      (reservationKey (uploadOf "a")) :=
  reservation_life_cycle plainEnvironment plainAudit openUploads lateCleanup
    (reservationKey (uploadOf "a")) (by decide)

end OpenCowork.ControlPlane
