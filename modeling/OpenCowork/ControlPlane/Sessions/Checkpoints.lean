import OpenCowork.ControlPlane.Neighbours
import OpenCowork.ControlPlane.Sessions.Ledger

/-! # Checkpoint versions

The checkpoint version is kept in the lease record. A claim that replaces an
expired lease carries it over, and renewals and checkpoints keep it; a release, a
deferral or a recovery drops it with the lease, and the next claim starts again
from zero. Versions grow over the life of a session as long as no lease is
dropped once a checkpoint was recorded under it.
-/

namespace OpenCowork.ControlPlane

open Foundation

namespace SessionState

/-- The session's lease, if any, has no checkpoint. -/
def unversioned (session : SessionState) : Bool :=
  match session.lease with
  | none => true
  | some lease => lease.checkpointVersion == 0

end SessionState

/-- Whether a deferral goes through. -/
def deferralApplies {σ : Type} (env : Environment) (host : SessionsHost σ)
    (domain : SessionsDomain σ) (session : SessionState) (lease : WorkerLeaseRecord)
    (commandId : String) (input : DeferSessionCommandInput) (now : Instant) : Bool :=
  (input.retryAfterMs.any fun delay => decide (0 < delay)) &&
    (session.deferrable lease commandId now).isOk &&
    (env.redactOperationalText input.errorSummary 512 "Command deferred").isOk &&
    (domain.returnReservation host lease.tenantId input.quotaReservation).1.isOk

/-- An operation that gives up a current lease finds no checkpoint under it. -/
def dropsUnversioned {σ : Type} (env : Environment) (host : SessionsHost σ)
    (domain : SessionsDomain σ) (request : SessionRequest) : Bool :=
  let surrendered (lease : WorkerLeaseRecord) : Bool :=
    match domain.sessions.get (key lease.tenantId lease.sessionId) with
    | none => true
    | some session =>
      session.lease.all (fun current => current.leaseToken != lease.leaseToken) ||
        session.unversioned
  match request.operation with
  | .releaseSessionLease lease => surrendered lease
  | .recoverSessionLease lease _ => surrendered lease
  | .deferSessionCommand lease commandId input =>
    match domain.sessions.get (key lease.tenantId lease.sessionId) with
    | none => true
    | some session =>
      !deferralApplies env host domain session lease commandId input request.now ||
        session.unversioned
  | .reapExpiredSessionLeases _ limit =>
    (domain.expiredSessions env request.now (SessionsDomain.reapLimit limit)).all fun sessionKey =>
      (domain.sessions.get sessionKey).all SessionState.unversioned
  | _ => true

structure VersionsGrow (effects : SessionEffects) (session : SessionState) : Prop where
  increasing : effects.recorded.Pairwise (· < ·)
  positive : ∀ version ∈ effects.recorded, 0 < version
  current : ∀ version ∈ effects.recorded, ∃ lease, session.lease = some lease ∧
    version ≤ lease.checkpointVersion

namespace VersionsGrow

variable {effects : SessionEffects} {before after : SessionState} {next : SessionEffects}

theorem new (input : CreateSessionInput) (createdAt : Instant) :
    VersionsGrow {} (SessionsDomain.newSession input createdAt) where
  increasing := List.Pairwise.nil
  positive := by simp
  current := by simp

variable (hgrow : VersionsGrow effects before)
include hgrow

theorem drop (hrecorded : next.recorded = effects.recorded)
    (hunversioned : before.unversioned = true) : VersionsGrow next after := by
  have hnone : effects.recorded = [] := by
    rw [List.eq_nil_iff_forall_not_mem]
    intro version hmem
    obtain ⟨_, hlease, _⟩ := hgrow.current version hmem
    have hpositive := hgrow.positive version hmem
    simp only [SessionState.unversioned, hlease, beq_iff_eq] at hunversioned
    omega
  constructor <;> simp [hrecorded, hnone]

theorem carry (hrecorded : next.recorded = effects.recorded)
    (hlease : ∀ held, before.lease = some held → ∃ lease, after.lease = some lease ∧
      lease.checkpointVersion = held.checkpointVersion) :
    VersionsGrow next after where
  increasing := hrecorded ▸ hgrow.increasing
  positive := hrecorded ▸ hgrow.positive
  current := by
    intro version hmem
    rw [hrecorded] at hmem
    obtain ⟨held, hheld, hle⟩ := hgrow.current version hmem
    obtain ⟨lease, hafter, hversion⟩ := hlease held hheld
    exact ⟨lease, hafter, hversion ▸ hle⟩

theorem advance {current lease : WorkerLeaseRecord} (hbefore : before.lease = some current)
    (hafter : after.lease = some lease)
    (hversion : lease.checkpointVersion = current.checkpointVersion + 1)
    (hrecorded : next.recorded = effects.recorded ++ [current.checkpointVersion + 1]) :
    VersionsGrow next after := by
  have hbelow : ∀ version ∈ effects.recorded, version ≤ current.checkpointVersion := by
    intro version hmem
    obtain ⟨_, hheld, hle⟩ := hgrow.current version hmem
    obtain rfl := Option.mem_unique hbefore hheld
    exact hle
  constructor
  · rw [hrecorded, List.pairwise_append]
    refine ⟨hgrow.increasing, List.pairwise_singleton _ _, ?_⟩
    intro version hmem _ hlater
    rw [List.mem_singleton.mp hlater]
    exact Nat.lt_succ_of_le (hbelow version hmem)
  · intro version hmem
    rw [hrecorded, List.mem_append, List.mem_singleton] at hmem
    rcases hmem with hmem | rfl
    · exact hgrow.positive version hmem
    · exact Nat.succ_pos _
  · intro version hmem
    rw [hrecorded, List.mem_append, List.mem_singleton] at hmem
    refine ⟨lease, hafter, ?_⟩
    rcases hmem with hmem | rfl
    · have := hbelow version hmem
      omega
    · omega

end VersionsGrow

namespace SessionsDomain

variable {σ : Type} (env : Environment) (host : SessionsHost σ) {domain : SessionsDomain σ}
  {before after : SessionState} {now : Instant} {sessionKey : String}

theorem deferral_applies {lease : WorkerLeaseRecord}
    {commandId : String} {input : DeferSessionCommandInput}
    (hbefore : domain.sessions.get (key lease.tenantId lease.sessionId) = some before)
    (hafter : (domain.deferSessionCommand env host lease commandId input now).2.sessions.get
      (key lease.tenantId lease.sessionId) = some after)
    (hdropped : after.lease ≠ before.lease) :
    deferralApplies env host domain before lease commandId input now = true := by
  have hsame : ∀ neighbours : σ, ({ domain with neighbours } : SessionsDomain σ).sessions.get
      (key lease.tenantId lease.sessionId) ≠ some after := by
    intro neighbours heq
    obtain rfl := Option.mem_unique hbefore heq
    exact hdropped rfl
  unfold deferSessionCommand at hafter
  unfold deferralApplies
  cases hdelay : input.retryAfterMs.filter (fun delay => decide (0 < delay)) with
  | none =>
    simp only [hdelay] at hafter
    exact absurd hafter (hsame domain.neighbours)
  | some =>
  cases hsession : domain.requireSession host lease.tenantId lease.sessionId with
  | error =>
    simp only [hdelay, hsession] at hafter
    exact absurd hafter (hsame domain.neighbours)
  | ok =>
  obtain rfl := Option.some.inj (hbefore.symm.trans (domain.requireSession_eq_ok host hsession))
  cases hcommand : before.deferrable lease commandId now with
  | error =>
    simp only [hdelay, hsession, hcommand] at hafter
    exact absurd hafter (hsame domain.neighbours)
  | ok =>
  cases hsummary : env.redactOperationalText input.errorSummary 512 "Command deferred" with
  | error =>
    simp only [hdelay, hsession, hcommand, hsummary] at hafter
    exact absurd hafter (hsame domain.neighbours)
  | ok =>
  simp only [hdelay, hsession, hcommand, hsummary] at hafter
  have hpositive : (input.retryAfterMs.any fun delay => decide (0 < delay)) = true := by
    rw [Option.filter_eq_some_iff] at hdelay
    rw [hdelay.1]
    exact hdelay.2
  split at hafter
  · exact absurd hafter (hsame _)
  next hreservation =>
    rw [hpositive, hreservation]
    rfl

theorem reaped_mem {maxCommandAttempts limit : Option ℚ}
    (hbefore : domain.sessions.get sessionKey = some before)
    (hafter : (domain.reapExpiredSessionLeases env host now maxCommandAttempts
      limit).2.sessions.get sessionKey = some after)
    (hdropped : after.lease ≠ before.lease) :
    sessionKey ∈ domain.expiredSessions env now (reapLimit limit) := by
  by_contra hmem
  unfold reapExpiredSessionLeases at hafter
  rw [domain.reapSessions_get_of_not_mem host now _ _ sessionKey hmem] at hafter
  obtain rfl := Option.mem_unique hbefore hafter
  exact hdropped rfl

/-- A step that drops no unversioned lease lets the versions grow. -/
theorem versionsGrow_step {effects : SessionEffects} {request : SessionRequest}
    {change : SessionChange} (hgrow : VersionsGrow effects before)
    (hsafe : dropsUnversioned env host domain request = true)
    (hbefore : domain.sessions.get sessionKey = some before)
    (hafter : (domain.perform env host request).2.sessions.get sessionKey = some after)
    (hcauses : request.operation.Causes change)
    (haddressed : change = .unchanged ∨
      ∀ other ∈ request.operation.sessionKey, other = sessionKey)
    (hstep : SessionStep sessionKey request.now change before after) :
    VersionsGrow (effects.append change.effects) after := by
  have hsame : (effects.append {}).recorded = effects.recorded := by simp
  obtain ⟨now, _⟩ := request
  cases hstep with
  | unchanged => simpa [SessionChange.effects] using hgrow
  | claimed =>
    refine hgrow.carry (by simp [SessionEffects.append, SessionChange.effects])
      fun held hheld => ⟨_, rfl, ?_⟩
    simp [SessionState.nextLease, hheld]
  | released _ current hlease =>
    generalize hchange : SessionChange.released current.leaseToken = change at hcauses haddressed
    cases hcauses with
    | release lease =>
      have htoken : current.leaseToken = lease.leaseToken := by simpa using hchange
      have haddress : key lease.tenantId lease.sessionId = sessionKey :=
        (haddressed.resolve_left (by simp)) _ rfl
      refine hgrow.drop hsame ?_
      simpa [dropsUnversioned, haddress, hbefore, hlease, htoken] using hsafe
    | _ => simp at hchange
  | renewed _ _ _ hlease =>
    refine hgrow.carry hsame fun held hheld => ?_
    obtain rfl := Option.mem_unique hlease hheld
    exact ⟨_, rfl, rfl⟩
  | checkpointed _ _ hlease => exact hgrow.advance hlease rfl rfl rfl
  | recovered _ current maxAttempts hlease =>
    generalize hchange : SessionChange.recovered current.leaseToken maxAttempts = change
      at hcauses haddressed
    have hrecorded : (effects.append change.effects).recorded = effects.recorded := by
      simp [← hchange, SessionEffects.append, SessionChange.effects]
    have hdropped : (before.afterRecovery current now maxAttempts).lease ≠ before.lease := by
      simp [SessionState.afterRecovery, SessionState.withStatus, hlease]
    cases hcauses with
    | reap =>
      refine hgrow.drop hrecorded ?_
      have hmem := reaped_mem env host hbefore hafter hdropped
      simp only [dropsUnversioned, List.all_eq_true] at hsafe
      simpa [hbefore] using hsafe sessionKey hmem
    | recover lease =>
      have htoken : current.leaseToken = lease.leaseToken := (SessionChange.recovered.inj hchange).1
      have haddress : key lease.tenantId lease.sessionId = sessionKey :=
        (haddressed.resolve_left (by simp)) _ rfl
      refine hgrow.drop hrecorded ?_
      simpa [dropsUnversioned, haddress, hbefore, hlease, htoken] using hsafe
    | _ => simp at hchange
  | enqueued | settled =>
    exact hgrow.carry hsame fun held hheld => ⟨held, hheld, rfl⟩
  | handed =>
    exact hgrow.carry (by simp [SessionEffects.append, SessionChange.effects])
      fun held hheld => ⟨held, hheld, rfl⟩
  | checkpointSettled _ _ _ _ hlease =>
    exact hgrow.advance hlease rfl rfl rfl
  | deferred _ current _ _ _ _ hlease =>
    generalize hchange : SessionChange.deferred current.leaseToken = change at hcauses haddressed
    have hrecorded : (effects.append change.effects).recorded = effects.recorded := by
      simp [← hchange, SessionEffects.append, SessionChange.effects]
    cases hcauses with
    | defer lease =>
      have haddress : key lease.tenantId lease.sessionId = sessionKey :=
        (haddressed.resolve_left (by simp)) _ rfl
      subst haddress
      refine hgrow.drop hrecorded ?_
      have happlies := deferral_applies env host hbefore hafter
        (by simp [SessionState.afterDeferral, SessionState.withStatus, hlease])
      simpa [dropsUnversioned, hbefore, happlies] using hsafe
    | _ => simp at hchange

/-- In every run in which no lease is dropped after a checkpoint was recorded
under it, the versions recorded for a session are strictly increasing. -/
theorem run_checkpoints_increase (neighbours : σ) (requests : List SessionRequest)
    (hsafe : ∀ moment ∈ (machine env host).history (initial neighbours) requests,
      dropsUnversioned env host moment.before moment.input = true) (sessionKey : String) :
    (ledger sessionKey ((machine env host).history (initial neighbours)
      requests)).recorded.Pairwise (· < ·) := by
  have hgrow := ledger_invariant_of env host sessionKey
    (fun moment => dropsUnversioned env host moment.before moment.input = true) VersionsGrow
    VersionsGrow.new
    (fun effects domain request change before after hgrow hguard hbefore hafter hcauses haddressed
        hstep =>
      versionsGrow_step env host hgrow hguard hbefore hafter hcauses haddressed hstep)
    neighbours requests hsafe
  unfold LedgerHolds at hgrow
  split at hgrow
  · rw [hgrow]
    exact List.Pairwise.nil
  · exact hgrow.increasing

/-- A worker checkpoints and releases; the next worker checkpoints again. -/
def releasedRequests : List SessionRequest :=
  [⟨0, openSession "t" "u" "s"⟩,
    ⟨0, .claimSessionLease "t" "s" "w1" 10 none⟩,
    ⟨1, .checkpointSession (heldLease "t" "s" "w1" 1 10 0)⟩,
    ⟨2, .releaseSessionLease (heldLease "t" "s" "w1" 1 10 1)⟩,
    ⟨3, .claimSessionLease "t" "s" "w2" 10 none⟩,
    ⟨4, .checkpointSession (heldLease "t" "s" "w2" 2 13 0)⟩]

/-- After the release the second checkpoint records version one again. -/
theorem release_resets_checkpoints :
    ¬ ∀ requests : List SessionRequest,
      (requests.map SessionRequest.now).Pairwise (· ≤ ·) →
      ∀ sessionKey, (ledger sessionKey ((machine plainEnvironment
        (Neighbours.host plainAudit)).history (initial (Neighbours.single "t" "u"))
          requests)).recorded.Pairwise (· < ·) := by
  intro h
  have hincreasing := h releasedRequests (by decide) (key "t" "s")
  revert hincreasing
  decide +kernel

/-- The same two checkpoints with a takeover in place of the release. -/
def takenOverRequests : List SessionRequest :=
  [⟨0, openSession "t" "u" "s"⟩,
    ⟨0, .claimSessionLease "t" "s" "w1" 10 none⟩,
    ⟨1, .checkpointSession (heldLease "t" "s" "w1" 1 10 0)⟩,
    ⟨20, .claimSessionLease "t" "s" "w2" 10 none⟩,
    ⟨21, .checkpointSession (heldLease "t" "s" "w2" 2 30 1)⟩]

theorem takeover_checkpoints_increase :
    (ledger (key "t" "s") ((machine plainEnvironment (Neighbours.host plainAudit)).history
      (initial (Neighbours.single "t" "u")) takenOverRequests)).recorded.Pairwise (· < ·) :=
  run_checkpoints_increase plainEnvironment (Neighbours.host plainAudit)
    (Neighbours.single "t" "u") takenOverRequests (by decide +kernel) (key "t" "s")

end SessionsDomain

end OpenCowork.ControlPlane
