import OpenCowork.ControlPlane.Sessions.Steps
import OpenCowork.ControlPlane.UsageQuotas

/-! # What session operations leave to the neighbours

The sessions domain reaches the state of its neighbours through the host alone, so
a fact that the host's own operations keep survives every session operation. The
identities behind the in-memory neighbours are such a fact.
-/

namespace OpenCowork.ControlPlane

open Foundation

/-- A fact about the neighbours that none of their operations ends. -/
structure SessionsHost.Keeps {σ : Type} (host : SessionsHost σ) (fact : σ → Prop) : Prop where
  consumes : ∀ state dateNow input, fact state →
    fact (host.consumeUsageQuota state dateNow input).2
  adjusts : ∀ state orgId quotaKey window delta, fact state →
    fact (host.adjustUsageQuota state orgId quotaKey window delta).2
  restores : ∀ state earlier, fact state → fact (host.restoreUsageQuotaCounters state earlier)
  records : ∀ state input, fact state → fact (host.recordAuditEvent state input).2

structure Neighbours.SameIdentities (first state : Neighbours) : Prop where
  tenants : state.tenants = first.tenants
  users : state.users = first.users
  orgs : state.orgs = first.orgs
  orgsByTenant : state.orgsByTenant = first.orgsByTenant

theorem Neighbours.host_keeps_identities (audit : AuditEnvironment) (first : Neighbours) :
    (Neighbours.host audit).Keeps (Neighbours.SameIdentities first) where
  consumes := by
    intro state dateNow input hstate
    have hconsumed := state.consumeUsageQuota_consumption dateNow input
    change SameIdentities first (state.consumeUsageQuota dateNow input).2
    generalize state.consumeUsageQuota dateNow input = outcome at hconsumed
    cases hconsumed with
    | thrown | refused => exact hstate
    | granted => exact ⟨hstate.tenants, hstate.users, hstate.orgs, hstate.orgsByTenant⟩
  adjusts := by
    intro state orgId quotaKey window delta hstate
    have hadjusted := state.adjustUsageQuota_adjustment orgId quotaKey window delta
    change SameIdentities first (state.adjustUsageQuota orgId quotaKey window delta).2
    generalize state.adjustUsageQuota orgId quotaKey window delta = outcome at hadjusted
    cases hadjusted with
    | missed => exact hstate
    | applied => exact ⟨hstate.tenants, hstate.users, hstate.orgs, hstate.orgsByTenant⟩
  restores := fun _ _ hstate => ⟨hstate.tenants, hstate.users, hstate.orgs, hstate.orgsByTenant⟩
  records := by
    intro state input hstate
    change SameIdentities first (state.recordAuditEvent audit input).2
    unfold Neighbours.recordAuditEvent
    dsimp only
    split
    · exact hstate
    split
    · exact hstate
    · exact ⟨hstate.tenants, hstate.users, hstate.orgs, hstate.orgsByTenant⟩

namespace SessionsDomain

variable {σ : Type} (env : Environment) {host : SessionsHost σ} {fact : σ → Prop}
  (domain : SessionsDomain σ)

theorem withSession_neighbours {α : Type} (tenantId sessionId : String)
    (operation : SessionState → Outcome SessionState α) :
    (domain.withSession host tenantId sessionId operation).2.neighbours = domain.neighbours := by
  unfold withSession
  split <;> rfl

section

variable (hkeeps : host.Keeps fact)
include hkeeps

theorem consumeUsageQuotas_keeps (dateNow : Instant)
    (inputs : List ConsumeUsageQuotaInput) {state : σ} (hfact : fact state) :
    fact (consumeUsageQuotas host dateNow inputs state).2 := by
  induction inputs generalizing state with
  | nil => exact hfact
  | cons input _ ih =>
    have hnext := hkeeps.consumes state dateNow input hfact
    rw [consumeUsageQuotas]
    generalize host.consumeUsageQuota state dateNow input = outcome at hnext
    obtain ⟨_ | _, _⟩ := outcome
    · exact hnext
    · simp only
      split
      · exact ih hnext
      · exact hnext

theorem recoverSessionLeaseRecord_keeps (sessionKey : String)
    (session : SessionState) (lease : WorkerLeaseRecord) (now : Instant) (maxAttempts : Int)
    (hfact : fact domain.neighbours) :
    fact (domain.recoverSessionLeaseRecord host sessionKey session lease now
      maxAttempts).2.neighbours := by
  unfold recoverSessionLeaseRecord
  simp only
  cases host.resolveOrgIdOrNull domain.neighbours lease.tenantId with
  | none => exact hfact
  | some orgId =>
    simp only
    split
    · exact hfact
    · have hnext := hkeeps.records domain.neighbours
        (leaseReapedAudit orgId (session.reapedRecord lease now maxAttempts) now) hfact
      generalize host.recordAuditEvent domain.neighbours
        (leaseReapedAudit orgId (session.reapedRecord lease now maxAttempts) now) = outcome
        at hnext
      obtain ⟨_ | _, _⟩ := outcome
      · exact hnext
      · exact hnext

theorem reapSessions_keeps (now : Instant) (maxAttempts : Int)
    (keys : List String) (hfact : fact domain.neighbours) :
    fact (reapSessions host now maxAttempts keys domain).2.neighbours := by
  induction keys generalizing domain with
  | nil => exact hfact
  | cons sessionKey rest ih =>
    rw [reapSessions]
    cases domain.sessions.get sessionKey with
    | none => exact ih domain hfact
    | some session =>
      simp only
      cases session.lease with
      | none => exact ih domain hfact
      | some lease =>
        have hnext := domain.recoverSessionLeaseRecord_keeps hkeeps sessionKey session lease
          now maxAttempts hfact
        simp only
        generalize domain.recoverSessionLeaseRecord host sessionKey session lease now
          maxAttempts = outcome at hnext
        obtain ⟨result | result, next⟩ := outcome
        · exact hnext
        · have hrest := ih next hnext
          simp only
          generalize reapSessions host now maxAttempts rest next = last at hrest
          obtain ⟨_ | _, _⟩ := last
          · exact hrest
          · exact hrest

theorem recoverSessionLease_keeps (lease : WorkerLeaseRecord)
    (now : Instant) (maxCommandAttempts : Option ℚ) (hfact : fact domain.neighbours) :
    fact (domain.recoverSessionLease host lease now maxCommandAttempts).2.neighbours := by
  unfold recoverSessionLease
  cases domain.requireSession host lease.tenantId lease.sessionId with
  | error => exact hfact
  | ok session =>
    simp only
    cases session.lease with
    | none => exact hfact
    | some current =>
      have hnext := domain.recoverSessionLeaseRecord_keeps hkeeps
        (key lease.tenantId lease.sessionId) session current now
        (attemptLimit maxCommandAttempts) hfact
      simp only
      split
      · exact hfact
      · generalize domain.recoverSessionLeaseRecord host (key lease.tenantId lease.sessionId)
          session current now (attemptLimit maxCommandAttempts) = outcome at hnext
        obtain ⟨_ | _, _⟩ := outcome
        · exact hnext
        · exact hnext

theorem enqueueSessionCommand_keeps (input : EnqueueCommandInput)
    (dateNow : Instant) (hfact : fact domain.neighbours) :
    fact (domain.enqueueSessionCommand env host input dateNow).2.neighbours := by
  have hnext := consumeUsageQuotas_keeps hkeeps dateNow input.usageQuotas hfact
  unfold enqueueSessionCommand
  split
  · exact hfact
  split
  · exact hfact
  split
  · split <;> exact hfact
  split
  · exact hfact
  generalize consumeUsageQuotas host dateNow input.usageQuotas domain.neighbours = outcome at hnext
  obtain ⟨_ | _, next⟩ := outcome
  · exact hkeeps.restores next domain.neighbours hnext
  · exact hnext

theorem deferSessionCommand_keeps (lease : WorkerLeaseRecord)
    (commandId : String) (input : DeferSessionCommandInput) (now : Instant)
    (hfact : fact domain.neighbours) :
    fact (domain.deferSessionCommand env host lease commandId input now).2.neighbours := by
  have hnext : fact (domain.returnReservation host lease.tenantId
      input.quotaReservation).2 := by
    unfold returnReservation
    split
    · exact hfact
    · exact hkeeps.adjusts _ _ _ _ _ hfact
  unfold deferSessionCommand
  split
  · exact hfact
  split
  · exact hfact
  split
  · exact hfact
  split
  · exact hfact
  generalize domain.returnReservation host lease.tenantId input.quotaReservation = outcome at hnext
  obtain ⟨_ | _, _⟩ := outcome
  · exact hnext
  · exact hnext

end

theorem claimSessionLease_cases (host : SessionsHost σ) (tenantId sessionId workerId : String)
    (now ttlMs : Int) (quota : Option WorkerQuota) :
    (domain.claimSessionLease host tenantId sessionId workerId now ttlMs quota).2 = domain ∨
      ∃ session, domain.sessions.get (key tenantId sessionId) = some session ∧
        domain.workerQuotaAllows host tenantId now quota = true ∧
        (domain.claimSessionLease host tenantId sessionId workerId now ttlMs quota).2 =
          domain.putSession (key tenantId sessionId)
            (session.grantLease tenantId sessionId workerId now ttlMs) := by
  unfold claimSessionLease
  cases hsession : domain.requireSession host tenantId sessionId with
  | error => exact .inl rfl
  | ok session =>
    simp only
    split
    next hallowed =>
      rw [Bool.and_eq_true] at hallowed
      exact .inr ⟨session, domain.requireSession_eq_ok host hsession, hallowed.2, rfl⟩
    · exact .inl rfl

theorem perform_keeps (hkeeps : host.Keeps fact) (request : SessionRequest)
    (hfact : fact domain.neighbours) : fact (domain.perform env host request).2.neighbours := by
  obtain ⟨now, operation⟩ := request
  cases operation with
  | createSession input =>
    have hsame : (domain.createSession host input now).2.neighbours = domain.neighbours := by
      unfold createSession
      split
      · rfl
      split
      · rfl
      split <;> rfl
    exact hsame ▸ hfact
  | claimSessionLease tenantId sessionId workerId ttlMs quota =>
    have hsame : (domain.claimSessionLease host tenantId sessionId workerId now ttlMs
        quota).2.neighbours = domain.neighbours := by
      rcases domain.claimSessionLease_cases host tenantId sessionId workerId now ttlMs quota
        with h | ⟨_, _, _, h⟩
      · rw [h]
      · rw [h]
        rfl
    exact hsame ▸ hfact
  | reapExpiredSessionLeases =>
    exact domain.reapSessions_keeps hkeeps now _ _ hfact
  | recoverSessionLease =>
    exact domain.recoverSessionLease_keeps hkeeps _ now _ hfact
  | enqueueSessionCommand input =>
    exact domain.enqueueSessionCommand_keeps env hkeeps input now hfact
  | deferSessionCommand =>
    exact domain.deferSessionCommand_keeps env hkeeps _ _ _ now hfact
  | releaseSessionLease | renewSessionLease | checkpointSession | claimNextSessionCommand
  | ackSessionCommand => exact (domain.withSession_neighbours _ _ _).symm ▸ hfact
  | checkpointAndAckSessionCommand | failSessionCommand =>
    exact (domain.withSession_neighbours _ _ _).symm ▸ hfact

end SessionsDomain

end OpenCowork.ControlPlane
