import Mathlib.Data.Rat.Floor
import OpenCowork.ControlPlane.Sessions.HostFrames
import OpenCowork.ControlPlane.Sessions.Ledger

/-! # The quota of active workers

The quota is read only when a lease is claimed. Every other operation leaves a
live lease only where one lived before, and waiting ends leases without starting
any, so the number of an organisation's live leases grows by nothing but a claim
that found it below the limit.
-/

namespace OpenCowork.ControlPlane

open Foundation

/-! ## Live leases over time -/

namespace SessionState

variable {session : SessionState}

theorem leaseFree_later {earlier later : Instant}
    (hlater : earlier ≤ later) (hfree : session.leaseFree earlier = true) :
    session.leaseFree later = true := by
  unfold leaseFree at hfree ⊢
  cases hlease : session.lease with
  | none => rfl
  | some =>
    rw [hlease] at hfree
    exact decide_eq_true ((of_decide_eq_true hfree).trans hlater)

theorem leaseFree_of_none (hlease : session.lease = none)
    (now : Instant) : session.leaseFree now = true := by
  rw [leaseFree, hlease]

theorem leaseFree_of_live {lease : WorkerLeaseRecord} {now : Instant}
    (hlease : session.lease = some lease) (hlive : now < lease.leaseExpiresAt) :
    session.leaseFree now = false := by
  rw [leaseFree, hlease]
  exact decide_eq_false (not_le.mpr hlive)

end SessionState

namespace SessionStep

variable {sessionKey : String} {now : Instant} {change : SessionChange}
  {before after : SessionState}

theorem live_before (hstep : SessionStep sessionKey now change before after)
    (hunclaimed : ∀ token, change ≠ .claimed token) (hlive : after.leaseFree now = false) :
    before.leaseFree now = false := by
  have hended (session : SessionState) (hlease : session.lease = none)
      (hlive : session.leaseFree now = false) : before.leaseFree now = false :=
    absurd (session.leaseFree_of_none hlease now) (by simp [hlive])
  cases hstep with
  | unchanged => exact hlive
  | claimed => exact absurd rfl (hunclaimed _)
  | released | recovered => exact hended _ rfl hlive
  | renewed _ _ _ hlease hcurrent | checkpointed _ _ hlease hcurrent =>
    exact before.leaseFree_of_live hlease hcurrent
  | enqueued | handed | settled => exact hlive
  | checkpointSettled _ _ _ _ hlease hcurrent =>
    exact before.leaseFree_of_live hlease hcurrent
  | deferred => exact hended _ rfl hlive

end SessionStep

/-- A claim for a session of the organisation has the organisation's leases counted
against the limit. -/
def ClaimsWithin {σ : Type} (host : SessionsHost σ) (orgId : String) (limit : ℚ)
    (moment : SessionMoment σ) : Prop :=
  match moment.input.operation with
  | .claimSessionLease tenantId sessionId _ _ quota =>
    ∀ session, moment.before.sessions.get (key tenantId sessionId) = some session →
      host.resolveOrgId moment.before.neighbours session.record.tenantId = orgId →
      ∃ given, quota = some given ∧ given.maxActiveWorkersPerOrg = some limit ∧
        textOr given.orgId (host.resolveOrgId moment.before.neighbours tenantId) = orgId
  | _ => True

namespace SessionsDomain

section Counting

variable {σ : Type} {host : SessionsHost σ} {before after : SessionsDomain σ} {orgId : String}

theorem activeLeases_le (host : SessionsHost σ) (before after : SessionsDomain σ) (orgId : String)
    (earlier later : Instant) (fresh : List String)
    (horgs : host.resolveOrgId after.neighbours = host.resolveOrgId before.neighbours)
    (hlive : ∀ sessionKey ∉ fresh, ∀ session, after.sessions.get sessionKey = some session →
      host.resolveOrgId before.neighbours session.record.tenantId = orgId →
      session.leaseFree later = false → ∃ held, before.sessions.get sessionKey = some held ∧
        held.leaseFree earlier = false ∧ held.record.tenantId = session.record.tenantId) :
    after.activeLeases host orgId later ≤
      fresh.length + before.activeLeases host orgId earlier := by
  apply OrderedMap.length_filter_values_le
  intro sessionKey hfresh session hget hcounted
  rw [Bool.and_eq_true, decide_eq_true_eq, Bool.not_eq_true', horgs] at hcounted
  obtain ⟨held, hheld, hfree, htenant⟩ := hlive sessionKey hfresh session hget hcounted.1 hcounted.2
  refine ⟨held, hheld, ?_⟩
  rw [Bool.and_eq_true, decide_eq_true_eq, Bool.not_eq_true', htenant]
  exact ⟨hcounted.1, hfree⟩

theorem activeLeases_wait {earlier later : Instant} (hlater : earlier ≤ later) :
    before.activeLeases host orgId later ≤ before.activeLeases host orgId earlier := by
  have hcount := activeLeases_le host before before orgId earlier later [] rfl ?_
  · simpa using hcount
  · intro _ _ session hget _ hlive
    refine ⟨session, hget, ?_, rfl⟩
    by_contra hfree
    rw [Bool.not_eq_false] at hfree
    rw [SessionState.leaseFree_later hlater hfree] at hlive
    exact Bool.noConfusion hlive

/-- A claim that is admitted for the organisation found it below the limit. -/
theorem claim_activeLeases {domain : SessionsDomain σ} {limit : ℚ} (hpositive : 0 < limit)
    {tenantId sessionId workerId : String} {now ttlMs : Int} {quota : Option WorkerQuota}
    (hwithin : ∀ session, domain.sessions.get (key tenantId sessionId) = some session →
      host.resolveOrgId domain.neighbours session.record.tenantId = orgId →
      ∃ given, quota = some given ∧ given.maxActiveWorkersPerOrg = some limit ∧
        textOr given.orgId (host.resolveOrgId domain.neighbours tenantId) = orgId)
    (hbound : domain.activeLeases host orgId now ≤ ⌈limit⌉₊) :
    (domain.claimSessionLease host tenantId sessionId workerId now ttlMs
      quota).2.activeLeases host orgId now ≤ ⌈limit⌉₊ := by
  rcases domain.claimSessionLease_cases host tenantId sessionId workerId now ttlMs quota
    with hsame | ⟨session, hget, hallowed, hclaimed⟩
  · rw [hsame]
    exact hbound
  rw [hclaimed]
  have hothers (sessionKey : String) (hother : key tenantId sessionId ≠ sessionKey)
      (found : SessionState) (hfound : (domain.putSession (key tenantId sessionId)
        (session.grantLease tenantId sessionId workerId now ttlMs)).sessions.get sessionKey =
          some found) (hlive : found.leaseFree now = false) :
      ∃ held, domain.sessions.get sessionKey = some held ∧ held.leaseFree now = false ∧
        held.record.tenantId = found.record.tenantId := by
    rw [putSession, OrderedMap.get_set_of_ne _ _ hother] at hfound
    exact ⟨found, hfound, hlive, rfl⟩
  by_cases horg : host.resolveOrgId domain.neighbours session.record.tenantId = orgId
  · obtain ⟨_, rfl, hlimit, hcounted⟩ := hwithin session hget horg
    rw [workerQuotaAllows, hlimit, hcounted] at hallowed
    have hroom : (domain.activeLeases host orgId now : ℚ) < limit := by
      simpa [hpositive] using hallowed
    have hcount := activeLeases_le host domain (domain.putSession (key tenantId sessionId)
      (session.grantLease tenantId sessionId workerId now ttlMs)) orgId now now
      [key tenantId sessionId] rfl ?_
    · rw [List.length_singleton] at hcount
      have hbelow := Nat.lt_ceil.mpr hroom
      omega
    · intro sessionKey hfresh found hfound _ hlive
      exact hothers sessionKey (fun heq => hfresh (by simp [heq])) found hfound hlive
  · -- the session counts for another organisation
    have hcount := activeLeases_le host domain (domain.putSession (key tenantId sessionId)
      (session.grantLease tenantId sessionId workerId now ttlMs)) orgId now now [] rfl ?_
    · rw [List.length_nil, Nat.zero_add] at hcount
      exact hcount.trans hbound
    · intro sessionKey _ found hfound hcounted hlive
      apply hothers sessionKey ?_ found hfound hlive
      rintro rfl
      rw [putSession, OrderedMap.get_set_self] at hfound
      obtain rfl := Option.some.inj hfound
      exact horg hcounted

theorem other_activeLeases (env : Environment) {domain : SessionsDomain σ}
    {request : SessionRequest}
    (horgs : host.resolveOrgId (domain.perform env host request).2.neighbours =
      host.resolveOrgId domain.neighbours)
    (hother : ∀ tenantId sessionId workerId ttlMs quota, request.operation ≠
      .claimSessionLease tenantId sessionId workerId ttlMs quota) :
    (domain.perform env host request).2.activeLeases host orgId request.now ≤
      domain.activeLeases host orgId request.now := by
  have hcount := activeLeases_le host domain (domain.perform env host request).2 orgId request.now
    request.now [] horgs ?_
  · rwa [List.length_nil, Nat.zero_add] at hcount
  · intro sessionKey _ _ hget _ hlive
    have hexplained := domain.perform_explained env host request sessionKey
    rw [hget] at hexplained
    generalize hbefore : domain.sessions.get sessionKey = before at hexplained
    cases hexplained with
    | created input createdAt =>
      exact absurd ((newSession input createdAt).leaseFree_of_none rfl request.now)
        (by simp [hlive])
    | changed _ before _ hstep hcauses =>
      refine ⟨before, rfl, hstep.live_before ?_ hlive, hstep.record_tenantId.symm⟩
      rintro _ rfl
      generalize request.operation = operation at hcauses hother
      cases hcauses with
      | claim => exact hother _ _ _ _ _ rfl

end Counting

/-- In a run whose claims for the organisation all count its leases against one positive
limit, with a clock that never runs backwards, the organisation never has more live leases
than the limit. -/
theorem run_activeLeases_le_limit (env : Environment) (audit : AuditEnvironment)
    (neighbours : Neighbours) (requests : List SessionRequest) (orgId : String) {limit : ℚ}
    (hpositive : 0 < limit) {now : Instant}
    (hclock : (requests.map SessionRequest.now ++ [now]).Pairwise (· ≤ ·))
    (hwithin : ∀ moment ∈ (machine env (Neighbours.host audit)).history (initial neighbours)
      requests, ClaimsWithin (Neighbours.host audit) orgId limit moment) :
    ((machine env (Neighbours.host audit)).run (initial neighbours) requests).activeLeases
      (Neighbours.host audit) orgId now ≤ ⌈limit⌉₊ := by
  have hkeeps := Neighbours.host_keeps_identities audit neighbours
  have hinvariant := (machine env (Neighbours.host audit)).history_invariant_clocked
    SessionRequest.now (ClaimsWithin (Neighbours.host audit) orgId limit)
    (fun _ time domain => neighbours.SameIdentities domain.neighbours ∧
      domain.activeLeases (Neighbours.host audit) orgId time ≤ ⌈limit⌉₊) ?_ ?_
    (initial neighbours) (fun _ => ⟨⟨rfl, rfl, rfl, rfl⟩, Nat.zero_le _⟩) requests now hclock
      hwithin
  · exact hinvariant.2
  · rintro _ earlier later domain hlater ⟨horgs, hbound⟩
    exact ⟨horgs, (activeLeases_wait hlater).trans hbound⟩
  · rintro _ domain ⟨time, operation⟩ ⟨horgs, hbound⟩ hguard
    have hnext := domain.perform_keeps env hkeeps ⟨time, operation⟩ horgs
    refine ⟨hnext, ?_⟩
    by_cases hclaim : ∃ tenantId sessionId workerId ttlMs quota,
        operation = .claimSessionLease tenantId sessionId workerId ttlMs quota
    · obtain ⟨tenantId, _, _, _, _, rfl⟩ := hclaim
      exact claim_activeLeases hpositive hguard hbound
    · push Not at hclaim
      apply (other_activeLeases env ?_ hclaim).trans hbound
      funext tenantId
      change Neighbours.orgIdForTenant _ _ = Neighbours.orgIdForTenant _ _
      rw [Neighbours.orgIdForTenant, Neighbours.orgIdForTenant, hnext.orgsByTenant,
        horgs.orgsByTenant]

end SessionsDomain

def claimWithLimit (tenantId sessionId workerId : String) (ttlMs : Int) (limit : ℚ) :
    SessionOperation :=
  .claimSessionLease tenantId sessionId workerId ttlMs (some ⟨none, some limit⟩)

/-- Two sessions of tenant `t`, both claimed with a worker limit. -/
def claimsOfTwo (limit : ℚ) : List SessionRequest :=
  [⟨0, openSession "t" "u" "r"⟩, ⟨0, openSession "t" "u" "s"⟩,
    ⟨1, claimWithLimit "t" "r" "v" 10 limit⟩, ⟨2, claimWithLimit "t" "s" "w" 10 limit⟩]

/-- A limit of zero is no limit. -/
theorem zero_limit_unlimited :
    (∀ moment ∈ (SessionsDomain.machine plainEnvironment (Neighbours.host plainAudit)).history
        (SessionsDomain.initial (Neighbours.single "t" "u")) (claimsOfTwo 0),
      ClaimsWithin (Neighbours.host plainAudit) "t" 0 moment) ∧
    ((claimsOfTwo 0).map SessionRequest.now ++ [3]).Pairwise (· ≤ ·) ∧
    ((SessionsDomain.machine plainEnvironment (Neighbours.host plainAudit)).run
      (SessionsDomain.initial (Neighbours.single "t" "u")) (claimsOfTwo 0)).activeLeases
        (Neighbours.host plainAudit) "t" 3 = 2 := by
  refine ⟨?_, by decide, by decide +kernel⟩
  exact List.forall_mem_cons.mpr ⟨trivial, List.forall_mem_cons.mpr ⟨trivial,
    List.forall_mem_cons.mpr ⟨fun _ _ _ => ⟨_, rfl, rfl, rfl⟩, List.forall_mem_singleton.mpr
      fun _ _ _ => ⟨_, rfl, rfl, rfl⟩⟩⟩⟩

theorem second_claim_refused :
    ((SessionsDomain.machine plainEnvironment (Neighbours.host plainAudit)).run
      (SessionsDomain.initial (Neighbours.single "t" "u")) (claimsOfTwo 1)).activeLeases
        (Neighbours.host plainAudit) "t" 3 ≤ ⌈(1 : ℚ)⌉₊ :=
  SessionsDomain.run_activeLeases_le_limit plainEnvironment plainAudit (Neighbours.single "t" "u")
    (claimsOfTwo 1) "t" (by decide +kernel) (by decide)
    (List.forall_mem_cons.mpr ⟨trivial, List.forall_mem_cons.mpr ⟨trivial,
      List.forall_mem_cons.mpr ⟨fun _ _ _ => ⟨_, rfl, rfl, rfl⟩, List.forall_mem_singleton.mpr
        fun _ _ _ => ⟨_, rfl, rfl, rfl⟩⟩⟩⟩)

end OpenCowork.ControlPlane
