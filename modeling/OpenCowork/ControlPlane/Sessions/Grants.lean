import OpenCowork.ControlPlane.Sessions.Fencing

/-! # Grants of a session's lease

A lease record keeps the tenant, session, worker and token of the claim that installed
it; renewals and checkpoints only move its expiry and version. So a token names the worker
that it was granted to, and a token that was replaced does not come back.
-/

namespace OpenCowork.ControlPlane

open Foundation

structure SameGrant (first second : WorkerLeaseRecord) : Prop where
  tenantId : second.tenantId = first.tenantId
  sessionId : second.sessionId = first.sessionId
  leasedBy : second.leasedBy = first.leasedBy
  leaseToken : second.leaseToken = first.leaseToken

structure Granted (sessionKey : String) (attempts : Nat) (lease : WorkerLeaseRecord) : Prop where
  addressed : key lease.tenantId lease.sessionId = sessionKey
  numbered : ∃ attempt ≤ attempts,
    lease.leaseToken = leaseToken lease.tenantId lease.sessionId attempt lease.leasedBy

namespace Granted

variable {sessionKey : String} {attempts later : Nat} {lease other : WorkerLeaseRecord}
  (hgranted : Granted sessionKey attempts lease)
include hgranted

theorem mono (hle : attempts ≤ later) : Granted sessionKey later lease := by
  obtain ⟨attempt, hattempt, htoken⟩ := hgranted.numbered
  exact ⟨hgranted.addressed, attempt, hattempt.trans hle, htoken⟩

theorem same (hsame : SameGrant lease other) : Granted sessionKey attempts other := by
  obtain ⟨attempt, hattempt, htoken⟩ := hgranted.numbered
  constructor
  · rw [hsame.tenantId, hsame.sessionId]
    exact hgranted.addressed
  · refine ⟨attempt, hattempt, ?_⟩
    rw [hsame.leaseToken, hsame.tenantId, hsame.sessionId, hsame.leasedBy]
    exact htoken

theorem leasedBy_eq
    (hother : Granted sessionKey later other) (htoken : lease.leaseToken = other.leaseToken) :
    lease.leasedBy = other.leasedBy := by
  obtain ⟨_, _, hnumber⟩ := hgranted.numbered
  obtain ⟨_, _, hnumber'⟩ := hother.numbered
  rw [hnumber, hnumber'] at htoken
  exact (leaseToken_inj (hgranted.addressed.trans hother.addressed.symm) htoken).2

theorem ne_next {tenantId sessionId : String}
    (hkey : key tenantId sessionId = sessionKey) (workerId : String) :
    lease.leaseToken ≠ leaseToken tenantId sessionId (attempts + 1) workerId := by
  obtain ⟨_, _, hnumber⟩ := hgranted.numbered
  intro htoken
  rw [hnumber] at htoken
  have hsame := (leaseToken_inj (hgranted.addressed.trans hkey.symm) htoken).1
  omega

end Granted

/-- Where the lease of a session comes from in a step: it is one that was there, or the
grant with the next number. -/
structure Regranted (sessionKey : String) (before after : SessionState) : Prop where
  attempts : before.nextLeaseAttempt ≤ after.nextLeaseAttempt
  origin : ∀ lease, after.lease = some lease →
    (∃ held, before.lease = some held ∧ SameGrant held lease) ∨
      after.nextLeaseAttempt = before.nextLeaseAttempt + 1 ∧
        key lease.tenantId lease.sessionId = sessionKey ∧
        lease.leaseToken = leaseToken lease.tenantId lease.sessionId
          (before.nextLeaseAttempt + 1) lease.leasedBy

namespace Regranted

variable {sessionKey : String} {before after : SessionState}
  (hattempts : after.nextLeaseAttempt = before.nextLeaseAttempt)
include hattempts

theorem kept (hlease : after.lease = before.lease) : Regranted sessionKey before after where
  attempts := hattempts.ge
  origin := fun lease hafter => .inl ⟨lease, hlease ▸ hafter, rfl, rfl, rfl, rfl⟩

theorem dropped (hlease : after.lease = none) : Regranted sessionKey before after where
  attempts := hattempts.ge
  origin := fun _ hafter => absurd (hlease.symm.trans hafter) (by simp)

theorem same {held lease : WorkerLeaseRecord} (hbefore : before.lease = some held)
    (hafter : after.lease = some lease) (hsame : SameGrant held lease) :
    Regranted sessionKey before after where
  attempts := hattempts.ge
  origin := fun _ hother =>
    .inl ⟨held, hbefore, Option.mem_unique hafter hother ▸ hsame⟩

omit hattempts

theorem granted (hregranted : Regranted sessionKey before after)
    (hbefore : ∀ lease, before.lease = some lease →
      Granted sessionKey before.nextLeaseAttempt lease)
    (lease : WorkerLeaseRecord) (hafter : after.lease = some lease) :
    Granted sessionKey after.nextLeaseAttempt lease := by
  rcases hregranted.origin lease hafter with ⟨held, hheld, hsame⟩ | ⟨hnext, haddress, htoken⟩
  · exact ((hbefore held hheld).same hsame).mono hregranted.attempts
  · exact ⟨haddress, before.nextLeaseAttempt + 1, hnext.ge, htoken⟩

theorem token_ne (hregranted : Regranted sessionKey before after) {lease : WorkerLeaseRecord}
    (hgranted : Granted sessionKey before.nextLeaseAttempt lease)
    (hbefore : ∀ current, before.lease = some current → current.leaseToken ≠ lease.leaseToken)
    (current : WorkerLeaseRecord) (hafter : after.lease = some current) :
    current.leaseToken ≠ lease.leaseToken := by
  rcases hregranted.origin current hafter with ⟨held, hheld, hsame⟩ | ⟨_, haddress, htoken⟩
  · rw [hsame.leaseToken]
    exact hbefore held hheld
  · rw [htoken]
    exact (hgranted.ne_next haddress _).symm

end Regranted

theorem SessionStep.regranted {sessionKey : String} {now : Instant} {change : SessionChange}
    {before after : SessionState} (hstep : SessionStep sessionKey now change before after) :
    Regranted sessionKey before after := by
  cases hstep with
  | unchanged => exact .kept rfl rfl
  | claimed _ _ _ _ _ hkey =>
    constructor
    · exact Nat.le_succ _
    · intro _ hlease
      obtain rfl := Option.some.inj hlease
      exact .inr ⟨rfl, hkey, rfl⟩
  | released | recovered => exact .dropped rfl rfl
  | renewed _ _ _ hlease | checkpointed _ _ hlease =>
    exact .same rfl hlease rfl ⟨rfl, rfl, rfl, rfl⟩
  | enqueued | handed | settled => exact .kept rfl rfl
  | checkpointSettled _ _ _ _ hlease =>
    exact .same rfl hlease rfl ⟨rfl, rfl, rfl, rfl⟩
  | deferred => exact .dropped rfl rfl

namespace SessionsDomain

variable {σ : Type} (env : Environment) (host : SessionsHost σ) {domain next : SessionsDomain σ}
  {sessionKey : String}

theorem perform_regranted (request : SessionRequest) {before : SessionState}
    (hbefore : domain.sessions.get sessionKey = some before) :
    ∃ after, (domain.perform env host request).2.sessions.get sessionKey = some after ∧
      Regranted sessionKey before after := by
  have hexplained := domain.perform_explained env host request sessionKey
  rw [hbefore] at hexplained
  generalize (domain.perform env host request).2.sessions.get sessionKey = after at hexplained ⊢
  cases hexplained with
  | changed _ _ after hstep => exact ⟨after, rfl, hstep.regranted⟩

theorem perform_created (request : SessionRequest) {after : SessionState}
    (hbefore : domain.sessions.get sessionKey = none)
    (hafter : (domain.perform env host request).2.sessions.get sessionKey = some after) :
    after.lease = none := by
  have hexplained := domain.perform_explained env host request sessionKey
  rw [hbefore, hafter] at hexplained
  cases hexplained with
  | created => rfl

variable {lease answered : WorkerLeaseRecord}

/-- A call under a lease that is answered with a lease: the presented token was the
current one, and the answer is a record of the same grant. -/
def AnsweredUnder (domain : SessionsDomain σ) (lease answered : WorkerLeaseRecord) : Prop :=
  ∃ session current, domain.sessions.get (key lease.tenantId lease.sessionId) = some session ∧
    session.lease = some current ∧ current.leaseToken = lease.leaseToken ∧
    SameGrant current answered

theorem withSession_ok {α : Type} {tenantId sessionId : String}
    {operation : SessionState → Outcome SessionState α} {value : α}
    (hcall : domain.withSession host tenantId sessionId operation = (.ok value, next)) :
    ∃ session, domain.sessions.get (key tenantId sessionId) = some session ∧
      (operation session).1 = .ok value := by
  unfold withSession at hcall
  split at hcall
  · exact absurd (congrArg Prod.fst hcall) (by simp)
  next session hsession =>
    exact ⟨session, domain.requireSession_eq_ok host hsession, congrArg Prod.fst hcall⟩

theorem renewSessionLease_answered {dateNow now ttlMs : Int}
    (hcall : domain.renewSessionLease host lease dateNow now ttlMs = (.ok answered, next)) :
    AnsweredUnder domain lease answered := by
  obtain ⟨session, hget, hanswer⟩ := withSession_ok host hcall
  unfold SessionState.renewSessionLease at hanswer
  split at hanswer
  · simp at hanswer
  next current hcurrent =>
    obtain ⟨hlease, htoken, _⟩ := SessionState.assertCurrentLease_eq_ok.mp hcurrent
    obtain rfl := Except.ok.inj hanswer
    exact ⟨session, current, hget, hlease, htoken, rfl, rfl, rfl, rfl⟩

theorem checkpointSession_answered {dateNow : Instant}
    (hcall : domain.checkpointSession host lease dateNow = (.ok answered, next)) :
    AnsweredUnder domain lease answered := by
  obtain ⟨session, hget, hanswer⟩ := withSession_ok host hcall
  unfold SessionState.checkpointSession at hanswer
  split at hanswer
  · simp at hanswer
  next current hcurrent =>
  obtain ⟨hlease, htoken, _⟩ := SessionState.assertCurrentLease_eq_ok.mp hcurrent
  split at hanswer
  · simp at hanswer
  next hadvance =>
    obtain ⟨_, rfl⟩ := SessionState.advanceCheckpoint_eq_ok.mp hadvance
    obtain rfl := Except.ok.inj hanswer
    exact ⟨session, current, hget, hlease, htoken, rfl, rfl, rfl, rfl⟩

theorem checkpointAndAckSessionCommand_answered {commandId : String} {dateNow now : Instant}
    {result : CheckpointAndAckSessionCommandResult}
    (hcall : domain.checkpointAndAckSessionCommand host lease commandId dateNow now =
      (.ok result, next)) : AnsweredUnder domain lease result.lease := by
  obtain ⟨session, hget, hanswer⟩ := withSession_ok host hcall
  unfold SessionState.checkpointAndAckSessionCommand at hanswer
  split at hanswer
  · simp at hanswer
  next current hcurrent =>
  obtain ⟨hlease, htoken, _⟩ := SessionState.assertCurrentLease_eq_ok.mp hcurrent
  refine ⟨session, current, hget, hlease, htoken, ?_⟩
  split at hanswer
  · simp at hanswer
  split at hanswer
  · obtain rfl := Except.ok.inj hanswer
    exact ⟨rfl, rfl, rfl, rfl⟩
  split at hanswer
  · simp at hanswer
  split at hanswer
  · simp at hanswer
  next hadvance =>
    obtain ⟨_, rfl⟩ := SessionState.advanceCheckpoint_eq_ok.mp hadvance
    obtain rfl := Except.ok.inj hanswer
    exact ⟨rfl, rfl, rfl, rfl⟩

end SessionsDomain

end OpenCowork.ControlPlane
