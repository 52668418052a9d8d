import OpenCowork.ControlPlane.Sessions.Grants
import OpenCowork.ControlPlane.Sessions.Runnable
import OpenCowork.ControlPlane.Workers.CheckpointedCommands

/-! # The latest checkpoint of a session

The object store is not fenced: whoever saves last is what a restore reads. The lease only
fences the acknowledgement, so a restore reads the checkpoint of the last acknowledged
command when the save before it was acknowledged, and not otherwise.
-/

namespace OpenCowork.ControlPlane

open Foundation SessionsDomain

namespace CheckpointAnswer

variable {Tree : Type} [DecidableEq Tree]

def unacknowledgedAfter (pending : Option (String × WorkspaceCheckpoint Tree)) :
    CheckpointAnswer Tree → Option (String × WorkspaceCheckpoint Tree)
  | saved workerId checkpoint => some (workerId, checkpoint)
  | acknowledged workerId checkpoint =>
    if pending = some (workerId, checkpoint) then none else pending
  | _ => pending

/-- The last save, while no acknowledgement of it was accepted. -/
def unacknowledgedSave (answers : List (CheckpointAnswer Tree)) :
    Option (String × WorkspaceCheckpoint Tree) :=
  answers.foldl unacknowledgedAfter none

def acknowledgedAfter (last : Option (WorkspaceCheckpoint Tree)) :
    CheckpointAnswer Tree → Option (WorkspaceCheckpoint Tree)
  | acknowledged _ checkpoint => some checkpoint
  | _ => last

def acknowledgedCheckpoint (stored : Option (WorkspaceCheckpoint Tree))
    (answers : List (CheckpointAnswer Tree)) : Option (WorkspaceCheckpoint Tree) :=
  answers.foldl acknowledgedAfter stored

theorem unacknowledgedSave_snoc (answers : List (CheckpointAnswer Tree))
    (answer : CheckpointAnswer Tree) : unacknowledgedSave (answers ++ [answer]) =
      unacknowledgedAfter (unacknowledgedSave answers) answer := by
  rw [unacknowledgedSave, List.foldl_append]
  rfl

omit [DecidableEq Tree] in
theorem acknowledgedCheckpoint_snoc (stored : Option (WorkspaceCheckpoint Tree))
    (answers : List (CheckpointAnswer Tree)) (answer : CheckpointAnswer Tree) :
    acknowledgedCheckpoint stored (answers ++ [answer]) =
      acknowledgedAfter (acknowledgedCheckpoint stored answers) answer := by
  rw [acknowledgedCheckpoint, List.foldl_append]
  rfl

end CheckpointAnswer

open CheckpointAnswer

namespace CommandPhase

variable {Tree : Type}

def lease : CommandPhase Tree → Option WorkerLeaseRecord
  | idle => none
  | polling lease => some lease
  | claimed lease _ => some lease
  | executing lease _ => some lease
  | executed lease _ _ => some lease
  | saving lease _ _ _ => some lease
  | saved lease _ _ _ => some lease
  | stale lease _ _ => some lease

/-- The save whose acknowledgement comes next, with the lease it will be sent under. -/
def awaiting : CommandPhase Tree → Option (WorkerLeaseRecord × WorkspaceCheckpoint Tree)
  | saved lease _ _ checkpoint => some (lease, checkpoint)
  | _ => none

theorem lease_of_awaiting {phase : CommandPhase Tree} {lease : WorkerLeaseRecord}
    {checkpoint : WorkspaceCheckpoint Tree} (h : phase.awaiting = some (lease, checkpoint)) :
    phase.lease = some lease := by
  cases phase with
  | saved =>
    rw [awaiting, Option.some.injEq, Prod.mk.injEq] at h
    exact congrArg some h.1
  | _ => simp [awaiting] at h

end CommandPhase

def EventPhase.lease {Tree : Type} : EventPhase Tree → Option WorkerLeaseRecord
  | idle => none
  | appended lease _ => some lease
  | stale lease _ => some lease
  | checkpointed lease => some lease
  | saving lease _ => some lease

namespace SessionWorker

variable {Tree : Type} {worker : SessionWorker Tree} {lease : WorkerLeaseRecord}

def Has (worker : SessionWorker Tree) (lease : WorkerLeaseRecord) : Prop :=
  worker.lease = some lease ∨ worker.command.lease = some lease ∨ worker.event.lease = some lease

theorem Has.cached (h : worker.lease = some lease) : worker.Has lease := .inl h

theorem Has.ofCommand (h : worker.command.lease = some lease) : worker.Has lease := .inr (.inl h)

theorem Has.ofEvent (h : worker.event.lease = some lease) : worker.Has lease := .inr (.inr h)

variable {fresh : Option WorkerLeaseRecord} {after : SessionWorker Tree}

/-- A worker that has one new lease in hand at most, and saved nothing. -/
structure Calm (fresh : Option WorkerLeaseRecord) (worker after : SessionWorker Tree) : Prop where
  leases : ∀ lease, after.Has lease → fresh = some lease ∨ worker.Has lease
  awaiting : after.command.awaiting = worker.command.awaiting ∨ after.command.awaiting = none

theorem Calm.refl (fresh : Option WorkerLeaseRecord) : Calm fresh worker worker :=
  ⟨fun _ h => .inr h, .inl rfl⟩

theorem Calm.of_parts {fresh : Option WorkerLeaseRecord} {after : SessionWorker Tree}
    (hcached : after.lease = worker.lease ∨ after.lease = none ∨ after.lease = fresh)
    (hcommand : after.command = worker.command ∨ after.command.awaiting = none ∧
      (after.command.lease = worker.command.lease ∨ after.command.lease = none ∨
        after.command.lease = fresh))
    (hevent : after.event.lease = worker.event.lease ∨ after.event.lease = none ∨
      after.event.lease = fresh) : Calm fresh worker after := by
  constructor
  · rintro lease (h | h | h)
    · rcases hcached with heq | heq | heq
      · exact .inr (.cached (heq ▸ h))
      · exact absurd (heq.symm.trans h) (by simp)
      · exact .inl (heq ▸ h)
    · rcases hcommand with heq | ⟨-, heq | heq | heq⟩
      · exact .inr (.ofCommand (heq ▸ h))
      · exact .inr (.ofCommand (heq ▸ h))
      · exact absurd (heq.symm.trans h) (by simp)
      · exact .inl (heq ▸ h)
    · rcases hevent with heq | heq | heq
      · exact .inr (.ofEvent (heq ▸ h))
      · exact absurd (heq.symm.trans h) (by simp)
      · exact .inl (heq ▸ h)
  · rcases hcommand with heq | ⟨hnone, -⟩
    · exact .inl (congrArg CommandPhase.awaiting heq)
    · exact .inr hnone

end SessionWorker

open SessionWorker (Calm)

section Effects

variable {σ Tree : Type} (setting : CheckpointSetting σ)

def Called (store next : SessionsDomain σ) : Prop :=
  next = store ∨ ∃ request, next = (store.perform setting.env setting.host request).2

/-- What one step of a worker can do. -/
inductive WorkerEffect (workerId : String) (store : SessionsDomain σ)
    (latest : Option (WorkspaceCheckpoint Tree)) (worker : SessionWorker Tree)
    (action : WorkerAction Tree) : WorkerTurn σ Tree → Prop where
  | quiet (answer : CheckpointAnswer Tree) (next : SessionsDomain σ) (after : SessionWorker Tree)
      (hcalled : Called setting store next) (hcalm : Calm none worker after)
      (hanswer : answer = .silent ∨ ∃ checkpoint, answer = .rejected workerId checkpoint) :
      WorkerEffect workerId store latest worker action ⟨answer, next, latest, after⟩
  | restored (lease : WorkerLeaseRecord) (command : SessionCommandRecord)
      (after : SessionWorker Tree) (haction : action = .restoreBeforeCommand)
      (hphase : worker.command = .claimed lease command) (hcalm : Calm none worker after) :
      WorkerEffect workerId store latest worker action ⟨.restored latest, store, latest, after⟩
  | claimed (next : SessionsDomain σ) (lease : WorkerLeaseRecord) (after : SessionWorker Tree)
      (hcalled : Called setting store next) (hcalm : Calm (some lease) worker after)
      (hworker : lease.leasedBy = workerId)
      (hnext : ∃ state, next.sessions.get (key setting.tenantId setting.sessionId) = some state ∧
        state.lease = some lease) :
      WorkerEffect workerId store latest worker action ⟨.silent, next, latest, after⟩
  | answered (next : SessionsDomain σ) (held lease : WorkerLeaseRecord)
      (after : SessionWorker Tree) (hcalled : Called setting store next) (hheld : worker.Has held)
      (hunder : store.AnsweredUnder held lease) (hcalm : Calm (some lease) worker after) :
      WorkerEffect workerId store latest worker action ⟨.silent, next, latest, after⟩
  | saved (lease : WorkerLeaseRecord) (checkpoint : WorkspaceCheckpoint Tree)
      (after : SessionWorker Tree) (hleases : ∀ lease, after.Has lease → worker.Has lease)
      (hawaiting : after.command.awaiting = worker.command.awaiting ∨
        after.command.awaiting = some (lease, checkpoint)) :
      WorkerEffect workerId store latest worker action
        ⟨.saved workerId checkpoint, store, some checkpoint, after⟩
  | acknowledged (next : SessionsDomain σ) (held lease : WorkerLeaseRecord)
      (checkpoint : WorkspaceCheckpoint Tree) (after : SessionWorker Tree)
      (hcalled : Called setting store next)
      (hbefore : worker.command.awaiting = some (held, checkpoint))
      (hunder : store.AnsweredUnder held lease) (hcalm : Calm (some lease) worker after)
      (hawaiting : after.command.awaiting = none) :
      WorkerEffect workerId store latest worker action
        ⟨.acknowledged workerId checkpoint, next, latest, after⟩

end Effects

namespace SessionWorker

variable {σ Tree : Type} {setting : CheckpointSetting σ} {workerId : String}
  {store : SessionsDomain σ} {latest : Option (WorkspaceCheckpoint Tree)}
  {worker : SessionWorker Tree} {action : WorkerAction Tree} {now : Instant}

theorem quiet_effect {after : SessionWorker Tree} (hcalm : Calm none worker after) :
    WorkerEffect setting workerId store latest worker action (quiet store latest after) :=
  .quiet .silent store after (.inl rfl) hcalm (.inl rfl)

theorem renew_effect {held : WorkerLeaseRecord} (hheld : worker.Has held)
    {renewed : WorkerLeaseRecord → SessionWorker Tree} {lost : StoreError → SessionWorker Tree}
    (hrenewed : ∀ lease, Calm (some lease) worker (renewed lease))
    (hlost : ∀ thrown, Calm none worker (lost thrown)) :
    WorkerEffect setting workerId store latest worker action
      (renew setting.host setting.leaseTtlMs store latest now held renewed lost) := by
  have hcalled : Called setting store
      (store.renewSessionLease setting.host held now now setting.leaseTtlMs).2 :=
    .inr ⟨⟨now, .renewSessionLease held setting.leaseTtlMs⟩, rfl⟩
  unfold renew
  split
  next lease next hcall =>
    rw [hcall] at hcalled
    exact .answered next held lease _ hcalled hheld
      (renewSessionLease_answered setting.host hcall) (hrenewed lease)
  next thrown next hcall =>
    rw [hcall] at hcalled
    exact .quiet .silent next _ hcalled (hlost thrown) (.inl rfl)

theorem forgotten (forgetLease : Bool) (lease : Option WorkerLeaseRecord) :
    (if forgetLease then none else lease) = lease ∨
      (if forgetLease then none else lease) = none ∨
      (if forgetLease then none else lease) = none := by
  cases forgetLease
  · exact .inl rfl
  · exact .inr (.inl rfl)

theorem commandStep_effect (action : WorkerAction Tree) :
    WorkerEffect setting workerId store latest worker action
      (commandStep setting.host setting.tenantId setting.sessionId workerId setting.leaseTtlMs
        store latest worker now action) := by
  unfold commandStep
  split
  · -- `renewCachedLease`
    split
    · exact quiet_effect (.refl none)
    next lease hcached =>
      refine renew_effect (.cached hcached) ?_ ?_
      · intro lease
        exact .of_parts (.inr (.inr rfl)) (.inr ⟨rfl, .inr (.inr rfl)⟩) (.inl rfl)
      · intro thrown
        exact .of_parts (.inr (.inl rfl)) (.inl rfl) (.inl rfl)
  · -- `claimSessionLease`
    next quota _ =>
    split
    · exact quiet_effect (.refl none)
    · have hcalled : Called setting store (store.claimSessionLease setting.host setting.tenantId
          setting.sessionId workerId now setting.leaseTtlMs quota).2 :=
        .inr ⟨⟨now, .claimSessionLease setting.tenantId setting.sessionId workerId
          setting.leaseTtlMs quota⟩, rfl⟩
      split
      next next hcall =>
        rw [hcall] at hcalled
        obtain ⟨_, -, -, rfl, rfl⟩ := claimSessionLease_eq_some setting.host hcall
        refine .claimed _ _ _ hcalled ?_ rfl ⟨_, OrderedMap.get_set_self _ _ _, rfl⟩
        exact .of_parts (.inr (.inr rfl)) (.inr ⟨rfl, .inr (.inr rfl)⟩) (.inl rfl)
      next next _ hcall =>
        rw [hcall] at hcalled
        exact .quiet .silent next _ hcalled (.refl none) (.inl rfl)
  · -- `claimNextSessionCommand`
    next lease hphase =>
    have hcalled : Called setting store (store.claimNextSessionCommand setting.host lease now).2 :=
      .inr ⟨⟨now, .claimNextSessionCommand lease⟩, rfl⟩
    split
    next next hcall =>
      rw [hcall] at hcalled
      refine .quiet .silent next _ hcalled ?_ (.inl rfl)
      exact .of_parts (.inl rfl) (.inr ⟨rfl, .inl (hphase ▸ rfl)⟩) (.inl rfl)
    next next _ hcall =>
      rw [hcall] at hcalled
      refine .quiet .silent next _ hcalled ?_ (.inl rfl)
      exact .of_parts (.inl rfl) (.inr ⟨rfl, .inr (.inl rfl)⟩) (.inl rfl)
  · -- `restoreBeforeCommand`
    next lease command hphase =>
    refine .restored lease command _ rfl hphase ?_
    exact .of_parts (.inl rfl) (.inr ⟨rfl, .inl (hphase ▸ rfl)⟩) (.inl rfl)
  next lease command hphase =>
    exact quiet_effect (.of_parts (.inl rfl) (.inr ⟨rfl, .inl (hphase ▸ rfl)⟩) (.inl rfl))
  · exact quiet_effect (.of_parts (.inl rfl) (.inl rfl) (.inl rfl))
  · -- `renewLease`
    next hphase =>
    refine renew_effect (.ofCommand (hphase ▸ rfl)) ?_ ?_
    · intro renewed
      exact .of_parts (.inr (.inr rfl)) (.inr ⟨rfl, .inr (.inr rfl)⟩) (.inl rfl)
    · intro thrown
      exact .of_parts (.inr (.inl rfl)) (.inr ⟨rfl, .inr (.inl rfl)⟩) (.inl rfl)
  next lease command hphase =>
    exact quiet_effect (.of_parts (.inl rfl) (.inr ⟨rfl, .inl (hphase ▸ rfl)⟩) (.inl rfl))
  next lease command _ hphase =>
    exact quiet_effect (.of_parts (.inl rfl) (.inr ⟨rfl, .inl (hphase ▸ rfl)⟩) (.inl rfl))
  · -- `saveCheckpoint`
    next lease _ _ checkpoint hphase =>
    refine .saved lease checkpoint _ ?_ (.inr rfl)
    rintro other (h | h | h)
    · exact .cached h
    · exact .ofCommand (hphase ▸ h)
    · exact .ofEvent h
  · -- `checkpointAndAck`
    next lease command _ checkpoint hphase =>
    have hcalled : Called setting store (store.checkpointAndAckSessionCommand setting.host lease
        command.commandId now now).2 :=
      .inr ⟨⟨now, .checkpointAndAckSessionCommand lease command.commandId⟩, rfl⟩
    split
    next result next hcall =>
      rw [hcall] at hcalled
      refine .acknowledged next lease result.lease checkpoint _ hcalled (hphase ▸ rfl)
        (checkpointAndAckSessionCommand_answered setting.host hcall) ?_ rfl
      exact .of_parts (.inr (.inr rfl)) (.inr ⟨rfl, .inr (.inr rfl)⟩) (.inl rfl)
    next next hcall =>
      rw [hcall] at hcalled
      refine .quiet _ next _ hcalled ?_ (.inr ⟨checkpoint, rfl⟩)
      refine .of_parts (.inl rfl) (.inr ?_) (.inl rfl)
      split
      · exact ⟨rfl, .inl (hphase ▸ rfl)⟩
      · exact ⟨rfl, .inr (.inl rfl)⟩
  · -- `renewStaleLease`
    next hphase =>
    refine renew_effect (.ofCommand (hphase ▸ rfl)) ?_ ?_
    · intro renewed
      exact .of_parts (.inl rfl) (.inr ⟨rfl, .inr (.inr rfl)⟩) (.inl rfl)
    · intro thrown
      exact .of_parts (.inl rfl) (.inr ⟨rfl, .inr (.inl rfl)⟩) (.inl rfl)
  · -- `abandonCommand`
    next forgetLease =>
    exact quiet_effect (.of_parts (forgotten forgetLease _) (.inr ⟨rfl, .inr (.inl rfl)⟩)
      (.inl rfl))
  · exact quiet_effect (.refl none)

theorem eventFailed_calm (thrown : StoreError) : Calm none worker (worker.eventFailed thrown) := by
  exact .of_parts (forgotten (isStaleWorkerLeaseError thrown) worker.lease) (.inl rfl)
    (.inr (.inl rfl))

theorem eventStep_effect (action : WorkerAction Tree) :
    WorkerEffect setting workerId store latest worker action
      (eventStep setting.host workerId setting.leaseTtlMs store latest worker now action) := by
  unfold eventStep
  split
  · -- `appendRuntimeEvent`
    split
    · exact quiet_effect (.refl none)
    next hcached =>
      refine renew_effect (.cached hcached) ?_ eventFailed_calm
      intro renewed
      exact .of_parts (.inl rfl) (.inl rfl) (.inr (.inr rfl))
  · -- `checkpointLease`
    next lease _ hphase =>
    have hcalled : Called setting store (store.checkpointSession setting.host lease now).2 :=
      .inr ⟨⟨now, .checkpointSession lease⟩, rfl⟩
    split
    next advanced next hcall =>
      rw [hcall] at hcalled
      refine .answered next lease advanced _ hcalled (.ofEvent (hphase ▸ rfl))
        (checkpointSession_answered setting.host hcall) ?_
      exact .of_parts (.inl rfl) (.inl rfl) (.inr (.inr rfl))
    next thrown next hcall =>
      rw [hcall] at hcalled
      refine .quiet .silent next _ hcalled ?_ (.inl rfl)
      split
      · exact .of_parts (.inl rfl) (.inl rfl) (.inl (hphase ▸ rfl))
      · exact eventFailed_calm thrown
  · -- `renewStaleEventLease`
    next hphase =>
    refine renew_effect (.ofEvent (hphase ▸ rfl)) ?_ eventFailed_calm
    intro renewed
    exact .of_parts (.inl rfl) (.inl rfl) (.inr (.inr rfl))
  next lease hphase =>
    exact quiet_effect (.of_parts (.inl rfl) (.inl rfl) (.inl (hphase ▸ rfl)))
  · -- `saveEventCheckpoint`
    next lease checkpoint hphase =>
    refine .saved lease checkpoint _ ?_ (.inl rfl)
    rintro other (h | h | h)
    · exact .ofEvent (hphase ▸ h)
    · exact .ofCommand h
    · simp [EventPhase.lease] at h
  · -- `abandonEvent`
    next forgetLease =>
    exact quiet_effect (.of_parts (forgotten forgetLease _) (.inl rfl) (.inr (.inl rfl)))
  · exact quiet_effect (.refl none)

theorem step_effect (action : WorkerAction Tree) :
    WorkerEffect setting workerId store latest worker action
      (worker.step setting.host setting.tenantId setting.sessionId workerId setting.leaseTtlMs
        store latest now action) := by
  unfold step
  split
  · exact eventStep_effect _
  · exact eventStep_effect _
  · exact eventStep_effect _
  · exact eventStep_effect _
  · exact eventStep_effect _
  · exact eventStep_effect _
  · exact commandStep_effect _

end SessionWorker

def CheckpointSetting.sessionKey {σ : Type} (setting : CheckpointSetting σ) : String :=
  key setting.tenantId setting.sessionId

def GivenOut {σ : Type} (setting : CheckpointSetting σ) (store : SessionsDomain σ)
    (lease : WorkerLeaseRecord) : Prop :=
  ∃ state, store.sessions.get setting.sessionKey = some state ∧
    Granted setting.sessionKey state.nextLeaseAttempt lease

/-- A lease whose token is not the current one. -/
def Outdated {σ : Type} (setting : CheckpointSetting σ) (store : SessionsDomain σ)
    (lease : WorkerLeaseRecord) : Prop :=
  ∀ state current, store.sessions.get setting.sessionKey = some state →
    state.lease = some current → current.leaseToken ≠ lease.leaseToken

namespace Called

variable {σ : Type} {setting : CheckpointSetting σ} {store next : SessionsDomain σ}
  {lease : WorkerLeaseRecord} (hcalled : Called setting store next)
include hcalled

theorem regranted {sessionKey : String} {before : SessionState}
    (hbefore : store.sessions.get sessionKey = some before) :
    ∃ after, next.sessions.get sessionKey = some after ∧ Regranted sessionKey before after := by
  rcases hcalled with rfl | ⟨request, rfl⟩
  · exact ⟨before, hbefore, .kept rfl rfl⟩
  · exact perform_regranted setting.env setting.host request hbefore

theorem givenOut (hgiven : GivenOut setting store lease) : GivenOut setting next lease := by
  obtain ⟨_, hbefore, hgranted⟩ := hgiven
  obtain ⟨after, hafter, hregranted⟩ := hcalled.regranted hbefore
  exact ⟨after, hafter, hgranted.mono hregranted.attempts⟩

theorem current_givenOut
    (hcurrent : ∀ state lease, store.sessions.get setting.sessionKey = some state →
      state.lease = some lease → Granted setting.sessionKey state.nextLeaseAttempt lease)
    (state : SessionState) (lease : WorkerLeaseRecord)
    (hstate : next.sessions.get setting.sessionKey = some state)
    (hlease : state.lease = some lease) :
    Granted setting.sessionKey state.nextLeaseAttempt lease := by
  cases hbefore : store.sessions.get setting.sessionKey with
  | some before =>
    obtain ⟨_, hafter, hregranted⟩ := hcalled.regranted hbefore
    obtain rfl := Option.mem_unique hafter hstate
    exact hregranted.granted (hcurrent before · hbefore) lease hlease
  | none =>
    rcases hcalled with rfl | ⟨request, rfl⟩
    · exact absurd (hbefore.symm.trans hstate) (by simp)
    · have hnone := perform_created setting.env setting.host request hbefore
        hstate
      exact absurd (hnone.symm.trans hlease) (by simp)

theorem outdated (hgiven : GivenOut setting store lease)
    (houtdated : Outdated setting store lease) : Outdated setting next lease := by
  intro _ current hstate hcurrent
  obtain ⟨before, hbefore, hgranted⟩ := hgiven
  obtain ⟨_, hafter, hregranted⟩ := hcalled.regranted hbefore
  obtain rfl := Option.mem_unique hafter hstate
  exact hregranted.token_ne hgranted (houtdated before · hbefore) current hcurrent

end Called

section Runs

variable {σ Tree : Type} {setting : CheckpointSetting σ} {session : CheckpointedSession σ Tree}

theorem perform_worker (setting : CheckpointSetting σ) (session : CheckpointedSession σ Tree)
    (workerId : String) (now : Instant) (action : WorkerAction Tree) :
    ∃ turn, WorkerEffect setting workerId session.store session.latest
        (session.workers workerId) action turn ∧
      session.perform setting (.worker workerId now action) =
        (turn.answer, ⟨turn.store, Function.update session.workers workerId turn.worker,
          turn.latest⟩) :=
  ⟨_, SessionWorker.step_effect action, rfl⟩

/-- The leases that the workers have in hand were given out to them. -/
structure FencedWorkers (setting : CheckpointSetting σ) (session : CheckpointedSession σ Tree) :
    Prop where
  current : ∀ state lease, session.store.sessions.get setting.sessionKey = some state →
    state.lease = some lease → Granted setting.sessionKey state.nextLeaseAttempt lease
  held : ∀ workerId lease, (session.workers workerId).Has lease →
    lease.leasedBy = workerId ∧ GivenOut setting session.store lease

namespace FencedWorkers

variable (hfenced : FencedWorkers setting session) {workerId : String}
include hfenced

theorem answered {held lease : WorkerLeaseRecord} (hheld : (session.workers workerId).Has held)
    (hunder : session.store.AnsweredUnder held lease) :
    (lease.leasedBy = workerId ∧ GivenOut setting session.store lease) ∧
      ∃ state current, session.store.sessions.get setting.sessionKey = some state ∧
        state.lease = some current ∧ current.leaseToken = held.leaseToken := by
  obtain ⟨hworker, state, hstate, hgranted⟩ := hfenced.held workerId held hheld
  obtain ⟨_, current, hfound, hcurrent, htoken, hsame⟩ := hunder
  rw [hgranted.addressed] at hfound
  obtain rfl := Option.mem_unique hstate hfound
  have hcurrently := hfenced.current state current hstate hcurrent
  refine ⟨⟨?_, state, hstate, hcurrently.same hsame⟩, state, current, hstate, hcurrent, htoken⟩
  rw [hsame.leasedBy, hcurrently.leasedBy_eq hgranted htoken, hworker]

theorem move {next : SessionsDomain σ} {after : SessionWorker Tree}
    {latest : Option (WorkspaceCheckpoint Tree)} (hcalled : Called setting session.store next)
    (hheld : ∀ lease, after.Has lease → (session.workers workerId).Has lease ∨
      lease.leasedBy = workerId ∧ GivenOut setting next lease) :
    FencedWorkers setting
      ⟨next, Function.update session.workers workerId after, latest⟩ where
  current := hcalled.current_givenOut hfenced.current
  held := by
    intro other lease hhas
    dsimp only at hhas ⊢
    have hkept (hbefore : (session.workers other).Has lease) :
        lease.leasedBy = other ∧ GivenOut setting next lease := by
      obtain ⟨hworker, hgiven⟩ := hfenced.held other lease hbefore
      exact ⟨hworker, hcalled.givenOut hgiven⟩
    by_cases hsame : other = workerId
    · subst hsame
      rw [Function.update_self] at hhas
      rcases hheld lease hhas with hbefore | hnew
      · exact hkept hbefore
      · exact hnew
    · rw [Function.update_of_ne hsame] at hhas
      exact hkept hhas

theorem store_call (request : SessionRequest) :
    FencedWorkers setting
      { session with store := (session.store.perform setting.env setting.host request).2 } := by
  have hcalled : Called setting session.store
      (session.store.perform setting.env setting.host request).2 := .inr ⟨request, rfl⟩
  constructor
  · exact hcalled.current_givenOut hfenced.current
  · intro workerId lease hhas
    obtain ⟨hworker, hgiven⟩ := hfenced.held workerId lease hhas
    exact ⟨hworker, hcalled.givenOut hgiven⟩

theorem step (request : CheckpointRequest Tree) :
    FencedWorkers setting (session.perform setting request).2 := by
  cases request with
  | store request => exact hfenced.store_call request
  | worker workerId now action =>
    obtain ⟨_, heffect, hperform⟩ := perform_worker setting session workerId now action
    rw [hperform]
    cases heffect with
    | quiet _ _ _ hcalled hcalm =>
      refine hfenced.move hcalled ?_
      intro lease hhas
      exact .inl ((hcalm.leases lease hhas).resolve_left (by simp))
    | restored lease _ _ _ _ hcalm =>
      refine hfenced.move (.inl rfl) ?_
      intro lease hhas
      exact .inl ((hcalm.leases lease hhas).resolve_left (by simp))
    | claimed _ lease _ hcalled hcalm hworker hnext =>
      refine hfenced.move hcalled ?_
      intro other hhas
      rcases hcalm.leases other hhas with heq | hbefore
      · obtain rfl := Option.some.inj heq
        obtain ⟨state, hstate, hlease⟩ := hnext
        exact .inr ⟨hworker, state, hstate,
          hcalled.current_givenOut hfenced.current state lease hstate hlease⟩
      · exact .inl hbefore
    | answered _ _ _ _ hcalled hheld hunder hcalm =>
      refine hfenced.move hcalled ?_
      intro other hhas
      rcases hcalm.leases other hhas with heq | hbefore
      · obtain rfl := Option.some.inj heq
        obtain ⟨hworker, hgiven⟩ := (hfenced.answered hheld hunder).1
        exact .inr ⟨hworker, hcalled.givenOut hgiven⟩
      · exact .inl hbefore
    | saved lease _ _ hleases =>
      exact hfenced.move (.inl rfl) fun lease hhas => .inl (hleases lease hhas)
    | acknowledged _ _ _ _ _ hcalled hbefore hunder hcalm =>
      refine hfenced.move hcalled ?_
      intro other hhas
      rcases hcalm.leases other hhas with heq | hkept
      · obtain rfl := Option.some.inj heq
        obtain ⟨hworker, hgiven⟩ := (hfenced.answered
          (.ofCommand (CommandPhase.lease_of_awaiting hbefore)) hunder).1
        exact .inr ⟨hworker, hcalled.givenOut hgiven⟩
      · exact .inl hkept

end FencedWorkers

/-- What the saves and acknowledgements so far tell about the latest manifest. -/
structure LatestTraced [DecidableEq Tree] (setting : CheckpointSetting σ)
    (stored : Option (WorkspaceCheckpoint Tree)) (answers : List (CheckpointAnswer Tree))
    (session : CheckpointedSession σ Tree) : Prop where
  pending : ∀ workerId checkpoint, unacknowledgedSave answers = some (workerId, checkpoint) →
    session.latest = some checkpoint
  settled : unacknowledgedSave answers = none →
    session.latest = acknowledgedCheckpoint stored answers
  outdated : unacknowledgedSave answers = none → ∀ workerId lease checkpoint,
    (session.workers workerId).command.awaiting = some (lease, checkpoint) →
    Outdated setting session.store lease

namespace LatestTraced

variable [DecidableEq Tree] {stored : Option (WorkspaceCheckpoint Tree)}
  {answers : List (CheckpointAnswer Tree)} {workerId : String} {answer : CheckpointAnswer Tree}
  {next : CheckpointedSession σ Tree} {after : SessionWorker Tree}
  {checkpoint : WorkspaceCheckpoint Tree}

section

variable (htraced : LatestTraced setting stored answers session)
  (hfenced : FencedWorkers setting session)
  (hpending : ∀ pending, unacknowledgedAfter pending answer = pending)
  (hlast : ∀ last, acknowledgedAfter last answer = last)
include htraced hfenced hpending hlast

theorem kept (hcalled : Called setting session.store next.store)
    (hlatest : next.latest = session.latest)
    (hawaiting : ∀ workerId, (next.workers workerId).command.awaiting =
        (session.workers workerId).command.awaiting ∨
      (next.workers workerId).command.awaiting = none) :
    LatestTraced setting stored (answers ++ [answer]) next := by
  constructor
  · rw [unacknowledgedSave_snoc, hpending, hlatest]
    exact htraced.pending
  · rw [unacknowledgedSave_snoc, hpending, acknowledgedCheckpoint_snoc, hlast, hlatest]
    exact htraced.settled
  · rw [unacknowledgedSave_snoc, hpending]
    intro hnone workerId lease checkpoint hafter
    rcases hawaiting workerId with hsame | hended
    · rw [hsame] at hafter
      have hgiven := (hfenced.held workerId lease
        (.ofCommand (CommandPhase.lease_of_awaiting hafter))).2
      exact hcalled.outdated hgiven (htraced.outdated hnone workerId lease checkpoint hafter)
    · exact absurd (hended.symm.trans hafter) (by simp)

theorem moved {next : SessionsDomain σ} {fresh : Option WorkerLeaseRecord}
    (hcalled : Called setting session.store next)
    (hcalm : Calm fresh (session.workers workerId) after) :
    LatestTraced setting stored (answers ++ [answer])
      ⟨next, Function.update session.workers workerId after, session.latest⟩ := by
  refine htraced.kept hfenced hpending hlast hcalled rfl ?_
  intro other
  dsimp only
  by_cases hsame : other = workerId
  · subst hsame
    rw [Function.update_self]
    exact hcalm.awaiting
  · rw [Function.update_of_ne hsame]
    exact .inl rfl

end

theorem saved (hlatest : next.latest = some checkpoint) :
    LatestTraced setting stored (answers ++ [.saved workerId checkpoint]) next := by
  constructor
  · rw [unacknowledgedSave_snoc]
    intro _ _ hsaved
    rw [hlatest, ← (Prod.mk.inj (Option.some.inj hsaved)).2]
  · rw [unacknowledgedSave_snoc]
    exact fun hnone => absurd hnone (by simp [unacknowledgedAfter])
  · rw [unacknowledgedSave_snoc]
    exact fun hnone => absurd hnone (by simp [unacknowledgedAfter])

variable (htraced : LatestTraced setting stored answers session)
include htraced

/-- An accepted acknowledgement: its token was the current one, so every other save that
waits for its own comes too late. -/
theorem acknowledged (hfenced : FencedWorkers setting session) {next : SessionsDomain σ}
    {held lease : WorkerLeaseRecord} (hcalled : Called setting session.store next)
    (hbefore : (session.workers workerId).command.awaiting = some (held, checkpoint))
    (hunder : session.store.AnsweredUnder held lease) (hawaiting : after.command.awaiting = none) :
    LatestTraced setting stored (answers ++ [.acknowledged workerId checkpoint])
      ⟨next, Function.update session.workers workerId after, session.latest⟩ := by
  have hhas : (session.workers workerId).Has held :=
    .ofCommand (CommandPhase.lease_of_awaiting hbefore)
  obtain ⟨state, current, hstate, hcurrent, htoken⟩ := (hfenced.answered hhas hunder).2
  have hunsettled : unacknowledgedSave answers ≠ none := fun hnone =>
    htraced.outdated hnone workerId held checkpoint hbefore state current hstate hcurrent htoken
  constructor
  · rw [unacknowledgedSave_snoc]
    intro other saved hsaved
    rw [unacknowledgedAfter] at hsaved
    split at hsaved
    · simp at hsaved
    · exact htraced.pending other saved hsaved
  · rw [unacknowledgedSave_snoc, acknowledgedCheckpoint_snoc]
    intro hnone
    rw [unacknowledgedAfter] at hnone
    split at hnone
    next hlast => exact htraced.pending workerId checkpoint hlast
    · exact absurd hnone hunsettled
  · intro _ other waiting saved hother
    dsimp only at hother ⊢
    by_cases hsame : other = workerId
    · subst hsame
      rw [Function.update_self] at hother
      exact absurd (hawaiting.symm.trans hother) (by simp)
    · rw [Function.update_of_ne hsame] at hother
      have hwaiting : (session.workers other).Has waiting :=
        .ofCommand (CommandPhase.lease_of_awaiting hother)
      obtain ⟨hworker, hgiven⟩ := hfenced.held other waiting hwaiting
      refine hcalled.outdated hgiven ?_
      intro _ _ hfound hpresent heq
      obtain rfl := Option.mem_unique hstate hfound
      obtain rfl := Option.mem_unique hcurrent hpresent
      -- two workers with the current token are one
      obtain ⟨_, hstate', hgranted⟩ := hgiven
      obtain rfl := Option.mem_unique hstate hstate'
      have hholder := hfenced.current state current hstate hcurrent
      obtain ⟨hself, _, hstate', hgranted'⟩ := hfenced.held workerId held hhas
      obtain rfl := Option.mem_unique hstate hstate'
      apply hsame
      rw [← hworker, ← hself, ← hholder.leasedBy_eq hgranted heq,
        hholder.leasedBy_eq hgranted' htoken]

theorem step (hfenced : FencedWorkers setting session) (request : CheckpointRequest Tree) :
    LatestTraced setting stored (answers ++ [(session.perform setting request).1])
      (session.perform setting request).2 := by
  cases request with
  | store request =>
    exact htraced.kept hfenced (fun _ => rfl) (fun _ => rfl) (.inr ⟨request, rfl⟩) rfl
      fun _ => .inl rfl
  | worker workerId now action =>
    obtain ⟨_, heffect, hperform⟩ := perform_worker setting session workerId now action
    rw [hperform]
    cases heffect with
    | quiet _ _ _ hcalled hcalm hanswer =>
      rcases hanswer with rfl | ⟨_, rfl⟩
      · exact htraced.moved hfenced (fun _ => rfl) (fun _ => rfl) hcalled hcalm
      · exact htraced.moved hfenced (fun _ => rfl) (fun _ => rfl) hcalled hcalm
    | restored _ _ _ _ _ hcalm =>
      exact htraced.moved hfenced (fun _ => rfl) (fun _ => rfl) (.inl rfl) hcalm
    | claimed _ _ _ hcalled hcalm | answered _ _ _ _ hcalled _ _ hcalm =>
      exact htraced.moved hfenced (fun _ => rfl) (fun _ => rfl) hcalled hcalm
    | saved => exact .saved rfl
    | acknowledged _ _ _ _ _ hcalled hbefore hunder _ hawaiting =>
      exact htraced.acknowledged hfenced hcalled hbefore hunder hawaiting

end LatestTraced

end Runs

/-! ## Restores over a run -/

namespace CheckpointedSession

variable {σ Tree : Type} (setting : CheckpointSetting σ)

def restores (session : CheckpointedSession σ Tree) : CheckpointRequest Tree → Bool
  | .worker workerId _ .restoreBeforeCommand =>
    match (session.workers workerId).command with
    | .claimed _ _ => true
    | _ => false
  | _ => false

theorem perform_restored {session : CheckpointedSession σ Tree} {request : CheckpointRequest Tree}
    {checkpoint : Option (WorkspaceCheckpoint Tree)}
    (hanswer : (session.perform setting request).1 = .restored checkpoint) :
    session.restores request = true ∧ checkpoint = session.latest := by
  cases request with
  | store => simp [perform] at hanswer
  | worker workerId now action =>
    obtain ⟨_, heffect, hperform⟩ := perform_worker setting session workerId now action
    rw [hperform] at hanswer
    cases heffect with
    | quiet _ _ _ _ _ hquiet =>
      rcases hquiet with rfl | ⟨_, rfl⟩
      · simp at hanswer
      · simp at hanswer
    | restored _ _ _ haction hphase =>
      subst haction
      constructor
      · rw [restores, hphase]
      · exact (CheckpointAnswer.restored.inj hanswer).symm
    | claimed | answered | saved | acknowledged => simp at hanswer

def answers (start : CheckpointedSession σ Tree) (requests : List (CheckpointRequest Tree)) :
    List (CheckpointAnswer Tree) :=
  ((machine setting).history start requests).map Moment.output

variable [DecidableEq Tree] (start : CheckpointedSession σ Tree)
  (requests : List (CheckpointRequest Tree))

/-- Whenever a run restores, the save before was acknowledged. -/
def RestoresSettled : Prop :=
  ∀ index : Fin requests.length,
    ((machine setting).run start (requests.take index)).restores requests[index] = true →
    unacknowledgedSave (answers setting start (requests.take index)) = none

/-- Whenever a run restores, it reads the checkpoint of the command acknowledged last. -/
def RestoresAcknowledged : Prop :=
  ∀ (index : Fin requests.length) (checkpoint : Option (WorkspaceCheckpoint Tree)),
    (((machine setting).run start (requests.take index)).perform setting requests[index]).1 =
      .restored checkpoint →
    checkpoint = acknowledgedCheckpoint start.latest
      (answers setting start (requests.take index))

instance (start : CheckpointedSession σ Tree) (requests : List (CheckpointRequest Tree)) :
    Decidable (RestoresSettled setting start requests) :=
  inferInstanceAs (Decidable (∀ _ : Fin requests.length, _ = true → _ = none))

theorem run_latestTraced (neighbours : σ) (workspace : Tree)
    (stored : Option (WorkspaceCheckpoint Tree)) (requests : List (CheckpointRequest Tree)) :
    LatestTraced setting stored (answers setting (initial neighbours workspace stored) requests)
      ((machine setting).run (initial neighbours workspace stored) requests) := by
  refine ((machine setting).history_invariant (fun past session => FencedWorkers setting session ∧
    LatestTraced setting stored (past.map Moment.output) session) ?_ _ ⟨?_, ?_⟩ requests).2
  · rintro _ _ request ⟨hfenced, htraced⟩
    rw [List.map_append]
    exact ⟨hfenced.step request, htraced.step hfenced request⟩
  · constructor
    · intro _ lease hstate
      simp [initial, SessionsDomain.initial] at hstate
    · rintro workerId lease (h | h | h)
      · simp [initial] at h
      · simp [initial, CommandPhase.lease] at h
      · simp [initial, EventPhase.lease] at h
  · constructor
    · exact fun workerId checkpoint hsaved => absurd hsaved (by simp [unacknowledgedSave])
    · exact fun _ => rfl
    · intro _ workerId lease checkpoint hawaiting
      simp [initial, CommandPhase.awaiting] at hawaiting

/-- In every run whose restores come when the save before was acknowledged, every restore
reads the checkpoint of the command acknowledged last. -/
theorem run_restores_acknowledged (neighbours : σ) (workspace : Tree)
    (stored : Option (WorkspaceCheckpoint Tree)) (requests : List (CheckpointRequest Tree))
    (hsettled : RestoresSettled setting (initial neighbours workspace stored) requests) :
    RestoresAcknowledged setting (initial neighbours workspace stored) requests := by
  intro index checkpoint hanswer
  have htraced := run_latestTraced setting neighbours workspace stored (requests.take index)
  obtain ⟨hrestores, rfl⟩ := perform_restored setting hanswer
  exact htraced.settled (hsettled index hrestores)

/-- Session `s` with two prompts, and workers whose leases last ten milliseconds. -/
def promptedSetting : CheckpointSetting Neighbours where
  env := plainEnvironment
  host := Neighbours.host plainAudit
  tenantId := "t"
  sessionId := "s"
  leaseTtlMs := 10

def emptyWorkspaces : CheckpointedSession Neighbours String :=
  initial (Neighbours.single "t" "u") "" none

def promptTwice : List (CheckpointRequest String) :=
  [.store ⟨0, openSession "t" "u" "s"⟩, .store ⟨0, enqueuePrompt "t" "u" "s" "c"⟩,
    .store ⟨0, enqueuePrompt "t" "u" "s" "d"⟩]

def executeNext (workerId : String) (now : Instant) (workspace checkpointId : String) :
    List (CheckpointRequest String) :=
  [.worker workerId now .claimNextSessionCommand, .worker workerId now .restoreBeforeCommand,
    .worker workerId now (.work workspace), .worker workerId now .finishExecution,
    .worker workerId now (.captureCheckpoint checkpointId)]

def saveAndAck (workerId : String) (now : Instant) : List (CheckpointRequest String) :=
  [.worker workerId now .saveCheckpoint, .worker workerId now .checkpointAndAck]

/-- The first worker stalls before its save until the second one has taken the session
over and acknowledged the command. -/
def lateSaveRequests : List (CheckpointRequest String) :=
  promptTwice ++ .worker "w1" 0 (.claimSessionLease none) :: executeNext "w1" 0 "first" "k1" ++
    .worker "w2" 20 (.claimSessionLease none) :: executeNext "w2" 20 "second" "k2" ++
    saveAndAck "w2" 21 ++ saveAndAck "w1" 22 ++
    [.worker "w2" 23 .claimNextSessionCommand, .worker "w2" 23 .restoreBeforeCommand]

/-- The acknowledgement of the late save is rejected, and the next command starts from it. -/
theorem late_save_is_restored :
    .rejected "w1" ⟨"k1", 1, "first"⟩ ∈ answers promptedSetting emptyWorkspaces lateSaveRequests ∧
      ¬ RestoresAcknowledged promptedSetting emptyWorkspaces lateSaveRequests := by
  constructor
  · decide +kernel
  · intro hacknowledged
    have hrestored := hacknowledged ⟨20, by decide⟩ (some ⟨"k1", 1, "first"⟩) (by decide +kernel)
    revert hrestored
    decide +kernel

/-- The first worker acknowledges before its lease runs out. -/
def takeoverRequests : List (CheckpointRequest String) :=
  promptTwice ++ .worker "w1" 0 (.claimSessionLease none) :: executeNext "w1" 0 "first" "k1" ++
    saveAndAck "w1" 1 ++ .worker "w2" 20 (.claimSessionLease none) ::
    executeNext "w2" 20 "second" "k2"

theorem takeover_restores_acknowledged :
    RestoresAcknowledged promptedSetting emptyWorkspaces takeoverRequests :=
  run_restores_acknowledged promptedSetting (Neighbours.single "t" "u") "" none takeoverRequests
    (by decide +kernel)

end CheckpointedSession

end OpenCowork.ControlPlane
