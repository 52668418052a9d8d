import OpenCowork.ControlPlane.Sessions.Domain

/-! # What one operation can do to one session

`SessionStep` lists every way in which an operation may change a single session,
guards included, and `perform_explained` shows that the store does nothing else:
each operation changes each session by one of these steps, and what the caller
is told (a token, a checkpoint version, a command) is what the step did.
-/

namespace OpenCowork.ControlPlane

open Foundation OrderedMap

/-- The effect of an operation on one session, with the token that was presented
for it (for a reaped lease, its own token). -/
inductive SessionChange where
  | unchanged
  | claimed (token : String)
  | released (token : String)
  | renewed (token : String)
  | checkpointed (token : String) (version : Nat)
  | recovered (token : String) (maxAttempts : Int)
  | enqueued
  | handed (token commandId : String)
  | settled (token : String)
  | checkpointSettled (token : String) (version : Nat)
  | deferred (token : String)

/-- What a caller learns: issued tokens, recorded checkpoint versions and the ids
of handed commands. -/
structure SessionEffects where
  issued : List String := []
  recorded : List Nat := []
  handed : List String := []

namespace SessionChange

def effects : SessionChange → SessionEffects
  | claimed token => { issued := [token] }
  | checkpointed _ version => { recorded := [version] }
  | checkpointSettled _ version => { recorded := [version] }
  | handed _ commandId => { handed := [commandId] }
  | _ => {}

end SessionChange

/-- What a command was enqueued as; nothing changes it later. -/
structure CommandRequest where
  (commandId tenantId userId sessionId : String)
  kind : CommandKind
  payload : Json
  targetLeaseToken : Option String
  createdSequence : Nat
  createdAt : Instant

def SessionCommandRecord.request (command : SessionCommandRecord) : CommandRequest where
  commandId := command.commandId
  tenantId := command.tenantId
  userId := command.userId
  sessionId := command.sessionId
  kind := command.kind
  payload := command.payload
  targetLeaseToken := command.targetLeaseToken
  createdSequence := command.createdSequence
  createdAt := command.createdAt

structure Settles (update : SessionCommandRecord → SessionCommandRecord) : Prop where
  request : ∀ command, (update command).request = command.request
  ended : ∀ command, (update command).status = .acked ∨ (update command).status = .failed

theorem Settles.commandId {update : SessionCommandRecord → SessionCommandRecord}
    (hupdate : Settles update) (command : SessionCommandRecord) :
    (update command).commandId = command.commandId :=
  congrArg CommandRequest.commandId (hupdate.request command)

def RunsUnder (session : SessionState) (commandId token : String) : Prop :=
  ∃ command, session.commands.find? (fun entry => decide (entry.commandId = commandId)) =
      some command ∧
    command.status = .running ∧ command.claimedLeaseToken = some token

/-- Every change an operation at instant `now` may make to the session stored
under a key. -/
inductive SessionStep (sessionKey : String) (now : Instant) :
    SessionChange → SessionState → SessionState → Prop where
  | unchanged (session : SessionState) : SessionStep sessionKey now .unchanged session session
  | claimed (session : SessionState) (tenantId sessionId workerId : String) (ttlMs : Int)
      (hkey : key tenantId sessionId = sessionKey) (hfree : session.leaseFree now = true) :
      SessionStep sessionKey now
        (.claimed (leaseToken tenantId sessionId (session.nextLeaseAttempt + 1) workerId))
        session (session.grantLease tenantId sessionId workerId now ttlMs)
  | released (session : SessionState) (current : WorkerLeaseRecord)
      (hlease : session.lease = some current) :
      SessionStep sessionKey now (.released current.leaseToken) session
        ({ session with lease := none }.withStatus .idle now)
  | renewed (session : SessionState) (current : WorkerLeaseRecord) (expiresAt : Instant)
      (hlease : session.lease = some current) (hlive : now < current.leaseExpiresAt) :
      SessionStep sessionKey now (.renewed current.leaseToken) session
        { session with lease := some { current with leaseExpiresAt := expiresAt } }
  | checkpointed (session : SessionState) (current : WorkerLeaseRecord)
      (hlease : session.lease = some current) (hlive : now < current.leaseExpiresAt) :
      SessionStep sessionKey now
        (.checkpointed current.leaseToken (current.checkpointVersion + 1)) session
        { session with
          lease := some { current with checkpointVersion := current.checkpointVersion + 1 } }
  | recovered (session : SessionState) (current : WorkerLeaseRecord) (maxAttempts : Int)
      (hlease : session.lease = some current) :
      SessionStep sessionKey now (.recovered current.leaseToken maxAttempts) session
        (session.afterRecovery current now maxAttempts)
  | enqueued (session : SessionState) (input : EnqueueCommandInput) (createdAt : Instant)
      (hfresh : ∀ command ∈ session.commands, command.commandId ≠ input.commandId) :
      SessionStep sessionKey now .enqueued session
        (SessionsDomain.afterEnqueue session input createdAt)
  | handed (session : SessionState) (current lease : WorkerLeaseRecord)
      (command : SessionCommandRecord) (hlease : session.lease = some current)
      (hlive : now < current.leaseExpiresAt) (htoken : current.leaseToken = lease.leaseToken)
      (hfound : session.commands.find? (·.claimable lease.leaseToken) = some command) :
      SessionStep sessionKey now (.handed current.leaseToken command.commandId) session
        { session with
          commands := modifyFirst (·.claimable lease.leaseToken) (·.claimedUnder lease)
            session.commands }
  | settled (session : SessionState) (current : WorkerLeaseRecord) (commandId : String)
      (update : SessionCommandRecord → SessionCommandRecord)
      (hlease : session.lease = some current) (hlive : now < current.leaseExpiresAt)
      (hruns : RunsUnder session commandId current.leaseToken) (hupdate : Settles update) :
      SessionStep sessionKey now (.settled current.leaseToken) session
        (session.updateCommand commandId update)
  | checkpointSettled (session : SessionState) (current : WorkerLeaseRecord)
      (commandId : String) (update : SessionCommandRecord → SessionCommandRecord)
      (hlease : session.lease = some current) (hlive : now < current.leaseExpiresAt)
      (hruns : RunsUnder session commandId current.leaseToken) (hupdate : Settles update) :
      SessionStep sessionKey now
        (.checkpointSettled current.leaseToken (current.checkpointVersion + 1)) session
        { session.updateCommand commandId update with
          lease := some { current with checkpointVersion := current.checkpointVersion + 1 } }
  | deferred (session : SessionState) (current : WorkerLeaseRecord) (commandId : String)
      (availableAt : Instant) (errorCode errorSummary : String)
      (hlease : session.lease = some current) (hlive : now < current.leaseExpiresAt)
      (hruns : RunsUnder session commandId current.leaseToken) :
      SessionStep sessionKey now (.deferred current.leaseToken) session
        (session.afterDeferral commandId availableAt now errorCode errorSummary)

namespace SessionStep

variable {sessionKey : String} {now : Instant} {change : SessionChange}
  {before after : SessionState} (hstep : SessionStep sessionKey now change before after)
include hstep

theorem commands_requests :
    (change = .enqueued ∧
        ∃ input createdAt, after = SessionsDomain.afterEnqueue before input createdAt) ∨
      (after.commands.map SessionCommandRecord.request =
          before.commands.map SessionCommandRecord.request ∧
        after.nextCommandSequence = before.nextCommandSequence) := by
  cases hstep with
  | enqueued _ input createdAt => exact .inl ⟨rfl, input, createdAt, rfl⟩
  | handed | deferred => exact .inr ⟨map_modifyFirst _ _ fun _ _ => rfl, rfl⟩
  | settled _ _ _ _ _ _ _ hupdate | checkpointSettled _ _ _ _ _ _ _ hupdate =>
    exact .inr ⟨map_modifyFirst _ _ fun command _ => hupdate.request command, rfl⟩
  | recovered =>
    refine .inr ⟨?_, rfl⟩
    rw [SessionState.afterRecovery, SessionState.withStatus, List.map_map]
    apply List.map_congr_left
    intro command _
    -- a stranded command is retried or failed where it stands
    rw [Function.comp_apply]
    unfold SessionCommandRecord.recovered
    split
    · split <;> rfl
    · rfl
  | unchanged | claimed | released | renewed | checkpointed => exact .inr ⟨rfl, rfl⟩

theorem record_tenantId : after.record.tenantId = before.record.tenantId := by
  cases hstep <;> rfl

end SessionStep

namespace SessionOperation

/-- The session an operation addresses. The reaper addresses none. -/
def sessionKey : SessionOperation → Option String
  | createSession input => some (key input.tenantId input.sessionId)
  | claimSessionLease tenantId sessionId _ _ _ => some (key tenantId sessionId)
  | releaseSessionLease lease => some (key lease.tenantId lease.sessionId)
  | renewSessionLease lease _ => some (key lease.tenantId lease.sessionId)
  | checkpointSession lease => some (key lease.tenantId lease.sessionId)
  | reapExpiredSessionLeases _ _ => none
  | recoverSessionLease lease _ => some (key lease.tenantId lease.sessionId)
  | enqueueSessionCommand input => some (key input.tenantId input.sessionId)
  | claimNextSessionCommand lease => some (key lease.tenantId lease.sessionId)
  | ackSessionCommand lease _ => some (key lease.tenantId lease.sessionId)
  | checkpointAndAckSessionCommand lease _ => some (key lease.tenantId lease.sessionId)
  | deferSessionCommand lease _ _ => some (key lease.tenantId lease.sessionId)
  | failSessionCommand lease _ _ => some (key lease.tenantId lease.sessionId)

inductive Causes : SessionOperation → SessionChange → Prop where
  | nothing (operation : SessionOperation) : Causes operation .unchanged
  | claim (tenantId sessionId workerId : String) (attempt : Nat) (ttlMs : Int)
      (quota : Option WorkerQuota) :
      Causes (claimSessionLease tenantId sessionId workerId ttlMs quota)
        (.claimed (leaseToken tenantId sessionId attempt workerId))
  | release (lease : WorkerLeaseRecord) :
      Causes (releaseSessionLease lease) (.released lease.leaseToken)
  | renew (lease : WorkerLeaseRecord) (ttlMs : Int) :
      Causes (renewSessionLease lease ttlMs) (.renewed lease.leaseToken)
  | checkpoint (lease : WorkerLeaseRecord) (version : Nat) :
      Causes (checkpointSession lease) (.checkpointed lease.leaseToken version)
  | reap (maxCommandAttempts limit : Option ℚ) (token : String) :
      Causes (reapExpiredSessionLeases maxCommandAttempts limit)
        (.recovered token (attemptLimit maxCommandAttempts))
  | recover (lease : WorkerLeaseRecord) (maxCommandAttempts : Option ℚ) :
      Causes (recoverSessionLease lease maxCommandAttempts)
        (.recovered lease.leaseToken (attemptLimit maxCommandAttempts))
  | enqueue (input : EnqueueCommandInput) : Causes (enqueueSessionCommand input) .enqueued
  | claimNext (lease : WorkerLeaseRecord) (commandId : String) :
      Causes (claimNextSessionCommand lease) (.handed lease.leaseToken commandId)
  | ack (lease : WorkerLeaseRecord) (commandId : String) :
      Causes (ackSessionCommand lease commandId) (.settled lease.leaseToken)
  | fail (lease : WorkerLeaseRecord) (commandId error : String) :
      Causes (failSessionCommand lease commandId error) (.settled lease.leaseToken)
  | checkpointAndAck (lease : WorkerLeaseRecord) (commandId : String) (version : Nat) :
      Causes (checkpointAndAckSessionCommand lease commandId)
        (.checkpointSettled lease.leaseToken version)
  | defer (lease : WorkerLeaseRecord) (commandId : String) (input : DeferSessionCommandInput) :
      Causes (deferSessionCommand lease commandId input) (.deferred lease.leaseToken)

def effects : SessionOperation → SessionAnswer → SessionEffects
  | claimSessionLease _ _ _ _ _, .claimed (some lease) => { issued := [lease.leaseToken] }
  | checkpointSession _, .lease lease => { recorded := [lease.checkpointVersion] }
  | checkpointAndAckSessionCommand _ _, .settled result =>
    if result.checkpointAdvanced then { recorded := [result.lease.checkpointVersion] } else {}
  | claimNextSessionCommand _, .handed (some command) => { handed := [command.commandId] }
  | _, _ => {}

def effectsAt (sessionKey : String) (operation : SessionOperation) (answer : SessionAnswer) :
    SessionEffects :=
  if operation.sessionKey = some sessionKey then operation.effects answer else {}

@[simp] theorem effects_thrown (operation : SessionOperation) (error : StoreError) :
    operation.effects (.thrown error) = {} := by
  cases operation <;> rfl

@[simp] theorem effectsAt_thrown (sessionKey : String) (operation : SessionOperation)
    (error : StoreError) : operation.effectsAt sessionKey (.thrown error) = {} := by
  rw [effectsAt, effects_thrown, ite_self]

end SessionOperation

namespace SessionState

variable {session : SessionState} {lease : WorkerLeaseRecord} {current : WorkerLeaseRecord}
  {command : SessionCommandRecord}

theorem assertCurrentLease_eq_ok {nowMs : Instant} :
    session.assertCurrentLease lease nowMs = .ok current ↔
      session.lease = some current ∧ current.leaseToken = lease.leaseToken ∧
        nowMs < current.leaseExpiresAt := by
  unfold assertCurrentLease
  cases hlease : session.lease with
  | none => simp
  | some held =>
    by_cases hstale : held.leaseToken ≠ lease.leaseToken ∨ held.leaseExpiresAt ≤ nowMs
    · simp only [hstale, if_true, reduceCtorEq, Option.some.injEq, false_iff]
      rintro ⟨rfl, htoken, hlive⟩
      rcases hstale with h | h
      · exact h htoken
      · exact not_lt.mpr h hlive
    · simp only [hstale, if_false, Except.ok.injEq, Option.some.injEq]
      push Not at hstale
      constructor
      · rintro rfl
        exact ⟨rfl, hstale.1, hstale.2⟩
      · exact fun h => h.1

theorem requireCommand_eq_ok {commandId : String} :
    session.requireCommand commandId = .ok command ↔
      session.commands.find? (fun entry => decide (entry.commandId = commandId)) =
        some command := by
  unfold requireCommand
  cases session.commands.find? (fun entry => decide (entry.commandId = commandId)) <;> simp

theorem assertOwned_eq_ok :
    assertOwned command lease = .ok () ↔
      command.status = .running ∧ command.claimedLeaseToken = some lease.leaseToken := by
  unfold assertOwned
  split
  next h => tauto
  next h =>
    push Not at h
    simp [h]

theorem advanceCheckpoint_eq_ok {advanced : WorkerLeaseRecord} :
    advanceCheckpoint current lease = .ok advanced ↔
      lease.checkpointVersion = current.checkpointVersion ∧
        advanced = { current with checkpointVersion := current.checkpointVersion + 1 } := by
  unfold advanceCheckpoint
  split
  next h => simp [h]
  next h =>
    push Not at h
    simp [h, eq_comm]

end SessionState

open SessionsDomain (reply)

def Explained (sessionKey : String) (now : Instant) (operation : SessionOperation)
    (answer : SessionAnswer) (before after : SessionState) : Prop :=
  ∃ change, SessionStep sessionKey now change before after ∧ operation.Causes change ∧
    operation.effects answer = change.effects

namespace Explained

variable {sessionKey : String} {now : Instant} {operation : SessionOperation}
  {session : SessionState}

theorem nothing {answer : SessionAnswer} (h : operation.effects answer = {}) :
    Explained sessionKey now operation answer session session :=
  ⟨.unchanged, .unchanged session, .nothing operation, h⟩

theorem thrown (error : StoreError) :
    Explained sessionKey now operation (.thrown error) session session :=
  nothing (SessionOperation.effects_thrown operation error)

end Explained

namespace SessionState

variable {sessionKey : String} (session : SessionState) (lease : WorkerLeaseRecord) (now : Instant)

theorem releaseSessionLease_explained :
    Explained sessionKey now (.releaseSessionLease lease)
      (reply .released (session.releaseSessionLease lease now).1) session
      (session.releaseSessionLease lease now).2 := by
  unfold releaseSessionLease
  cases hlease : session.lease with
  | none => exact .nothing rfl
  | some current =>
    by_cases htoken : current.leaseToken ≠ lease.leaseToken
    · simp only [htoken, ne_eq, not_false_eq_true, if_true]
      exact .nothing rfl
    · simp only [htoken, if_false]
      push Not at htoken
      exact ⟨_, .released session current hlease, htoken ▸ .release lease, rfl⟩

theorem renewSessionLease_explained (ttlMs : Int) :
    Explained sessionKey now (.renewSessionLease lease ttlMs)
      (reply .lease (session.renewSessionLease lease now now ttlMs).1) session
      (session.renewSessionLease lease now now ttlMs).2 := by
  unfold renewSessionLease
  cases hcurrent : session.assertCurrentLease lease now with
  | error thrown => exact .thrown thrown
  | ok current =>
    obtain ⟨hlease, htoken, hlive⟩ := assertCurrentLease_eq_ok.mp hcurrent
    exact ⟨_, .renewed session current (now + ttlMs) hlease hlive, htoken ▸ .renew lease ttlMs, rfl⟩

theorem checkpointSession_explained :
    Explained sessionKey now (.checkpointSession lease)
      (reply .lease (session.checkpointSession lease now).1) session
      (session.checkpointSession lease now).2 := by
  unfold checkpointSession
  cases hcurrent : session.assertCurrentLease lease now with
  | error thrown => exact .thrown thrown
  | ok current =>
    obtain ⟨hlease, htoken, hlive⟩ := assertCurrentLease_eq_ok.mp hcurrent
    simp only
    cases hadvance : advanceCheckpoint current lease with
    | error thrown => exact .thrown thrown
    | ok =>
      obtain ⟨_, rfl⟩ := advanceCheckpoint_eq_ok.mp hadvance
      exact ⟨_, .checkpointed session current hlease hlive, htoken ▸ .checkpoint lease _, rfl⟩

theorem claimNextSessionCommand_explained :
    Explained sessionKey now (.claimNextSessionCommand lease)
      (reply .handed (session.claimNextSessionCommand lease now).1) session
      (session.claimNextSessionCommand lease now).2 := by
  unfold claimNextSessionCommand
  cases hcurrent : session.assertCurrentLease lease now with
  | error thrown => exact .thrown thrown
  | ok current =>
    obtain ⟨hlease, htoken, hlive⟩ := assertCurrentLease_eq_ok.mp hcurrent
    simp only
    cases hfound : session.commands.find? (·.claimable lease.leaseToken) with
    | none => exact .nothing rfl
    | some command =>
      cases hdelayed : delayed command now with
      | true =>
        simp only [hdelayed, if_true]
        exact .nothing rfl
      | false =>
        simp only [hdelayed, Bool.false_eq_true, if_false]
        exact ⟨_, .handed session current lease command hlease hlive htoken hfound,
          htoken ▸ .claimNext lease command.commandId, rfl⟩

theorem ackSessionCommand_explained (commandId : String) :
    Explained sessionKey now (.ackSessionCommand lease commandId)
      (reply .command (session.ackSessionCommand lease commandId now now).1) session
      (session.ackSessionCommand lease commandId now now).2 := by
  unfold ackSessionCommand
  cases hcurrent : session.assertCurrentLease lease now with
  | error thrown => exact .thrown thrown
  | ok current =>
    obtain ⟨hlease, htoken, hlive⟩ := assertCurrentLease_eq_ok.mp hcurrent
    simp only
    cases hcommand : session.requireCommand commandId with
    | error thrown => exact .thrown thrown
    | ok command =>
      simp only
      split
      · exact .nothing rfl
      · cases howned : assertOwned command lease with
        | error thrown => exact .thrown thrown
        | ok =>
          have hruns : RunsUnder session commandId current.leaseToken :=
            ⟨command, requireCommand_eq_ok.mp hcommand, htoken ▸ assertOwned_eq_ok.mp howned⟩
          exact ⟨_, .settled session current commandId _ hlease hlive hruns
            ⟨fun _ => rfl, fun _ => .inl rfl⟩,
            htoken ▸ .ack lease commandId, rfl⟩

theorem checkpointAndAckSessionCommand_explained (commandId : String) :
    Explained sessionKey now (.checkpointAndAckSessionCommand lease commandId)
      (reply .settled (session.checkpointAndAckSessionCommand lease commandId now now).1) session
      (session.checkpointAndAckSessionCommand lease commandId now now).2 := by
  unfold checkpointAndAckSessionCommand
  cases hcurrent : session.assertCurrentLease lease now with
  | error thrown => exact .thrown thrown
  | ok current =>
    obtain ⟨hlease, htoken, hlive⟩ := assertCurrentLease_eq_ok.mp hcurrent
    simp only
    cases hcommand : session.requireCommand commandId with
    | error thrown => exact .thrown thrown
    | ok command =>
      simp only
      split
      · exact .nothing rfl
      · cases howned : assertOwned command lease with
        | error thrown => exact .thrown thrown
        | ok =>
          simp only
          cases hadvance : advanceCheckpoint current lease with
          | error thrown => exact .thrown thrown
          | ok =>
            obtain ⟨_, rfl⟩ := advanceCheckpoint_eq_ok.mp hadvance
            have hruns : RunsUnder session commandId current.leaseToken :=
              ⟨command, requireCommand_eq_ok.mp hcommand,
                htoken ▸ assertOwned_eq_ok.mp howned⟩
            exact ⟨_, .checkpointSettled session current commandId _ hlease hlive hruns
              ⟨fun _ => rfl, fun _ => .inl rfl⟩,
              htoken ▸ .checkpointAndAck lease commandId _, rfl⟩

theorem failSessionCommand_explained (env : Environment) (commandId error : String) :
    Explained sessionKey now (.failSessionCommand lease commandId error)
      (reply .command (session.failSessionCommand env lease commandId error now).1) session
      (session.failSessionCommand env lease commandId error now).2 := by
  unfold failSessionCommand
  cases hcurrent : session.assertCurrentLease lease now with
  | error thrown => exact .thrown thrown
  | ok current =>
    obtain ⟨hlease, htoken, hlive⟩ := assertCurrentLease_eq_ok.mp hcurrent
    simp only
    cases hcommand : session.requireCommand commandId with
    | error thrown => exact .thrown thrown
    | ok command =>
      simp only
      cases howned : assertOwned command lease with
      | error thrown => exact .thrown thrown
      | ok =>
        have hruns : RunsUnder session commandId current.leaseToken :=
          ⟨command, requireCommand_eq_ok.mp hcommand, htoken ▸ assertOwned_eq_ok.mp howned⟩
        simp only
        cases env.redactOperationalText error 512 "Command error" with
        | error | ok =>
          exact ⟨_, .settled session current commandId _ hlease hlive hruns
            ⟨fun _ => rfl, fun _ => .inr rfl⟩,
            htoken ▸ .fail lease commandId error, rfl⟩

theorem deferrable_eq_ok {commandId : String} {command : SessionCommandRecord}
    (h : session.deferrable lease commandId now = .ok command) :
    ∃ current, session.lease = some current ∧ current.leaseToken = lease.leaseToken ∧
      now < current.leaseExpiresAt ∧ RunsUnder session commandId lease.leaseToken := by
  unfold deferrable at h
  cases hcurrent : session.assertCurrentLease lease now with
  | error => simp [hcurrent] at h
  | ok current =>
    obtain ⟨hlease, htoken, hlive⟩ := assertCurrentLease_eq_ok.mp hcurrent
    simp only [hcurrent] at h
    cases hcommand : session.requireCommand commandId with
    | error => simp [hcommand] at h
    | ok found =>
      simp only [hcommand] at h
      cases howned : assertOwned found lease with
      | error => simp [howned] at h
      | ok =>
        exact ⟨current, hlease, htoken, hlive, found, requireCommand_eq_ok.mp hcommand,
          assertOwned_eq_ok.mp howned⟩

end SessionState

/-- What an operation does to the session under one key: nothing to a missing
session other than creating it, and one step to a present one, which is trivial
when the operation addresses another session. -/
inductive ExplainedAt (now : Instant) (operation : SessionOperation) (sessionKey : String)
    (answer : SessionAnswer) : Option SessionState → Option SessionState → Prop where
  | absent (heffects : operation.effectsAt sessionKey answer = {}) :
      ExplainedAt now operation sessionKey answer none none
  | created (input : CreateSessionInput) (createdAt : Instant)
      (hoperation : operation = .createSession input)
      (heffects : operation.effectsAt sessionKey answer = {}) :
      ExplainedAt now operation sessionKey answer none
        (some (SessionsDomain.newSession input createdAt))
  | changed (change : SessionChange) (before after : SessionState)
      (hstep : SessionStep sessionKey now change before after) (hcauses : operation.Causes change)
      (heffects : operation.effectsAt sessionKey answer = change.effects)
      (haddressed : change = .unchanged ∨
        ∀ other ∈ operation.sessionKey, other = sessionKey) :
      ExplainedAt now operation sessionKey answer (some before) (some after)

namespace ExplainedAt

variable {now : Instant} {operation : SessionOperation} {answer : SessionAnswer}

theorem same (sessionKey : String) (session : Option SessionState)
    (heffects : operation.effectsAt sessionKey answer = {}) :
    ExplainedAt now operation sessionKey answer session session := by
  cases session with
  | none => exact .absent heffects
  | some session =>
    exact .changed .unchanged session session (.unchanged session) (.nothing operation)
      heffects (.inl rfl)

theorem put {sessions : OrderedMap String SessionState} {addressed : String}
    {session next : SessionState} (haddressed : operation.sessionKey = some addressed)
    (hget : sessions.get addressed = some session)
    (hexplained : Explained addressed now operation answer session next) (sessionKey : String) :
    ExplainedAt now operation sessionKey answer (sessions.get sessionKey)
      ((sessions.set addressed next).get sessionKey) := by
  rw [get_set]
  split
  next h =>
    subst h
    obtain ⟨change, hstep, hcauses, heffects⟩ := hexplained
    rw [hget]
    refine .changed change session next hstep hcauses ?_ (.inr ?_)
    · rw [SessionOperation.effectsAt, if_pos haddressed, heffects]
    · intro _ hother
      rw [haddressed] at hother
      exact (Option.some.inj hother).symm
  next h =>
    apply same
    rw [SessionOperation.effectsAt, if_neg]
    rw [haddressed]
    exact fun heq => h (Option.some.inj heq)

end ExplainedAt

namespace SessionsDomain

variable {σ : Type} (env : Environment) (host : SessionsHost σ) (domain : SessionsDomain σ)
  {session : SessionState}

theorem requireSession_eq_ok {tenantId sessionId : String}
    (h : domain.requireSession host tenantId sessionId = .ok session) :
    domain.sessions.get (key tenantId sessionId) = some session := by
  unfold requireSession at h
  cases htenant : host.requireTenant domain.neighbours tenantId with
  | error => simp [htenant] at h
  | ok =>
    simp only [htenant] at h
    cases hget : domain.sessions.get (key tenantId sessionId) with
    | none => simp [hget] at h
    | some => simpa [hget] using h

theorem withSession_explained {α : Type} {now : Instant} {operation : SessionOperation}
    (wrap : α → SessionAnswer) (tenantId sessionId : String)
    (run : SessionState → Outcome SessionState α)
    (haddressed : operation.sessionKey = some (key tenantId sessionId))
    (hrun : ∀ session, Explained (key tenantId sessionId) now operation
      (reply wrap (run session).1) session (run session).2) (sessionKey : String) :
    ExplainedAt now operation sessionKey
      (answer wrap (domain.withSession host tenantId sessionId run)).1
      (domain.sessions.get sessionKey)
      ((answer wrap (domain.withSession host tenantId sessionId run)).2.sessions.get
        sessionKey) := by
  unfold withSession
  cases hsession : domain.requireSession host tenantId sessionId with
  | error thrown =>
    exact .same sessionKey _ (SessionOperation.effectsAt_thrown sessionKey operation thrown)
  | ok session =>
    exact .put haddressed (domain.requireSession_eq_ok host hsession) (hrun session) sessionKey

theorem createSession_explained (input : CreateSessionInput) (now : Instant) (sessionKey : String) :
    ExplainedAt now (.createSession input) sessionKey
      (answer .session (domain.createSession host input now)).1
      (domain.sessions.get sessionKey)
      ((answer .session (domain.createSession host input now)).2.sessions.get sessionKey) := by
  have heffects (reply : SessionAnswer) :
      (SessionOperation.createSession input).effectsAt sessionKey reply = {} := by
    rw [SessionOperation.effectsAt]
    split <;> rfl
  unfold createSession
  cases host.requireTenantUser domain.neighbours input.tenantId input.userId with
  | error => exact .same sessionKey _ (heffects _)
  | ok =>
    simp only
    cases hget : domain.sessions.get (key input.tenantId input.sessionId) with
    | some => exact .same sessionKey _ (heffects _)
    | none =>
      simp only
      cases domain.assertSessionQuota host input now with
      | error => exact .same sessionKey _ (heffects _)
      | ok =>
        simp only [answer, putSession, get_set]
        split
        next h =>
          rw [← h, hget]
          exact .created input _ rfl (h ▸ heffects _)
        · exact .same sessionKey _ (heffects _)

theorem claimSessionLease_explained (tenantId sessionId workerId : String) (now ttlMs : Int)
    (quota : Option WorkerQuota) (sessionKey : String) :
    ExplainedAt now (.claimSessionLease tenantId sessionId workerId ttlMs quota) sessionKey
      (answer .claimed
        (domain.claimSessionLease host tenantId sessionId workerId now ttlMs quota)).1
      (domain.sessions.get sessionKey)
      ((answer .claimed (domain.claimSessionLease host tenantId sessionId workerId now ttlMs
        quota)).2.sessions.get sessionKey) := by
  unfold claimSessionLease
  cases hsession : domain.requireSession host tenantId sessionId with
  | error thrown => exact .same sessionKey _ (SessionOperation.effectsAt_thrown sessionKey _ thrown)
  | ok session =>
    simp only
    split
    next hfree =>
      rw [Bool.and_eq_true] at hfree
      exact .put rfl (domain.requireSession_eq_ok host hsession)
        ⟨_, .claimed session tenantId sessionId workerId ttlMs rfl hfree.1,
          .claim tenantId sessionId workerId _ ttlMs quota, rfl⟩ sessionKey
    · apply ExplainedAt.same
      simp only [answer, reply, SessionOperation.effectsAt, SessionOperation.effects, ite_self]

theorem recoverSessionLeaseRecord_sessions (sessionKey : String) (session : SessionState)
    (lease : WorkerLeaseRecord) (now : Instant) (maxAttempts : Int) :
    (domain.recoverSessionLeaseRecord host sessionKey session lease now maxAttempts).2.sessions =
      domain.sessions.set sessionKey (session.afterRecovery lease now maxAttempts) := by
  unfold recoverSessionLeaseRecord
  cases host.resolveOrgIdOrNull domain.neighbours lease.tenantId with
  | none => rfl
  | some =>
    simp only
    split
    · rfl
    · split <;> rfl

theorem recoverSessionLease_explained (lease : WorkerLeaseRecord) (now : Instant)
    (maxCommandAttempts : Option ℚ) (sessionKey : String) :
    ExplainedAt now (.recoverSessionLease lease maxCommandAttempts) sessionKey
      (answer .recovered (domain.recoverSessionLease host lease now maxCommandAttempts)).1
      (domain.sessions.get sessionKey)
      ((answer .recovered (domain.recoverSessionLease host lease now
        maxCommandAttempts)).2.sessions.get sessionKey) := by
  have heffects (answer : SessionAnswer) :
      (SessionOperation.recoverSessionLease lease maxCommandAttempts).effects answer = {} := by
    cases answer <;> rfl
  have hnone (answer : SessionAnswer) : (SessionOperation.recoverSessionLease lease
      maxCommandAttempts).effectsAt sessionKey answer = {} := by
    rw [SessionOperation.effectsAt, heffects, ite_self]
  unfold recoverSessionLease
  cases hsession : domain.requireSession host lease.tenantId lease.sessionId with
  | error => exact .same sessionKey _ (hnone _)
  | ok session =>
    simp only
    cases hlease : session.lease with
    | none => exact .same sessionKey _ (hnone _)
    | some current =>
      by_cases htoken : current.leaseToken ≠ lease.leaseToken
      · simp only [htoken, ne_eq, not_false_eq_true, if_true]
        exact .same sessionKey _ (hnone _)
      · simp only [htoken, if_false]
        push Not at htoken
        have hsessions := domain.recoverSessionLeaseRecord_sessions host
          (key lease.tenantId lease.sessionId) session current now
          (attemptLimit maxCommandAttempts)
        have hexplained (reply : SessionAnswer) : Explained (key lease.tenantId lease.sessionId)
            now (.recoverSessionLease lease maxCommandAttempts) reply session
            (session.afterRecovery current now (attemptLimit maxCommandAttempts)) :=
          ⟨_, .recovered session current _ hlease,
            htoken ▸ .recover lease maxCommandAttempts, heffects reply⟩
        have hput (reply : SessionAnswer) := ExplainedAt.put rfl
          (domain.requireSession_eq_ok host hsession) (hexplained reply) sessionKey
        split
        all_goals
          next next heq =>
            rw [heq] at hsessions
            change next.sessions = _ at hsessions
            simp only [answer, hsessions]
            exact hput _

theorem reapSessions_get_of_not_mem (now : Instant) (maxAttempts : Int) (keys : List String)
    (sessionKey : String) (hkey : sessionKey ∉ keys) :
    (reapSessions host now maxAttempts keys domain).2.sessions.get sessionKey =
      domain.sessions.get sessionKey := by
  induction keys generalizing domain with
  | nil => rfl
  | cons first _ ih =>
    rw [List.mem_cons, not_or] at hkey
    rw [reapSessions]
    split
    · exact ih domain hkey.2
    next session _ =>
      split
      · exact ih domain hkey.2
      next lease _ =>
        have hsessions := domain.recoverSessionLeaseRecord_sessions host first session lease
          now maxAttempts
        split
        next next heq =>
          rw [heq] at hsessions
          change next.sessions = _ at hsessions
          rw [hsessions, get_set_of_ne _ _ (Ne.symm hkey.1)]
        next next heq =>
          rw [heq] at hsessions
          change next.sessions = _ at hsessions
          have hrest := ih next hkey.2
          rw [hsessions, get_set_of_ne _ _ (Ne.symm hkey.1)] at hrest
          split
          next heq' => rwa [heq'] at hrest
          next heq' => rwa [heq'] at hrest

theorem reapSessions_get (now : Instant) (maxAttempts : Int) (keys : List String)
    (hkeys : keys.Nodup) (sessionKey : String) :
    (reapSessions host now maxAttempts keys domain).2.sessions.get sessionKey =
        domain.sessions.get sessionKey ∨
      ∃ session lease, domain.sessions.get sessionKey = some session ∧
        session.lease = some lease ∧
        (reapSessions host now maxAttempts keys domain).2.sessions.get sessionKey =
          some (session.afterRecovery lease now maxAttempts) := by
  induction keys generalizing domain with
  | nil => exact .inl rfl
  | cons first rest ih =>
    rw [List.nodup_cons] at hkeys
    rw [reapSessions]
    split
    · exact ih domain hkeys.2
    next session hsession =>
      split
      · exact ih domain hkeys.2
      next lease hlease =>
        have hsessions := domain.recoverSessionLeaseRecord_sessions host first session lease
          now maxAttempts
        split
        next next heq =>
          rw [heq] at hsessions
          change next.sessions = _ at hsessions
          rw [hsessions, get_set]
          split
          next hfirst => exact .inr ⟨session, lease, hfirst ▸ hsession, hlease, rfl⟩
          · exact .inl rfl
        next next heq =>
          rw [heq] at hsessions
          change next.sessions = _ at hsessions
          have hfinal : ∀ result final,
              reapSessions host now maxAttempts rest next = (result, final) →
              final.sessions.get sessionKey = domain.sessions.get sessionKey ∨
                ∃ session lease, domain.sessions.get sessionKey = some session ∧
                  session.lease = some lease ∧ final.sessions.get sessionKey =
                    some (session.afterRecovery lease now maxAttempts) := by
            intro result final heq'
            have hsnd : final = (reapSessions host now maxAttempts rest next).2 := by
              rw [heq']
            subst hsnd
            by_cases hfirst : first = sessionKey
            · subst hfirst
              have hrest := next.reapSessions_get_of_not_mem host now maxAttempts rest first hkeys.1
              rw [hsessions, get_set_self] at hrest
              exact .inr ⟨session, lease, hsession, hlease, hrest⟩
            · have hnext : next.sessions.get sessionKey = domain.sessions.get sessionKey := by
                rw [hsessions, get_set_of_ne _ _ hfirst]
              simpa only [hnext] using ih next hkeys.2
          split
          next heq' => exact hfinal _ _ heq'
          next heq' => exact hfinal _ _ heq'

theorem expiredSessions_nodup (nowMs : Instant) (limit : Nat) :
    (domain.expiredSessions env nowMs limit).Nodup := by
  rw [expiredSessions, List.map_take]
  refine List.Nodup.sublist (List.take_sublist _ _) ?_
  rw [((List.perm_insertionSort _ _).map Prod.fst).nodup_iff]
  exact List.Nodup.sublist (List.filter_sublist.map Prod.fst) domain.sessions.nodupKeys

theorem reapExpiredSessionLeases_explained (now : Instant) (maxCommandAttempts limit : Option ℚ)
    (sessionKey : String) :
    ExplainedAt now (.reapExpiredSessionLeases maxCommandAttempts limit) sessionKey
      (answer .reaped
        (domain.reapExpiredSessionLeases env host now maxCommandAttempts limit)).1
      (domain.sessions.get sessionKey)
      ((answer .reaped (domain.reapExpiredSessionLeases env host now maxCommandAttempts
        limit)).2.sessions.get sessionKey) := by
  have heffects (answer : SessionAnswer) : (SessionOperation.reapExpiredSessionLeases
      maxCommandAttempts limit).effectsAt sessionKey answer = {} := by
    rw [SessionOperation.effectsAt, if_neg]
    simp [SessionOperation.sessionKey]
  have hreap := domain.reapSessions_get host now (attemptLimit maxCommandAttempts)
    (domain.expiredSessions env now (reapLimit limit))
    (domain.expiredSessions_nodup env now (reapLimit limit)) sessionKey
  change ExplainedAt now _ sessionKey _ _
    ((reapSessions host now (attemptLimit maxCommandAttempts)
      (domain.expiredSessions env now (reapLimit limit)) domain).2.sessions.get sessionKey)
  rcases hreap with hsame | ⟨session, lease, hsession, hlease, hrecovered⟩
  · rw [hsame]
    exact .same sessionKey _ (heffects _)
  · rw [hsession, hrecovered]
    refine .changed _ session _ (.recovered session lease _ hlease)
      (.reap maxCommandAttempts limit lease.leaseToken) (heffects _) (.inr ?_)
    simp [SessionOperation.sessionKey]

theorem findSessionCommandById_eq_none {commandId sessionKey : String}
    (h : domain.findSessionCommandById commandId = none)
    (hsession : domain.sessions.get sessionKey = some session) :
    ∀ command ∈ session.commands, command.commandId ≠ commandId := by
  rw [findSessionCommandById, List.findSome?_eq_none_iff] at h
  have hnone := h session ((domain.sessions.mem_values_iff session).mpr ⟨sessionKey, hsession⟩)
  rw [List.find?_eq_none] at hnone
  simpa using hnone

theorem enqueueSessionCommand_explained (input : EnqueueCommandInput) (now : Instant)
    (sessionKey : String) :
    ExplainedAt now (.enqueueSessionCommand input) sessionKey
      (answer .command (domain.enqueueSessionCommand env host input now)).1
      (domain.sessions.get sessionKey)
      ((answer .command (domain.enqueueSessionCommand env host input now)).2.sessions.get
        sessionKey) := by
  have heffects (answer : SessionAnswer) :
      (SessionOperation.enqueueSessionCommand input).effects answer = {} := by
    cases answer <;> rfl
  have hnone (answer : SessionAnswer) :
      (SessionOperation.enqueueSessionCommand input).effectsAt sessionKey answer = {} := by
    rw [SessionOperation.effectsAt, heffects, ite_self]
  unfold enqueueSessionCommand
  cases host.requireTenantUser domain.neighbours input.tenantId input.userId with
  | error => exact .same sessionKey _ (hnone _)
  | ok =>
  simp only
  cases hsession : domain.requireSession host input.tenantId input.sessionId with
  | error => exact .same sessionKey _ (hnone _)
  | ok session =>
  simp only
  cases hfind : domain.findSessionCommandById input.commandId with
  | some =>
    simp only
    split <;> exact .same sessionKey _ (hnone _)
  | none =>
  simp only
  cases host.assertCommandQueueQuota domain.neighbours domain.sessions.values input.tenantId
      input.quota (input.createdAt.getD now) with
  | error => exact .same sessionKey _ (hnone _)
  | ok =>
  simp only
  have hget := domain.requireSession_eq_ok host hsession
  split
  · exact .same sessionKey _ (hnone _)
  · exact .put rfl hget ⟨.enqueued, .enqueued session input _
      (domain.findSessionCommandById_eq_none hfind hget), .enqueue input, heffects _⟩ sessionKey

theorem deferSessionCommand_explained (lease : WorkerLeaseRecord) (commandId : String)
    (input : DeferSessionCommandInput) (now : Instant) (sessionKey : String) :
    ExplainedAt now (.deferSessionCommand lease commandId input) sessionKey
      (answer .command (domain.deferSessionCommand env host lease commandId input now)).1
      (domain.sessions.get sessionKey)
      ((answer .command (domain.deferSessionCommand env host lease commandId input
        now)).2.sessions.get sessionKey) := by
  have hnone (thrown : StoreError) := SessionOperation.effectsAt_thrown sessionKey
    (.deferSessionCommand lease commandId input) thrown
  unfold deferSessionCommand
  cases input.retryAfterMs.filter (fun delay => decide (0 < delay)) with
  | none => exact .same sessionKey _ (hnone _)
  | some =>
  simp only
  cases hsession : domain.requireSession host lease.tenantId lease.sessionId with
  | error => exact .same sessionKey _ (hnone _)
  | ok session =>
  simp only
  cases hcommand : session.deferrable lease commandId now with
  | error => exact .same sessionKey _ (hnone _)
  | ok =>
  simp only
  cases env.redactOperationalText input.errorSummary 512 "Command deferred" with
  | error => exact .same sessionKey _ (hnone _)
  | ok =>
  simp only
  obtain ⟨current, hlease, htoken, hlive, hruns⟩ := session.deferrable_eq_ok lease now hcommand
  split
  · exact .same sessionKey _ (hnone _)
  · refine .put rfl (domain.requireSession_eq_ok host hsession)
      ⟨.deferred current.leaseToken, ?_, ?_, ?_⟩ sessionKey
    · exact .deferred session current commandId _ _ _ hlease hlive (htoken ▸ hruns)
    · exact htoken ▸ .defer lease commandId input
    · rfl

/-- Every operation changes every session by one listed step, and its answer
tells exactly what that step issued, recorded and handed out. -/
theorem perform_explained (request : SessionRequest) (sessionKey : String) :
    ExplainedAt request.now request.operation sessionKey (domain.perform env host request).1
      (domain.sessions.get sessionKey)
      ((domain.perform env host request).2.sessions.get sessionKey) := by
  obtain ⟨now, operation⟩ := request
  cases operation with
  | createSession input => exact domain.createSession_explained host input now sessionKey
  | claimSessionLease =>
    exact domain.claimSessionLease_explained host _ _ _ now _ _ sessionKey
  | releaseSessionLease lease =>
    exact domain.withSession_explained host .released _ _ _ rfl
      (fun session => session.releaseSessionLease_explained lease now) sessionKey
  | renewSessionLease =>
    exact domain.withSession_explained host .lease _ _ _ rfl (fun session =>
      session.renewSessionLease_explained _ now _) sessionKey
  | checkpointSession lease =>
    exact domain.withSession_explained host .lease _ _ _ rfl
      (fun session => session.checkpointSession_explained lease now) sessionKey
  | reapExpiredSessionLeases =>
    exact domain.reapExpiredSessionLeases_explained env host now _ _ sessionKey
  | recoverSessionLease =>
    exact domain.recoverSessionLease_explained host _ now _ sessionKey
  | enqueueSessionCommand input =>
    exact domain.enqueueSessionCommand_explained env host input now sessionKey
  | claimNextSessionCommand lease =>
    exact domain.withSession_explained host .handed _ _ _ rfl
      (fun session => session.claimNextSessionCommand_explained lease now) sessionKey
  | ackSessionCommand =>
    exact domain.withSession_explained host .command _ _ _ rfl (fun session =>
      session.ackSessionCommand_explained _ now _) sessionKey
  | checkpointAndAckSessionCommand =>
    exact domain.withSession_explained host .settled _ _ _ rfl (fun session =>
      session.checkpointAndAckSessionCommand_explained _ now _) sessionKey
  | deferSessionCommand =>
    exact domain.deferSessionCommand_explained env host _ _ _ now sessionKey
  | failSessionCommand =>
    exact domain.withSession_explained host .command _ _ _ rfl (fun session =>
      session.failSessionCommand_explained _ now env _ _) sessionKey

end SessionsDomain

end OpenCowork.ControlPlane
