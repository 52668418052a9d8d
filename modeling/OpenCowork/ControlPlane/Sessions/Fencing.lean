import OpenCowork.ControlPlane.Sessions.Ledger

/-! # Lease fencing

Tokens are numbered by the session's attempt counter, so no token is issued
twice, and the current lease always carries the token issued last. Together with
the fence checks of the operations this is what keeps two workers from driving
one session.
-/

namespace OpenCowork.ControlPlane

open Foundation

variable {operation : SessionOperation} {change : SessionChange} {lease : WorkerLeaseRecord}
  {sessionKey token : String} {now : Instant} {before after : SessionState}

def CurrentAt {σ : Type} (domain : SessionsDomain σ) (sessionKey token : String)
    (now : Instant) : Prop :=
  ∃ session lease, domain.sessions.get sessionKey = some session ∧ session.lease = some lease ∧
    lease.leaseToken = token ∧ now < lease.leaseExpiresAt

theorem leaseToken_toList (tenantId sessionId : String) (attempt : Nat) (workerId : String) :
    (leaseToken tenantId sessionId attempt workerId).toList =
      tenantId.toList ++ ':' :: (sessionId.toList ++ ':' ::
        (attempt.repr.toList ++ ':' :: workerId.toList)) := by
  simp [leaseToken]

theorem leaseToken_inj {tenantId tenantId' sessionId sessionId' workerId workerId' : String}
    {attempt attempt' : Nat} (hkey : key tenantId sessionId = key tenantId' sessionId')
    (htoken : leaseToken tenantId sessionId attempt workerId =
      leaseToken tenantId' sessionId' attempt' workerId') :
    attempt = attempt' ∧ workerId = workerId' := by
  have hkeys : tenantId.toList ++ '\x00' :: sessionId.toList =
      tenantId'.toList ++ '\x00' :: sessionId'.toList := by
    simpa [key] using congrArg String.toList hkey
  have htokens := congrArg String.toList htoken
  rw [leaseToken_toList, leaseToken_toList] at htokens
  have htenant := Text.append_two_separators_inj (by decide) hkeys htokens
  rw [htenant] at hkeys htokens
  have hsession := (List.cons.inj (List.append_cancel_left hkeys)).2
  rw [hsession] at htokens
  have hrest := (List.cons.inj (List.append_cancel_left
    (List.cons.inj (List.append_cancel_left htokens)).2)).2
  obtain rfl := Text.repr_append_inj (by decide) hrest
  exact ⟨rfl, String.toList_inj.mp (List.cons.inj (List.append_cancel_left hrest)).2⟩

/-- What holds between the tokens issued for a session and the session. -/
structure Fenced (sessionKey : String) (effects : SessionEffects) (session : SessionState) :
    Prop where
  numbered : ∀ token ∈ effects.issued, ∃ tenantId sessionId attempt workerId,
    key tenantId sessionId = sessionKey ∧ attempt ≤ session.nextLeaseAttempt ∧
      token = leaseToken tenantId sessionId attempt workerId
  distinct : effects.issued.Nodup
  latest : ∀ lease, session.lease = some lease →
    effects.issued.getLast? = some lease.leaseToken
  running : ∀ command ∈ session.commands, command.status = .running →
    ∃ token ∈ effects.issued, command.claimedLeaseToken = some token
  commandIds : (session.commands.map SessionCommandRecord.commandId).Nodup

namespace Fenced

variable {sessionKey : String} {effects : SessionEffects} {before after : SessionState}
  {next : SessionEffects}

theorem new (input : CreateSessionInput) (createdAt : Instant) :
    Fenced sessionKey {} (SessionsDomain.newSession input createdAt) where
  numbered := by simp
  distinct := List.nodup_nil
  latest := by simp [SessionsDomain.newSession]
  running := by simp [SessionsDomain.newSession]
  commandIds := List.nodup_nil

variable (hfenced : Fenced sessionKey effects before)
include hfenced

theorem mono (hissued : next.issued = effects.issued)
    (hattempt : after.nextLeaseAttempt = before.nextLeaseAttempt)
    (hlease : ∀ lease, after.lease = some lease →
      ∃ held, before.lease = some held ∧ held.leaseToken = lease.leaseToken)
    (hrunning : ∀ command ∈ after.commands, command.status = .running →
      (∃ old ∈ before.commands, old.status = .running ∧
        old.claimedLeaseToken = command.claimedLeaseToken) ∨
      ∃ held, before.lease = some held ∧ command.claimedLeaseToken = some held.leaseToken)
    (hids : (after.commands.map SessionCommandRecord.commandId).Nodup) :
    Fenced sessionKey next after where
  numbered := by
    rw [hissued, hattempt]
    exact hfenced.numbered
  distinct := hissued ▸ hfenced.distinct
  latest := by
    intro lease hafter
    obtain ⟨held, hheld, htoken⟩ := hlease lease hafter
    rw [hissued, ← htoken]
    exact hfenced.latest held hheld
  running := by
    intro command hmem hstatus
    rw [hissued]
    rcases hrunning command hmem hstatus with ⟨old, hold, holdStatus, htoken⟩ |
      ⟨held, hheld, htoken⟩
    · rw [← htoken]
      exact hfenced.running old hold holdStatus
    · exact ⟨held.leaseToken, List.mem_of_getLast? (hfenced.latest held hheld), htoken⟩
  commandIds := hids

theorem updateCommand (hissued : next.issued = effects.issued) (commandId : String)
    (update : SessionCommandRecord → SessionCommandRecord)
    (hid : ∀ command, (update command).commandId = command.commandId)
    (hstatus : ∀ command, (update command).status ≠ .running)
    (hattempt : after.nextLeaseAttempt = before.nextLeaseAttempt)
    (hcommands : after.commands = (before.updateCommand commandId update).commands)
    (hlease : ∀ lease, after.lease = some lease →
      ∃ held, before.lease = some held ∧ held.leaseToken = lease.leaseToken) :
    Fenced sessionKey next after := by
  refine hfenced.mono hissued hattempt hlease ?_ ?_
  · intro command hmem hrunning
    rw [hcommands] at hmem
    rcases mem_modifyFirst hmem with hmem | ⟨found, _, rfl⟩
    · exact .inl ⟨command, hmem, hrunning, rfl⟩
    · exact absurd hrunning (hstatus found)
  · rw [hcommands]
    change ((modifyFirst _ update before.commands).map _).Nodup
    rw [map_modifyFirst update SessionCommandRecord.commandId fun found _ => hid found]
    exact hfenced.commandIds

theorem grant {tenantId sessionId workerId : String} (hkey : key tenantId sessionId = sessionKey)
    (now : Instant) (ttlMs : Int) :
    Fenced sessionKey
      (effects.append
        { issued := [leaseToken tenantId sessionId (before.nextLeaseAttempt + 1) workerId] })
      (before.grantLease tenantId sessionId workerId now ttlMs) where
  numbered := by
    intro token hmem
    rcases List.mem_append.mp hmem with hmem | hmem
    · obtain ⟨tenantId', sessionId', attempt, workerId', hkey', hle, htoken⟩ :=
        hfenced.numbered token hmem
      exact ⟨tenantId', sessionId', attempt, workerId', hkey', Nat.le_succ_of_le hle, htoken⟩
    · exact ⟨tenantId, sessionId, _, workerId, hkey, le_rfl, List.mem_singleton.mp hmem⟩
  distinct := by
    refine List.nodup_append.mpr ⟨hfenced.distinct, List.nodup_singleton _, ?_⟩
    intro token hmem _ hfresh heq
    obtain ⟨_, _, _, _, hkey', _, htoken⟩ :=
      hfenced.numbered token hmem
    have ⟨hattempt, _⟩ := leaseToken_inj (hkey'.trans hkey.symm)
      (htoken.symm.trans (heq.trans (List.mem_singleton.mp hfresh)))
    omega
  latest := by
    intro lease hlease
    obtain rfl : before.nextLease tenantId sessionId workerId now ttlMs = lease := by
      simpa [SessionState.grantLease] using hlease
    simp [SessionEffects.append, SessionState.nextLease]
  running := by
    intro command hmem hstatus
    obtain ⟨token, htoken, hclaimed⟩ := hfenced.running command hmem hstatus
    exact ⟨token, List.mem_append_left _ htoken, hclaimed⟩
  commandIds := hfenced.commandIds

theorem recovery (lease : WorkerLeaseRecord) (now : Instant) (maxAttempts : Int) :
    Fenced sessionKey effects (before.afterRecovery lease now maxAttempts) := by
  have hid (command : SessionCommandRecord) : (if command.strandedBy lease then
      command.recovered now maxAttempts else command).commandId = command.commandId := by
    split
    · unfold SessionCommandRecord.recovered
      split <;> rfl
    · rfl
  refine hfenced.mono rfl rfl ?_ ?_ ?_
  · simp [SessionState.afterRecovery, SessionState.withStatus]
  · intro command hmem hrunning
    obtain ⟨old, hold, rfl⟩ := List.mem_map.mp hmem
    split at hrunning
    · unfold SessionCommandRecord.recovered at hrunning
      split at hrunning <;> simp at hrunning
    next hkept =>
      rw [if_neg hkept]
      exact .inl ⟨old, hold, hrunning, rfl⟩
  · change ((before.commands.map _).map SessionCommandRecord.commandId).Nodup
    rw [List.map_map]
    exact (List.map_congr_left fun command _ => hid command) ▸ hfenced.commandIds

theorem handOut (hissued : next.issued = effects.issued) {current lease : WorkerLeaseRecord}
    (hlease : before.lease = some current) (htoken : current.leaseToken = lease.leaseToken) :
    Fenced sessionKey next
      { before with
        commands := modifyFirst (·.claimable lease.leaseToken) (·.claimedUnder lease)
          before.commands } := by
  refine hfenced.mono hissued rfl (fun held hheld => ⟨held, hheld, rfl⟩) ?_ ?_
  · intro command hmem hrunning
    rcases mem_modifyFirst hmem with hmem | ⟨_, _, rfl⟩
    · exact .inl ⟨command, hmem, hrunning, rfl⟩
    · exact .inr ⟨current, hlease, by rw [htoken]; rfl⟩
  · change ((modifyFirst _ _ before.commands).map _).Nodup
    rw [map_modifyFirst (·.claimedUnder lease) SessionCommandRecord.commandId fun _ _ => rfl]
    exact hfenced.commandIds

/-- A step keeps the tokens of a session numbered, and its commands under one of them. -/
theorem step {now : Instant} {change : SessionChange}
    (hstep : SessionStep sessionKey now change before after) :
    Fenced sessionKey (effects.append change.effects) after := by
  have hsame : (effects.append {}).issued = effects.issued := by simp
  cases hstep with
  | unchanged => simpa [SessionChange.effects] using hfenced
  | claimed _ _ _ _ ttlMs hkey => exact hfenced.grant hkey now ttlMs
  | released =>
    exact hfenced.mono hsame rfl (by simp [SessionState.withStatus])
      (fun command hmem hrunning => .inl ⟨command, hmem, hrunning, rfl⟩) hfenced.commandIds
  | renewed _ current _ hlease | checkpointed _ current hlease =>
    refine hfenced.mono hsame rfl ?_
      (fun command hmem hrunning => .inl ⟨command, hmem, hrunning, rfl⟩) hfenced.commandIds
    intro lease hafter
    exact ⟨current, hlease, (Option.some.inj hafter) ▸ rfl⟩
  | recovered _ current maxAttempts =>
    simpa [SessionChange.effects] using hfenced.recovery current now maxAttempts
  | enqueued _ _ _ hfresh =>
    refine hfenced.mono hsame rfl (fun lease hlease => ⟨lease, hlease, rfl⟩) ?_ ?_
    · intro command hmem hrunning
      rcases List.mem_append.mp hmem with hmem | hmem
      · exact .inl ⟨command, hmem, hrunning, rfl⟩
      · rw [List.mem_singleton.mp hmem] at hrunning
        simp [SessionsDomain.newCommand] at hrunning
    · simp only [SessionsDomain.afterEnqueue, List.map_append, List.map_cons, List.map_nil]
      refine List.nodup_append.mpr ⟨hfenced.commandIds, List.nodup_singleton _, ?_⟩
      intro _ hid _ hnew heq
      obtain ⟨command, hmem, rfl⟩ := List.mem_map.mp hid
      exact hfresh command hmem (heq.trans (List.mem_singleton.mp hnew))
  | handed _ _ _ _ hlease _ htoken =>
    exact hfenced.handOut (by simp [SessionEffects.append, SessionChange.effects]) hlease htoken
  | settled _ _ commandId update hlease _ _ hupdate =>
    refine hfenced.updateCommand hsame commandId update hupdate.commandId ?_
      rfl rfl (fun lease hlease => ⟨lease, hlease, rfl⟩)
    intro command
    rcases hupdate.ended command with h | h <;> simp [h]
  | checkpointSettled _ current commandId update hlease _ _ hupdate =>
    refine hfenced.updateCommand hsame commandId update hupdate.commandId ?_ rfl rfl ?_
    · intro command
      rcases hupdate.ended command with h | h <;> simp [h]
    · intro lease hafter
      exact ⟨current, hlease, (Option.some.inj hafter) ▸ rfl⟩
  | deferred _ _ commandId availableAt errorCode errorSummary =>
    refine hfenced.updateCommand hsame commandId (·.deferred availableAt errorCode errorSummary)
      (fun _ => rfl) (fun _ => ?_) rfl rfl ?_
    · simp [SessionCommandRecord.deferred]
    · simp [SessionState.afterDeferral, SessionState.withStatus]

end Fenced

namespace SessionOperation

def presentedLease : SessionOperation → Option WorkerLeaseRecord
  | renewSessionLease lease _ => some lease
  | checkpointSession lease => some lease
  | claimNextSessionCommand lease => some lease
  | ackSessionCommand lease _ => some lease
  | checkpointAndAckSessionCommand lease _ => some lease
  | deferSessionCommand lease _ _ => some lease
  | failSessionCommand lease _ _ => some lease
  | _ => none

def surrenderedLease : SessionOperation → Option WorkerLeaseRecord
  | releaseSessionLease lease => some lease
  | recoverSessionLease lease _ => some lease
  | _ => none

def settledCommand : SessionOperation → Option (WorkerLeaseRecord × String)
  | ackSessionCommand lease commandId => some (lease, commandId)
  | checkpointAndAckSessionCommand lease commandId => some (lease, commandId)
  | deferSessionCommand lease commandId _ => some (lease, commandId)
  | failSessionCommand lease commandId _ => some (lease, commandId)
  | _ => none

end SessionOperation

namespace SessionChange

/-- The token under which a change was made that needs a current lease. -/
def presentedToken : SessionChange → Option String
  | renewed token => some token
  | checkpointed token _ => some token
  | handed token _ => some token
  | settled token => some token
  | checkpointSettled token _ => some token
  | deferred token => some token
  | _ => none

/-- The token of a lease that was given up. -/
def surrenderedToken : SessionChange → Option String
  | released token => some token
  | recovered token _ => some token
  | _ => none

end SessionChange

theorem SessionOperation.Causes.presented (hcauses : operation.Causes change)
    (hlease : operation.presentedLease = some lease) :
    change = .unchanged ∨ change.presentedToken = some lease.leaseToken := by
  cases hcauses with
  | nothing => exact .inl rfl
  | _ => simp_all [SessionOperation.presentedLease, SessionChange.presentedToken]

theorem SessionOperation.Causes.surrendered (hcauses : operation.Causes change)
    (hlease : operation.surrenderedLease = some lease) :
    change = .unchanged ∨ change.surrenderedToken = some lease.leaseToken := by
  cases hcauses with
  | nothing => exact .inl rfl
  | _ => simp_all [SessionOperation.surrenderedLease, SessionChange.surrenderedToken]

variable (hstep : SessionStep sessionKey now change before after)
include hstep

theorem SessionStep.presented (htoken : change.presentedToken = some token) :
    ∃ lease, before.lease = some lease ∧ lease.leaseToken = token ∧
      now < lease.leaseExpiresAt := by
  cases hstep with
  | renewed _ current _ hlease hlive | handed _ current _ _ hlease hlive
  | settled _ current _ _ hlease hlive | checkpointSettled _ current _ _ hlease hlive
  | deferred _ current _ _ _ _ hlease hlive =>
    exact ⟨current, hlease, Option.some.inj htoken, hlive⟩
  | checkpointed _ current hlease hlive => exact ⟨current, hlease, Option.some.inj htoken, hlive⟩
  | _ => simp [SessionChange.presentedToken] at htoken

theorem SessionStep.surrendered (htoken : change.surrenderedToken = some token) :
    ∃ lease, before.lease = some lease ∧ lease.leaseToken = token := by
  cases hstep with
  | released _ current hlease | recovered _ current _ hlease =>
    exact ⟨current, hlease, Option.some.inj htoken⟩
  | _ => simp [SessionChange.surrenderedToken] at htoken

omit hstep

def leaseAndCommands {σ : Type} (domain : SessionsDomain σ) (sessionKey : String) :
    Option (Option WorkerLeaseRecord × List SessionCommandRecord) :=
  (domain.sessions.get sessionKey).map fun session => (session.lease, session.commands)

structure LeaseFencing {σ : Type} (history : List (SessionMoment σ)) (store : SessionsDomain σ) :
    Prop where
  /-- No token is issued twice for a session. -/
  distinct : ∀ sessionKey, (ledger sessionKey history).issued.Nodup
  /-- At any instant at most one of the tokens issued for a session is current
  and unexpired, and it is the one issued last. -/
  exclusive : ∀ sessionKey now, ∀ token ∈ (ledger sessionKey history).issued,
    ∀ other ∈ (ledger sessionKey history).issued,
    CurrentAt store sessionKey token now → CurrentAt store sessionKey other now →
      token = other ∧ (ledger sessionKey history).issued.getLast? = some token
  /-- Work under a presented lease changes a lease or a command only in the session
  of that lease and only while its token is current and unexpired. -/
  fenced : ∀ moment ∈ history, ∀ lease, moment.input.operation.presentedLease = some lease →
    ∀ sessionKey, leaseAndCommands moment.after sessionKey ≠
        leaseAndCommands moment.before sessionKey →
      sessionKey = key lease.tenantId lease.sessionId ∧
        CurrentAt moment.before sessionKey lease.leaseToken moment.input.now
  /-- A release or recovery takes effect only for the current token. -/
  surrendered : ∀ moment ∈ history, ∀ lease,
    moment.input.operation.surrenderedLease = some lease →
    ∀ sessionKey, leaseAndCommands moment.after sessionKey ≠
        leaseAndCommands moment.before sessionKey →
      sessionKey = key lease.tenantId lease.sessionId ∧
        ∃ session current, moment.before.sessions.get sessionKey = some session ∧
          session.lease = some current ∧ current.leaseToken = lease.leaseToken
  /-- A running command carries a token issued for its session. -/
  running : ∀ sessionKey session, store.sessions.get sessionKey = some session →
    ∀ command ∈ session.commands, command.status = .running →
      ∃ token ∈ (ledger sessionKey history).issued, command.claimedLeaseToken = some token
  /-- A running command is settled only by the holder of its token. -/
  settled : ∀ moment ∈ history, ∀ lease commandId,
    moment.input.operation.settledCommand = some (lease, commandId) →
    (∀ error, moment.output ≠ .thrown error) →
    ∀ session, moment.before.sessions.get (key lease.tenantId lease.sessionId) = some session →
    ∀ command ∈ session.commands, command.commandId = commandId → command.status = .running →
      command.claimedLeaseToken = some lease.leaseToken

namespace SessionState

def SettleableBy (session : SessionState) (commandId token : String) : Prop :=
  ∃ command, session.commands.find? (fun entry => decide (entry.commandId = commandId)) =
      some command ∧
    (command.status = .acked ∨
      command.status = .running ∧ command.claimedLeaseToken = some token)

variable {session next : SessionState} {lease : WorkerLeaseRecord} {commandId : String}
  {dateNow now : Instant} {command : SessionCommandRecord}

theorem settleable_or_refused (session : SessionState) (lease : WorkerLeaseRecord)
    (commandId : String) : session.SettleableBy commandId lease.leaseToken ∨
      (∃ thrown, session.requireCommand commandId = .error thrown) ∨
      ∃ found thrown, session.requireCommand commandId = .ok found ∧ found.status ≠ .acked ∧
        assertOwned found lease = .error thrown := by
  cases hcommand : session.requireCommand commandId with
  | error thrown => exact .inr (.inl ⟨thrown, rfl⟩)
  | ok found =>
    have hfind := requireCommand_eq_ok.mp hcommand
    by_cases hacked : found.status = .acked
    · exact .inl ⟨found, hfind, .inl hacked⟩
    · cases howned : assertOwned found lease with
      | error thrown => exact .inr (.inr ⟨found, thrown, rfl, hacked, howned⟩)
      | ok => exact .inl ⟨found, hfind, .inr (assertOwned_eq_ok.mp howned)⟩

theorem ackSessionCommand_settleable
    (h : session.ackSessionCommand lease commandId dateNow now = (.ok command, next)) :
    session.SettleableBy commandId lease.leaseToken := by
  unfold ackSessionCommand at h
  rcases session.settleable_or_refused lease commandId with
    hsettleable | ⟨_, hcommand⟩ | ⟨_, _, hcommand, hacked, howned⟩
  · exact hsettleable
  · split at h <;> simp [hcommand] at h
  · split at h <;> simp [hcommand, hacked, howned] at h

theorem checkpointAndAckSessionCommand_settleable {result : CheckpointAndAckSessionCommandResult}
    (h : session.checkpointAndAckSessionCommand lease commandId dateNow now =
      (.ok result, next)) :
    session.SettleableBy commandId lease.leaseToken := by
  unfold checkpointAndAckSessionCommand at h
  rcases session.settleable_or_refused lease commandId with
    hsettleable | ⟨_, hcommand⟩ | ⟨_, _, hcommand, hacked, howned⟩
  · exact hsettleable
  · split at h <;> simp [hcommand] at h
  · split at h <;> simp [hcommand, hacked, howned] at h

theorem failSessionCommand_settleable {env : Environment} {error : String}
    (h : session.failSessionCommand env lease commandId error dateNow = (.ok command, next)) :
    session.SettleableBy commandId lease.leaseToken := by
  unfold failSessionCommand at h
  rcases session.settleable_or_refused lease commandId with
    hsettleable | ⟨_, hcommand⟩ | ⟨_, _, hcommand, _, howned⟩
  · exact hsettleable
  · split at h <;> simp [hcommand] at h
  · split at h <;> simp [hcommand, howned] at h

end SessionState

namespace SessionsDomain

variable {σ : Type} (env : Environment) (host : SessionsHost σ) (domain : SessionsDomain σ)
  (request : SessionRequest) {lease : WorkerLeaseRecord} {commandId : String}

theorem withSession_not_thrown {α : Type} {wrap : α → SessionAnswer} {tenantId sessionId : String}
    {run : SessionState → Outcome SessionState α}
    (h : ∀ error, (answer wrap (domain.withSession host tenantId sessionId run)).1 ≠
      .thrown error) :
    ∃ session value, domain.sessions.get (key tenantId sessionId) = some session ∧
      run session = (.ok value, (run session).2) := by
  unfold withSession at h
  cases hsession : domain.requireSession host tenantId sessionId with
  | error thrown => exact absurd (by simp [hsession, answer, reply]) (h thrown)
  | ok session =>
    simp only [hsession, answer] at h
    cases hresult : (run session).1 with
    | error thrown => exact absurd (by simp [hresult, reply]) (h thrown)
    | ok value =>
      exact ⟨session, value, domain.requireSession_eq_ok host hsession, Prod.ext hresult rfl⟩

theorem deferSessionCommand_settleable {input : DeferSessionCommandInput} {now : Instant}
    (h : ∀ error, (answer .command
      (domain.deferSessionCommand env host lease commandId input now)).1 ≠ .thrown error) :
    ∃ session, domain.sessions.get (key lease.tenantId lease.sessionId) = some session ∧
      session.SettleableBy commandId lease.leaseToken := by
  unfold deferSessionCommand at h
  cases hdelay : input.retryAfterMs.filter (fun delay => decide (0 < delay)) with
  | none => simp [hdelay, answer, reply] at h
  | some =>
  simp only [hdelay] at h
  cases hsession : domain.requireSession host lease.tenantId lease.sessionId with
  | error thrown => exact absurd (by simp [hsession, answer, reply]) (h thrown)
  | ok session =>
  simp only [hsession] at h
  cases hcommand : session.deferrable lease commandId now with
  | error thrown => exact absurd (by simp [hcommand, answer, reply]) (h thrown)
  | ok =>
  obtain ⟨_, _, _, _, found, hfind, howned⟩ := session.deferrable_eq_ok lease now hcommand
  exact ⟨session, domain.requireSession_eq_ok host hsession, found, hfind, .inr howned⟩

theorem settleable_of_not_thrown
    (hsettled : request.operation.settledCommand = some (lease, commandId))
    (h : ∀ error, (domain.perform env host request).1 ≠ .thrown error) :
    ∃ session, domain.sessions.get (key lease.tenantId lease.sessionId) = some session ∧
      session.SettleableBy commandId lease.leaseToken := by
  obtain ⟨_, operation⟩ := request
  cases operation with
  | ackSessionCommand =>
    obtain ⟨rfl, rfl⟩ := Prod.mk.inj (Option.some.inj hsettled)
    obtain ⟨session, value, hget, hrun⟩ := domain.withSession_not_thrown host h
    exact ⟨session, hget, SessionState.ackSessionCommand_settleable hrun⟩
  | checkpointAndAckSessionCommand =>
    obtain ⟨rfl, rfl⟩ := Prod.mk.inj (Option.some.inj hsettled)
    obtain ⟨session, value, hget, hrun⟩ := domain.withSession_not_thrown host h
    exact ⟨session, hget, SessionState.checkpointAndAckSessionCommand_settleable hrun⟩
  | deferSessionCommand =>
    obtain ⟨rfl, rfl⟩ := Prod.mk.inj (Option.some.inj hsettled)
    exact domain.deferSessionCommand_settleable env host h
  | failSessionCommand =>
    obtain ⟨rfl, rfl⟩ := Prod.mk.inj (Option.some.inj hsettled)
    obtain ⟨session, _, hget, hrun⟩ := domain.withSession_not_thrown host h
    exact ⟨session, hget, SessionState.failSessionCommand_settleable hrun⟩
  | _ => simp [SessionOperation.settledCommand] at hsettled

theorem change_of_ne (sessionKey : String)
    (hoperation : ∀ input, request.operation ≠ .createSession input)
    (hchanged : leaseAndCommands (domain.perform env host request).2 sessionKey ≠
      leaseAndCommands domain sessionKey) :
    ∃ change before after, domain.sessions.get sessionKey = some before ∧
      SessionStep sessionKey request.now change before after ∧
      request.operation.Causes change ∧ change ≠ .unchanged ∧
      ∀ other ∈ request.operation.sessionKey, other = sessionKey := by
  have hexplained := domain.perform_explained env host request sessionKey
  unfold leaseAndCommands at hchanged
  generalize domain.sessions.get sessionKey = before at hexplained hchanged ⊢
  generalize (domain.perform env host request).2.sessions.get sessionKey = after
    at hexplained hchanged
  cases hexplained with
  | absent => exact absurd rfl hchanged
  | created input _ hcreate => exact absurd hcreate (hoperation input)
  | changed change before after hstep hcauses _ haddressed =>
    have hne : change ≠ .unchanged := by
      rintro rfl
      cases hstep
      exact hchanged rfl
    exact ⟨change, before, after, rfl, hstep, hcauses, hne, haddressed.resolve_left hne⟩

theorem fenced_of_ne (hlease : request.operation.presentedLease = some lease) (sessionKey : String)
    (hchanged : leaseAndCommands (domain.perform env host request).2 sessionKey ≠
      leaseAndCommands domain sessionKey) :
    sessionKey = key lease.tenantId lease.sessionId ∧
      CurrentAt domain sessionKey lease.leaseToken request.now := by
  have hoperation : (∀ input, request.operation ≠ .createSession input) ∧
      request.operation.sessionKey = some (key lease.tenantId lease.sessionId) := by
    cases h : request.operation <;>
      simp_all [SessionOperation.presentedLease, SessionOperation.sessionKey]
  obtain ⟨_, before, _, hbefore, hstep, hcauses, hne, haddressed⟩ :=
    domain.change_of_ne env host request sessionKey hoperation.1 hchanged
  obtain ⟨current, hcurrent, htoken, hlive⟩ :=
    hstep.presented ((hcauses.presented hlease).resolve_left hne)
  exact ⟨(haddressed _ hoperation.2).symm, before, current, hbefore, hcurrent, htoken, hlive⟩

theorem surrendered_of_ne
    (hlease : request.operation.surrenderedLease = some lease) (sessionKey : String)
    (hchanged : leaseAndCommands (domain.perform env host request).2 sessionKey ≠
      leaseAndCommands domain sessionKey) :
    sessionKey = key lease.tenantId lease.sessionId ∧
      ∃ session current, domain.sessions.get sessionKey = some session ∧
        session.lease = some current ∧ current.leaseToken = lease.leaseToken := by
  have hoperation : (∀ input, request.operation ≠ .createSession input) ∧
      request.operation.sessionKey = some (key lease.tenantId lease.sessionId) := by
    cases h : request.operation <;>
      simp_all [SessionOperation.surrenderedLease, SessionOperation.sessionKey]
  obtain ⟨_, before, _, hbefore, hstep, hcauses, hne, haddressed⟩ :=
    domain.change_of_ne env host request sessionKey hoperation.1 hchanged
  obtain ⟨current, hcurrent, htoken⟩ :=
    hstep.surrendered ((hcauses.surrendered hlease).resolve_left hne)
  exact ⟨(haddressed _ hoperation.2).symm, before, current, hbefore, hcurrent, htoken⟩

theorem run_fenced (sessionKey : String) (neighbours : σ) (requests : List SessionRequest) :
    LedgerHolds (Fenced sessionKey)
      (ledger sessionKey ((machine env host).history (initial neighbours) requests))
      (((machine env host).run (initial neighbours) requests).sessions.get sessionKey) :=
  ledger_invariant env host sessionKey (Fenced sessionKey) Fenced.new
    (fun _ _ _ _ _ hfenced hstep => hfenced.step hstep) neighbours requests

/-- Every run of session operations, by any workers with any lease records and
under any clock, keeps the guarantees of the lease fence. -/
theorem run_leaseFencing (neighbours : σ) (requests : List SessionRequest) :
    LeaseFencing ((machine env host).history (initial neighbours) requests)
      ((machine env host).run (initial neighbours) requests) where
  distinct := by
    intro sessionKey
    have hfenced := run_fenced env host sessionKey neighbours requests
    unfold LedgerHolds at hfenced
    split at hfenced
    · rw [hfenced]
      exact List.nodup_nil
    · exact hfenced.distinct
  exclusive := by
    rintro sessionKey now token - other - ⟨session, lease, hsession, hlease, rfl, -⟩
      ⟨session', lease', hsession', hlease', rfl, -⟩
    obtain rfl := Option.mem_unique hsession hsession'
    obtain rfl := Option.mem_unique hlease hlease'
    have hfenced := run_fenced env host sessionKey neighbours requests
    rw [hsession] at hfenced
    exact ⟨rfl, hfenced.latest lease hlease⟩
  fenced := by
    intro moment hmoment lease hlease sessionKey hchanged
    obtain ⟨first, request, rest, rfl, rfl⟩ := Machine.exists_prefix_of_mem_history _ _ _ _ hmoment
    exact fenced_of_ne env host _ request hlease sessionKey hchanged
  surrendered := by
    intro moment hmoment lease hlease sessionKey hchanged
    obtain ⟨first, request, rest, rfl, rfl⟩ := Machine.exists_prefix_of_mem_history _ _ _ _ hmoment
    exact surrendered_of_ne env host _ request hlease sessionKey hchanged
  running := by
    intro sessionKey session hsession
    have hfenced := run_fenced env host sessionKey neighbours requests
    rw [hsession] at hfenced
    exact hfenced.running
  settled := by
    intro moment hmoment lease commandId hsettled hanswer session hsession command hmem hid hrunning
    obtain ⟨first, request, _, rfl, rfl⟩ := Machine.exists_prefix_of_mem_history _ _ _ _ hmoment
    obtain ⟨_, hsession', found, hfind, hfound⟩ :=
      settleable_of_not_thrown env host _ request hsettled hanswer
    obtain rfl := Option.mem_unique hsession hsession'
    have hfenced := run_fenced env host (key lease.tenantId lease.sessionId) neighbours first
    change SessionState at session
    have hbefore : ((machine env host).run (initial neighbours) first).sessions.get
        (key lease.tenantId lease.sessionId) = some session := hsession
    rw [hbefore] at hfenced
    -- Ids are distinct within a session, so the command found by id is this one.
    have hsame := find?_key_of_mem hfenced.commandIds hmem
    rw [hid, hfind] at hsame
    obtain rfl := Option.some.inj hsame
    rcases hfound with hacked | ⟨_, hclaimed⟩
    · rw [hrunning] at hacked
      exact absurd hacked (by decide)
    · exact hclaimed

end SessionsDomain

end OpenCowork.ControlPlane
