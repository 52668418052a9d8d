import OpenCowork.ControlPlane.Neighbours
import OpenCowork.ControlPlane.Sessions.Ledger

/-! # Command attempts

A command's attempts are counted when it is handed out, and the limit is applied
when the lease it runs under is recovered. A lease can also be lost without a
recovery: a later claim replaces it once it expired, or its holder releases it.
The limit is kept exactly as long as no such loss strands a command that has
used up its attempts.
-/

namespace OpenCowork.ControlPlane

open Foundation

namespace SessionState

variable (session : SessionState)

/-- No command that runs under the lease has used up its attempts. -/
def noneExhausted (lease : WorkerLeaseRecord) (limit : Int) : Bool :=
  session.commands.all fun command => !(command.strandedBy lease && command.exhausted limit)

/-- The same for the session's current lease, if it has one. -/
def lostSafely (limit : Int) : Bool :=
  match session.lease with
  | none => true
  | some lease => session.noneExhausted lease limit

/-- Running, but not under the current lease. -/
def Orphaned (command : SessionCommandRecord) : Prop :=
  command.status = .running ∧ ∀ lease, session.lease = some lease →
    command.strandedBy lease = false

end SessionState

def attemptScope (maxCommandAttempts : Option ℚ) : SessionOperation → Bool
  | .deferSessionCommand _ _ _ => false
  | .reapExpiredSessionLeases maxAttempts _ => decide (maxAttempts = maxCommandAttempts)
  | .recoverSessionLease _ maxAttempts => decide (maxAttempts = maxCommandAttempts)
  | _ => true

/-- A claim that takes over an expired lease, and a release, lose that lease
without recovery. They are safe when no command under it is exhausted. -/
def losesLeaseSafely {σ : Type} (host : SessionsHost σ) (maxCommandAttempts : Option ℚ)
    (domain : SessionsDomain σ) (request : SessionRequest) : Bool :=
  match request.operation with
  | .claimSessionLease tenantId sessionId _ _ quota =>
    match domain.requireSession host tenantId sessionId with
    | .error _ => true
    | .ok session =>
      if session.leaseFree request.now &&
          domain.workerQuotaAllows host tenantId request.now quota then
        session.lostSafely (attemptLimit maxCommandAttempts)
      else true
  | .releaseSessionLease lease =>
    match domain.requireSession host lease.tenantId lease.sessionId with
    | .error _ => true
    | .ok session =>
      match session.lease with
      | none => true
      | some current =>
        current.leaseToken != lease.leaseToken ||
          session.noneExhausted current (attemptLimit maxCommandAttempts)
  | _ => true

/-- What holds between the commands handed out from a session and its queue. -/
structure AttemptsBounded (limit : Int) (effects : SessionEffects) (session : SessionState) :
    Prop where
  handed : ∀ commandId, (effects.handed.count commandId : Int) ≤ limit
  counted : ∀ command ∈ session.commands, command.status = .pending ∨ command.status = .running →
    effects.handed.count command.commandId = command.attemptCount
  unknown : ∀ commandId, (∀ command ∈ session.commands, command.commandId ≠ commandId) →
    effects.handed.count commandId = 0
  retriable : ∀ command ∈ session.commands,
    command.status = .pending ∨ session.Orphaned command → (command.attemptCount : Int) < limit
  commandIds : (session.commands.map SessionCommandRecord.commandId).Nodup

theorem attemptLimit_pos (maxCommandAttempts : Option ℚ) : 0 < attemptLimit maxCommandAttempts := by
  unfold attemptLimit
  omega

namespace AttemptsBounded

variable {limit : Int} {effects : SessionEffects} {before after : SessionState}
  {next : SessionEffects} {lease current : WorkerLeaseRecord}

theorem new (hlimit : 0 < limit) (input : CreateSessionInput) (createdAt : Instant) :
    AttemptsBounded limit {} (SessionsDomain.newSession input createdAt) where
  handed := by
    intro _
    simpa using Int.le_of_lt hlimit
  counted := by simp [SessionsDomain.newSession]
  unknown := by simp
  retriable := by simp [SessionsDomain.newSession]
  commandIds := List.nodup_nil

variable (hbounded : AttemptsBounded limit effects before)
include hbounded

theorem replaceLease
    (hhanded : next.handed = effects.handed) (hcommands : after.commands = before.commands)
    (hsafe : ∀ lease, before.lease = some lease → before.noneExhausted lease limit = true) :
    AttemptsBounded limit next after where
  handed := hhanded ▸ hbounded.handed
  counted := by
    rw [hcommands, hhanded]
    exact hbounded.counted
  unknown := by
    rw [hcommands, hhanded]
    exact hbounded.unknown
  retriable := by
    intro command hmem hopen
    rw [hcommands] at hmem
    by_cases horphan : command.status = .pending ∨ before.Orphaned command
    · exact hbounded.retriable command hmem horphan
    · -- Running under the lease that was lost: the guard speaks about it.
      push Not at horphan
      have hrunning : command.status = .running :=
        hopen.elim (fun h => absurd h horphan.1) (fun h => h.1)
      have hstranded : ∃ lease, before.lease = some lease ∧ command.strandedBy lease = true := by
        by_contra hnone
        push Not at hnone
        refine horphan.2 ⟨hrunning, fun lease hlease => ?_⟩
        simpa using hnone lease hlease
      obtain ⟨lease, hlease, hstrand⟩ := hstranded
      have hall := hsafe lease hlease
      rw [SessionState.noneExhausted, List.all_eq_true] at hall
      have := hall command hmem
      simpa [hstrand, SessionCommandRecord.exhausted] using this
  commandIds := hcommands ▸ hbounded.commandIds

theorem keepToken
    (hhanded : next.handed = effects.handed) (hcommands : after.commands = before.commands)
    (hbefore : before.lease = some current)
    (hafter : after.lease = some lease) (htoken : lease.leaseToken = current.leaseToken) :
    AttemptsBounded limit next after where
  handed := hhanded ▸ hbounded.handed
  counted := by
    rw [hcommands, hhanded]
    exact hbounded.counted
  unknown := by
    rw [hcommands, hhanded]
    exact hbounded.unknown
  retriable := by
    intro command hmem hopen
    rw [hcommands] at hmem
    refine hbounded.retriable command hmem (hopen.imp id fun horphan => ⟨horphan.1, ?_⟩)
    intro _ hheld
    obtain rfl := Option.mem_unique hbefore hheld
    have := horphan.2 lease hafter
    rwa [SessionCommandRecord.strandedBy, htoken] at this
  commandIds := hcommands ▸ hbounded.commandIds

theorem recovery (hlease : before.lease = some lease) (now : Instant) :
    AttemptsBounded limit effects (before.afterRecovery lease now limit) := by
  have hid (command : SessionCommandRecord) : (if command.strandedBy lease then
      command.recovered now limit else command).commandId = command.commandId := by
    split
    · unfold SessionCommandRecord.recovered
      split <;> rfl
    · rfl
  have hcount (command : SessionCommandRecord) : (if command.strandedBy lease then
      command.recovered now limit else command).attemptCount = command.attemptCount := by
    split
    · unfold SessionCommandRecord.recovered
      split <;> rfl
    · rfl
  constructor
  · exact hbounded.handed
  · intro command hmem hopen
    obtain ⟨old, hold, rfl⟩ := List.mem_map.mp hmem
    rw [hid, hcount]
    apply hbounded.counted old hold
    split at hopen
    next hstranded =>
      simp only [SessionCommandRecord.strandedBy, Bool.and_eq_true, beq_iff_eq] at hstranded
      exact .inr hstranded.1
    · exact hopen
  · intro _ hnone
    apply hbounded.unknown
    intro command hmem
    rw [← hid command]
    exact hnone _ (List.mem_map_of_mem (f := fun command : SessionCommandRecord =>
      if command.strandedBy lease then command.recovered now limit else command) hmem)
  · intro command hmem hopen
    obtain ⟨old, hold, rfl⟩ := List.mem_map.mp hmem
    rw [hcount]
    cases hstranded : old.strandedBy lease with
    | false =>
      simp only [hstranded, Bool.false_eq_true, if_false] at hopen
      refine hbounded.retriable old hold (hopen.imp id fun horphan => ⟨horphan.1, ?_⟩)
      intro _ hheld
      obtain rfl := Option.mem_unique hlease hheld
      exact hstranded
    | true =>
      simp only [hstranded, if_true] at hopen
      by_contra hlimit
      have hexhausted : old.exhausted limit = true := by
        simpa [SessionCommandRecord.exhausted] using hlimit
      simp [SessionCommandRecord.recovered, hexhausted, SessionState.Orphaned] at hopen
  · change ((before.commands.map _).map SessionCommandRecord.commandId).Nodup
    rw [List.map_map]
    exact (List.map_congr_left fun command _ => hid command) ▸ hbounded.commandIds

theorem enqueue (hlimit : 0 < limit) (input : EnqueueCommandInput) (createdAt : Instant)
    (hfresh : ∀ command ∈ before.commands, command.commandId ≠ input.commandId) :
    AttemptsBounded limit effects (SessionsDomain.afterEnqueue before input createdAt) where
  handed := hbounded.handed
  counted := by
    intro command hmem hopen
    rcases List.mem_append.mp hmem with hmem | hmem
    · exact hbounded.counted command hmem hopen
    · rw [List.mem_singleton.mp hmem]
      exact hbounded.unknown input.commandId hfresh
  unknown := by
    intro commandId hnone
    exact hbounded.unknown commandId fun command hmem => hnone command (List.mem_append_left _ hmem)
  retriable := by
    intro command hmem hopen
    rcases List.mem_append.mp hmem with hmem | hmem
    · exact hbounded.retriable command hmem hopen
    · rw [List.mem_singleton.mp hmem]
      simpa [SessionsDomain.newCommand] using hlimit
  commandIds := by
    simp only [SessionsDomain.afterEnqueue, List.map_append, List.map_cons, List.map_nil]
    refine List.nodup_append.mpr ⟨hbounded.commandIds, List.nodup_singleton _, ?_⟩
    intro _ hid _ hnew heq
    obtain ⟨command, hmem, rfl⟩ := List.mem_map.mp hid
    exact hfresh command hmem (heq.trans (List.mem_singleton.mp hnew))

theorem handOut {command : SessionCommandRecord}
    (hlease : before.lease = some current) (htoken : current.leaseToken = lease.leaseToken)
    (hfound : before.commands.find? (·.claimable lease.leaseToken) = some command) :
    AttemptsBounded limit (effects.append { handed := [command.commandId] })
      { before with
        commands := modifyFirst (·.claimable lease.leaseToken) (·.claimedUnder lease)
          before.commands } := by
  have hmem := List.mem_of_find?_eq_some hfound
  have hclaimable := List.find?_some hfound
  simp only [SessionCommandRecord.claimable, Bool.or_eq_true, Bool.and_eq_true, beq_iff_eq,
    bne_iff_ne] at hclaimable
  have hopen : command.status = .pending ∨ command.status = .running :=
    hclaimable.imp (fun h => h.1) (fun h => h.1.1)
  have hspare : (command.attemptCount : Int) < limit := by
    refine hbounded.retriable command hmem (hclaimable.imp (fun h => h.1) fun h => ⟨h.1.1, ?_⟩)
    intro _ hheld
    obtain rfl := Option.mem_unique hlease hheld
    simp [SessionCommandRecord.strandedBy, htoken, h.1.2]
  have hcount (commandId : String) :
      (effects.append { handed := [command.commandId] }).handed.count commandId =
        effects.handed.count commandId + if command.commandId = commandId then 1 else 0 := by
    simp [SessionEffects.append, List.count_append, List.count_singleton]
  have hcases : ∀ entry ∈ modifyFirst (·.claimable lease.leaseToken) (·.claimedUnder lease)
      before.commands, entry = command.claimedUnder lease ∨
        (entry ∈ before.commands ∧ entry.commandId ≠ command.commandId) := fun entry hentry =>
    mem_modifyFirst_of_key (·.claimedUnder lease) SessionCommandRecord.commandId hfound
      hbounded.commandIds rfl hentry
  constructor
  · intro commandId
    rw [hcount]
    have hle := hbounded.handed commandId
    split
    next h =>
      subst h
      rw [hbounded.counted command hmem hopen]
      push_cast
      omega
    · simpa using hle
  · intro entry hentry hentryOpen
    rcases hcases entry hentry with rfl | ⟨hentry, hne⟩
    · rw [hcount]
      change effects.handed.count command.commandId +
        (if command.commandId = command.commandId then 1 else 0) = command.attemptCount + 1
      rw [if_pos rfl, hbounded.counted command hmem hopen]
    · rw [hcount, if_neg (Ne.symm hne), Nat.add_zero]
      exact hbounded.counted entry hentry hentryOpen
  · intro commandId hnone
    have hids : (modifyFirst (·.claimable lease.leaseToken) (·.claimedUnder lease)
        before.commands).map SessionCommandRecord.commandId =
          before.commands.map SessionCommandRecord.commandId :=
      map_modifyFirst (·.claimedUnder lease) SessionCommandRecord.commandId fun _ _ => rfl
    have hold : ∀ entry ∈ before.commands, entry.commandId ≠ commandId := by
      intro entry hentry heq
      have hin := List.mem_map_of_mem (f := SessionCommandRecord.commandId) hentry
      rw [← hids] at hin
      obtain ⟨found, hfoundMem, hfoundId⟩ := List.mem_map.mp hin
      exact hnone found hfoundMem (hfoundId.trans heq)
    rw [hcount, if_neg (hold command hmem), hbounded.unknown commandId hold]
  · intro entry hentry hentryOpen
    rcases hcases entry hentry with rfl | ⟨hentry, _⟩
    · rcases hentryOpen with hpending | horphan
      · simp [SessionCommandRecord.claimedUnder] at hpending
      · have := horphan.2 current hlease
        simp [SessionCommandRecord.strandedBy, SessionCommandRecord.claimedUnder, htoken] at this
    · exact hbounded.retriable entry hentry hentryOpen
  · change ((modifyFirst _ _ before.commands).map _).Nodup
    rw [map_modifyFirst (·.claimedUnder lease) SessionCommandRecord.commandId fun _ _ => rfl]
    exact hbounded.commandIds

theorem settle (hhanded : next.handed = effects.handed) {commandId : String}
    {update : SessionCommandRecord → SessionCommandRecord} (hupdate : Settles update)
    (hcommands : after.commands = (before.updateCommand commandId update).commands)
    (hlease : ∀ held, before.lease = some held →
      ∃ lease, after.lease = some lease ∧ lease.leaseToken = held.leaseToken) :
    AttemptsBounded limit next after := by
  have hids : after.commands.map SessionCommandRecord.commandId =
      before.commands.map SessionCommandRecord.commandId := by
    rw [hcommands]
    exact map_modifyFirst update SessionCommandRecord.commandId fun command _ =>
      hupdate.commandId command
  have hold : ∀ command ∈ after.commands, command.status = .pending ∨ command.status = .running →
      command ∈ before.commands := by
    intro command hmem hopen
    rw [hcommands] at hmem
    rcases mem_modifyFirst hmem with hmem | ⟨found, _, rfl⟩
    · exact hmem
    · rcases hupdate.ended found with h | h <;> simp [h] at hopen
  constructor
  · exact hhanded ▸ hbounded.handed
  · intro command hmem hopen
    rw [hhanded]
    exact hbounded.counted command (hold command hmem hopen) hopen
  · intro id hnone
    rw [hhanded]
    apply hbounded.unknown
    intro command hmem heq
    have hin := List.mem_map_of_mem (f := SessionCommandRecord.commandId) hmem
    rw [← hids] at hin
    obtain ⟨found, hfound, hfoundId⟩ := List.mem_map.mp hin
    exact hnone found hfound (hfoundId.trans heq)
  · intro command hmem hopen
    have hbefore := hold command hmem (hopen.imp id fun h => h.1)
    refine hbounded.retriable command hbefore (hopen.imp id fun horphan => ⟨horphan.1, ?_⟩)
    intro held hheld
    obtain ⟨lease, hafter, htoken⟩ := hlease held hheld
    have := horphan.2 lease hafter
    rwa [SessionCommandRecord.strandedBy, htoken] at this
  · rw [hids]
    exact hbounded.commandIds

end AttemptsBounded

namespace SessionsDomain

variable {σ : Type} (env : Environment) (host : SessionsHost σ) {domain : SessionsDomain σ}
  {before after : SessionState}

theorem claim_allowed {tenantId sessionId workerId : String}
    {now ttlMs : Int} {quota : Option WorkerQuota}
    (hbefore : domain.sessions.get (key tenantId sessionId) = some before)
    (hafter : (domain.claimSessionLease host tenantId sessionId workerId now ttlMs
      quota).2.sessions.get (key tenantId sessionId) = some after)
    (hattempt : after.nextLeaseAttempt = before.nextLeaseAttempt + 1) :
    domain.requireSession host tenantId sessionId = .ok before ∧
      (before.leaseFree now && domain.workerQuotaAllows host tenantId now quota) = true := by
  unfold claimSessionLease at hafter
  cases hsession : domain.requireSession host tenantId sessionId with
  | error =>
    simp only [hsession] at hafter
    obtain rfl := Option.mem_unique hbefore hafter
    omega
  | ok =>
    obtain rfl := Option.some.inj (hbefore.symm.trans (domain.requireSession_eq_ok host hsession))
    simp only [hsession] at hafter
    refine ⟨rfl, ?_⟩
    by_contra hrefused
    rw [if_neg hrefused] at hafter
    obtain rfl := Option.mem_unique hbefore hafter
    omega

/-- One step within the scope that loses no lease unsafely keeps the bound. -/
theorem attemptsBounded_step {maxCommandAttempts : Option ℚ} {sessionKey : String}
    {effects : SessionEffects} {request : SessionRequest} {change : SessionChange}
    (hbounded : AttemptsBounded (attemptLimit maxCommandAttempts) effects before)
    (hscope : attemptScope maxCommandAttempts request.operation = true)
    (hsafe : losesLeaseSafely host maxCommandAttempts domain request = true)
    (hbefore : domain.sessions.get sessionKey = some before)
    (hafter : (domain.perform env host request).2.sessions.get sessionKey = some after)
    (hcauses : request.operation.Causes change)
    (haddressed : change = .unchanged ∨
      ∀ other ∈ request.operation.sessionKey, other = sessionKey)
    (hstep : SessionStep sessionKey request.now change before after) :
    AttemptsBounded (attemptLimit maxCommandAttempts) (effects.append change.effects) after := by
  have hsame : (effects.append {}).handed = effects.handed := by simp
  obtain ⟨now, _⟩ := request
  cases hstep with
  | unchanged => simpa [SessionChange.effects] using hbounded
  | claimed _ tenantId sessionId workerId =>
    generalize hchange : SessionChange.claimed (leaseToken tenantId sessionId
      (before.nextLeaseAttempt + 1) workerId) = change at hcauses haddressed
    cases hcauses with
    | claim tenantId' sessionId' =>
      have haddress : key tenantId' sessionId' = sessionKey :=
        (haddressed.resolve_left (by simp)) _ rfl
      rw [← haddress] at hbefore hafter
      obtain ⟨hrequire, hallowed⟩ := claim_allowed host hbefore hafter rfl
      simp only [losesLeaseSafely, hrequire, hallowed, if_true] at hsafe
      refine hbounded.replaceLease (by simp [SessionEffects.append, SessionChange.effects]) rfl
        fun lease hlease => ?_
      simpa only [SessionState.lostSafely, hlease] using hsafe
    | _ => simp at hchange
  | released _ current hlease =>
    generalize hchange : SessionChange.released current.leaseToken = change at hcauses haddressed
    cases hcauses with
    | release lease =>
      have htoken : current.leaseToken = lease.leaseToken := by simpa using hchange
      have haddress : key lease.tenantId lease.sessionId = sessionKey :=
        (haddressed.resolve_left (by simp)) _ rfl
      rw [← haddress] at hbefore hafter
      refine hbounded.replaceLease hsame rfl fun held hheld => ?_
      obtain rfl := Option.mem_unique hlease hheld
      cases hrequire : domain.requireSession host lease.tenantId lease.sessionId with
      | error =>
        simp [perform, answer, releaseSessionLease, withSession, hrequire, hbefore] at hafter
        have := congrArg SessionState.lease hafter
        rw [hlease] at this
        simp [SessionState.withStatus] at this
      | ok =>
        obtain rfl := Option.some.inj
          (hbefore.symm.trans (domain.requireSession_eq_ok host hrequire))
        simpa [losesLeaseSafely, hrequire, hlease, htoken] using hsafe
    | _ => simp at hchange
  | renewed _ _ _ hlease | checkpointed _ _ hlease =>
    exact hbounded.keepToken hsame rfl hlease rfl rfl
  | recovered _ current maxAttempts hlease =>
    generalize hchange : SessionChange.recovered current.leaseToken maxAttempts = change at hcauses
    have hlimit : maxAttempts = attemptLimit maxCommandAttempts := by
      cases hcauses with
      | reap | recover =>
        simp only [attemptScope, decide_eq_true_eq] at hscope
        simp only [SessionChange.recovered.injEq] at hchange
        rw [hchange.2, hscope]
      | _ => simp at hchange
    subst hlimit
    simpa [← hchange, SessionChange.effects] using hbounded.recovery hlease now
  | enqueued _ input createdAt hfresh =>
    simpa [SessionChange.effects] using
      hbounded.enqueue (attemptLimit_pos maxCommandAttempts) input createdAt hfresh
  | handed _ _ _ _ hlease _ htoken hfound =>
    exact hbounded.handOut hlease htoken hfound
  | settled _ _ _ _ _ _ _ hupdate =>
    exact hbounded.settle hsame hupdate rfl fun held hheld => ⟨held, hheld, rfl⟩
  | checkpointSettled _ _ _ _ hlease _ _ hupdate =>
    refine hbounded.settle hsame hupdate rfl fun _ hheld => ?_
    obtain rfl := Option.mem_unique hlease hheld
    exact ⟨_, rfl, rfl⟩
  | deferred _ current =>
    generalize hchange : SessionChange.deferred current.leaseToken = change at hcauses
    cases hcauses with
    | defer => simp [attemptScope] at hscope
    | _ => simp at hchange

/-- In every run without deferrals and under one attempt limit, no command is
handed out more often than the limit, provided no lease is lost unsafely. -/
theorem run_attempts_bounded (maxCommandAttempts : Option ℚ) (neighbours : σ)
    (requests : List SessionRequest)
    (hscope : ∀ request ∈ requests, attemptScope maxCommandAttempts request.operation = true)
    (hsafe : ∀ moment ∈ (machine env host).history (initial neighbours) requests,
      losesLeaseSafely host maxCommandAttempts moment.before moment.input = true)
    (sessionKey commandId : String) :
    ((ledger sessionKey ((machine env host).history (initial neighbours)
      requests)).handed.count commandId : Int) ≤ attemptLimit maxCommandAttempts := by
  have hpositive := attemptLimit_pos maxCommandAttempts
  have hinputs : ∀ moment ∈ (machine env host).history (initial neighbours) requests,
      attemptScope maxCommandAttempts moment.input.operation = true := by
    intro moment hmoment
    obtain ⟨_, request, _, rfl, rfl⟩ := Machine.exists_prefix_of_mem_history _ _ _ _ hmoment
    exact hscope request (by simp)
  have hbounded := ledger_invariant_of env host sessionKey
    (fun moment => attemptScope maxCommandAttempts moment.input.operation = true ∧
      losesLeaseSafely host maxCommandAttempts moment.before moment.input = true)
    (AttemptsBounded (attemptLimit maxCommandAttempts)) (AttemptsBounded.new hpositive)
    (fun effects domain request change before after hbounded hguard hbefore hafter hcauses
        haddressed hstep =>
      attemptsBounded_step env host hbounded hguard.1 hguard.2 hbefore hafter hcauses haddressed
        hstep)
    neighbours requests fun moment hmoment => ⟨hinputs moment hmoment, hsafe moment hmoment⟩
  unfold LedgerHolds at hbounded
  split at hbounded
  · rw [hbounded]
    simpa using Int.le_of_lt hpositive
  · exact hbounded.handed commandId

/-- A worker dies with a command; the next claim replaces its expired lease and
the command is handed out again. -/
def takeoverRequests : List SessionRequest :=
  [⟨0, openSession "t" "u" "s"⟩,
    ⟨0, .claimSessionLease "t" "s" "w1" 10 none⟩,
    ⟨1, enqueuePrompt "t" "u" "s" "c"⟩,
    ⟨2, .claimNextSessionCommand (heldLease "t" "s" "w1" 1 10 0)⟩,
    ⟨20, .claimSessionLease "t" "s" "w2" 10 none⟩,
    ⟨21, .claimNextSessionCommand (heldLease "t" "s" "w2" 2 30 0)⟩]

/-- With one attempt allowed, the takeover hands the command out twice. -/
theorem takeover_exceeds_attempts :
    ¬ ∀ requests : List SessionRequest,
      (requests.map SessionRequest.now).Pairwise (· ≤ ·) →
      (∀ request ∈ requests, attemptScope (some 1) request.operation = true) →
      ∀ sessionKey commandId,
        ((ledger sessionKey ((machine plainEnvironment (Neighbours.host plainAudit)).history
          (initial (Neighbours.single "t" "u")) requests)).handed.count commandId : Int) ≤
            attemptLimit (some 1) := by
  intro h
  have hcount := h takeoverRequests (by decide) (by decide) (key "t" "s") "c"
  revert hcount
  decide +kernel

/-- The same command, recovered by the reaper before the next claim. -/
def reapedRequests : List SessionRequest :=
  [⟨0, openSession "t" "u" "s"⟩,
    ⟨0, .claimSessionLease "t" "s" "w1" 10 none⟩,
    ⟨1, enqueuePrompt "t" "u" "s" "c"⟩,
    ⟨2, .claimNextSessionCommand (heldLease "t" "s" "w1" 1 10 0)⟩,
    ⟨20, .reapExpiredSessionLeases (some 1) none⟩,
    ⟨20, .claimSessionLease "t" "s" "w2" 10 none⟩,
    ⟨21, .claimNextSessionCommand (heldLease "t" "s" "w2" 2 30 0)⟩]

theorem reaped_attempts_bounded :
    ((ledger (key "t" "s") ((machine plainEnvironment (Neighbours.host plainAudit)).history
      (initial (Neighbours.single "t" "u")) reapedRequests)).handed.count "c" : Int) ≤
        attemptLimit (some 1) :=
  run_attempts_bounded plainEnvironment (Neighbours.host plainAudit) (some 1)
    (Neighbours.single "t" "u") reapedRequests (by decide) (by decide +kernel) (key "t" "s") "c"

end SessionsDomain

end OpenCowork.ControlPlane
