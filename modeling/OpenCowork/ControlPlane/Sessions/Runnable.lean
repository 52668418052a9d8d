import OpenCowork.ControlPlane.Sessions.Enqueue
import OpenCowork.ControlPlane.Sessions.Fencing

/-! # Which sessions have work

The listing of runnable sessions and the claim of the next command look at the queue of a
session separately. In every state that a run reaches they agree: commands are queued in the
order of their sequences, and no command runs under a token that is still to be issued.
-/

namespace OpenCowork.ControlPlane

open Foundation

/-- A session with claimable work, and the sequence of the command that it is listed for. -/
structure RunnableCandidate where
  session : SessionState
  firstSequence : Nat
  deriving DecidableEq

namespace SessionState

/-- Pending or running, and meant for no lease in particular. -/
def runnableCommand (command : SessionCommandRecord) : Bool :=
  decide (command.targetLeaseToken = none) &&
    (decide (command.status = .pending) || decide (command.status = .running))

def firstRunnable (session : SessionState) : Option SessionCommandRecord :=
  (((session.commands.filter fun command => decide (command.targetLeaseToken = none)).filter
      fun command => decide (command.status = .pending) || decide (command.status = .running))
    |>.insertionSort fun left right => left.createdSequence ≤ right.createdSequence).head?

/-- The callback of `runnableSessionCandidates`. -/
def candidate (session : SessionState) (nowMs : Instant) : Option RunnableCandidate :=
  if session.leaseFree nowMs then
    match session.firstRunnable with
    | none => none
    | some runnable =>
      if delayed runnable nowMs then none else some ⟨session, runnable.createdSequence⟩
  else none

end SessionState

namespace SessionsDomain

variable {σ : Type} (env : Environment)

/-- By first sequence, then by tenant and session. -/
def listedBefore (left right : RunnableCandidate) : Bool :=
  if left.firstSequence ≠ right.firstSequence then
    decide (left.firstSequence < right.firstSequence)
  else
    match env.localeCompare left.session.record.tenantId right.session.record.tenantId with
    | .lt => true
    | .gt => false
    | .eq => env.localeCompare left.session.record.sessionId right.session.record.sessionId != .gt

def runnableSessionCandidates (domain : SessionsDomain σ) (nowMs : Instant) :
    List RunnableCandidate :=
  (domain.sessions.values.filterMap (·.candidate nowMs)).insertionSort
    fun left right => listedBefore env left right = true

end SessionsDomain

/-! ## The queue of a session -/

structure Queued (session : SessionState) : Prop where
  ordered : (session.commands.map SessionCommandRecord.createdSequence).Pairwise (· < ·)
  counted : ∀ sequence ∈ session.commands.map SessionCommandRecord.createdSequence,
    sequence ≤ session.nextCommandSequence

variable {session : SessionState}

theorem Numbered.queued (hnumbered : Numbered session) : Queued session := by
  unfold Numbered at hnumbered
  refine ⟨?_, ?_⟩
  · rw [hnumbered]
    exact List.pairwise_lt_range'
  · intro _ hsequence
    rw [hnumbered, List.mem_range'_1] at hsequence
    omega

namespace SessionState

variable {session : SessionState} {token : String} {now : Instant}

theorem firstRunnable_eq (hqueued : Queued session) :
    session.firstRunnable = session.commands.find? runnableCommand := by
  have hordered : session.commands.Pairwise fun left right =>
      left.createdSequence ≤ right.createdSequence :=
    (List.pairwise_map.mp hqueued.ordered).imp fun h => Nat.le_of_lt h
  rw [firstRunnable, List.filter_filter,
    List.Pairwise.insertionSort_eq (hordered.sublist List.filter_sublist), List.head?_filter]
  congr 1
  funext command
  rw [runnableCommand, Bool.and_comm]

structure Untouched (session : SessionState) (token : String) : Prop where
  running : ∀ command ∈ session.commands, command.status = .running →
    command.claimedLeaseToken ≠ some token
  targeted : ∀ command ∈ session.commands, command.targetLeaseToken ≠ some token

theorem claimable_iff (huntouched : session.Untouched token) {command : SessionCommandRecord}
    (hmem : command ∈ session.commands) : command.claimable token = runnableCommand command := by
  have htargeted : (command.targetLeaseToken == some token) = false :=
    beq_eq_false_iff_ne.mpr (huntouched.targeted command hmem)
  have hrunning := huntouched.running command hmem
  unfold SessionCommandRecord.claimable runnableCommand
  rw [htargeted]
  cases hstatus : command.status with
  | pending => cases command.targetLeaseToken <;> rfl
  | running =>
    rw [bne_iff_ne.mpr (hrunning hstatus)]
    cases command.targetLeaseToken <;> rfl
  | acked | failed => cases command.targetLeaseToken <;> rfl

theorem find?_claimable (huntouched : session.Untouched token) :
    session.commands.find? (·.claimable token) = session.commands.find? runnableCommand := by
  have hsame : ∀ commands : List SessionCommandRecord,
      (∀ command ∈ commands, command.claimable token = runnableCommand command) →
      commands.find? (·.claimable token) = commands.find? runnableCommand := by
    intro commands hcommands
    induction commands with
    | nil => rfl
    | cons _ _ ih =>
      rw [List.forall_mem_cons] at hcommands
      rw [List.find?_cons, List.find?_cons, hcommands.1, ih hcommands.2]
  exact hsame session.commands fun _ hmem => claimable_iff huntouched hmem

theorem claimNext_eq {lease : WorkerLeaseRecord} (hlease : session.lease = some lease)
    (hlive : now < lease.leaseExpiresAt) (huntouched : session.Untouched lease.leaseToken) :
    (session.claimNextSessionCommand lease now).1 =
      .ok (((session.commands.find? runnableCommand).filter fun command =>
        !delayed command now).map (·.claimedUnder lease)) := by
  have hcurrent : session.assertCurrentLease lease now = .ok lease :=
    assertCurrentLease_eq_ok.mpr ⟨hlease, rfl, hlive⟩
  rw [claimNextSessionCommand, hcurrent]
  rw [find?_claimable huntouched]
  cases session.commands.find? runnableCommand with
  | none => rfl
  | some command =>
    cases hdelayed : delayed command now with
    | true | false => simp [hdelayed]

theorem candidate_eq (hqueued : Queued session) (hfree : session.leaseFree now = true) :
    session.candidate now =
      ((session.commands.find? runnableCommand).filter fun command =>
        !delayed command now).map fun command => ⟨session, command.createdSequence⟩ := by
  rw [candidate, if_pos hfree, firstRunnable_eq hqueued]
  cases session.commands.find? runnableCommand with
  | none => rfl
  | some command =>
    cases hdelayed : delayed command now with
    | true | false => simp [hdelayed]

end SessionState

structure ListingAgrees (session : SessionState) (candidates : List RunnableCandidate)
    (answer : Except StoreError (Option SessionCommandRecord)) : Prop where
  listed_iff : (∃ firstSequence, ⟨session, firstSequence⟩ ∈ candidates) ↔
    ∃ command, answer = .ok (some command)
  ordered : ∀ firstSequence command, ⟨session, firstSequence⟩ ∈ candidates →
    answer = .ok (some command) → command.createdSequence = firstSequence

theorem ListingAgrees.of_hand {candidates : List RunnableCandidate}
    {answer : Except StoreError (Option SessionCommandRecord)} {hand : Option SessionCommandRecord}
    {update : SessionCommandRecord → SessionCommandRecord}
    (hlisted : ∀ firstSequence, ⟨session, firstSequence⟩ ∈ candidates ↔
      hand.map SessionCommandRecord.createdSequence = some firstSequence)
    (hanswer : answer = .ok (hand.map update))
    (hkeeps : ∀ command, (update command).createdSequence = command.createdSequence) :
    ListingAgrees session candidates answer := by
  subst hanswer
  constructor
  · simp only [hlisted]
    cases hand <;> simp
  · intro _ _ hcandidate hcommand
    rw [hlisted] at hcandidate
    cases hand with
    | none => simp at hcandidate
    | some =>
      rw [← Option.some.inj (Except.ok.inj hcommand), hkeeps]
      exact Option.some.inj hcandidate

namespace SessionsDomain

variable {σ : Type} (env : Environment) (host : SessionsHost σ) {domain : SessionsDomain σ}
  {sessionId tenantId sessionKey : String} {session : SessionState}

theorem candidate_session {nowMs : Instant} {candidate : RunnableCandidate}
    (h : session.candidate nowMs = some candidate) : candidate.session = session := by
  unfold SessionState.candidate at h
  split at h
  · split at h
    · simp at h
    · split at h
      · simp at h
      · rw [← Option.some.inj h]
  · simp at h

theorem mem_runnableSessionCandidates (hget : domain.sessions.get sessionKey = some session)
    (nowMs : Instant) (firstSequence : Nat) :
    ⟨session, firstSequence⟩ ∈ domain.runnableSessionCandidates env nowMs ↔
      session.candidate nowMs = some ⟨session, firstSequence⟩ := by
  rw [runnableSessionCandidates, List.mem_insertionSort, List.mem_filterMap]
  constructor
  · rintro ⟨found, -, hfound⟩
    obtain rfl : session = found := candidate_session hfound
    exact hfound
  · intro hcandidate
    exact ⟨session, (OrderedMap.mem_values_iff _ _).mpr ⟨sessionKey, hget⟩, hcandidate⟩

theorem claimSessionLease_eq_some {workerId : String} {now ttlMs : Int} {quota : Option WorkerQuota}
    {lease : WorkerLeaseRecord} {claimed : SessionsDomain σ}
    (hclaim : domain.claimSessionLease host tenantId sessionId workerId now ttlMs quota =
      (.ok (some lease), claimed)) :
    ∃ session, domain.requireSession host tenantId sessionId = .ok session ∧
      session.leaseFree now = true ∧
      lease = session.nextLease tenantId sessionId workerId now ttlMs ∧
      claimed = domain.putSession (key tenantId sessionId)
        (session.grantLease tenantId sessionId workerId now ttlMs) := by
  unfold claimSessionLease at hclaim
  split at hclaim
  · exact absurd (congrArg Prod.fst hclaim) (by simp)
  next session hsession =>
    split at hclaim
    next hfree =>
      rw [Bool.and_eq_true] at hfree
      have hlease := Option.some.inj (Except.ok.inj (congrArg Prod.fst hclaim))
      exact ⟨session, hsession, hfree.1, hlease.symm, (congrArg Prod.snd hclaim).symm⟩
    · exact absurd (Except.ok.inj (congrArg Prod.fst hclaim)) (by simp)

variable (hsession : domain.requireSession host tenantId sessionId = .ok session)
include hsession

theorem requireSession_putSession {next : SessionState} :
    (domain.putSession (key tenantId sessionId) next).requireSession host tenantId sessionId =
      .ok next := by
  unfold requireSession at hsession ⊢
  dsimp only [putSession]
  cases htenant : host.requireTenant domain.neighbours tenantId with
  | error =>
    rw [htenant] at hsession
    simp at hsession
  | ok => rw [OrderedMap.get_set_self]

theorem withSession_fst {α : Type} (operation : SessionState → Outcome SessionState α) :
    (domain.withSession host tenantId sessionId operation).1 = (operation session).1 := by
  rw [withSession, hsession]

omit hsession

theorem nextToken_untouched {effects : SessionEffects} (hfenced : Fenced sessionKey effects session)
    {workerId : String} (hkey : key tenantId sessionId = sessionKey) :
    ∀ command ∈ session.commands, command.status = .running → command.claimedLeaseToken ≠
      some (leaseToken tenantId sessionId (session.nextLeaseAttempt + 1) workerId) := by
  intro command hmem hrunning hclaimed
  obtain ⟨token, hissued, htoken⟩ := hfenced.running command hmem hrunning
  obtain ⟨_, _, _, _, hkey', _, rfl⟩ :=
    hfenced.numbered token hissued
  have ⟨hattempt, _⟩ := leaseToken_inj (hkey'.trans hkey.symm) (Option.mem_unique htoken hclaimed)
  omega

/-- In every state that a run reaches and at every time, a session is listed exactly if a
lease that is claimed for it then is handed a command, which is the one that the session is
listed for. -/
theorem run_listing_agrees (neighbours : σ) (requests : List SessionRequest)
    {tenantId sessionId workerId : String} {session : SessionState} {now ttlMs : Int}
    {quota : Option WorkerQuota} {lease : WorkerLeaseRecord} {claimed : SessionsDomain σ}
    (hget : ((machine env host).run (initial neighbours) requests).sessions.get
      (key tenantId sessionId) = some session)
    (hclaim : ((machine env host).run (initial neighbours) requests).claimSessionLease host
      tenantId sessionId workerId now ttlMs quota = (.ok (some lease), claimed))
    (hlive : now < lease.leaseExpiresAt)
    (huntargeted : ∀ command ∈ session.commands,
      command.targetLeaseToken ≠ some lease.leaseToken) :
    ListingAgrees session
      (((machine env host).run (initial neighbours) requests).runnableSessionCandidates env now)
      (claimed.claimNextSessionCommand host lease now).1 := by
  obtain ⟨_, hsession, hfree, rfl, rfl⟩ := claimSessionLease_eq_some host hclaim
  obtain rfl := Option.some.inj (hget.symm.trans (requireSession_eq_ok host _ hsession))
  have hqueued := (run_numbered env host neighbours requests hget).queued
  have hfenced := run_fenced env host (key tenantId sessionId) neighbours requests
  rw [hget] at hfenced
  have hhanded : ((session.grantLease tenantId sessionId workerId now
      ttlMs).claimNextSessionCommand (session.nextLease tenantId sessionId workerId now ttlMs)
        now).1 = .ok (((session.commands.find? SessionState.runnableCommand).filter fun command =>
          !SessionState.delayed command now).map
            (·.claimedUnder (session.nextLease tenantId sessionId workerId now ttlMs))) :=
    -- the claim leaves the queue as it was listed
    SessionState.claimNext_eq rfl hlive ⟨nextToken_untouched hfenced rfl, huntargeted⟩
  refine .of_hand ?_ ((withSession_fst host (requireSession_putSession host hsession)
    (·.claimNextSessionCommand _ now)).trans hhanded) fun _ => rfl
  intro firstSequence
  rw [mem_runnableSessionCandidates env hget, SessionState.candidate_eq hqueued hfree,
    Option.map_eq_some_iff, Option.map_eq_some_iff]
  simp

end SessionsDomain

/-- One session of tenant `t` with one prompt. -/
def promptedSession : SessionsDomain Neighbours :=
  (SessionsDomain.machine plainEnvironment (Neighbours.host plainAudit)).run
    (SessionsDomain.initial (Neighbours.single "t" "u"))
    [⟨0, openSession "t" "u" "s"⟩, ⟨0, enqueuePrompt "t" "u" "s" "c"⟩]

theorem prompted_session_listed : ∃ session claimed,
    promptedSession.sessions.get (key "t" "s") = some session ∧
      promptedSession.claimSessionLease (Neighbours.host plainAudit) "t" "s" "w" 5 10 none =
        (.ok (some (heldLease "t" "s" "w" 1 15 0)), claimed) ∧
      ListingAgrees session (promptedSession.runnableSessionCandidates plainEnvironment 5)
        (claimed.claimNextSessionCommand (Neighbours.host plainAudit)
          (heldLease "t" "s" "w" 1 15 0) 5).1 := by
  have hget : promptedSession.sessions.get (key "t" "s") = some _ := rfl
  have hclaim : promptedSession.claimSessionLease (Neighbours.host plainAudit) "t" "s" "w" 5 10
      none = (.ok (some (heldLease "t" "s" "w" 1 15 0)), _) := rfl
  exact ⟨_, _, hget, hclaim, SessionsDomain.run_listing_agrees plainEnvironment
    (Neighbours.host plainAudit) (Neighbours.single "t" "u")
    [⟨0, openSession "t" "u" "s"⟩, ⟨0, enqueuePrompt "t" "u" "s" "c"⟩] hget hclaim (by decide)
    (by decide +kernel)⟩

end OpenCowork.ControlPlane
