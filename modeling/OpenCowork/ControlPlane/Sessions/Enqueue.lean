import OpenCowork.ControlPlane.Sessions.HostFrames
import OpenCowork.ControlPlane.Sessions.Ledger

/-! # Enqueueing a command once

An enqueue replays the command that exists under its id, or passes every check and
quota and inserts a new one, or leaves everything as it was. That a replay finds the
right command rests on the whole run: ids are never used twice, in any session, and
what a command was enqueued as never changes.
-/

namespace OpenCowork.ControlPlane

open Foundation

/-- The commands of a session are numbered from one, in the order of the queue. -/
def Numbered (session : SessionState) : Prop :=
  session.commands.map SessionCommandRecord.createdSequence =
    List.range' 1 session.nextCommandSequence

namespace Numbered

variable {before after : SessionState}

theorem new (input : CreateSessionInput) (createdAt : Instant) :
    Numbered (SessionsDomain.newSession input createdAt) := rfl

variable (hnumbered : Numbered before)
include hnumbered

theorem enqueue (input : EnqueueCommandInput)
    (createdAt : Instant) : Numbered (SessionsDomain.afterEnqueue before input createdAt) := by
  unfold Numbered at hnumbered ⊢
  rw [SessionsDomain.afterEnqueue, List.map_append, hnumbered, List.range'_1_concat,
    Nat.add_comm 1 before.nextCommandSequence]
  rfl

theorem step {sessionKey : String} {now : Instant} {change : SessionChange}
    (hstep : SessionStep sessionKey now change before after) : Numbered after := by
  rcases hstep.commands_requests with ⟨_, input, createdAt, rfl⟩ | ⟨hrequests, hcounter⟩
  · exact hnumbered.enqueue input createdAt
  · have hsequences := congrArg (List.map CommandRequest.createdSequence) hrequests
    rw [List.map_map, List.map_map] at hsequences
    unfold Numbered at hnumbered ⊢
    rw [hcounter, ← hnumbered]
    exact hsequences

theorem counter_eq : before.nextCommandSequence = before.commands.length := by
  have hlength := congrArg List.length hnumbered
  rw [List.length_map, List.length_range'] at hlength
  exact hlength.symm

theorem sequence_le {command : SessionCommandRecord}
    (hmem : command ∈ before.commands) : command.createdSequence ≤ before.commands.length := by
  have hsequence := List.mem_map_of_mem (f := SessionCommandRecord.createdSequence) hmem
  rw [hnumbered, List.mem_range'_1] at hsequence
  rw [← hnumbered.counter_eq]
  omega

end Numbered

namespace SessionsDomain

section

variable {σ : Type} (env : Environment) (host : SessionsHost σ) (domain : SessionsDomain σ)

inductive EnqueueOutcome (input : EnqueueCommandInput) (now : Instant) :
    Outcome (SessionsDomain σ) SessionCommandRecord → Prop
  | refused (error : StoreError) : EnqueueOutcome input now (.error error, domain)
  | restored (error : StoreError) (spent : σ)
      (hnew : domain.findSessionCommandById input.commandId = none) :
      EnqueueOutcome input now (.error error, { domain with
        neighbours := host.restoreUsageQuotaCounters spent domain.neighbours })
  | replayed (existing : SessionCommandRecord)
      (hfound : domain.findSessionCommandById input.commandId = some existing)
      (hsame : sameCommand env existing input = true) :
      EnqueueOutcome input now (.ok existing, domain)
  | inserted (session : SessionState) (spent : σ)
      (huser : host.requireTenantUser domain.neighbours input.tenantId input.userId = .ok ())
      (hsession : domain.sessions.get (key input.tenantId input.sessionId) = some session)
      (hnew : domain.findSessionCommandById input.commandId = none)
      (hspent : consumeUsageQuotas host now input.usageQuotas domain.neighbours =
        (.ok (), spent)) :
      EnqueueOutcome input now
        (.ok (newCommand input (session.nextCommandSequence + 1) (input.createdAt.getD now)),
          { domain with neighbours := spent }.putSession (key input.tenantId input.sessionId)
            (afterEnqueue session input (input.createdAt.getD now)))

theorem enqueueSessionCommand_outcome (input : EnqueueCommandInput) (now : Instant) :
    EnqueueOutcome env host domain input now
      (domain.enqueueSessionCommand env host input now) := by
  unfold enqueueSessionCommand
  split
  · exact .refused _
  next huser =>
  split
  · exact .refused _
  next session hsession =>
  split
  next existing hexisting =>
    split
    next hsame => exact .replayed existing hexisting hsame
    · exact .refused _
  next hnew =>
  split
  · exact .refused _
  split
  · exact .restored _ _ hnew
  next spent hspent =>
    exact .inserted session spent huser (domain.requireSession_eq_ok host hsession) hnew hspent

def requestsAt (sessionKey : String) : List CommandRequest :=
  match domain.sessions.get sessionKey with
  | none => []
  | some session => session.commands.map SessionCommandRecord.request

variable {domain}
variable {sessionKey : String} {session : SessionState}

theorem requestsAt_of_get (hget : domain.sessions.get sessionKey = some session) :
    domain.requestsAt sessionKey = session.commands.map SessionCommandRecord.request := by
  rw [requestsAt, hget]

theorem perform_requestsAt {request : SessionRequest}
    (hother : ∀ input, request.operation ≠ .enqueueSessionCommand input) (sessionKey : String) :
    (domain.perform env host request).2.requestsAt sessionKey = domain.requestsAt sessionKey := by
  have hexplained := domain.perform_explained env host request sessionKey
  unfold requestsAt
  generalize domain.sessions.get sessionKey = before at hexplained
  generalize (domain.perform env host request).2.sessions.get sessionKey = after at hexplained
  cases hexplained with
  | absent | created => rfl
  | changed _ _ _ hstep hcauses =>
    rcases hstep.commands_requests with ⟨rfl, _⟩ | ⟨hrequests, _⟩
    · generalize request.operation = operation at hother hcauses
      cases hcauses with
      | enqueue input => exact absurd rfl (hother input)
    · exact hrequests

theorem run_numbered (neighbours : σ) (requests : List SessionRequest)
    (hget : ((machine env host).run (initial neighbours) requests).sessions.get sessionKey =
      some session) : Numbered session := by
  have hholds := ledger_invariant env host sessionKey (fun _ session => Numbered session)
    Numbered.new (fun _ _ _ _ _ hnumbered hstep => hnumbered.step hstep) neighbours requests
  rw [hget] at hholds
  exact hholds

theorem findSessionCommandById_mem {commandId : String} {command : SessionCommandRecord}
    (hfound : domain.findSessionCommandById commandId = some command) :
    command.commandId = commandId ∧ ∃ sessionKey session,
      domain.sessions.get sessionKey = some session ∧ command ∈ session.commands := by
  obtain ⟨session, hmem, hfind⟩ := List.exists_of_findSome?_eq_some hfound
  obtain ⟨sessionKey, hget⟩ := (domain.sessions.mem_values_iff session).mp hmem
  have htest := List.find?_some hfind
  exact ⟨by simpa using htest, sessionKey, session, hget, List.mem_of_find?_eq_some hfind⟩

end

end SessionsDomain

/-! ## Ids over a run -/

/-- What runs establish about the commands on file: each was admitted for the session that
holds it, and no id occurs twice. -/
structure Filed (first : Neighbours) (domain : SessionsDomain Neighbours) : Prop where
  identities : first.SameIdentities domain.neighbours
  addressed : ∀ sessionKey, ∀ request ∈ domain.requestsAt sessionKey,
    key request.tenantId request.sessionId = sessionKey
  admitted : ∀ sessionKey, ∀ request ∈ domain.requestsAt sessionKey,
    first.requireTenantUser request.tenantId request.userId = .ok ()
  distinct : ∀ sessionKey,
    ((domain.requestsAt sessionKey).map CommandRequest.commandId).Nodup
  unique : ∀ sessionKey other, ∀ request ∈ domain.requestsAt sessionKey,
    ∀ held ∈ domain.requestsAt other, request.commandId = held.commandId → sessionKey = other

namespace Neighbours.SameIdentities

variable {first state : Neighbours}

theorem requireTenantUser_eq (hsame : first.SameIdentities state) (tenantId userId : String) :
    state.requireTenantUser tenantId userId = first.requireTenantUser tenantId userId := by
  unfold requireTenantUser requireTenant
  rw [hsame.tenants, hsame.users]

end Neighbours.SameIdentities

namespace Filed

variable {first : Neighbours} {domain next : SessionsDomain Neighbours} {sessionKey : String}
  (hfiled : Filed first domain)
include hfiled

theorem of_requestsAt (hidentities : first.SameIdentities next.neighbours)
    (hrequests : ∀ sessionKey, next.requestsAt sessionKey = domain.requestsAt sessionKey) :
    Filed first next where
  identities := hidentities
  addressed := fun sessionKey => hrequests sessionKey ▸ hfiled.addressed sessionKey
  admitted := fun sessionKey => hrequests sessionKey ▸ hfiled.admitted sessionKey
  distinct := fun sessionKey => hrequests sessionKey ▸ hfiled.distinct sessionKey
  unique := fun sessionKey other =>
    hrequests sessionKey ▸ hrequests other ▸ hfiled.unique sessionKey other

theorem insert {request : CommandRequest} (hidentities : first.SameIdentities next.neighbours)
    (hhere : next.requestsAt sessionKey = domain.requestsAt sessionKey ++ [request])
    (hothers : ∀ other, sessionKey ≠ other → next.requestsAt other = domain.requestsAt other)
    (haddressed : key request.tenantId request.sessionId = sessionKey)
    (hadmitted : first.requireTenantUser request.tenantId request.userId = .ok ())
    (hfresh : ∀ other, ∀ held ∈ domain.requestsAt other, held.commandId ≠ request.commandId) :
    Filed first next := by
  have hmem (other : String) (held : CommandRequest) (hheld : held ∈ next.requestsAt other) :
      held ∈ domain.requestsAt other ∨ (other = sessionKey ∧ held = request) := by
    by_cases hkey : sessionKey = other
    · subst hkey
      rw [hhere, List.mem_append, List.mem_singleton] at hheld
      exact hheld.imp id fun h => ⟨rfl, h⟩
    · exact .inl (hothers other hkey ▸ hheld)
  constructor
  · exact hidentities
  · intro other held hheld
    rcases hmem other held hheld with hold | ⟨rfl, rfl⟩
    · exact hfiled.addressed other held hold
    · exact haddressed
  · intro other held hheld
    rcases hmem other held hheld with hold | ⟨rfl, rfl⟩
    · exact hfiled.admitted other held hold
    · exact hadmitted
  · intro other
    by_cases hkey : sessionKey = other
    · subst hkey
      rw [hhere, List.map_append, List.nodup_append]
      refine ⟨hfiled.distinct sessionKey, List.nodup_singleton _, ?_⟩
      intro _ hold _ hnew
      obtain ⟨held, hheld, rfl⟩ := List.mem_map.mp hold
      rw [List.map_singleton, List.mem_singleton] at hnew
      exact hnew ▸ hfresh sessionKey held hheld
    · rw [hothers other hkey]
      exact hfiled.distinct other
  · intro left right earlier hearlier later hlater heq
    rcases hmem left earlier hearlier with hold | ⟨rfl, rfl⟩
    · rcases hmem right later hlater with hlast | ⟨rfl, rfl⟩
      · exact hfiled.unique left right earlier hold later hlast heq
      · exact absurd heq (hfresh left earlier hold)
    · rcases hmem right later hlater with hlast | ⟨rfl, rfl⟩
      · exact absurd heq.symm (hfresh right later hlast)
      · rfl

theorem find {session : SessionState} {command found : SessionCommandRecord}
    (hget : domain.sessions.get sessionKey = some session) (hmem : command ∈ session.commands)
    (hfound : domain.findSessionCommandById command.commandId = some found) : found = command := by
  obtain ⟨hid, other, _, hholder, hin⟩ := domain.findSessionCommandById_mem hfound
  obtain rfl : other = sessionKey := by
    refine hfiled.unique other sessionKey found.request ?_ command.request ?_ hid
    · rw [domain.requestsAt_of_get hholder]
      exact List.mem_map_of_mem hin
    · rw [domain.requestsAt_of_get hget]
      exact List.mem_map_of_mem hmem
  obtain rfl := Option.mem_unique hget hholder
  have hdistinct := hfiled.distinct other
  rw [domain.requestsAt_of_get hget, List.map_map] at hdistinct
  exact List.inj_on_of_nodup_map hdistinct hin hmem hid

end Filed

namespace SessionsDomain

variable (env : Environment) (audit : AuditEnvironment) {domain : SessionsDomain Neighbours}

theorem requestsAt_enqueued {input : EnqueueCommandInput} {session : SessionState} (now : Instant)
    (spent : Neighbours) (sessionKey : String)
    (hget : domain.sessions.get (key input.tenantId input.sessionId) = some session) :
    (putSession { domain with neighbours := spent } (key input.tenantId input.sessionId)
        (afterEnqueue session input now)).requestsAt sessionKey =
      if key input.tenantId input.sessionId = sessionKey then
        domain.requestsAt sessionKey ++
          [(newCommand input (session.nextCommandSequence + 1) now).request]
      else domain.requestsAt sessionKey := by
  by_cases hkey : key input.tenantId input.sessionId = sessionKey
  · subst hkey
    rw [if_pos rfl, requestsAt_of_get hget, requestsAt_of_get (OrderedMap.get_set_self _ _ _),
      afterEnqueue, List.map_append, List.map_singleton]
  · rw [if_neg hkey, requestsAt, putSession, OrderedMap.get_set_of_ne _ _ hkey]
    rfl

theorem filed_enqueue {first : Neighbours} (hfiled : Filed first domain)
    (input : EnqueueCommandInput) (now : Instant) :
    Filed first (domain.enqueueSessionCommand env (Neighbours.host audit) input now).2 := by
  have hidentities := domain.enqueueSessionCommand_keeps env
    (Neighbours.host_keeps_identities audit first) input now hfiled.identities
  have houtcome := domain.enqueueSessionCommand_outcome env (Neighbours.host audit) input now
  generalize domain.enqueueSessionCommand env (Neighbours.host audit) input now = outcome
    at hidentities houtcome
  cases houtcome with
  | refused | replayed => exact hfiled
  | restored => exact hfiled.of_requestsAt hidentities fun _ => rfl
  | inserted _ spent huser hsession hnew =>
    have hrequests := fun sessionKey => requestsAt_enqueued
      (input.createdAt.getD now) spent sessionKey hsession
    refine hfiled.insert hidentities ((hrequests _).trans (if_pos rfl))
      (fun other hother => (hrequests other).trans (if_neg hother)) rfl ?_ ?_
    · rw [← hfiled.identities.requireTenantUser_eq]
      exact huser
    · intro other _ hheld
      unfold requestsAt at hheld
      split at hheld
      · simp at hheld
      next hholder =>
        obtain ⟨command, hcommand, rfl⟩ := List.mem_map.mp hheld
        exact domain.findSessionCommandById_eq_none hnew hholder command hcommand

theorem run_filed (neighbours : Neighbours) (requests : List SessionRequest) :
    Filed neighbours
      ((machine env (Neighbours.host audit)).run (initial neighbours) requests) := by
  apply Machine.run_invariant
  · intro domain request hfiled
    by_cases henqueue : ∃ input, request.operation = .enqueueSessionCommand input
    · obtain ⟨now, _⟩ := request
      obtain ⟨input, rfl⟩ := henqueue
      exact filed_enqueue env audit hfiled input now
    · push Not at henqueue
      exact hfiled.of_requestsAt (domain.perform_keeps env
        (Neighbours.host_keeps_identities audit neighbours) request hfiled.identities)
        (perform_requestsAt env (Neighbours.host audit) henqueue)
  · constructor
    · exact ⟨rfl, rfl, rfl, rfl⟩
    · exact nofun
    · exact nofun
    · exact fun _ => List.nodup_nil
    · exact nofun

end SessionsDomain

/-! ## The contract of an enqueue -/

/-- One new command stands at the end of its session's queue under the next number, every
quota was granted in turn, and nothing else was touched. -/
structure Inserts (domain : SessionsDomain Neighbours) (input : EnqueueCommandInput)
    (now : Instant) (command : SessionCommandRecord) (next : SessionsDomain Neighbours) : Prop where
  placed : ∃ session, domain.sessions.get (key input.tenantId input.sessionId) = some session ∧
    command = SessionsDomain.newCommand input (session.commands.length + 1)
      (input.createdAt.getD now) ∧
    (∀ held ∈ session.commands, held.createdSequence < command.createdSequence) ∧
    next.sessions = domain.sessions.set (key input.tenantId input.sessionId)
      { session with
        nextCommandSequence := session.commands.length + 1
        commands := session.commands ++ [command] }
  granted : Neighbours.Grants now input.usageQuotas domain.neighbours next.neighbours

/-- Commands and usage counters stay as they were. -/
structure Unaffected (domain next : SessionsDomain Neighbours) : Prop where
  sessions : next.sessions = domain.sessions
  usageCounters : next.neighbours.usageCounters = domain.neighbours.usageCounters

/-- What callers of an enqueue may rely on: a command that it answers with and that was not on file
is inserted. -/
structure EnqueueContract (env : Environment) (domain : SessionsDomain Neighbours)
    (input : EnqueueCommandInput) (now : Instant)
    (outcome : Outcome (SessionsDomain Neighbours) SessionCommandRecord) : Prop where
  atomic : (∃ command, outcome.1 = .ok command ∧ Inserts domain input now command outcome.2) ∨
    Unaffected domain outcome.2 ∧ ∀ command, outcome.1 = .ok command →
      domain.findSessionCommandById input.commandId = some command
  replayed : ∀ sessionKey session command, domain.sessions.get sessionKey = some session →
    command ∈ session.commands → command.commandId = input.commandId →
    SessionsDomain.sameCommand env command input = true → outcome = (.ok command, domain)
  rejected : ∀ sessionKey session command, domain.sessions.get sessionKey = some session →
    command ∈ session.commands → command.commandId = input.commandId →
    SessionsDomain.sameCommand env command input = false →
    ∃ error, outcome = (.error error, domain)

namespace SessionsDomain

variable (env : Environment) (audit : AuditEnvironment) {domain : SessionsDomain Neighbours}
  {input : EnqueueCommandInput} {first : Neighbours} {sessionKey : String} {session : SessionState}
  {command : SessionCommandRecord} {now : Instant}
  {outcome : Outcome (SessionsDomain Neighbours) SessionCommandRecord}

theorem enqueue_atomic
    (hnumbered : ∀ sessionKey session, domain.sessions.get sessionKey = some session →
      Numbered session)
    (houtcome : EnqueueOutcome env (Neighbours.host audit) domain input now outcome) :
    (∃ command, outcome.1 = .ok command ∧ Inserts domain input now command outcome.2) ∨
      Unaffected domain outcome.2 ∧ ∀ command, outcome.1 = .ok command →
        domain.findSessionCommandById input.commandId = some command := by
  cases houtcome with
  | refused | restored =>
    refine .inr ⟨⟨rfl, rfl⟩, fun command hanswer => ?_⟩
    cases hanswer
  | replayed _ hfound =>
    refine .inr ⟨⟨rfl, rfl⟩, fun command hanswer => ?_⟩
    rw [hfound, Except.ok.inj hanswer]
  | inserted session _ _ hsession _ hspent =>
    have hcounted := hnumbered _ session hsession
    have hcounter := hcounted.counter_eq
    refine .inl ⟨_, rfl, ⟨session, hsession, ?_, ?_, ?_⟩, grants_of_consumeUsageQuotas hspent⟩
    · rw [hcounter]
    · intro _ hheld
      exact Nat.lt_succ_of_le (hcounter ▸ hcounted.sequence_le hheld)
    · rw [← hcounter]
      rfl

variable (hfiled : Filed first domain)
include hfiled

theorem find_of_filed (hget : domain.sessions.get sessionKey = some session)
    (hmem : command ∈ session.commands) :
    domain.findSessionCommandById command.commandId = some command := by
  cases hfound : domain.findSessionCommandById command.commandId with
  | none => exact absurd rfl (domain.findSessionCommandById_eq_none hfound hget command hmem)
  | some => rw [hfiled.find hget hmem hfound]

theorem enqueue_replayed (now : Instant) (hget : domain.sessions.get sessionKey = some session)
    (hmem : command ∈ session.commands) (hid : command.commandId = input.commandId)
    (hsame : sameCommand env command input = true) :
    domain.enqueueSessionCommand env (Neighbours.host audit) input now =
      (.ok command, domain) := by
  have hfound := find_of_filed hfiled hget hmem
  rw [hid] at hfound
  have hrequest : command.request ∈ domain.requestsAt sessionKey := by
    rw [domain.requestsAt_of_get hget]
    exact List.mem_map_of_mem hmem
  have hcontent := hsame
  simp only [sameCommand, Bool.and_eq_true, decide_eq_true_eq] at hcontent
  obtain ⟨⟨⟨⟨⟨htenant, huserId⟩, hsessionId⟩, _⟩, _⟩, _⟩ := hcontent
  have huser : domain.neighbours.requireTenantUser input.tenantId input.userId = .ok () := by
    rw [hfiled.identities.requireTenantUser_eq, ← htenant, ← huserId]
    exact hfiled.admitted sessionKey command.request hrequest
  have hsession : domain.requireSession (Neighbours.host audit) input.tenantId input.sessionId =
      .ok session := by
    have hkey : key input.tenantId input.sessionId = sessionKey := by
      rw [← htenant, ← hsessionId]
      exact hfiled.addressed sessionKey command.request hrequest
    have htenantKnown : (Neighbours.host audit).requireTenant domain.neighbours input.tenantId =
        .ok () := by
      change domain.neighbours.requireTenant input.tenantId = .ok ()
      unfold Neighbours.requireTenantUser at huser
      split at huser
      · simp at huser
      next h => exact h
    rw [requireSession, htenantKnown, hkey]
    rw [hget]
  have huserKnown : (Neighbours.host audit).requireTenantUser domain.neighbours input.tenantId
      input.userId = .ok () := huser
  rw [enqueueSessionCommand, huserKnown]
  rw [hsession]
  rw [hfound]
  exact if_pos hsame

theorem enqueue_rejected
    (houtcome : EnqueueOutcome env (Neighbours.host audit) domain input now outcome)
    (hget : domain.sessions.get sessionKey = some session) (hmem : command ∈ session.commands)
    (hid : command.commandId = input.commandId) (hother : sameCommand env command input = false) :
    ∃ error, outcome = (.error error, domain) := by
  have hstored := find_of_filed hfiled hget hmem
  rw [hid] at hstored
  cases houtcome with
  | refused error => exact ⟨error, rfl⟩
  | restored _ _ hnew | inserted _ _ _ _ hnew => exact absurd (hstored.symm.trans hnew) (by simp)
  | replayed _ hfound hsame =>
    obtain rfl := Option.mem_unique hstored hfound
    exact absurd (hsame.symm.trans hother) (by simp)

omit hfiled

/-- In every state that a run reaches, an enqueue inserts one command and consumes its quotas
or leaves both alone, a repeat is answered with the command on file, and an id is never
given to different content. -/
theorem run_enqueue_contract (neighbours : Neighbours) (requests : List SessionRequest)
    (input : EnqueueCommandInput) (now : Instant) :
    EnqueueContract env ((machine env (Neighbours.host audit)).run (initial neighbours) requests)
      input now (((machine env (Neighbours.host audit)).run (initial neighbours)
        requests).enqueueSessionCommand env (Neighbours.host audit) input now) := by
  have hfiled := run_filed env audit neighbours requests
  have hnumbered : ∀ sessionKey session, ((machine env (Neighbours.host audit)).run
      (initial neighbours) requests).sessions.get sessionKey = some session →
      Numbered session :=
    fun _ _ => run_numbered env (Neighbours.host audit) neighbours requests
  generalize (machine env (Neighbours.host audit)).run (initial neighbours) requests = domain
    at hfiled hnumbered ⊢
  have houtcome := domain.enqueueSessionCommand_outcome env (Neighbours.host audit) input now
  constructor
  · exact enqueue_atomic env audit hnumbered houtcome
  · intro sessionKey session command hget hmem hid hsame
    exact enqueue_replayed env audit hfiled now hget hmem hid hsame
  · intro sessionKey session command hget hmem hid hother
    exact enqueue_rejected env audit hfiled houtcome hget hmem hid hother

end SessionsDomain

end OpenCowork.ControlPlane
