import Mathlib.Data.List.Sort
import Mathlib.Data.Prod.Lex
import Mathlib.Data.Rat.Floor
import OpenCowork.Foundation.Machine
import OpenCowork.Foundation.OrderedMap
import OpenCowork.Foundation.Text

/-! # The progress watchdog

The watchdog keeps for each session when its current run last made progress, and decides which
runs look stalled. Between a decision and what is done about it the run may go on, which the
revision of its entry tells.
-/

namespace OpenCowork.Runtime.ProgressWatchdog

open Foundation OrderedMap

inductive Source where
  | admission | durableSequence | phaseTransition | toolTransition | outputAdvance
  | interactionRequested | interactionResolved | scheduledRetry | providerBackoff | explicitPause
  | explicitResume | terminal

inductive WaitingReason where
  | approval | question | explicitPause | scheduledRetry | providerBackoff
  deriving DecidableEq

inductive Disposition where
  | running | waiting | terminal
  deriving DecidableEq

inductive DecisionState where
  | suspect | stalled
  deriving DecidableEq

def Source.name : Source → String
  | admission => "admission"
  | durableSequence => "durable_sequence"
  | phaseTransition => "phase_transition"
  | toolTransition => "tool_transition"
  | outputAdvance => "output_advance"
  | interactionRequested => "interaction_requested"
  | interactionResolved => "interaction_resolved"
  | scheduledRetry => "scheduled_retry"
  | providerBackoff => "provider_backoff"
  | explicitPause => "explicit_pause"
  | explicitResume => "explicit_resume"
  | terminal => "terminal"

def WaitingReason.name : WaitingReason → String
  | approval => "approval"
  | question => "question"
  | explicitPause => "explicit_pause"
  | scheduledRetry => "scheduled_retry"
  | providerBackoff => "provider_backoff"

def Disposition.name : Disposition → String
  | running => "running"
  | waiting => "waiting"
  | terminal => "terminal"

structure Identity where
  (scopeId sessionId runId : String)
  (runtimeGeneration executionGeneration : ℚ)
  (leaseOwner leaseEpoch : String)

/-- The time of an observation is missing where it is no finite number. -/
structure Observation extends Identity where
  source : Source
  disposition : Disposition
  waitingReason : Option WaitingReason := none
  resumeAtMs : Option ℚ := none
  sequence : Option ℚ := none
  progressCursor : Option ℚ := none
  semanticKey : Option String := none
  observedAtMs : Option ℚ

structure Entry extends Identity where
  source : Source
  disposition : Disposition
  waitingReason : Option WaitingReason
  (resumeAtMs lastSequence lastProgressCursor : Option ℚ)
  lastSemanticKey : String
  lastProgressAtMs : ℚ
  revision : Nat
  acknowledgedDecisions : List DecisionState

structure Decision extends Identity where
  state : DecisionState
  source : Source
  ageMs : ℚ
  revision : Nat

structure Thresholds where
  (suspectAfterMs stalledAfterMs : ℚ)

abbrev State := OrderedMap String Entry

namespace Identity

variable (identity other : Identity)

def entryKey : String := identity.scopeId ++ "\x00" ++ identity.sessionId

def sameGeneration : Bool :=
  identity.runtimeGeneration = other.runtimeGeneration &&
    identity.executionGeneration = other.executionGeneration && identity.runId = other.runId &&
    identity.leaseOwner = other.leaseOwner && identity.leaseEpoch = other.leaseEpoch

def compareGeneration : ℚ :=
  if identity.runtimeGeneration ≠ other.runtimeGeneration then
    identity.runtimeGeneration - other.runtimeGeneration
  else identity.executionGeneration - other.executionGeneration

end Identity

structure Host where
  numberText : ℚ → String

namespace Host

variable (host : Host) (state : State) (observation : Observation)

def semanticKey : String :=
  match (observation.semanticKey.map Text.trim).filter (· ≠ "") with
  | some key => key
  | none => ":".intercalate [observation.source.name, observation.disposition.name,
      (observation.waitingReason.map (·.name)).getD "",
      (observation.resumeAtMs.map host.numberText).getD ""]

/-- Whether an observation of the same generation repeats what the entry has seen. -/
def repeats (current : Entry) : Bool :=
  match observation.sequence, observation.progressCursor with
  | some sequence, _ => current.lastSequence.any fun last => sequence ≤ last
  | none, some cursor => current.lastProgressCursor.any fun last => cursor ≤ last
  | none, none => host.semanticKey observation = current.lastSemanticKey

def nextEntry (current : Option Entry) (observedAtMs : ℚ) : Entry :=
  let continued := current.filter fun entry => observation.sameGeneration entry.toIdentity
  { observation.toIdentity with
    source := observation.source
    disposition := observation.disposition
    waitingReason := observation.waitingReason
    resumeAtMs := observation.resumeAtMs
    lastSequence := observation.sequence.or (continued.bind (·.lastSequence))
    lastProgressCursor := observation.progressCursor.or (continued.bind (·.lastProgressCursor))
    lastSemanticKey := host.semanticKey observation
    lastProgressAtMs := observedAtMs
    revision := (continued.map (·.revision + 1)).getD 1
    acknowledgedDecisions := [] }

/-- What an observation does to the entry of its session. -/
inductive Verdict where
  | ignored
  | removed
  | progressed (entry : Entry)

def consider (current : Option Entry) (observedAtMs : ℚ) : Verdict :=
  match current with
  | none =>
    if observation.disposition = .terminal then .ignored
    else .progressed (host.nextEntry observation none observedAtMs)
  | some current =>
    let generationOrder := observation.compareGeneration current.toIdentity
    if generationOrder < 0 then .ignored
    else if generationOrder = 0 ∧ !observation.sameGeneration current.toIdentity then .ignored
    else if observation.disposition = .terminal then
      if generationOrder = 0 ∧ observation.sequence.any fun sequence =>
          current.lastSequence.any fun last => sequence ≤ last then .ignored
      else .removed
    else if generationOrder = 0 ∧
        (observedAtMs < current.lastProgressAtMs ∨ host.repeats observation current) then .ignored
    else .progressed (host.nextEntry observation (some current) observedAtMs)

/-- The verdict over an observation in a state. -/
def verdict : Verdict :=
  match observation.observedAtMs with
  | none => .ignored
  | some observedAtMs => host.consider observation (state.get observation.entryKey) observedAtMs

def evictOldest (entries : State) : State :=
  match (entries.entries.insertionSort fun left right =>
      left.2.lastProgressAtMs ≤ right.2.lastProgressAtMs).head? with
  | none => entries
  | some oldest => entries.erase oldest.1

def recordObservation (maxEntries : ℚ) : State :=
  match host.verdict state observation with
  | .ignored => state
  | .removed => state.erase observation.entryKey
  | .progressed entry =>
    let entries := state.set observation.entryKey entry
    evictOldest^[entries.entries.length - (max 1 ⌊maxEntries⌋).toNat] entries

end Host

def Entry.overdue (entry : Entry) (nowMs : ℚ) (thresholds : Thresholds) :
    Option (DecisionState × ℚ) :=
  let indefiniteWait := entry.waitingReason ∈ [some .approval, some .question, some .explicitPause]
  if entry.disposition = .waiting ∧
      (indefiniteWait ∨ entry.resumeAtMs.any fun resumeAtMs => nowMs < resumeAtMs) then none
  else
    let baseline := if entry.disposition = .waiting then
        entry.resumeAtMs.getD entry.lastProgressAtMs
      else entry.lastProgressAtMs
    let ageMs := max 0 (nowMs - baseline)
    if thresholds.stalledAfterMs ≤ ageMs then some (.stalled, ageMs)
    else if thresholds.suspectAfterMs ≤ ageMs then some (.suspect, ageMs)
    else none

namespace State

variable (state : State)

def evaluate (nowMs : ℚ) (thresholds : Thresholds) : List Decision :=
  state.values.filterMap fun entry =>
    ((entry.overdue nowMs thresholds).filter fun overdue =>
      overdue.1 ∉ entry.acknowledgedDecisions).map fun (state, ageMs) =>
        { entry.toIdentity with state, ageMs, source := entry.source, revision := entry.revision }

variable (decision : Decision)

def isDecisionCurrent : Bool :=
  (state.get decision.entryKey).any fun current =>
    current.sameGeneration decision.toIdentity && current.revision = decision.revision

def acknowledgeDecision : State :=
  match state.get decision.entryKey with
  | none => state
  | some current =>
    if !current.sameGeneration decision.toIdentity ∨ current.revision ≠ decision.revision ∨
        decision.state ∈ current.acknowledgedDecisions then state
    else state.set decision.entryKey { current with
      acknowledgedDecisions := current.acknowledgedDecisions ++ [decision.state] }

end State

inductive Input where
  | observe (observation : Observation) (maxEntries : ℚ)
  | acknowledge (decision : Decision)

def watchdog (host : Host) : Machine State Input Unit where
  step state
    | .observe observation maxEntries => ((), host.recordObservation state observation maxEntries)
    | .acknowledge decision => ((), state.acknowledgeDecision decision)

def Progresses (host : Host) (key : String) (moment : Moment State Input Unit) : Prop :=
  ∃ observation maxEntries entry, moment.input = .observe observation maxEntries ∧
    observation.entryKey = key ∧ host.verdict moment.before observation = .progressed entry

/-! ## Entries that come later -/

namespace Identity

variable (identity : Identity)

def generation : ℚ × ℚ × String × String × String :=
  (identity.runtimeGeneration, identity.executionGeneration, identity.runId,
    identity.leaseOwner, identity.leaseEpoch)

def order : ℚ ×ₗ ℚ := toLex (identity.runtimeGeneration, identity.executionGeneration)

variable {identity} {other : Identity}

theorem sameGeneration_iff :
    identity.sameGeneration other ↔ identity.generation = other.generation := by
  simp [sameGeneration, generation, and_assoc]

theorem order_eq_of_generation_eq (h : identity.generation = other.generation) :
    identity.order = other.order :=
  congrArg (fun generation : ℚ × ℚ × String × String × String =>
    toLex (generation.1, generation.2.1)) h

theorem compareGeneration_pos_iff : 0 < identity.compareGeneration other ↔
    other.order < identity.order := by
  unfold compareGeneration order
  rw [Prod.Lex.toLex_lt_toLex]
  split_ifs with hne
  · rw [sub_pos]
    exact ⟨.inl, fun h => h.resolve_right fun heq => hne heq.1.symm⟩
  · rw [ne_eq, not_not] at hne
    simp [hne]

end Identity

namespace Entry

def Level (entry start : Entry) : Prop :=
  entry.generation = start.generation ∧ entry.revision = start.revision

/-- The entry is of a newer generation, or of a later revision. -/
def Ahead (entry start : Entry) : Prop :=
  start.order < entry.order ∨
    entry.generation = start.generation ∧ start.revision < entry.revision

variable {next entry start : Entry}

theorem Ahead.trans_level (hnext : next.Ahead entry) (h : entry.Level start) :
    next.Ahead start := by
  have horder := Identity.order_eq_of_generation_eq h.1
  rcases hnext with hnewer | ⟨hsame, hlater⟩
  · exact .inl (horder ▸ hnewer)
  · exact .inr ⟨hsame.trans h.1, h.2 ▸ hlater⟩

theorem Level.trans_ahead (hnext : next.Level entry) (h : entry.Ahead start) :
    next.Ahead start := by
  have horder := Identity.order_eq_of_generation_eq hnext.1
  rcases h with hnewer | ⟨hsame, hlater⟩
  · exact .inl (horder ▸ hnewer)
  · exact .inr ⟨hnext.1.trans hsame, hnext.2 ▸ hlater⟩

theorem Ahead.trans (hnext : next.Ahead entry) (h : entry.Ahead start) : next.Ahead start := by
  rcases h with hnewer | ⟨hsame, hlater⟩
  · rcases hnext with hnext | ⟨hnext, _⟩
    · exact .inl (hnewer.trans hnext)
    · exact .inl (Identity.order_eq_of_generation_eq hnext ▸ hnewer)
  · rcases hnext with hnext | ⟨hnext, hrevision⟩
    · exact .inl (Identity.order_eq_of_generation_eq hsame ▸ hnext)
    · exact .inr ⟨hnext.trans hsame, hlater.trans hrevision⟩

theorem Ahead.not_level (h : entry.Ahead start) : ¬ entry.Level start := by
  rintro ⟨hsame, hrevision⟩
  rcases h with hnewer | ⟨_, hlater⟩
  · exact hnewer.ne (Identity.order_eq_of_generation_eq hsame).symm
  · exact hlater.ne hrevision.symm

end Entry

/-! ## What a step leaves of an entry -/

section Steps

variable {host : Host} {state : State} {maxEntries observedAtMs : ℚ} {observation : Observation}
  {key : String} {current entry : Entry} {decision : Decision} {input : Input} {inputs : List Input}

theorem ahead_of_consider
    (h : host.consider observation (some current) observedAtMs = .progressed entry) :
    entry.Ahead current := by
  simp only [Host.consider] at h
  split_ifs at h with holder hother
  cases h
  by_cases hlevel : observation.compareGeneration current.toIdentity = 0
  · have hsame : observation.sameGeneration current.toIdentity := by
      simpa [hlevel] using hother
    refine .inr ⟨Identity.sameGeneration_iff.mp hsame, ?_⟩
    simp [Host.nextEntry, Option.filter, hsame]
  · exact .inl (Identity.compareGeneration_pos_iff.mp
      (lt_of_le_of_ne (not_lt.mp holder) (Ne.symm hlevel)))

theorem eq_of_verdict (h : host.verdict state observation = .progressed entry) :
    entry.entryKey = observation.entryKey ∧ entry.disposition = observation.disposition ∧
      observation.disposition ≠ .terminal := by
  unfold Host.verdict at h
  split at h
  · cases h
  · simp only [Host.consider] at h
    split at h
    · split_ifs at h with hterminal
      cases h
      exact ⟨rfl, rfl, hterminal⟩
    · split_ifs at h with _ _ hterminal
      cases h
      exact ⟨rfl, rfl, hterminal⟩

theorem get_of_evictOldest (h : (Host.evictOldest state).get key = some entry) :
    state.get key = some entry := by
  unfold Host.evictOldest at h
  split at h
  · exact h
  next oldest _ =>
    by_cases heq : oldest.1 = key
    · rw [heq, get_erase_self] at h
      cases h
    · rwa [get_erase_of_ne _ heq] at h

theorem get_of_evictions {count : Nat}
    (h : (Host.evictOldest^[count] state).get key = some entry) : state.get key = some entry := by
  induction count generalizing state with
  | zero => exact h
  | succ _ ih => exact get_of_evictOldest (ih h)

theorem get_of_record
    (h : (host.recordObservation state observation maxEntries).get key = some entry) :
    state.get key = some entry ∧ (observation.entryKey = key →
        ∀ next, host.verdict state observation ≠ .progressed next) ∨
      observation.entryKey = key ∧ host.verdict state observation = .progressed entry := by
  unfold Host.recordObservation at h
  split at h
  next hverdict => exact .inl ⟨h, fun _ next hnext => by simp [hverdict] at hnext⟩
  next hverdict =>
    by_cases heq : observation.entryKey = key
    · rw [heq, get_erase_self] at h
      cases h
    · exact .inl ⟨get_erase_of_ne _ heq ▸ h, fun hkey => absurd hkey heq⟩
  next hverdict =>
    have hget := get_of_evictions h
    by_cases heq : observation.entryKey = key
    · rw [heq, get_set_self] at hget
      cases hget
      exact .inr ⟨heq, hverdict⟩
    · rw [get_set_of_ne _ _ heq] at hget
      exact .inl ⟨hget, fun hkey => absurd hkey heq⟩

theorem get_of_acknowledge (h : (state.acknowledgeDecision decision).get key = some entry) :
    ∃ current, state.get key = some current ∧ entry.Level current ∧
      entry.entryKey = current.entryKey ∧ entry.disposition = current.disposition := by
  unfold State.acknowledgeDecision at h
  split at h
  · exact ⟨entry, h, ⟨rfl, rfl⟩, rfl, rfl⟩
  next current hcurrent =>
    split_ifs at h
    · exact ⟨entry, h, ⟨rfl, rfl⟩, rfl, rfl⟩
    · by_cases heq : decision.entryKey = key
      · rw [heq, get_set_self] at h
        cases h
        exact ⟨current, heq ▸ hcurrent, ⟨rfl, rfl⟩, rfl, rfl⟩
      · rw [get_set_of_ne _ _ heq] at h
        exact ⟨entry, h, ⟨rfl, rfl⟩, rfl, rfl⟩

theorem step_held (hbefore : state.get key = some current)
    (hafter : ((watchdog host).step state input).2.get key = some entry) :
    entry.Level current ∧ ¬ Progresses host key ((watchdog host).moment state input) ∨
      entry.Ahead current := by
  cases input with
  | observe =>
    rcases get_of_record hafter with ⟨hget, hnone⟩ | ⟨rfl, hverdict⟩
    · rw [hbefore, Option.some.injEq] at hget
      subst hget
      refine .inl ⟨⟨rfl, rfl⟩, ?_⟩
      rintro ⟨_, _, next, hinput, hkey, hverdict⟩
      cases hinput
      exact hnone hkey next hverdict
    · right
      unfold Host.verdict at hverdict
      split at hverdict
      · cases hverdict
      · rw [hbefore] at hverdict
        exact ahead_of_consider hverdict
  | acknowledge =>
    obtain ⟨_, hget, hlevel, _⟩ := get_of_acknowledge hafter
    rw [hbefore, Option.some.injEq] at hget
    subst hget
    refine .inl ⟨hlevel, ?_⟩
    rintro ⟨_, _, _, hinput, _⟩
    cases hinput

/-- An entry that is held throughout is level with the one before, or ahead of it. -/
theorem run_held (hstart : state.get key = some current)
    (hheld : ∀ moment ∈ (watchdog host).history state inputs, (moment.after.get key).isSome) :
    ∃ entry, ((watchdog host).run state inputs).get key = some entry ∧
      (entry.Level current ∧ (∀ moment ∈ (watchdog host).history state inputs,
          ¬ Progresses host key moment) ∨ entry.Ahead current) := by
  induction inputs generalizing state current with
  | nil => exact ⟨current, hstart, .inl ⟨⟨rfl, rfl⟩, by simp⟩⟩
  | cons _ _ ih =>
    rw [Machine.history_cons, List.forall_mem_cons] at hheld
    obtain ⟨_, hnext⟩ := Option.isSome_iff_exists.mp hheld.1
    obtain ⟨entry, hentry, hlast⟩ := ih hnext hheld.2
    refine ⟨entry, hentry, ?_⟩
    rcases step_held hstart hnext with ⟨hlevel, hquiet⟩ | hahead
    · rcases hlast with ⟨hlast, hrest⟩ | hlast
      · left
        rw [Machine.history_cons, List.forall_mem_cons]
        exact ⟨⟨hlast.1.trans hlevel.1, hlast.2.trans hlevel.2⟩, hquiet, hrest⟩
      · exact .inr (hlast.trans_level hlevel)
    · rcases hlast with ⟨hlast, _⟩ | hlast
      · exact .inr (hlast.trans_ahead hahead)
      · exact .inr (hlast.trans hahead)

/-- Entries stand under their own session, and none is terminal. -/
def State.Kept (state : State) : Prop :=
  ∀ key entry, state.get key = some entry → entry.entryKey = key ∧ entry.disposition ≠ .terminal

theorem kept_step (h : state.Kept) : ((watchdog host).step state input).2.Kept := by
  intro key entry hget
  cases input with
  | observe =>
    rcases get_of_record hget with ⟨hget, _⟩ | ⟨rfl, hverdict⟩
    · exact h key entry hget
    · obtain ⟨hkey, hsame, hrunning⟩ := eq_of_verdict hverdict
      exact ⟨hkey, hsame ▸ hrunning⟩
  | acknowledge =>
    obtain ⟨current, hcurrent, _, hkey, hdisposition⟩ := get_of_acknowledge hget
    rw [hkey, hdisposition]
    exact h key current hcurrent

theorem kept_run : ((watchdog host).run OrderedMap.empty inputs).Kept :=
  (watchdog host).run_invariant _ (fun _ _ => kept_step) _ (fun _ _ h => by simp at h) inputs

theorem verdict_ignored_of_other (hcurrent : state.get observation.entryKey = some current)
    (hother : observation.compareGeneration current.toIdentity < 0 ∨
      observation.compareGeneration current.toIdentity = 0 ∧
        ¬ observation.sameGeneration current.toIdentity) :
    host.verdict state observation = .ignored := by
  unfold Host.verdict
  split
  · rfl
  · rw [hcurrent]
    rcases hother with holder | ⟨hlevel, hrun⟩
    · simp [Host.consider, holder]
    · simp [Host.consider, hlevel, hrun]

theorem exists_entry_of_decision {nowMs : ℚ} {thresholds : Thresholds} (hkept : state.Kept)
    (hdecision : decision ∈ state.evaluate nowMs thresholds) :
    ∃ entry, state.get decision.entryKey = some entry ∧
      decision.generation = entry.generation ∧ decision.revision = entry.revision := by
  obtain ⟨entry, hentry, hmade⟩ := List.mem_filterMap.mp hdecision
  obtain ⟨key, hget⟩ := (mem_values_iff _ _).mp hentry
  obtain ⟨_, _, rfl⟩ := Option.map_eq_some_iff.mp hmade
  exact ⟨entry, (hkept key entry hget).1 ▸ hget, rfl, rfl⟩

end Steps

/-- Older generations and other runs of the same one change nothing, terminal observations only
remove, and as long as the entry of its session has been held, a decision confirmed as current
saw no progress. -/
theorem progress_watchdog_sound (host : Host) (inputs : List Input) :
    let machine := watchdog host
    let state := machine.run OrderedMap.empty inputs
    (∀ (observation : Observation) maxEntries current,
      state.get observation.entryKey = some current →
      observation.compareGeneration current.toIdentity < 0 ∨
        observation.compareGeneration current.toIdentity = 0 ∧
          ¬ observation.sameGeneration current.toIdentity →
      host.recordObservation state observation maxEntries = state) ∧
    (∀ (observation : Observation) maxEntries, observation.disposition = .terminal →
      host.recordObservation state observation maxEntries = state ∨
        host.recordObservation state observation maxEntries = state.erase observation.entryKey) ∧
    (∀ key entry, state.get key = some entry → entry.disposition ≠ .terminal) ∧
    ∀ nowMs thresholds, ∀ decision ∈ state.evaluate nowMs thresholds, ∀ later,
      (machine.run state later).isDecisionCurrent decision →
      (∀ moment ∈ machine.history state later, (moment.after.get decision.entryKey).isSome) →
      ∀ moment ∈ machine.history state later, ¬ Progresses host decision.entryKey moment := by
  intro machine state
  have hkept : state.Kept := kept_run
  refine ⟨?_, ?_, fun key entry h => (hkept key entry h).2, ?_⟩
  · intro observation maxEntries current hcurrent hother
    unfold Host.recordObservation
    rw [verdict_ignored_of_other hcurrent hother]
  · intro observation maxEntries hterminal
    unfold Host.recordObservation
    split
    · exact .inl rfl
    · exact .inr rfl
    next hverdict => exact absurd hterminal (eq_of_verdict hverdict).2.2
  · intro nowMs thresholds decision hdecision later hcurrent hheld
    obtain ⟨_, hstart, hsame⟩ := exists_entry_of_decision hkept hdecision
    obtain ⟨_, hlast, hconfirmed⟩ := Option.any_eq_true _ _ |>.mp hcurrent
    obtain ⟨_, hentry, hlevel | hahead⟩ := run_held hstart hheld
    · exact hlevel.2
    · refine absurd ?_ hahead.not_level
      rw [hlast, Option.some.injEq] at hentry
      subst hentry
      rw [Bool.and_eq_true, decide_eq_true_eq] at hconfirmed
      exact ⟨(Identity.sameGeneration_iff.mp hconfirmed.1).trans hsame.1,
        hconfirmed.2.trans hsame.2⟩

/-- A newer generation takes an entry over, and the end of a run removes its entry: a late
observation of the run is kept as an entry again. -/
theorem ended_run_returns :
    let host : Host := ⟨fun _ => ""⟩
    let machine := watchdog host
    let seen : Observation := {
      scopeId := "t", sessionId := "s", runId := "r", runtimeGeneration := 1,
      executionGeneration := 1, leaseOwner := "w", leaseEpoch := "e", source := .durableSequence,
      disposition := .running, sequence := some 1, observedAtMs := some 100 }
    let newer := { seen with runtimeGeneration := 2, runId := "r2" }
    let ended := { seen with disposition := .terminal, sequence := some 3 }
    let late := { seen with sequence := some 2, observedAtMs := some 310 }
    let state := machine.run OrderedMap.empty [.observe seen 2]
    let later : List Input := [.observe ended 2, .observe late 2]
    host.recordObservation state newer 2 ≠ state ∧
      (machine.run state [.observe ended 2]).get seen.entryKey = none ∧
      ((machine.run state later).get seen.entryKey).isSome := by
  intro host machine seen newer ended late state later
  have hgone : (machine.run state [.observe ended 2]).get seen.entryKey = none := by
    rw [← Option.isNone_iff_eq_none]
    decide +kernel
  refine ⟨fun hsame => ?_, hgone, by decide +kernel⟩
  have hgeneration := congrArg (fun state : State =>
    (state.get seen.entryKey).map (·.runtimeGeneration)) hsame
  revert hgeneration
  decide +kernel

end OpenCowork.Runtime.ProgressWatchdog
