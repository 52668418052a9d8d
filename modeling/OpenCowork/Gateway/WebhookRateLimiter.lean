import Mathlib.Data.List.Dedup
import OpenCowork.Foundation.Machine
import OpenCowork.Foundation.OrderedMap

/-! # Limiting the rate of webhooks

A record counts the calls under a key in a window of time, and may block the key for longer. The
records are bounded in number: where there are too many the ones that are over go, and then one
that does not block.
-/

namespace OpenCowork.Gateway.WebhookRateLimiter

open Foundation OrderedMap

structure Record where
  (count resetAt blockedUntil : Nat)

inductive Result where
  | ok
  | refused (retryAfterMs : Nat)
  deriving DecidableEq

/-- The numbers that all calls share. -/
structure Limits where
  (windowMs maxRequests maxFailures backoffMs maxRecords : Nat)

inductive Call where
  | claim | backoff | check
  deriving DecidableEq

structure Input where
  call : Call
  key : String
  nowMs : Nat

abbrev Records := OrderedMap String Record

variable (limits : Limits)

namespace Record

variable (record : Record) (nowMs : Nat)

def blocking : Bool := nowMs < record.blockedUntil

def live : Bool := nowMs < record.resetAt

def expiry : Nat := max record.resetAt record.blockedUntil

def claim : Result × Record :=
  let counted := { record with count := record.count + 1 }
  if limits.maxRequests < counted.count then
    let blocked := { counted with blockedUntil := max counted.blockedUntil counted.resetAt }
    (.refused (blocked.blockedUntil - nowMs), blocked)
  else (.ok, counted)

def backoff : Result × Record :=
  let counted := { record with count := record.count + 1 }
  (.ok, if limits.maxFailures ≤ counted.count then
      { counted with blockedUntil := max counted.blockedUntil (nowMs + limits.backoffMs) }
    else counted)

def answer (call : Call) : Result × Record :=
  if record.blocking nowMs then (.refused (record.blockedUntil - nowMs), record)
  else
    match call with
    | .claim => record.claim limits nowMs
    | .backoff => record.backoff limits nowMs
    | .check => (.ok, record)

end Record

section Records

variable (nowMs : Nat) (records : Records)

def pruneRecords : Records :=
  records.filter fun _ record => record.live nowMs || record.blocking nowMs

/-- The record to evict: one that does not block before one that does, and the first to expire. -/
def evictCandidate : Option (String × Record) :=
  records.entries.foldl (fun found candidate =>
    match found with
    | none => some candidate
    | some evict =>
      if (!candidate.2.blocking nowMs && evict.2.blocking nowMs) ||
          (candidate.2.blocking nowMs == evict.2.blocking nowMs &&
            decide (candidate.2.expiry < evict.2.expiry)) then
        some candidate
      else some evict) none

/-- Evicting ends at the empty key, which is taken for no key. -/
def evictRecords : Nat → Records → Records
  | 0, records => records
  | fuel + 1, records =>
    if limits.maxRecords < records.entries.length then
      match evictCandidate nowMs records with
      | some (key, _) => if key = "" then records else evictRecords fuel (records.erase key)
      | none => records
    else records

/-- The records with a new one among them, and without those that are over if need be. -/
def crowdedRecords (key : String) (next : Record) : Records :=
  let records := records.set key next
  if limits.maxRecords < records.entries.length then pruneRecords nowMs records else records

def newRecord : Record := ⟨0, nowMs + limits.windowMs, 0⟩

def liveRecord (key : String) : Option Record := (records.get key).filter (·.live nowMs)

/-- `record`: the record of a key, which is new where there is none or its window is over. -/
def recordFor (key : String) : Record × Records :=
  match liveRecord nowMs records key with
  | some existing => (existing, records)
  | none =>
    let next := newRecord limits nowMs
    let crowded := crowdedRecords limits nowMs records key next
    (next, evictRecords limits nowMs crowded.entries.length crowded)

end Records

/-- The limiter. A call changes its record where that was not evicted at once. -/
def limiter :
    Machine Records Input Result where
  step records input :=
    let (record, records) := recordFor limits input.nowMs records input.key
    let (result, record) := record.answer limits input.nowMs input.call
    (result, records.mapWithKey fun key held => if key = input.key then record else held)

abbrev LimiterMoment := Moment Records Input Result

section Promises

variable (moment : LimiterMoment)

/-- A record whose window is over is replaced although it blocks. -/
def replacesBlock : Bool :=
  (moment.before.get moment.input.key).any fun record =>
    !record.live moment.input.nowMs && record.blocking moment.input.nowMs

/-- There are too many records and the one to evict is that of the empty key. -/
def evictsNone : Bool :=
  let nowMs := moment.input.nowMs
  let crowded := crowdedRecords limits nowMs moment.before moment.input.key (newRecord limits nowMs)
  (liveRecord nowMs moment.before moment.input.key).isNone &&
    decide (limits.maxRecords < crowded.entries.length) &&
    (evictCandidate nowMs crowded).any fun candidate => candidate.1 = ""

def opensWindow : Bool := (liveRecord moment.input.nowMs moment.before moment.input.key).isNone

/-- The key was told to wait until the given time, or is made to. -/
def WaitsUntil (time : Nat) : Prop :=
  (∃ retryAfterMs, moment.output = .refused retryAfterMs ∧
      time = moment.input.nowMs + retryAfterMs) ∨
    ∃ record, moment.after.get moment.input.key = some record ∧ record.blockedUntil = time

/-- A claim under a key that succeeds before the given time. -/
def claimsBefore (key : String) (endsAt : Nat) (moment : LimiterMoment) : Bool :=
  moment.input.key = key && moment.input.call = .claim && moment.output = .ok &&
    decide (moment.input.nowMs < endsAt)

/-- What a call promises for the calls that follow it. -/
structure KeepsPromises (later : List LimiterMoment) : Prop where
  refused : ∀ time, WaitsUntil moment time → ∀ next ∈ later,
    next.input.key = moment.input.key → next.input.nowMs < time → next.output ≠ .ok
  claimed : opensWindow moment → ((moment :: later).filter
    (claimsBefore moment.input.key (moment.input.nowMs + limits.windowMs))).length ≤
      limits.maxRequests

/-- The records stay within their number, and one that blocks goes only where all do. -/
structure KeepsRecords : Prop where
  bounded : moment.after.entries.length ≤ limits.maxRecords
  dropped : ∀ key record, moment.before.get key = some record →
    record.blocking moment.input.nowMs → moment.after.get key = none →
      ∀ other held, moment.before.get other = some held → held.blocking moment.input.nowMs

end Promises

/-! ## One call -/

/-- What a call does under a record whose window is not over. -/
structure Answers (record : Record) (moment : LimiterMoment) (next : Record) : Prop where
  resetAt : next.resetAt = record.resetAt
  count : record.count ≤ next.count
  refused : ∀ retryAfterMs, moment.output = .refused retryAfterMs →
    moment.input.nowMs + retryAfterMs ≤ next.blockedUntil
  claimed : moment.input.call = .claim → moment.output = .ok →
    next.count = record.count + 1 ∧ next.count ≤ limits.maxRequests

theorem answers {record : Record} {moment : LimiterMoment}
    (houtput : moment.output = (record.answer limits moment.input.nowMs moment.input.call).1)
    (hopen : moment.input.nowMs ≤ record.resetAt) :
    Answers limits record moment
      (record.answer limits moment.input.nowMs moment.input.call).2 := by
  obtain ⟨_, ⟨call, _, nowMs⟩, _, _⟩ := moment
  dsimp only at houtput hopen ⊢
  subst houtput
  unfold Record.answer
  split
  next hblocking =>
    have hlater : nowMs < record.blockedUntil := of_decide_eq_true hblocking
    refine ⟨rfl, Nat.le_refl _, fun _ hrefused => ?_, fun _ hok => nomatch hok⟩
    cases hrefused
    exact Nat.le_of_eq (Nat.add_sub_of_le (Nat.le_of_lt hlater))
  · cases call with
    | claim =>
      simp only [Record.claim]
      split
      · refine ⟨rfl, Nat.le_succ _, fun _ hrefused => ?_, fun _ hok => nomatch hok⟩
        cases hrefused
        simp only
        omega
      next hwithin => exact ⟨rfl, Nat.le_succ _, nofun, fun _ _ => ⟨rfl, Nat.le_of_not_lt hwithin⟩⟩
    | backoff =>
      refine ⟨?_, ?_, nofun, nofun⟩ <;> simp only [Record.backoff] <;> split <;>
        simp
    | check => exact ⟨rfl, Nat.le_refl _, nofun, nofun⟩

section Room

variable {limits} {records : Records} {input : Input}
  {nowMs : Nat} {key : String} {record : Record}

theorem length_le_of_keys (keys : List String)
    (h : ∀ key record, records.get key = some record → key ∈ keys) :
    records.entries.length ≤ keys.length := by
  rw [← List.length_map Prod.fst]
  refine (List.subperm_of_subset records.nodupKeys fun _ hkey => ?_).length_le
  obtain ⟨entry, hentry, rfl⟩ := List.mem_map.mp hkey
  exact h entry.1 entry.2 ((records.get_eq_some_iff _ _).mpr hentry)

theorem length_set_le : (records.set key record).entries.length ≤ records.entries.length + 1 := by
  have hkeys : (records.set key record).entries.length ≤
      (key :: records.entries.map Prod.fst).length := by
    refine length_le_of_keys _ fun _ _ hget => ?_
    rw [get_set] at hget
    split at hget
    next hother => exact hother ▸ List.mem_cons_self
    · exact List.mem_cons_of_mem _ (List.mem_map_of_mem ((records.get_eq_some_iff _ _).mp hget))
  simpa using hkeys

theorem evictRecords_of_room (hroom : records.entries.length ≤ limits.maxRecords) (fuel : Nat) :
    evictRecords limits nowMs fuel records = records := by
  cases fuel with
  | zero => rfl
  | succ => rw [evictRecords, if_neg (Nat.not_lt.mpr hroom)]

theorem liveRecord_eq_some_iff :
    liveRecord nowMs records key = some record ↔
      records.get key = some record ∧ record.live nowMs = true :=
  Option.filter_eq_some_iff

theorem recordFor_of_room (nowMs : Nat)
    (hroom : ∀ next, (records.set key next).entries.length ≤ limits.maxRecords) :
    ∃ held, recordFor limits nowMs records key =
        ((liveRecord nowMs records key).getD (newRecord limits nowMs), held) ∧
      ∀ next, (held.mapWithKey fun other kept => if other = key then next else kept) =
        records.set key next := by
  unfold recordFor
  cases hlive : liveRecord nowMs records key with
  | some =>
    exact ⟨records, rfl, fun next =>
      (records.set_eq_mapWithKey next (liveRecord_eq_some_iff.mp hlive).1).symm⟩
  | none =>
    refine ⟨records.set key (newRecord limits nowMs), ?_, fun next => ?_⟩
    · simp only [crowdedRecords, if_neg (Nat.not_lt.mpr (hroom _)),
        evictRecords_of_room (hroom _), Option.getD_none]
    · rw [← set_eq_mapWithKey _ next (records.get_set_self key _), set_set]

/-- Where there is room a call only changes the record of its key. -/
theorem step_of_room (input : Input)
    (hroom : ∀ next, (records.set input.key next).entries.length ≤ limits.maxRecords) :
    let record := (liveRecord input.nowMs records input.key).getD (newRecord limits input.nowMs)
    let answer := record.answer limits input.nowMs input.call
    (limiter limits).step records input =
      (answer.1, records.set input.key answer.2) := by
  obtain ⟨_, hrecord, hset⟩ := recordFor_of_room input.nowMs hroom
  simp only [limiter, hrecord, hset]

end Room

/-! ## Runs with room for every key -/

/-- The calls of a run go forward in time, find room and replace no block. -/
structure Orderly (keys : List String) (records : Records)
    (inputs : List Input) : Prop where
  room : keys.length ≤ limits.maxRecords
  known : ∀ key record, records.get key = some record → key ∈ keys
  keys : ∀ input ∈ inputs, input.key ∈ keys
  clock : inputs.Pairwise fun earlier later => earlier.nowMs ≤ later.nowMs
  kept : ∀ moment ∈ (limiter limits).history records inputs,
    replacesBlock moment = false

section Orderly

variable {limits} {keys : List String} {records : Records}
  {inputs : List Input} {input : Input}
  {record : Record} {key : String} {time : Nat} {next : LimiterMoment}

theorem Orderly.step (h : Orderly limits keys records (input :: inputs)) :
    ∃ record next, (liveRecord input.nowMs records input.key).getD
        (newRecord limits input.nowMs) = record ∧
      Answers limits record ((limiter limits).moment records input) next ∧
      (record.blocking input.nowMs = true →
        ((limiter limits).step records input).1 ≠ .ok ∧ next = record) ∧
      ((limiter limits).step records input).2 = records.set input.key next ∧
      Orderly limits keys (records.set input.key next) inputs := by
  have hknown : ∀ next key record, (records.set input.key next).get key = some record →
      key ∈ keys := by
    intro next key record hget
    rw [get_set] at hget
    split at hget
    next hkey => exact hkey ▸ h.keys input (.head _)
    · exact h.known key record hget
  have hstep := step_of_room input fun next =>
    Nat.le_trans (length_le_of_keys keys (hknown next)) h.room
  generalize hrecord : (liveRecord input.nowMs records input.key).getD
    (newRecord limits input.nowMs) = record at hstep
  have hopen : input.nowMs ≤ record.resetAt := by
    rw [← hrecord]
    cases hlive : liveRecord input.nowMs records input.key with
    | none => exact Nat.le_add_right _ _
    | some => exact Nat.le_of_lt (of_decide_eq_true (liveRecord_eq_some_iff.mp hlive).2)
  refine ⟨record, (record.answer limits input.nowMs input.call).2, rfl, ?_, ?_, ?_, ?_⟩
  · exact answers limits (congrArg Prod.fst hstep) hopen
  · intro hblocking
    simp [hstep, Record.answer, hblocking]
  · rw [hstep]
  · exact
      { room := h.room
        known := hknown _
        keys := fun later hlater => h.keys later (.tail _ hlater)
        clock := h.clock.of_cons
        kept := fun moment hmoment => h.kept moment (by
          rw [Machine.history_cons, hstep]
          exact .tail _ hmoment) }

theorem Orderly.later (h : Orderly limits keys records (input :: inputs))
    (hnext : next ∈ (limiter limits).history records (input :: inputs)) :
    input.nowMs ≤ next.input.nowMs := by
  rcases List.mem_cons.mp ((limiter limits).input_mem_of_mem_history _ hnext) with
    hsame | hlater
  · exact Nat.le_of_eq (congrArg Input.nowMs hsame.symm)
  · exact List.rel_of_pairwise_cons h.clock hlater

/-- A call takes at most one claim of those that its record has left. -/
theorem Answers.claims_le {left : Record} {later : List LimiterMoment}
    (h : Answers limits record next left)
    (hlater : (later.filter (claimsBefore key time)).length ≤ limits.maxRequests - left.count) :
    ((next :: later).filter (claimsBefore key time)).length ≤
      limits.maxRequests - record.count := by
  have hcount := h.count
  rw [List.filter_cons]
  split
  next hclaims =>
    simp only [claimsBefore, Bool.and_eq_true] at hclaims
    obtain ⟨_, _⟩ := h.claimed (of_decide_eq_true hclaims.1.1.2)
      (of_decide_eq_true hclaims.1.2)
    rw [List.length_cons]
    omega
  · omega

variable (h : Orderly limits keys records inputs)
include h

/-- Until the time to which its record is blocked, no call under a key succeeds. -/
theorem Orderly.refused (hheld : records.get key = some record) (htime : time ≤ record.blockedUntil)
    (hnext : next ∈ (limiter limits).history records inputs) (hkey : next.input.key = key)
    (hnow : next.input.nowMs < time) : next.output ≠ .ok := by
  induction inputs generalizing records with
  | nil => cases hnext
  | cons input _ ih =>
    have hbefore : input.nowMs < time := Nat.lt_of_le_of_lt (h.later hnext) hnow
    obtain ⟨_, _, hanswered, -, hblocked, hafter, hrest⟩ := h.step
    have hkept := h.kept _ (.head _)
    by_cases hsame : input.key = key
    · have hblocking : record.blocking input.nowMs = true :=
        decide_eq_true (Nat.lt_of_lt_of_le hbefore htime)
      have hlive : record.live input.nowMs = true := by
        simpa [replacesBlock, Machine.moment, hsame, hheld, hblocking] using hkept
      rw [hsame, liveRecord_eq_some_iff.mpr ⟨hheld, hlive⟩, Option.getD_some] at hanswered
      subst hanswered
      obtain ⟨hrefused, rfl⟩ := hblocked hblocking
      rcases List.mem_cons.mp hnext with rfl | hnext
      · exact hrefused
      · rw [hafter] at hnext
        exact ih hrest (by rw [hsame, get_set_self]) hnext
    · rcases List.mem_cons.mp hnext with rfl | hnext
      · exact absurd hkey hsame
      · rw [hafter] at hnext
        exact ih hrest ((get_set_of_ne _ _ hsame).trans hheld) hnext

/-- In the window of a record no more claims succeed than it has left. -/
theorem Orderly.claimed (hheld : records.get key = some record) :
    (((limiter limits).history records inputs).filter
      (claimsBefore key record.resetAt)).length ≤ limits.maxRequests - record.count := by
  induction inputs generalizing records record with
  | nil => exact Nat.zero_le _
  | cons input inputs ih =>
    by_cases hover : record.resetAt ≤ input.nowMs
    · have hnone : ∀ next ∈ (limiter limits).history records (input :: inputs),
          ¬ claimsBefore key record.resetAt next := by
        intro next hnext hclaims
        have hlater := h.later hnext
        simp only [claimsBefore, Bool.and_eq_true, decide_eq_true_eq] at hclaims
        omega
      rw [List.filter_eq_nil_iff.mpr hnone]
      exact Nat.zero_le _
    · obtain ⟨_, _, hanswered, hanswers, -, hafter, hrest⟩ := h.step
      rw [Machine.history_cons, hafter]
      by_cases hsame : input.key = key
      · have hlive : record.live input.nowMs = true := decide_eq_true (Nat.lt_of_not_le hover)
        rw [hsame, liveRecord_eq_some_iff.mpr ⟨hheld, hlive⟩, Option.getD_some] at hanswered
        subst hanswered
        have hlater := ih hrest (by rw [hsame, get_set_self])
        rw [hanswers.resetAt] at hlater
        exact hanswers.claims_le hlater
      · rw [List.filter_cons, if_neg (by simp [claimsBefore, Machine.moment, hsame])]
        exact ih hrest ((get_set_of_ne _ _ hsame).trans hheld)

theorem Orderly.keepsPromises {later : List LimiterMoment}
    (hsuffix : next :: later <:+ (limiter limits).history records inputs) :
    KeepsPromises limits next later := by
  induction inputs generalizing records with
  | nil => exact absurd (List.suffix_nil.mp hsuffix) (by simp)
  | cons input _ ih =>
    obtain ⟨_, left, hrecord, hanswers, -, hafter, hrest⟩ := h.step
    rw [Machine.history_cons, hafter, List.suffix_cons_iff] at hsuffix
    rcases hsuffix with hwhole | hsuffix
    · obtain ⟨rfl, rfl⟩ := List.cons.inj hwhole
      constructor
      · intro _ hwaits _ hother hkey hnow
        refine hrest.refused (records.get_set_self _ _) ?_ hother hkey hnow
        rcases hwaits with ⟨retryAfterMs, hrefused, rfl⟩ | ⟨_, hheld, rfl⟩
        · exact hanswers.refused retryAfterMs hrefused
        · rw [Machine.moment, hafter, get_set_self] at hheld
          exact Nat.le_of_eq (congrArg _ (Option.some.inj hheld).symm)
      · intro hopens
        rw [opensWindow, Machine.moment, Option.isNone_iff_eq_none] at hopens
        rw [hopens, Option.getD_none] at hrecord
        subst hrecord
        have hclaimed := hrest.claimed (records.get_set_self input.key left)
        rw [hanswers.resetAt] at hclaimed
        exact hanswers.claims_le hclaimed
    · exact ih hrest hsuffix

end Orderly

/-! ## Any run -/

section Eviction

variable {limits} {records : Records} {input : Input}
  {key : String} {record : Record}

theorem evictCandidate_spec (nowMs : Nat) (hsome : records.entries ≠ []) :
    ∃ evict ∈ records.entries, evictCandidate nowMs records = some evict ∧
      (evict.2.blocking nowMs = true →
        ∀ candidate ∈ records.entries, candidate.2.blocking nowMs = true) := by
  unfold evictCandidate
  obtain ⟨first, rest, hentries⟩ := List.exists_cons_of_ne_nil hsome
  rw [hentries, List.foldl_cons]
  clear hentries hsome
  induction rest generalizing first with
  | nil => simp
  | cons candidate _ ih =>
    rw [List.foldl_cons]
    simp only
    split
    next hbetter =>
      obtain ⟨evict, hmem, heq, hblocking⟩ := ih candidate
      exact ⟨evict, .tail _ hmem, heq, by grind⟩
    next hworse =>
      obtain ⟨evict, _, heq, _⟩ := ih first
      exact ⟨evict, by grind, heq, by grind⟩

variable (hsize : records.entries.length ≤ limits.maxRecords)
include hsize

theorem crowdedRecords_of_full {nowMs : Nat}
    (hfull : limits.maxRecords < (crowdedRecords limits nowMs records key record).entries.length) :
    crowdedRecords limits nowMs records key record = records.set key record := by
  have hset : (records.set key record).entries.length ≤ records.entries.length + 1 := length_set_le
  unfold crowdedRecords at hfull ⊢
  simp only at hfull ⊢
  split
  next hover =>
    rw [if_pos hover] at hfull
    have hlength : (pruneRecords nowMs (records.set key record)).entries.length =
        (records.set key record).entries.length :=
      Nat.le_antisymm (List.length_filter_le _ _) (by omega)
    exact ext_entries (List.filter_eq_self.mpr (List.length_filter_eq_length_iff.mp hlength))
  · rfl

variable (hreplaces : replacesBlock ((limiter limits).moment records input) = false)
include hreplaces

variable (hevicts : evictsNone limits ((limiter limits).moment records input) = false)
include hevicts

/-- To make room for a record no blocking one goes before the others. -/
theorem recordFor_keeps :
    let held := (recordFor limits input.nowMs records input.key).2
    held.entries.length ≤ limits.maxRecords ∧ ∀ key record, records.get key = some record →
      record.blocking input.nowMs = true → held.get key ≠ none := by
  unfold recordFor
  simp only
  cases hlive : liveRecord input.nowMs records input.key with
  | some => exact ⟨hsize, fun key record hget _ hnone => nomatch hget.symm.trans hnone⟩
  | none =>
    have hother : ∀ key record, records.get key = some record →
        record.blocking input.nowMs = true → input.key ≠ key := by
      rintro _ record hget hblocking rfl
      have hdead : record.live input.nowMs = false := by
        by_contra halive
        simp [liveRecord_eq_some_iff.mpr ⟨hget, by simpa using halive⟩] at hlive
      simp [replacesBlock, Machine.moment, hget, hblocking, hdead] at hreplaces
    have hset : ∀ key record, records.get key = some record →
        record.blocking input.nowMs = true →
        (records.set input.key (newRecord limits input.nowMs)).get key = some record :=
      fun key record hget hblocking =>
        (get_set_of_ne _ _ (hother key record hget hblocking)).trans hget
    generalize hcrowded : crowdedRecords limits input.nowMs records input.key
      (newRecord limits input.nowMs) = crowded
    by_cases hfull : limits.maxRecords < crowded.entries.length
    · have hsame := crowdedRecords_of_full hsize (hcrowded ▸ hfull)
      rw [hcrowded] at hsame
      obtain ⟨evict, hmem, hevict, hblocks⟩ := evictCandidate_spec input.nowMs
        (List.ne_nil_of_length_pos (Nat.zero_lt_of_lt hfull))
      have hnamed : evict.1 ≠ "" := by
        intro hempty
        simp [evictsNone, Machine.moment, hlive, hcrowded, hfull, hevict, hempty] at hevicts
      have hless : (crowded.erase evict.1).entries.length < crowded.entries.length :=
        List.length_filter_lt_length_iff_exists.mpr ⟨evict, hmem, by simp⟩
      have hadded : crowded.entries.length ≤ records.entries.length + 1 := hsame ▸ length_set_le
      have hroom : (crowded.erase evict.1).entries.length ≤ limits.maxRecords := by omega
      obtain ⟨_, hfuel⟩ := Nat.exists_eq_succ_of_ne_zero (Nat.ne_zero_of_lt hfull)
      rw [hfuel, evictRecords, if_pos hfull, hevict]
      simp only [if_neg hnamed, evictRecords_of_room hroom]
      refine ⟨hroom, fun key record hget hblocking hnone => ?_⟩
      have hheld : crowded.get key = some record := hsame ▸ hset key record hget hblocking
      -- the new record does not block, so neither does the one that goes
      have hfree : evict.2.blocking input.nowMs ≠ true := by
        intro hevicted
        have hnew := hblocks hevicted (input.key, newRecord limits input.nowMs) (by
          rw [← get_eq_some_iff, hsame, get_set_self])
        simp [newRecord, Record.blocking] at hnew
      by_cases hkey : evict.1 = key
      · rw [← hkey, (crowded.get_eq_some_iff _ _).mpr hmem] at hheld
        exact hfree (Option.some.inj hheld ▸ hblocking)
      · rw [get_erase_of_ne _ hkey, hheld] at hnone
        cases hnone
    · rw [evictRecords_of_room (Nat.le_of_not_lt hfull)]
      refine ⟨Nat.le_of_not_lt hfull, fun key record hget hblocking hnone => ?_⟩
      have hheld := hset key record hget hblocking
      rw [← hcrowded, crowdedRecords] at hnone
      simp only at hnone
      split at hnone
      · rw [pruneRecords,
          (get_filter_eq_some_iff _ _ _ _).mpr ⟨hheld, by simp [hblocking]⟩] at hnone
        cases hnone
      · rw [hheld] at hnone
        cases hnone

theorem keepsRecords_step : KeepsRecords limits ((limiter limits).moment records input) := by
  obtain ⟨hbounded, hkept⟩ := recordFor_keeps hsize hreplaces hevicts
  refine ⟨Nat.le_trans (Nat.le_of_eq (List.length_map _)) hbounded,
    fun key record hget hblocking hnone => ?_⟩
  rw [Machine.moment, limiter, get_mapWithKey, Option.map_eq_none_iff] at hnone
  exact absurd hnone (hkept key record hget hblocking)

end Eviction

/-- In every run that replaces no blocking record, and whose evictions do not end at the empty
key, the limiter keeps its promises. -/
theorem keeps_promises (inputs : List Input)
    (hclock : inputs.Pairwise fun earlier later => earlier.nowMs ≤ later.nowMs)
    (hkept : ∀ moment ∈ (limiter limits).history .empty inputs,
      replacesBlock moment = false ∧ evictsNone limits moment = false) :
    ((inputs.map Input.key).dedup.length ≤ limits.maxRecords →
      ∀ moment later, moment :: later <:+ (limiter limits).history .empty inputs →
        KeepsPromises limits moment later) ∧
      ∀ moment ∈ (limiter limits).history .empty inputs, KeepsRecords limits moment := by
  constructor
  · intro hroom moment later
    exact Orderly.keepsPromises
      { room := hroom
        known := by simp
        keys := fun input hinput => List.mem_dedup.mpr (List.mem_map_of_mem hinput)
        clock := hclock
        kept := fun moment hmoment => (hkept moment hmoment).1 }
  · have hsize : (OrderedMap.empty : Records).entries.length ≤
      limits.maxRecords := Nat.zero_le _
    clear hclock
    revert hsize hkept
    generalize (OrderedMap.empty : Records) = records
    intro hkept hsize
    induction inputs generalizing records with
    | nil => simp
    | cons _ _ ih =>
      rw [Machine.history_cons, List.forall_mem_cons] at hkept ⊢
      have hnow := keepsRecords_step hsize hkept.1.1 hkept.1.2
      exact ⟨hnow, ih _ hkept.2 hnow.bounded⟩

/-- A key that is backed off is refused, and makes room for another when its block is over. -/
theorem keeps_promises_claimed :
    let limits : Limits := ⟨10, 1, 1, 5, 1⟩
    let blocked : List Input := [⟨.backoff, "key", 0⟩, ⟨.claim, "key", 3⟩]
    let evicting := blocked ++ [⟨.claim, "other", 7⟩]
    ((limiter limits).history .empty blocked).map (·.output) = [.ok, .refused 2] ∧
    ((limiter limits).run .empty evicting).get "key" = none ∧
    (∀ moment later, moment :: later <:+ (limiter limits).history .empty blocked →
        KeepsPromises limits moment later) ∧
      ∀ moment ∈ (limiter limits).history .empty evicting, KeepsRecords limits moment :=
  have h := keeps_promises ⟨10, 1, 1, 5, 1⟩ [⟨.backoff, "key", 0⟩, ⟨.claim, "key", 3⟩] (by decide)
    (by decide)
  ⟨by decide, by decide, h.1 (by decide),
    (keeps_promises ⟨10, 1, 1, 5, 1⟩ _ (by decide) (by decide)).2⟩

/-- A block that is longer than the window is over with the window. -/
theorem long_block_forgotten :
    let limits : Limits := ⟨10, 5, 1, 100, 10⟩
    ¬ ∀ moment later, moment :: later <:+ (limiter limits).history .empty
      [⟨.backoff, "key", 0⟩, ⟨.check, "key", 50⟩] → KeepsPromises limits moment later := by
  intro limits h
  exact (h _ _ List.suffix_rfl).refused 100 (.inr ⟨_, rfl, rfl⟩) _ (.head _) rfl (by decide) rfl

end OpenCowork.Gateway.WebhookRateLimiter
