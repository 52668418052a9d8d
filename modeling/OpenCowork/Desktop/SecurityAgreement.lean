import OpenCowork.Desktop.SecurityStores
import OpenCowork.Foundation.RenamedMap

/-! # The stores take the same decisions

What the two stores hold is compared at the time of the latest call: a record that
can no longer make a difference then may be in one of them and not in the other.
Two calls bring them apart for good: a failure of a scope whose record in memory a
mere look has opened or that has lapsed while it was still blocked, and the
acceptance of a claim whose record has been evicted or has become another claim's.
-/

namespace OpenCowork.Desktop

open Foundation OrderedMap

def SecurityCall.time : SecurityCall → Option Nat
  | claimRequest nowMs _ => some nowMs
  | checkAuthBackoff nowMs _ => some nowMs
  | recordAuthFailure nowMs _ _ => some nowMs
  | claimSignature nowMs _ => some nowMs
  | accept _ => none
  | release _ => none

def SecurityCall.isNamed : SecurityCall → Bool
  | claimRequest _ source => source ≠ ""
  | checkAuthBackoff _ scope => scope ≠ ""
  | recordAuthFailure _ scope source => scope ≠ "" && source ≠ ""
  | claimSignature _ key => key ≠ ""
  | accept _ => true
  | release _ => true

def SecurityCall.signatureKey : SecurityCall → Option String
  | claimSignature _ key => some key
  | _ => none

/-- The calls that part the stores, at a time from `clock` on. -/
def partsStores (clock : Nat) (store : InMemory.Store) : SecurityCall → Bool
  | .recordAuthFailure nowMs scope _ =>
    (store.authFailureByScope.get scope).any fun record =>
      if nowMs - record.authWindowStartedAt > webhookAuthFailureWindowMs then
        decide (record.blockedUntil ≤ nowMs) && decide (record.blockedUntil ≠ 0)
      else record.authFailureCount = 0
  | .accept claim =>
    match store.signatures.claims[claim]? with
    | some ⟨key, claimedAt, .active⟩ =>
      match store.signatures.seen.get key with
      | some signature => decide (signature.seenAt ≠ claimedAt)
      | none => decide (clock ≤ claimedAt + webhookSignatureReplayWindowMs)
    | _ => false
  | _ => false

section Rates

/-- The two stores count the same in every window that is still open. -/
def RatesAgree (clock : Nat) (memory database : OrderedMap String WebhookRateRecord) : Prop :=
  ∀ source record, clock ≤ record.windowStartedAt + webhookRequestWindowMs →
    (memory.get source = some record ↔ database.get source = some record)

variable {clock nowMs : Nat} {memory database : OrderedMap String WebhookRateRecord}
  (h : RatesAgree clock memory database) {source : String}
include h

theorem RatesAgree.later (hclock : clock ≤ nowMs) : RatesAgree nowMs memory database :=
  fun source record hopen => h source record (by omega)

/-- The windows that are still open. -/
def openRates (nowMs : Nat) (rates : OrderedMap String WebhookRateRecord) :
    OrderedMap String WebhookRateRecord :=
  rates.filter fun _ record => !decide (nowMs - record.windowStartedAt > webhookRequestWindowMs)

omit h in
theorem get_openRates {rates : OrderedMap String WebhookRateRecord}
    {record : WebhookRateRecord} : (openRates nowMs rates).get source = some record ↔
      rates.get source = some record ∧
        nowMs ≤ record.windowStartedAt + webhookRequestWindowMs := by
  rw [openRates, get_filter_eq_some_iff]
  simp only [Bool.not_eq_true', decide_eq_false_iff_not]
  exact and_congr_right fun _ => by omega

theorem RatesAgree.openRates_eq (hclock : clock ≤ nowMs) (source : String) :
    (openRates nowMs memory).get source = (openRates nowMs database).get source := by
  ext record
  rw [get_openRates, get_openRates]
  constructor
  · rintro ⟨hget, hopen⟩
    exact ⟨(h source record (by omega)).mp hget, hopen⟩
  · rintro ⟨hget, hopen⟩
    exact ⟨(h source record (by omega)).mpr hget, hopen⟩

theorem RatesAgree.prune (hclock : clock ≤ nowMs) :
    RatesAgree nowMs (openRates nowMs memory) database := by
  intro source record hopen
  rw [get_openRates, h source record (by omega)]
  exact ⟨fun hget => hget.1, fun hget => ⟨hget, hopen⟩⟩

omit h

/-- The record after one more request. -/
def nextRate (nowMs : Nat) : Option WebhookRateRecord → WebhookRateRecord
  | none => ⟨nowMs, 1⟩
  | some record => { record with count := record.count + 1 }

theorem InMemory.claimRequest_eq (source : String) (nowMs limit : Nat) (store : InMemory.Store) :
    let next := nextRate nowMs ((openRates nowMs store.rateBySource).get source)
    let pruned := InMemory.pruneRateRecords nowMs webhookRequestWindowMs store
    InMemory.claimRequest source nowMs webhookRequestWindowMs limit store =
      (decide (next.count ≤ limit), { pruned with
        rateBySource := (openRates nowMs store.rateBySource).set source next }) := by
  unfold InMemory.claimRequest InMemory.rateRecordForSource
  change (decide (_ ≤ limit), _) = _
  cases hget : (openRates nowMs store.rateBySource).get source with
  | none =>
    have hpruned : (InMemory.pruneRateRecords nowMs webhookRequestWindowMs store).rateBySource.get
        source = none := hget
    simp only [hpruned, Option.getD_none, nextRate, Nat.sub_self]
    rfl
  | some record =>
    have hpruned : (InMemory.pruneRateRecords nowMs webhookRequestWindowMs store).rateBySource.get
        source = some record := hget
    have hopen := (get_openRates.mp hget).2
    rw [hpruned, Option.getD_some, if_neg (by omega)]
    rfl

theorem Sqlite.claimRequest_eq (hsource : source ≠ "") (nowMs limit : Nat) (store : Sqlite.Store) :
    let next := nextRate nowMs ((openRates nowMs store.rateLimits).get source)
    Sqlite.claimRequest source nowMs webhookRequestWindowMs limit store =
      (decide (next.count ≤ limit), { store with
        rateLimits := (openRates nowMs store.rateLimits).set source next }) := by
  unfold Sqlite.claimRequest Sqlite.orUnknown
  rw [if_neg hsource]
  dsimp only
  cases hget : (openRates nowMs store.rateLimits).get source with
  | none =>
    unfold openRates at hget
    rw [hget]
    rfl
  | some record =>
    have hopen := (get_openRates.mp hget).2
    unfold openRates at hget
    have hkept : ¬ nowMs - record.windowStartedAt > webhookRequestWindowMs := by omega
    simp only [hget, if_neg hkept]
    rfl

theorem RatesAgree.set (h : ∀ source, memory.get source = database.get source) (source : String)
    (record : WebhookRateRecord) :
    RatesAgree nowMs (memory.set source record) (database.set source record) := by
  intro _ _ _
  rw [get_set, get_set, h]

end Rates

section Failures

/-- A record that still blocks its scope or counts its failures. -/
def inForce (nowMs : Nat) (record : WebhookAuthFailureRecord) : Prop :=
  nowMs < record.blockedUntil ∨ nowMs ≤ record.authWindowStartedAt + webhookAuthFailureWindowMs

/-- The two stores agree on every record in force that a failure has made; a record in
memory that no failure has made blocks nothing. -/
structure FailuresAgree (clock : Nat) (memory : OrderedMap String WebhookAuthFailureRecord)
    (database : OrderedMap String Sqlite.AuthFailureRow) : Prop where
  same : ∀ scope record, inForce clock record →
    (memory.get scope = some record ∧ record.authFailureCount ≠ 0 ↔
      (database.get scope).map Sqlite.AuthFailureRow.record = some record)
  looked : ∀ scope record, memory.get scope = some record → record.authFailureCount = 0 →
    record.blockedUntil = 0

variable {record : WebhookAuthFailureRecord}

theorem inForce.earlier {clock nowMs : Nat} (h : inForce nowMs record)
    (hclock : clock ≤ nowMs) : inForce clock record := by
  unfold inForce at h ⊢
  omega

variable {clock nowMs : Nat} {memory : OrderedMap String WebhookAuthFailureRecord}
  {database : OrderedMap String Sqlite.AuthFailureRow} {store : InMemory.Store}
  {other : Sqlite.Store} {scope source : String}

theorem FailuresAgree.later (h : FailuresAgree clock memory database) (hclock : clock ≤ nowMs) :
    FailuresAgree nowMs memory database :=
  ⟨fun scope record hforce => h.same scope record (hforce.earlier hclock), h.looked⟩

def openFailures (nowMs : Nat) (failures : OrderedMap String WebhookAuthFailureRecord) :
    OrderedMap String WebhookAuthFailureRecord :=
  failures.filter fun _ record => !decide (nowMs - record.authWindowStartedAt >
    webhookAuthFailureWindowMs ∧ record.blockedUntil ≤ nowMs)

theorem get_openFailures {failures : OrderedMap String WebhookAuthFailureRecord}
    : (openFailures nowMs failures).get scope = some record ↔
      failures.get scope = some record ∧ inForce nowMs record := by
  rw [openFailures, get_filter_eq_some_iff]
  simp only [Bool.not_eq_true', decide_eq_false_iff_not]
  refine and_congr_right fun _ => ?_
  unfold inForce
  omega

variable (h : FailuresAgree clock memory database)
include h

theorem FailuresAgree.prune (hclock : clock ≤ nowMs) :
    FailuresAgree nowMs (openFailures nowMs memory) database := by
  constructor
  · intro scope record hforce
    rw [get_openFailures, ← h.same scope record (hforce.earlier hclock)]
    exact ⟨fun hget => ⟨hget.1.1, hget.2⟩, fun hget => ⟨⟨hget.1, hforce⟩, hget.2⟩⟩
  · intro scope record hget
    exact h.looked scope record (get_openFailures.mp hget).1

theorem FailuresAgree.look (scope : String) (time : Nat) :
    FailuresAgree clock (memory.set scope ((memory.get scope).getD ⟨time, 0, 0⟩)) database := by
  cases hget : memory.get scope with
  | some =>
    rw [Option.getD_some, set_get_self memory hget]
    exact h
  | none =>
    rw [Option.getD_none]
    constructor
    · intro other record hforce
      rw [← h.same other record hforce, get_set]
      split
      next heq =>
        subst heq
        rw [hget]
        constructor
        · rintro ⟨hfresh, hcount⟩
          cases hfresh
          exact absurd rfl hcount
        · rintro ⟨hnone, -⟩
          cases hnone
      next => exact Iff.rfl
    · intro other record hother hcount
      rw [get_set] at hother
      split at hother
      · cases hother
        rfl
      · exact h.looked other record hother hcount

theorem FailuresAgree.blocked_iff (scope : String) :
    (∃ record, memory.get scope = some record ∧ clock < record.blockedUntil) ↔
      ∃ row, database.get scope = some row ∧ clock < row.record.blockedUntil := by
  constructor
  · rintro ⟨record, hget, hblocked⟩
    have hcount : record.authFailureCount ≠ 0 := by
      intro hzero
      have := h.looked scope record hget hzero
      omega
    obtain ⟨row, hrow, rfl⟩ := Option.map_eq_some_iff.mp
      ((h.same scope record (.inl hblocked)).mp ⟨hget, hcount⟩)
    exact ⟨row, hrow, hblocked⟩
  · rintro ⟨row, hrow, hblocked⟩
    have hsame := (h.same scope row.record (.inl hblocked)).mpr (by rw [hrow]; rfl)
    exact ⟨row.record, hsame.1, hblocked⟩

omit h

theorem FailuresAgree.checkAuthBackoff
    (h : FailuresAgree clock store.authFailureByScope other.authFailures) (hclock : clock ≤ nowMs)
    (hscope : scope ≠ "") :
    (InMemory.checkAuthBackoff scope nowMs store).1 =
        (Sqlite.checkAuthBackoff scope nowMs other).1 ∧
      FailuresAgree nowMs (InMemory.checkAuthBackoff scope nowMs store).2.authFailureByScope
        (Sqlite.checkAuthBackoff scope nowMs other).2.authFailures := by
  have hpruned := h.prune hclock
  have hdatabase : (Sqlite.checkAuthBackoff scope nowMs other).2 = other := by
    unfold Sqlite.checkAuthBackoff
    split <;> rfl
  rw [hdatabase]
  refine ⟨?_, hpruned.look scope nowMs⟩
  have hmemory : (InMemory.checkAuthBackoff scope nowMs store).1 = true ↔
      ¬ ∃ record, (openFailures nowMs store.authFailureByScope).get scope = some record ∧
        nowMs < record.blockedUntil := by
    change decide ((((openFailures nowMs store.authFailureByScope).get scope).getD
      ⟨nowMs, 0, 0⟩).blockedUntil ≤ nowMs) = true ↔ _
    rw [decide_eq_true_eq]
    cases (openFailures nowMs store.authFailureByScope).get scope <;> simp
  have hrows : (Sqlite.checkAuthBackoff scope nowMs other).1 = true ↔
      ¬ ∃ row, other.authFailures.get scope = some row ∧ nowMs < row.record.blockedUntil := by
    unfold Sqlite.checkAuthBackoff Sqlite.orUnknown
    rw [if_neg hscope]
    cases other.authFailures.get scope <;> simp
  rw [Bool.eq_iff_iff, hmemory, hrows, hpruned.blocked_iff scope]

def nextFailure (nowMs : Nat) (current : WebhookAuthFailureRecord) : WebhookAuthFailureRecord :=
  let count := current.authFailureCount + 1
  { authWindowStartedAt := current.authWindowStartedAt
    authFailureCount := count
    blockedUntil := if count ≥ webhookAuthFailureLimit then
        max current.blockedUntil (nowMs + webhookAuthBackoffMs) else current.blockedUntil }

/-- A record whose window is over starts a new one and keeps its block. -/
def reopened (nowMs : Nat) (record : WebhookAuthFailureRecord) : WebhookAuthFailureRecord :=
  if nowMs - record.authWindowStartedAt > webhookAuthFailureWindowMs then
    ⟨nowMs, 0, record.blockedUntil⟩
  else record

theorem InMemory.recordAuthFailure_eq (scope : String) (nowMs : Nat) (store : InMemory.Store) :
    let next := nextFailure nowMs
      (reopened nowMs ((store.authFailureByScope.get scope).getD ⟨nowMs, 0, 0⟩))
    InMemory.recordAuthFailure scope nowMs webhookAuthFailureWindowMs webhookAuthFailureLimit
      webhookAuthBackoffMs store = (next, { store with
        authFailureByScope := store.authFailureByScope.set scope next }) := by
  have hnext : ∀ record : WebhookAuthFailureRecord,
      (if record.authFailureCount + 1 ≥ webhookAuthFailureLimit then
        { record with
          authFailureCount := record.authFailureCount + 1
          blockedUntil := max record.blockedUntil (nowMs + webhookAuthBackoffMs) }
      else { record with authFailureCount := record.authFailureCount + 1 }) =
        nextFailure nowMs record := by
    intro record
    unfold nextFailure
    dsimp only
    split <;> rfl
  unfold InMemory.recordAuthFailure InMemory.authFailureRecordForScope
  dsimp only
  rw [hnext]
  rfl

theorem Sqlite.recordAuthFailure_eq (hscope : scope ≠ "") (source : String)
    (nowMs : Nat) (store : Sqlite.Store) :
    let kept := store.authFailures.filter fun _ row =>
      !decide (row.record.blockedUntil ≤ nowMs ∧
        nowMs - row.record.authWindowStartedAt > webhookAuthFailureWindowMs)
    let next := nextFailure nowMs
      (reopened nowMs (((kept.get scope).map AuthFailureRow.record).getD ⟨nowMs, 0, 0⟩))
    Sqlite.recordAuthFailure scope source nowMs webhookAuthFailureWindowMs webhookAuthFailureLimit
      webhookAuthBackoffMs store = (next, { store with
        authFailures := kept.set scope ⟨orUnknown source, next⟩ }) := by
  unfold Sqlite.recordAuthFailure
  have hname : orUnknown scope = scope := if_neg hscope
  dsimp only
  rw [hname]
  generalize store.authFailures.filter _ = kept
  cases hget : kept.get scope with
  | none => simp [nextFailure, reopened]
  | some =>
    simp only [Option.map_some, Option.getD_some, reduceCtorEq, false_or]
    unfold nextFailure reopened
    split <;> simp_all

def openRows (nowMs : Nat) (rows : OrderedMap String Sqlite.AuthFailureRow) :
    OrderedMap String Sqlite.AuthFailureRow :=
  rows.filter fun _ row => !decide (row.record.blockedUntil ≤ nowMs ∧
    nowMs - row.record.authWindowStartedAt > webhookAuthFailureWindowMs)

theorem get_openRows {rows : OrderedMap String Sqlite.AuthFailureRow}
    {row : Sqlite.AuthFailureRow} : (openRows nowMs rows).get scope = some row ↔
      rows.get scope = some row ∧ inForce nowMs row.record := by
  rw [openRows, get_filter_eq_some_iff]
  simp only [Bool.not_eq_true', decide_eq_false_iff_not]
  refine and_congr_right fun _ => ?_
  unfold inForce
  omega

theorem FailuresAgree.pruneRows (h : FailuresAgree nowMs memory database) :
    FailuresAgree nowMs memory (openRows nowMs database) := by
  refine ⟨?_, h.looked⟩
  intro scope record hforce
  rw [h.same scope record hforce]
  constructor
  · intro hget
    obtain ⟨row, hrow, rfl⟩ := Option.map_eq_some_iff.mp hget
    rw [get_openRows.mpr ⟨hrow, hforce⟩]
    rfl
  · intro hget
    obtain ⟨_, hrow, rfl⟩ := Option.map_eq_some_iff.mp hget
    rw [(get_openRows.mp hrow).1]
    rfl

theorem FailuresAgree.reopened_eq (h : FailuresAgree nowMs store.authFailureByScope database)
    (hquiet : partsStores clock store (.recordAuthFailure nowMs scope source) = false) :
    reopened nowMs ((store.authFailureByScope.get scope).getD ⟨nowMs, 0, 0⟩) =
      reopened nowMs ((((openRows nowMs database).get scope).map
        Sqlite.AuthFailureRow.record).getD ⟨nowMs, 0, 0⟩) := by
  have hopen := h.pruneRows
  cases hrow : (openRows nowMs database).get scope with
  | some row =>
    have hforce := (get_openRows.mp hrow).2
    have hsame := (hopen.same scope row.record hforce).mpr (by rw [hrow]; rfl)
    rw [hsame.1]
    rfl
  | none =>
    cases hget : store.authFailureByScope.get scope with
    | none => rfl
    | some record =>
      rw [partsStores, hget, Option.any_some] at hquiet
      have hlapsed : inForce nowMs record → record.authFailureCount = 0 := by
        intro hforce
        by_contra hcount
        have hmap := (hopen.same scope record hforce).mp ⟨hget, hcount⟩
        rw [hrow] at hmap
        cases hmap
      have hover : nowMs - record.authWindowStartedAt > webhookAuthFailureWindowMs := by
        by_contra hwindow
        rw [if_neg hwindow, decide_eq_false_iff_not] at hquiet
        exact hquiet (hlapsed (.inr (by omega)))
      have hblock : record.blockedUntil = 0 := by
        rw [if_pos hover, Bool.and_eq_false_iff, decide_eq_false_iff_not,
          decide_eq_false_iff_not, not_not, Nat.not_le] at hquiet
        rcases hquiet with hblocked | hzero
        · exact h.looked scope record hget (hlapsed (.inl hblocked))
        · exact hzero
      rw [Option.getD_some, reopened, if_pos hover, hblock, Option.map_none, Option.getD_none,
        reopened, if_neg (by simp)]

theorem FailuresAgree.recordAuthFailure
    (h : FailuresAgree clock store.authFailureByScope other.authFailures) (hclock : clock ≤ nowMs)
    (hscope : scope ≠ "")
    (hquiet : partsStores clock store (.recordAuthFailure nowMs scope source) = false) :
    (InMemory.recordAuthFailure scope nowMs webhookAuthFailureWindowMs webhookAuthFailureLimit
        webhookAuthBackoffMs store).1 =
      (Sqlite.recordAuthFailure scope source nowMs webhookAuthFailureWindowMs
        webhookAuthFailureLimit webhookAuthBackoffMs other).1 ∧
    FailuresAgree nowMs
      (InMemory.recordAuthFailure scope nowMs webhookAuthFailureWindowMs webhookAuthFailureLimit
        webhookAuthBackoffMs store).2.authFailureByScope
      (Sqlite.recordAuthFailure scope source nowMs webhookAuthFailureWindowMs
        webhookAuthFailureLimit webhookAuthBackoffMs other).2.authFailures := by
  have hnow := h.later hclock
  have hnext := congrArg (nextFailure nowMs) (hnow.reopened_eq hquiet)
  rw [InMemory.recordAuthFailure_eq, Sqlite.recordAuthFailure_eq hscope]
  refine ⟨hnext, ?_⟩
  change FailuresAgree nowMs (store.authFailureByScope.set scope _)
    ((openRows nowMs other.authFailures).set scope ⟨_, _⟩)
  rw [hnext]
  have hopen := hnow.pruneRows
  constructor
  · intro key record hforce
    rw [get_set, get_set]
    split
    · constructor
      · rintro ⟨hrecord, -⟩
        exact hrecord
      · intro hrecord
        refine ⟨hrecord, ?_⟩
        cases hrecord
        exact Nat.succ_ne_zero _
    · exact hopen.same key record hforce
  · intro key record hget hcount
    rw [get_set] at hget
    split at hget
    · cases hget
      cases hcount
    · exact hnow.looked key record hget hcount

end Failures

section Signatures

theorem InMemory.dropOldest_eq_drop (cacheLimit : Nat)
    (entries : List (String × SeenWebhookSignature)) :
    InMemory.dropOldest cacheLimit entries = entries.drop (entries.length - cacheLimit) := by
  induction entries with
  | nil => rw [List.drop_nil, InMemory.dropOldest]
  | cons _ _ ih =>
    rw [InMemory.dropOldest]
    split
    next hsize => rw [ih, List.length_cons, Nat.sub_add_comm (by omega), List.drop_succ_cons]
    next hsize => rw [List.length_cons, Nat.sub_eq_zero_of_le (by omega), List.drop_zero]

theorem filter_keys_take {ν : Type} (map : OrderedMap String ν) (count : Nat) :
    map.entries.filter (fun entry => !decide (entry.1 ∈ (map.entries.take count).map Prod.fst)) =
      map.entries.drop count := by
  have hnodup := map.nodupKeys
  generalize map.entries = entries at hnodup
  obtain ⟨first, rest, hfirst, hrest⟩ : ∃ first rest, entries.take count = first ∧
      entries.drop count = rest := ⟨_, _, rfl, rfl⟩
  rw [hfirst, hrest]
  rw [← List.take_append_drop count entries, hfirst, hrest, List.map_append,
    List.nodup_append] at hnodup
  rw [← List.take_append_drop count entries, hfirst, hrest, List.filter_append]
  have hnone : first.filter (fun entry => !decide (entry.1 ∈ first.map Prod.fst)) = [] := by
    rw [List.filter_eq_nil_iff]
    intro entry hmem
    simp [List.mem_map_of_mem hmem]
  have hall : rest.filter (fun entry => !decide (entry.1 ∈ first.map Prod.fst)) = rest := by
    rw [List.filter_eq_self]
    intro entry hmem
    have hne : entry.1 ∉ first.map Prod.fst := fun hin =>
      hnodup.2.2 _ hin _ (List.mem_map_of_mem hmem) rfl
    simp [hne]
  rw [hnone, hall, List.nil_append]

def live (clock : Nat) (seen : SeenSignatures) : SeenSignatures :=
  unexpired clock webhookSignatureReplayWindowMs seen

def isLive (clock : Nat) (signature : SeenWebhookSignature) : Bool :=
  !decide (clock - signature.seenAt > webhookSignatureReplayWindowMs)

theorem isLive_iff {clock : Nat} {signature : SeenWebhookSignature} :
    isLive clock signature = true ↔
      clock ≤ signature.seenAt + webhookSignatureReplayWindowMs := by
  unfold isLive
  rw [Bool.not_eq_true', decide_eq_false_iff_not]
  omega

theorem live_eq_view (clock : Nat) (seen : SeenSignatures) :
    live clock seen = OrderedMap.view (isLive clock) seen := rfl

theorem live_live {clock nowMs : Nat} (hclock : clock ≤ nowMs) (seen : SeenSignatures) :
    live nowMs (live clock seen) = live nowMs seen := by
  apply ext_entries
  change ((seen.entries.filter _).filter _) = seen.entries.filter _
  rw [List.filter_filter]
  apply List.filter_congr
  intro entry _
  have himp : isLive nowMs entry.2 = true → isLive clock entry.2 = true := by
    rw [isLive_iff, isLive_iff]
    omega
  change (isLive nowMs entry.2 && isLive clock entry.2) = isLive nowMs entry.2
  cases hnow : isLive nowMs entry.2 with
  | false => rfl
  | true => rw [himp hnow]; rfl

variable {hash : String → String} {used : String → Prop}

variable (hash used) in
/-- The two stores have handed out the same claims, and what they remember that can
still be seen is the same, in the order of time, all of it from before `bound`. -/
structure SignaturesAgree (clock bound : Nat) (memory database : SignatureState) : Prop where
  claims : memory.claims = database.claims
  renamed : OrderedMap.Renamed hash (live clock memory.seen) (live clock database.seen)
  sorted : (live clock memory.seen).entries.Pairwise fun first second =>
    first.2.seenAt < second.2.seenAt
  past : ∀ entry ∈ (live clock memory.seen).entries, entry.2.seenAt < bound
  known : ∀ key signature, memory.seen.get key = some signature → used key
  claimsKnown : ∀ claim ∈ memory.claims, used claim.key

variable {clock bound nowMs : Nat} {memory database : SignatureState}
  (h : SignaturesAgree hash used clock bound memory database)
include h

theorem SignaturesAgree.later
    (hclock : clock ≤ nowMs) : SignaturesAgree hash used nowMs bound memory database := by
  have hsublist : (live nowMs memory.seen).entries.Sublist (live clock memory.seen).entries := by
    rw [← live_live hclock]
    exact List.filter_sublist
  refine ⟨h.claims, ?_, h.sorted.sublist hsublist, ?_, h.known, h.claimsKnown⟩
  · rw [← live_live hclock, ← live_live hclock database.seen]
    exact h.renamed.filter (isLive nowMs)
  · intro entry hmem
    exact h.past entry (hsublist.subset hmem)

theorem SignaturesAgree.mono {later : Nat} (hbound : bound ≤ later) :
    SignaturesAgree hash used clock later memory database :=
  ⟨h.claims, h.renamed, h.sorted, fun entry hmem => lt_of_lt_of_le (h.past entry hmem) hbound,
    h.known, h.claimsKnown⟩

omit h

variable (hinjective : ∀ first second, used first → used second → hash first = hash second →
  first = second)
variable {store : SignatureStore} {seen : SeenSignatures} {key : String}
variable {seenAt : Nat} {signature : SeenWebhookSignature} {rows : SeenSignatures}

include hinjective in
theorem separates (hknown : ∀ other signature, seen.get other = some signature → used other)
    (hkey : used key) : OrderedMap.Separates hash seen key := by
  rintro ⟨other, signature⟩ hmem heq
  exact hinjective other key (hknown other signature ((get_eq_some_iff _ _ _).mpr hmem)) hkey heq

theorem get_live :
    (live clock seen).get key = some signature ↔
      seen.get key = some signature ∧ isLive clock signature = true :=
  get_view _ _

variable (h : SignaturesAgree hash used clock bound memory database)
include h

include hinjective in
theorem SignaturesAgree.get (hkey : used key) :
    (live clock database.seen).get (hash key) = (live clock memory.seen).get key :=
  h.renamed.get (separates hinjective (fun other signature hget =>
    h.known other signature (get_live.mp hget).1) hkey)

omit h in
theorem SignaturesAgree.prune (h : SignaturesAgree hash used nowMs bound memory database) :
    OrderedMap.Renamed hash
      (InMemory.pruneSeenSignatures nowMs webhookSignatureReplayWindowMs
        webhookSignatureReplayCacheLimit memory.seen)
      (Sqlite.pruneWorkflowWebhookSignatures nowMs webhookSignatureReplayWindowMs
        webhookSignatureReplayCacheLimit database.seen) := by
  have hsorted : (live nowMs database.seen).entries.Pairwise fun first second =>
      first.2.seenAt ≤ second.2.seenAt := by
    rw [h.renamed, List.pairwise_map]
    exact h.sorted.imp fun hlt => Nat.le_of_lt hlt
  unfold OrderedMap.Renamed
  change (live nowMs database.seen).entries.filter _ =
    (InMemory.dropOldest _ (live nowMs memory.seen).entries).map _
  rw [InMemory.dropOldest_eq_drop, List.map_drop, ← h.renamed]
  change (live nowMs database.seen).entries.filter (fun entry => !decide (entry.1 ∈
    (((live nowMs database.seen).entries.insertionSort fun first second =>
      first.2.seenAt ≤ second.2.seenAt).take ((live nowMs database.seen).entries.length -
        webhookSignatureReplayCacheLimit)).map Prod.fst)) = _
  rw [hsorted.insertionSort_eq, filter_keys_take]
  rw [h.renamed, List.length_map]

omit h in
theorem live_of_sublist {kept : SeenSignatures}
    (hkept : kept.entries.Sublist (live nowMs seen).entries) : live nowMs kept = kept := by
  apply ext_entries
  change kept.entries.filter _ = kept.entries
  rw [List.filter_eq_self]
  intro _ hmem
  exact (List.mem_filter.mp (hkept.subset hmem)).2

omit h in
theorem live_pruneSeenSignatures (seen : SeenSignatures) :
    live nowMs (InMemory.pruneSeenSignatures nowMs webhookSignatureReplayWindowMs
        webhookSignatureReplayCacheLimit seen) =
      InMemory.pruneSeenSignatures nowMs webhookSignatureReplayWindowMs
        webhookSignatureReplayCacheLimit seen :=
  live_of_sublist (InMemory.dropOldest_sublist _ _)

omit h in
theorem live_pruneWorkflowWebhookSignatures (seen : SeenSignatures) :
    live nowMs (Sqlite.pruneWorkflowWebhookSignatures nowMs webhookSignatureReplayWindowMs
        webhookSignatureReplayCacheLimit seen) =
      Sqlite.pruneWorkflowWebhookSignatures nowMs webhookSignatureReplayWindowMs
        webhookSignatureReplayCacheLimit seen :=
  live_of_sublist List.filter_sublist

/-- Both stores drop the same of what they remember. -/
theorem SignaturesAgree.pruned (hclock : clock ≤ nowMs) (hbound : bound ≤ nowMs) :
    SignaturesAgree hash used nowMs nowMs
      ⟨InMemory.pruneSeenSignatures nowMs webhookSignatureReplayWindowMs
        webhookSignatureReplayCacheLimit memory.seen, memory.claims⟩
      ⟨Sqlite.pruneWorkflowWebhookSignatures nowMs webhookSignatureReplayWindowMs
        webhookSignatureReplayCacheLimit database.seen, database.claims⟩ := by
  have hnow := h.later hclock
  have hkept : (InMemory.pruneSeenSignatures nowMs webhookSignatureReplayWindowMs
      webhookSignatureReplayCacheLimit memory.seen).entries.Sublist
        (live nowMs memory.seen).entries := InMemory.dropOldest_sublist _ _
  refine ⟨h.claims, ?_, ?_, ?_, ?_, h.claimsKnown⟩
  · dsimp only
    rw [live_pruneSeenSignatures, live_pruneWorkflowWebhookSignatures]
    exact hnow.prune
  · dsimp only
    rw [live_pruneSeenSignatures]
    exact hnow.sorted.sublist hkept
  · dsimp only
    rw [live_pruneSeenSignatures]
    exact fun entry hmem => lt_of_lt_of_le (hnow.past entry (hkept.subset hmem)) hbound
  · intro other signature hget
    have hmem := hkept.subset ((get_eq_some_iff _ _ _).mp hget)
    exact h.known other signature (get_live.mp ((get_eq_some_iff _ _ _).mpr hmem)).1

omit h in
include hinjective in
/-- Both stores remember a signature that they have not seen. -/
theorem SignaturesAgree.added (h : SignaturesAgree hash used nowMs nowMs memory database)
    (hmemory : live nowMs memory.seen = memory.seen)
    (hdatabase : live nowMs database.seen = database.seen) (hkey : used key)
    (hfree : memory.seen.get key = none) (claim : ClaimState) :
    SignaturesAgree hash used nowMs (nowMs + 1)
      ⟨memory.seen.set key ⟨nowMs, .pending⟩, memory.claims ++ [⟨key, nowMs, claim⟩]⟩
      ⟨database.seen.set (hash key) ⟨nowMs, .pending⟩,
        database.claims ++ [⟨key, nowMs, claim⟩]⟩ := by
  have hfresh : isLive nowMs ⟨nowMs, .pending⟩ = true := isLive_iff.mpr (by simp)
  have hget := h.get hinjective hkey
  rw [hmemory, hdatabase, hfree] at hget
  have hkept : live nowMs (memory.seen.set key ⟨nowMs, .pending⟩) =
      memory.seen.set key ⟨nowMs, .pending⟩ := by
    rw [live_eq_view, view_set_of_inside _ _ hfresh (by simp [hfree]), ← live_eq_view, hmemory]
  have hrows : live nowMs (database.seen.set (hash key) ⟨nowMs, .pending⟩) =
      database.seen.set (hash key) ⟨nowMs, .pending⟩ := by
    rw [live_eq_view, view_set_of_inside _ _ hfresh (by simp [hget]), ← live_eq_view, hdatabase]
  have hpast := h.past
  have hsorted := h.sorted
  rw [hmemory] at hpast hsorted
  constructor
  · change memory.claims ++ _ = database.claims ++ _
    rw [h.claims]
  · dsimp only
    rw [hkept, hrows, ← hmemory, ← hdatabase]
    exact h.renamed.set (separates hinjective
      (fun other signature hget => h.known other signature (hmemory ▸ hget)) hkey) _
  · dsimp only
    rw [hkept, entries_set_of_free _ hfree, List.pairwise_append]
    refine ⟨hsorted, List.pairwise_singleton _ _, ?_⟩
    intro entry hmem _ hlast
    rw [List.mem_singleton.mp hlast]
    exact hpast entry hmem
  · dsimp only
    rw [hkept, entries_set_of_free _ hfree]
    intro entry hmem
    rcases List.mem_append.mp hmem with hold | hlast
    · exact Nat.lt_succ_of_lt (hpast entry hold)
    · rw [List.mem_singleton.mp hlast]
      exact Nat.lt_succ_self nowMs
  · intro other signature hother
    dsimp only at hother
    rw [get_set] at hother
    split at hother
    next heq => exact heq ▸ hkey
    next => exact h.known other signature hother
  · intro claim hmem
    rcases List.mem_append.mp hmem with hold | hlast
    · exact h.claimsKnown claim hold
    · rw [List.mem_singleton.mp hlast]
      exact hkey

include hinjective in
theorem SignaturesAgree.claimSignature (hclock : clock ≤ nowMs) (hbound : bound ≤ nowMs)
    (hkey : used key) :
    (memory.claimSignature InMemory.signatures key nowMs webhookSignatureReplayWindowMs
        webhookSignatureReplayCacheLimit).1 =
      (database.claimSignature (Sqlite.signatures hash) key nowMs webhookSignatureReplayWindowMs
        webhookSignatureReplayCacheLimit).1 ∧
    SignaturesAgree hash used nowMs (nowMs + 1)
      (memory.claimSignature InMemory.signatures key nowMs webhookSignatureReplayWindowMs
        webhookSignatureReplayCacheLimit).2
      (database.claimSignature (Sqlite.signatures hash) key nowMs webhookSignatureReplayWindowMs
        webhookSignatureReplayCacheLimit).2 := by
  have hpruned := h.pruned hclock hbound
  have hget := hpruned.get hinjective hkey
  dsimp only at hget
  rw [live_pruneSeenSignatures, live_pruneWorkflowWebhookSignatures] at hget
  cases hseen : (InMemory.pruneSeenSignatures nowMs webhookSignatureReplayWindowMs
      webhookSignatureReplayCacheLimit memory.seen).get key with
  | some signature =>
    rw [hseen] at hget
    rw [SignatureState.claimSignature_of_seen InMemory.signatures hseen,
      SignatureState.claimSignature_of_seen (Sqlite.signatures hash) hget]
    exact ⟨rfl, hpruned.mono (Nat.le_succ nowMs)⟩
  | none =>
    rw [hseen] at hget
    rw [SignatureState.claimSignature_of_free InMemory.signatures hseen,
      SignatureState.claimSignature_of_free (Sqlite.signatures hash) hget]
    exact ⟨rfl, hpruned.added hinjective (live_pruneSeenSignatures _)
      (live_pruneWorkflowWebhookSignatures _) hkey hseen _⟩

omit h in
theorem Sqlite.acceptSignature_of_some {keyHash : String} {status : SignatureStatus}
    (h : seen.get keyHash = some ⟨seenAt, status⟩) :
    Sqlite.acceptSignature keyHash seen = seen.set keyHash ⟨seenAt, .accepted⟩ := by
  unfold Sqlite.acceptSignature
  rw [h]
  cases status with
  | pending => rfl
  | accepted => exact (set_get_self seen h).symm

omit h in
theorem settle_claims {first second : SignatureState} (h : first.claims = second.claims)
    (claim : Nat) (outcome : ClaimState) :
    first.settle claim outcome = second.settle claim outcome := by
  unfold SignatureState.settle
  rw [h]

omit h in
theorem used_of_settle (state : SignatureState) (h : ∀ claim ∈ state.claims, used claim.key)
    (index : Nat) (outcome : ClaimState) :
    ∀ claim ∈ state.settle index outcome, used claim.key := by
  intro _ hmem
  obtain ⟨_, hother⟩ := List.mem_iff_getElem?.mp hmem
  unfold SignatureState.settle at hother
  rw [List.getElem?_modify] at hother
  obtain ⟨old, hold, rfl⟩ := Option.map_eq_some_iff.mp hother
  have hused := h old (List.mem_of_getElem? hold)
  split <;> exact hused

theorem SignaturesAgree.outside {claims : List WorkflowWebhookReplayClaim}
    (hclaims : ∀ claim ∈ claims, used claim.key) (hseen : live clock seen = live clock memory.seen)
    (hrows : live clock rows = live clock database.seen)
    (hknown : ∀ key signature, seen.get key = some signature → used key) :
    SignaturesAgree hash used clock bound ⟨seen, claims⟩ ⟨rows, claims⟩ := by
  constructor
  · rfl
  · dsimp only
    rw [hseen, hrows]
    exact h.renamed
  · dsimp only
    rw [hseen]
    exact h.sorted
  · dsimp only
    rw [hseen]
    exact h.past
  · exact hknown
  · exact hclaims

omit h in
theorem not_live_database (hget : (live clock rows).get (hash key) = (live clock seen).get key)
    (hout : ∀ signature, seen.get key = some signature → isLive clock signature = false) :
    ∀ signature, rows.get (hash key) = some signature → isLive clock signature = false := by
  intro signature hrow
  cases hlive : isLive clock signature with
  | false => rfl
  | true =>
    rw [get_live.mpr ⟨hrow, hlive⟩] at hget
    obtain ⟨hseen, hlive'⟩ := get_live.mp hget.symm
    rw [hout signature hseen] at hlive'
    cases hlive'

omit h in
theorem times_set {old : SignatureStatus}
    (hget : seen.get key = some ⟨seenAt, old⟩) (status : SignatureStatus) :
    (seen.set key ⟨seenAt, status⟩).entries.map (fun entry => entry.2.seenAt) =
      seen.entries.map fun entry => entry.2.seenAt := by
  rw [set_eq_mapWithKey seen _ hget]
  change (seen.entries.map _).map _ = _
  rw [List.map_map]
  apply List.map_congr_left
  rintro ⟨other, _⟩ hmem
  by_cases hkey : other = key
  · subst hkey
    cases ((get_eq_some_iff _ _ _).mpr hmem).symm.trans hget
    simp
  · simp [hkey]

include hinjective in
theorem SignaturesAgree.accept (claim : Nat)
    (hquiet : ∀ key claimedAt, memory.claims[claim]? = some ⟨key, claimedAt, .active⟩ →
      (∀ signature, memory.seen.get key = some signature → signature.seenAt = claimedAt) ∧
        (memory.seen.get key = none → claimedAt + webhookSignatureReplayWindowMs < clock)) :
    SignaturesAgree hash used clock bound (memory.accept InMemory.signatures claim)
      (database.accept (Sqlite.signatures hash) claim) := by
  unfold SignatureState.accept
  rw [settle_claims h.claims, ← h.claims]
  cases hclaim : memory.claims[claim]? with
  | none => exact h
  | some entry =>
    obtain ⟨key, claimedAt, state⟩ := entry
    cases state with
    | accepted | released => exact h
    | active =>
      obtain ⟨hown, hgone⟩ := hquiet key claimedAt hclaim
      have hkey : used key := h.claimsKnown _ (List.mem_of_getElem? hclaim)
      have hget := h.get hinjective hkey
      have hclaims := used_of_settle database (h.claims ▸ h.claimsKnown) claim .accepted
      have hknown : ∀ other signature,
          (memory.seen.set key ⟨claimedAt, .accepted⟩).get other = some signature →
          used other := by
        intro other signature hother
        rw [get_set] at hother
        split at hother
        next heq => exact heq ▸ hkey
        next => exact h.known other signature hother
      change SignaturesAgree hash used clock bound
        ⟨memory.seen.set key ⟨claimedAt, .accepted⟩, _⟩
        ⟨Sqlite.acceptSignature (hash key) database.seen, _⟩
      have hsame : ∀ status, isLive clock ⟨claimedAt, status⟩ =
          isLive clock ⟨claimedAt, .accepted⟩ := fun _ => rfl
      cases hlive : isLive clock ⟨claimedAt, .accepted⟩ with
      | true =>
        -- the claim's own record is there, in both stores
        cases hseen : memory.seen.get key with
        | none =>
          have hafter := hgone hseen
          rw [isLive_iff] at hlive
          exact absurd hafter (Nat.not_lt.mpr hlive)
        | some signature =>
          obtain ⟨seenAt, status⟩ := signature
          obtain rfl : seenAt = claimedAt := hown _ hseen
          have hmemory := get_live.mpr ⟨hseen, (hsame status).trans hlive⟩
          rw [hmemory] at hget
          have hrow := (get_live.mp hget).1
          have hlater : live clock (memory.seen.set key ⟨seenAt, .accepted⟩) =
              (live clock memory.seen).set key ⟨seenAt, .accepted⟩ := by
            refine view_set_of_inside _ _ hlive ?_
            intro old hold
            cases hseen.symm.trans hold
            exact (hsame status).trans hlive
          have hrowLater : live clock (database.seen.set (hash key) ⟨seenAt, .accepted⟩) =
              (live clock database.seen).set (hash key) ⟨seenAt, .accepted⟩ := by
            refine view_set_of_inside _ _ hlive ?_
            intro old hold
            cases hrow.symm.trans hold
            exact (hsame status).trans hlive
          have htimes := times_set hmemory .accepted
          rw [Sqlite.acceptSignature_of_some hrow]
          constructor
          · rfl
          · dsimp only
            rw [hlater, hrowLater]
            refine h.renamed.set (separates hinjective ?_ hkey) _
            intro other held hother
            exact h.known other held (get_live.mp hother).1
          · dsimp only
            have hsorted := List.pairwise_map.mpr h.sorted
            rw [hlater]
            rw [← htimes] at hsorted
            exact List.pairwise_map.mp hsorted
          · dsimp only
            rw [hlater]
            intro entry hmem
            have htime := List.mem_map_of_mem (f := fun entry => entry.2.seenAt) hmem
            rw [htimes] at htime
            obtain ⟨old, hold, heq⟩ := List.mem_map.mp htime
            exact heq ▸ h.past old hold
          · exact hknown
          · exact hclaims
      | false =>
        have hout : ∀ signature, memory.seen.get key = some signature →
            isLive clock signature = false := by
          rintro ⟨seenAt, status⟩ hseen
          obtain rfl : seenAt = claimedAt := hown _ hseen
          exact (hsame status).trans hlive
        refine h.outside hclaims (view_set_of_outside _ _ hlive hout) ?_ hknown
        have houtRow := not_live_database hget hout
        unfold Sqlite.acceptSignature
        split
        next seenAt hrow =>
          have hpending := houtRow _ hrow
          have hold : isLive clock ⟨seenAt, .accepted⟩ = false := hpending
          exact view_set_of_outside _ _ hold houtRow
        next => rfl

omit h in
theorem get_of_release {other : String} (h : (store.release key seen).get other = some signature) :
    seen.get other = some signature := by
  unfold SignatureStore.release at h
  split at h
  · by_cases hother : store.storedKey key = other
    · subst hother
      rw [get_erase_self] at h
      cases h
    · rwa [get_erase_of_ne _ hother] at h
  · exact h

omit h in
theorem live_release_of_outside
    (hout : ∀ signature, seen.get (store.storedKey key) = some signature →
      isLive clock signature = false) :
    live clock (store.release key seen) = live clock seen := by
  unfold SignatureStore.release
  split
  · exact view_erase_of_outside _ _ hout
  · rfl

omit h in
theorem release_of_pending (store : SignatureStore)
    (h : seen.get (store.storedKey key) = some ⟨seenAt, .pending⟩) :
    store.release key seen = seen.erase (store.storedKey key) := by
  unfold SignatureStore.release
  rw [h]

omit h in
theorem release_of_accepted (store : SignatureStore)
    (h : seen.get (store.storedKey key) = some ⟨seenAt, .accepted⟩) :
    store.release key seen = seen := by
  unfold SignatureStore.release
  rw [h]

include hinjective in
theorem SignaturesAgree.release
    (claim : Nat) : SignaturesAgree hash used clock bound (memory.release InMemory.signatures claim)
      (database.release (Sqlite.signatures hash) claim) := by
  unfold SignatureState.release
  rw [settle_claims h.claims, ← h.claims]
  cases hclaim : memory.claims[claim]? with
  | none => exact h
  | some entry =>
    obtain ⟨key, _, state⟩ := entry
    cases state with
    | accepted | released => exact h
    | active =>
      have hkey : used key := h.claimsKnown _ (List.mem_of_getElem? hclaim)
      have hget := h.get hinjective hkey
      have hclaims := used_of_settle database (h.claims ▸ h.claimsKnown) claim .released
      have hknown : ∀ other signature,
          (InMemory.signatures.release key memory.seen).get other = some signature →
          used other :=
        fun other signature hother => h.known other signature (get_of_release hother)
      dsimp only
      cases hmemory : (live clock memory.seen).get key with
      | none =>
        have hout : ∀ signature, memory.seen.get key = some signature →
            isLive clock signature = false := by
          intro signature hseen
          cases hlive : isLive clock signature with
          | false => rfl
          | true =>
            rw [get_live.mpr ⟨hseen, hlive⟩] at hmemory
            cases hmemory
        exact h.outside hclaims (live_release_of_outside hout)
          (live_release_of_outside (not_live_database hget hout)) hknown
      | some signature =>
        obtain ⟨_, status⟩ := signature
        have hseen := (get_live.mp hmemory).1
        have hrow := (get_live.mp (hget.trans hmemory)).1
        cases status with
        | accepted =>
          refine h.outside hclaims ?_ ?_ hknown
          · rw [release_of_accepted InMemory.signatures hseen]
          · rw [release_of_accepted (Sqlite.signatures hash) hrow]
        | pending =>
          rw [release_of_pending InMemory.signatures hseen] at hknown ⊢
          rw [release_of_pending (Sqlite.signatures hash) hrow]
          have hsublist : (live clock (memory.seen.erase key)).entries.Sublist
              (live clock memory.seen).entries := by
            rw [live_eq_view, view_erase]
            exact List.filter_sublist
          constructor
          · rfl
          · change OrderedMap.Renamed hash (live clock (memory.seen.erase key))
              (live clock (database.seen.erase (hash key)))
            rw [live_eq_view, live_eq_view, view_erase, view_erase]
            refine h.renamed.erase (separates hinjective ?_ hkey)
            intro other held hother
            exact h.known other held (get_live.mp hother).1
          · exact h.sorted.sublist hsublist
          · exact fun entry hmem => h.past entry (hsublist.subset hmem)
          · exact hknown
          · exact hclaims

end Signatures

/-- The stores give the same answers from now on. -/
structure StoresAgree (hash : String → String) (used : String → Prop) (clock bound : Nat)
    (memory : InMemory.Store) (database : Sqlite.Store) : Prop where
  rates : RatesAgree clock memory.rateBySource database.rateLimits
  failures : FailuresAgree clock memory.authFailureByScope database.authFailures
  signatures : SignaturesAgree hash used clock bound memory.signatures database.signatures

theorem storesAgree_empty (hash : String → String) (used : String → Prop) :
    StoresAgree hash used 0 0 .empty .empty where
  rates := fun _ _ _ => Iff.rfl
  failures := by
    refine ⟨fun _ _ _ => ?_, fun _ _ hget => ?_⟩
    · constructor
      · rintro ⟨hget, -⟩
        cases hget
      · intro hget
        cases hget
    · cases hget
  signatures := by
    refine ⟨rfl, rfl, List.Pairwise.nil, ?_, ?_, ?_⟩
    · intro _ hmem
      cases hmem
    · intro _ _ hget
      cases hget
    · intro _ hmem
      cases hmem

variable {hash : String → String}

theorem StoresAgree.call {used : String → Prop}
    (hinjective : ∀ first second, used first → used second → hash first = hash second →
      first = second) {clock bound : Nat} {memory : InMemory.Store} {database : Sqlite.Store}
    (h : StoresAgree hash used clock bound memory database) (call : SecurityCall)
    (hclock : ∀ time ∈ call.time, clock ≤ time ∧ bound ≤ time) (hnamed : call.isNamed = true)
    (hused : ∀ key ∈ call.signatureKey, used key) (hquiet : partsStores clock memory call = false) :
    (inMemoryStore.step memory call).1 = ((sqliteStore hash).step database call).1 ∧
      StoresAgree hash used (call.time.getD clock) ((call.time.map (· + 1)).getD bound)
        (inMemoryStore.step memory call).2
        ((sqliteStore hash).step database call).2 := by
  cases call with
  | claimRequest nowMs source =>
    obtain ⟨hnow, hbound⟩ := hclock nowMs rfl
    have hsource : source ≠ "" := by simpa [SecurityCall.isNamed] using hnamed
    have hsame := h.rates.openRates_eq hnow
    change (SecurityAnswer.allowed (InMemory.claimRequest source nowMs webhookRequestWindowMs
      webhookRequestLimit memory).1) = SecurityAnswer.allowed (Sqlite.claimRequest source nowMs
        webhookRequestWindowMs webhookRequestLimit database).1 ∧
      StoresAgree hash used nowMs (nowMs + 1)
      (InMemory.claimRequest source nowMs webhookRequestWindowMs webhookRequestLimit memory).2
      (Sqlite.claimRequest source nowMs webhookRequestWindowMs webhookRequestLimit database).2
    rw [InMemory.claimRequest_eq, Sqlite.claimRequest_eq hsource, hsame source]
    exact ⟨rfl, RatesAgree.set hsame source _, h.failures.prune hnow,
      (h.signatures.later hnow).mono (Nat.le_succ_of_le hbound)⟩
  | checkAuthBackoff nowMs scope =>
    obtain ⟨hnow, hbound⟩ := hclock nowMs rfl
    have hscope : scope ≠ "" := by simpa [SecurityCall.isNamed] using hnamed
    obtain ⟨hanswer, hfailures⟩ := h.failures.checkAuthBackoff hnow hscope
    have hdatabase : (Sqlite.checkAuthBackoff scope nowMs database).2 = database := by
      unfold Sqlite.checkAuthBackoff
      split <;> rfl
    refine ⟨congrArg SecurityAnswer.allowed hanswer, ?_⟩
    rw [hdatabase] at hfailures
    change StoresAgree hash used nowMs (nowMs + 1)
      (InMemory.checkAuthBackoff scope nowMs memory).2
        (Sqlite.checkAuthBackoff scope nowMs database).2
    rw [hdatabase]
    exact ⟨h.rates.prune hnow, hfailures, (h.signatures.later hnow).mono (Nat.le_succ_of_le hbound)⟩
  | recordAuthFailure nowMs scope =>
    obtain ⟨hnow, hbound⟩ := hclock nowMs rfl
    have hscope : scope ≠ "" := by
      rw [SecurityCall.isNamed, Bool.and_eq_true] at hnamed
      simpa using hnamed.1
    obtain ⟨hanswer, hfailures⟩ := h.failures.recordAuthFailure hnow hscope hquiet
    exact ⟨congrArg SecurityAnswer.failures hanswer, h.rates.later hnow, hfailures,
      (h.signatures.later hnow).mono (Nat.le_succ_of_le hbound)⟩
  | claimSignature nowMs key =>
    obtain ⟨hnow, hbound⟩ := hclock nowMs rfl
    obtain ⟨hanswer, hsignatures⟩ :=
      h.signatures.claimSignature hinjective hnow hbound (hused key rfl)
    exact ⟨congrArg SecurityAnswer.claimed hanswer, h.rates.later hnow,
      h.failures.later hnow, hsignatures⟩
  | accept claim =>
    refine ⟨rfl, h.rates, h.failures, h.signatures.accept hinjective claim ?_⟩
    intro key _ hclaim
    simp only [partsStores, hclaim] at hquiet
    constructor
    · intro _ hseen
      simpa [hseen] using hquiet
    · intro hnone
      simpa [hnone] using hquiet
  | release claim => exact ⟨rfl, h.rates, h.failures, h.signatures.release hinjective claim⟩

/-- No call of a run from `store` at `clock` on parts the stores. -/
def staysTogether (clock : Nat) (store : InMemory.Store) : List SecurityCall → Bool
  | [] => true
  | call :: calls => !partsStores clock store call &&
      staysTogether (call.time.getD clock) (inMemoryStore.step store call).2 calls

theorem stores_agree_from (used : String → Prop)
    (hinjective : ∀ first second, used first → used second → hash first = hash second →
      first = second) (calls : List SecurityCall) (clock bound : Nat) (memory : InMemory.Store)
    (database : Sqlite.Store) (h : StoresAgree hash used clock bound memory database)
    (hstart : ∀ time ∈ calls.filterMap SecurityCall.time, clock ≤ time ∧ bound ≤ time)
    (hclock : (calls.filterMap SecurityCall.time).Pairwise (· < ·))
    (hnamed : ∀ call ∈ calls, call.isNamed = true)
    (hused : ∀ call ∈ calls, ∀ key ∈ call.signatureKey, used key)
    (hquiet : staysTogether clock memory calls = true) :
    (inMemoryStore.history memory calls).map Moment.output =
      ((sqliteStore hash).history database calls).map Moment.output := by
  induction calls generalizing clock bound memory database with
  | nil => rfl
  | cons call _ ih =>
    have hnow : ∀ time ∈ call.time, clock ≤ time ∧ bound ≤ time := by
      intro time htime
      exact hstart time (List.mem_filterMap.mpr ⟨call, .head _, htime⟩)
    rw [staysTogether, Bool.and_eq_true, Bool.not_eq_true'] at hquiet
    obtain ⟨hanswer, hagree⟩ := h.call hinjective call hnow (hnamed call (.head _))
      (hused call (.head _)) hquiet.1
    have hrest := ih (call.time.getD clock) _ _ _ hagree ?_ ?_
      (fun other hmem => hnamed other (.tail _ hmem))
      (fun other hmem => hused other (.tail _ hmem)) hquiet.2
    · rw [Machine.history_cons, Machine.history_cons, List.map_cons, List.map_cons, hrest]
      exact congrArg (· :: _) hanswer
    · intro time htime
      cases hcall : call.time with
      | none => exact hstart time (by rwa [List.filterMap_cons_none hcall])
      | some =>
        rw [List.filterMap_cons_some hcall] at hclock
        have hlater := (List.pairwise_cons.mp hclock).1 time htime
        exact ⟨hlater.le, hlater⟩
    · cases hcall : call.time with
      | none => rwa [List.filterMap_cons_none hcall] at hclock
      | some =>
        rw [List.filterMap_cons_some hcall] at hclock
        exact (List.pairwise_cons.mp hclock).2

/-- The two stores give the same answer to every call, at increasing times and with
digests that tell the keys of the run apart, as long as no call parts them. -/
theorem security_stores_agree (webhookSecurityKeyHash : String → String) (calls : List SecurityCall)
    (hclock : (calls.filterMap SecurityCall.time).Pairwise (· < ·))
    (hnamed : ∀ call ∈ calls, call.isNamed = true)
    (hdigests : ∀ first ∈ calls.filterMap SecurityCall.signatureKey,
      ∀ second ∈ calls.filterMap SecurityCall.signatureKey,
        webhookSecurityKeyHash first = webhookSecurityKeyHash second → first = second)
    (hquiet : staysTogether 0 .empty calls = true) :
    (inMemoryStore.history .empty calls).map Moment.output =
      ((sqliteStore webhookSecurityKeyHash).history .empty calls).map Moment.output := by
  refine stores_agree_from (fun key => key ∈ calls.filterMap SecurityCall.signatureKey)
    (fun first second hfirst hsecond => hdigests first hfirst second hsecond) calls 0 0 .empty
    .empty (storesAgree_empty _ _) ?_ hclock hnamed ?_ hquiet
  · exact fun time _ => ⟨Nat.zero_le time, Nat.zero_le time⟩
  · intro call hmem key hkey
    exact List.mem_filterMap.mpr ⟨call, hmem, hkey⟩

/-- A failure that is counted before its scope is looked at, and a signature that is
accepted and delivered again. -/
theorem security_stores_agree_once :
    let calls : List SecurityCall := [.claimRequest 1 "127.0.0.1",
      .recordAuthFailure 2 "127.0.0.1:w" "127.0.0.1", .checkAuthBackoff 3 "127.0.0.1:w",
      .claimSignature 4 "w:T:sha256=00", .accept 0, .claimSignature 5 "w:T:sha256=00"]
    (inMemoryStore.history .empty calls).map Moment.output =
      ((sqliteStore fun key => key).history .empty calls).map Moment.output :=
  security_stores_agree (fun key => key) _ (by decide +kernel) (by decide +kernel)
    (by decide +kernel) (by decide +kernel)

/-- A scope is looked at, as the server does for every request, and fails a millisecond
later: in memory its window has begun with the look. -/
theorem security_stores_differ : ¬ ∀ webhookSecurityKeyHash : String → String,
    Function.Injective webhookSecurityKeyHash → ∀ calls : List SecurityCall,
      (calls.filterMap SecurityCall.time).Pairwise (· < ·) →
      (∀ call ∈ calls, call.isNamed = true) →
      (inMemoryStore.history .empty calls).map Moment.output =
        ((sqliteStore webhookSecurityKeyHash).history .empty calls).map Moment.output := by
  intro h
  have hsame := h (fun key => key) (fun _ _ heq => heq)
    [.checkAuthBackoff 1 "127.0.0.1:w", .recordAuthFailure 2 "127.0.0.1:w" "127.0.0.1"]
    (by decide) (by decide)
  exact absurd hsame (by decide +kernel)

end OpenCowork.Desktop
