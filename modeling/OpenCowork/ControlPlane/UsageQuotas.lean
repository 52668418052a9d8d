import OpenCowork.Foundation.Metering
import OpenCowork.ControlPlane.Neighbours

/-! # The usage quota over whole runs

Each counter of the usage quota is a meter: a consumption grants in the window of its
clock, an adjustment takes back or adds in the window it names as long as the counter is
still in it, and the quotas of one enqueued command are consumed together or not at all.
-/

namespace OpenCowork.ControlPlane

open Foundation

/-- The calls that change usage counters, with the reading of the clock they may use. -/
inductive QuotaOperation where
  | consumeUsageQuota (input : ConsumeUsageQuotaInput) (dateNow : Instant)
  | adjustUsageQuota (orgId quotaKey : String) (windowStartedAtMs : Int) (quantityDelta : ℚ)
  | enqueueSessionCommand (input : EnqueueCommandInput) (dateNow : Instant)

inductive QuotaAnswer where
  | consumed (answer : Except StoreError QuotaConsumptionRecord)
  | adjusted (answer : Except StoreError Unit)
  | enqueued (answer : Except StoreError SessionCommandRecord)

namespace ConsumeUsageQuotaInput

variable (input : ConsumeUsageQuotaInput) (dateNow : Instant)

def counterKey : String := key input.orgId input.quotaKey

def consumedAt : Instant := input.now.getD dateNow

/-- The aligned window that the input is counted in. -/
def window : Int := Neighbours.quotaWindowStart (input.consumedAt dateNow) input.windowMs

def amount : ℚ := Neighbours.quantityOrOne input.quantity

def clock (counterKey : String) (dateNow : Instant) :
    List Instant :=
  if input.counterKey = counterKey then [input.consumedAt dateNow] else []

/-- The ledger entry of a granted input. -/
def booked (counterKey : String) (dateNow : Instant) :
    List (MeterEntry Int ℚ) :=
  if input.counterKey = counterKey then [.granted (input.window dateNow) input.amount] else []

end ConsumeUsageQuotaInput

namespace QuotaOperation

def consumptions : QuotaOperation → List ConsumeUsageQuotaInput
  | .consumeUsageQuota input _ => [input]
  | .adjustUsageQuota .. => []
  | .enqueueSessionCommand input _ => input.usageQuotas

def clock (counterKey : String) : QuotaOperation → List Instant
  | .consumeUsageQuota input dateNow => input.clock counterKey dateNow
  | .adjustUsageQuota .. => []
  | .enqueueSessionCommand input dateNow =>
    input.usageQuotas.flatMap fun quota => quota.clock counterKey dateNow

/-- An adjustment that takes something back, as the refunds of the store do. -/
def Lowers : QuotaOperation → Prop
  | .adjustUsageQuota _ _ _ quantityDelta => quantityDelta ≤ 0
  | _ => True

end QuotaOperation

namespace Neighbours

/-- A usage counter as a meter. -/
def reading (state : Neighbours) (counterKey : String) : Option (Reading Int ℚ) :=
  (state.usageCounters.get counterKey).map fun counter =>
    ⟨counter.windowStartedAtMs, counter.quantity⟩

inductive Grants (dateNow : Instant) : List ConsumeUsageQuotaInput → Neighbours → Neighbours → Prop
  | none (state : Neighbours) : Grants dateNow [] state state
  | next {input : ConsumeUsageQuotaInput} {rest : List ConsumeUsageQuotaInput}
      {state middle last : Neighbours} {record : QuotaConsumptionRecord}
      (hconsumed : state.consumeUsageQuota dateNow input = (.ok record, middle))
      (hallowed : record.allowed = true) (hrest : Grants dateNow rest middle last) :
      Grants dateNow (input :: rest) state last

end Neighbours

section Machine

variable (env : Environment) (audit : AuditEnvironment)

def performQuota (domain : SessionsDomain Neighbours) :
    QuotaOperation → QuotaAnswer × SessionsDomain Neighbours
  | .consumeUsageQuota input dateNow =>
    let (answer, neighbours) := domain.neighbours.consumeUsageQuota dateNow input
    (.consumed answer, { domain with neighbours })
  | .adjustUsageQuota orgId quotaKey windowStartedAtMs quantityDelta =>
    let (answer, neighbours) :=
      domain.neighbours.adjustUsageQuota orgId quotaKey windowStartedAtMs quantityDelta
    (.adjusted answer, { domain with neighbours })
  | .enqueueSessionCommand input dateNow =>
    let (answer, next) :=
      domain.enqueueSessionCommand env (Neighbours.host audit) input dateNow
    (.enqueued answer, next)

def quotaMachine : Machine (SessionsDomain Neighbours) QuotaOperation QuotaAnswer where
  step := performQuota env audit

end Machine

abbrev QuotaMoment := Moment (SessionsDomain Neighbours) QuotaOperation QuotaAnswer

namespace QuotaMoment

/-- What a moment books on a counter: granted inputs with their quantity, adjustments with
the change that they made to the window they name. -/
def entries (counterKey : String) (moment : QuotaMoment) : List (MeterEntry Int ℚ) :=
  match moment.input, moment.output with
  | .consumeUsageQuota input dateNow, .consumed (.ok record) =>
    if record.allowed then input.booked counterKey dateNow else []
  | .adjustUsageQuota orgId quotaKey window quantityDelta, _ =>
    if key orgId quotaKey = counterKey then
      let before := Reading.countedIn (moment.before.neighbours.reading counterKey) window
      let after := Reading.countedIn (moment.after.neighbours.reading counterKey) window
      if quantityDelta ≤ 0 then [.refunded window (before - after)]
      else [.added window (after - before)]
    else []
  | .enqueueSessionCommand input dateNow, .enqueued (.ok _) =>
    match moment.before.findSessionCommandById input.commandId with
    | some _ => []
    | none => input.usageQuotas.flatMap fun quota => quota.booked counterKey dateNow
  | _, _ => []

/-- A moment whose call grants nothing. -/
def Refused (moment : QuotaMoment) : Prop :=
  match moment.output with
  | .consumed (.ok record) => record.allowed = false
  | .adjusted (.ok _) => False
  | .enqueued (.ok _) => False
  | _ => True

/-- The quotas of an enqueued command are all granted, or no counter has changed. -/
def AllOrNone (moment : QuotaMoment) : Prop :=
  match moment.input with
  | .enqueueSessionCommand input dateNow =>
    Neighbours.Grants dateNow input.usageQuotas moment.before.neighbours
        moment.after.neighbours ∨
      moment.after.neighbours.usageCounters = moment.before.neighbours.usageCounters
  | _ => True

end QuotaMoment

/-! ## One call -/

namespace Neighbours

variable {value : ℚ} {label : String} {state : Neighbours} {dateNow : Instant}
  {input : ConsumeUsageQuotaInput}

theorem quotaWindowStart_mono {windowMs : ℚ} (hwindow : 0 < windowMs) {earlier later : Instant}
    (hle : earlier ≤ later) :
    quotaWindowStart earlier windowMs ≤ quotaWindowStart later windowMs := by
  have hnum : 0 < windowMs.num := Rat.num_pos.mpr hwindow
  exact mul_le_mul_of_nonneg_right (Int.ediv_le_ediv hnum hle) hnum.le

theorem normalizePositiveInteger_ok {normalized : ℚ}
    (h : normalizePositiveInteger value label = .ok normalized) :
    normalized = value ∧ value.den = 1 ∧ 0 < value := by
  unfold normalizePositiveInteger at h
  split at h
  next hvalue => exact ⟨(Except.ok.inj h).symm, hvalue⟩
  · exact nomatch h

theorem countedIn_reading (state : Neighbours) (counterKey : String) (window : Int) :
    Reading.countedIn (state.reading counterKey) window =
      match state.usageCounters.get counterKey with
      | none => 0
      | some counter => if counter.windowStartedAtMs = window then counter.quantity else 0 := by
  unfold reading
  cases state.usageCounters.get counterKey <;> rfl

/-- The conditions under which a consumption is granted. -/
structure QuotaAllows (state : Neighbours) (input : ConsumeUsageQuotaInput) (dateNow : Instant) :
    Prop where
  org : state.orgExists input.orgId = true
  limit : input.limit.den = 1 ∧ 0 < input.limit
  amount : input.amount.den = 1 ∧ 0 < input.amount
  windowMs : input.windowMs.den = 1 ∧ 0 < input.windowMs
  room : Reading.countedIn (state.reading input.counterKey) (input.window dateNow) +
    input.amount ≤ input.limit

/-- The counters after an input was granted. -/
def charged (state : Neighbours) (input : ConsumeUsageQuotaInput) (dateNow : Instant) :
    Neighbours :=
  { state with
    usageCounters := state.usageCounters.set input.counterKey ⟨input.window dateNow,
      Reading.countedIn (state.reading input.counterKey) (input.window dateNow) + input.amount⟩ }

/-- What a consumption makes of the counters: nothing, unless it is granted. -/
inductive Consumption (state : Neighbours) (dateNow : Instant) (input : ConsumeUsageQuotaInput) :
    Outcome Neighbours QuotaConsumptionRecord → Prop
  | thrown (error : StoreError) : Consumption state dateNow input (.error error, state)
  | refused (record : QuotaConsumptionRecord) (hrefused : record.allowed = false) :
      Consumption state dateNow input (.ok record, state)
  | granted (record : QuotaConsumptionRecord) (hallowed : record.allowed = true)
      (hallows : QuotaAllows state input dateNow) :
      Consumption state dateNow input (.ok record, state.charged input dateNow)

theorem consumption_of_count {current : ℚ} {refusal grant : QuotaConsumptionRecord}
    (hrefusal : refusal.allowed = false) (hgrant : grant.allowed = true)
    (horg : state.orgExists input.orgId = true) (hlimit : input.limit.den = 1 ∧ 0 < input.limit)
    (hamount : input.amount.den = 1 ∧ 0 < input.amount)
    (hwindow : input.windowMs.den = 1 ∧ 0 < input.windowMs)
    (hcurrent : current =
      Reading.countedIn (state.reading input.counterKey) (input.window dateNow)) :
    Consumption state dateNow input
      (if input.limit < current + input.amount then (.ok refusal, state)
      else (.ok grant, { state with
        usageCounters := state.usageCounters.set input.counterKey
          ⟨input.window dateNow, current + input.amount⟩ })) := by
  subst hcurrent
  split
  · exact .refused refusal hrefusal
  next hroom => exact .granted grant hgrant ⟨horg, hlimit, hamount, hwindow, not_lt.mp hroom⟩

theorem consumeUsageQuota_consumption (state : Neighbours) (dateNow : Instant)
    (input : ConsumeUsageQuotaInput) :
    Consumption state dateNow input (state.consumeUsageQuota dateNow input) := by
  unfold consumeUsageQuota
  split
  · exact .thrown _
  next horg =>
  split
  · exact .thrown _
  next hlimit =>
  split
  · exact .thrown _
  next hquantity =>
  split
  · exact .thrown _
  next hwindowMs =>
  obtain ⟨rfl, hpositive⟩ := normalizePositiveInteger_ok hlimit
  obtain ⟨rfl, hamount⟩ := normalizePositiveInteger_ok hquantity
  obtain ⟨rfl, hwindow⟩ := normalizePositiveInteger_ok hwindowMs
  exact consumption_of_count rfl rfl (Bool.not_eq_false _ ▸ horg) hpositive hamount hwindow
    (countedIn_reading state input.counterKey (input.window dateNow)).symm

theorem normalizePositiveInteger_of_positive
    (hvalue : value.den = 1 ∧ 0 < value) : normalizePositiveInteger value label = .ok value :=
  if_pos hvalue

theorem consumeUsageQuota_of_allows (hallows : QuotaAllows state input dateNow) :
    ∃ record, record.allowed = true ∧
      state.consumeUsageQuota dateNow input = (.ok record, state.charged input dateNow) := by
  have hcounted := countedIn_reading state input.counterKey (input.window dateNow)
  have hroom := hallows.room
  unfold charged
  rw [hcounted] at hroom ⊢
  have hquantity : normalizePositiveInteger (quantityOrOne input.quantity) "Quota quantity" =
      .ok (quantityOrOne input.quantity) := normalizePositiveInteger_of_positive hallows.amount
  unfold consumeUsageQuota
  rw [if_neg (by rw [hallows.org]; simp), normalizePositiveInteger_of_positive hallows.limit]
  rw [hquantity]
  rw [normalizePositiveInteger_of_positive hallows.windowMs]
  exact ⟨_, rfl, if_neg (not_lt.mpr hroom)⟩

/-- What an adjustment makes of the counters: it reaches the window it names or nothing. -/
inductive Adjustment (state : Neighbours) (counterKey : String) (window : Int)
    (quantityDelta : ℚ) : Outcome Neighbours Unit → Prop
  | missed (answer : Except StoreError Unit) :
      Adjustment state counterKey window quantityDelta (answer, state)
  | applied (counter : UsageCounter) (hget : state.usageCounters.get counterKey = some counter)
      (hwindow : counter.windowStartedAtMs = window) :
      Adjustment state counterKey window quantityDelta (.ok (), { state with
        usageCounters := state.usageCounters.set counterKey
          ⟨counter.windowStartedAtMs, max 0 (counter.quantity + quantityDelta)⟩ })

theorem adjustUsageQuota_adjustment (state : Neighbours) (orgId quotaKey : String)
    (window : Int) (quantityDelta : ℚ) :
    Adjustment state (key orgId quotaKey) window quantityDelta
      (state.adjustUsageQuota orgId quotaKey window quantityDelta) := by
  unfold adjustUsageQuota
  split
  · exact .missed _
  split
  · exact .missed _
  split
  · exact .missed _
  next counter hget =>
  split
  · exact .missed _
  next hwindow => exact .applied counter hget (not_not.mp hwindow)

theorem reading_set (state : Neighbours) (counterKey other : String) (counter : UsageCounter) :
    Neighbours.reading { state with
        usageCounters := state.usageCounters.set counterKey counter } other =
      if counterKey = other then some ⟨counter.windowStartedAtMs, counter.quantity⟩
      else state.reading other := by
  unfold reading
  rw [OrderedMap.get_set]
  split <;> rfl

theorem reading_charged (state : Neighbours) (input : ConsumeUsageQuotaInput) (dateNow : Instant)
    (counterKey : String) :
    (state.charged input dateNow).reading counterKey =
      if input.counterKey = counterKey then
        some ⟨input.window dateNow,
          Reading.countedIn (state.reading input.counterKey) (input.window dateNow) + input.amount⟩
      else state.reading counterKey :=
  state.reading_set input.counterKey counterKey _

end Neighbours

theorem SessionsDomain.grants_of_consumeUsageQuotas {audit : AuditEnvironment}
    {dateNow : Instant} {inputs : List ConsumeUsageQuotaInput} {state last : Neighbours}
    (h : SessionsDomain.consumeUsageQuotas (Neighbours.host audit) dateNow inputs state =
      (.ok (), last)) : Neighbours.Grants dateNow inputs state last := by
  induction inputs generalizing state with
  | nil =>
    obtain rfl : state = last := (Prod.mk.inj h).2
    exact .none state
  | cons _ _ ih =>
    rw [SessionsDomain.consumeUsageQuotas] at h
    split at h
    · exact nomatch (Prod.mk.inj h).1
    next hconsumed =>
      split at h
      next hallowed => exact .next hconsumed hallowed (ih h)
      · exact nomatch (Prod.mk.inj h).1

/-- What an enqueue makes of the counters: every quota is granted to a new command, or they
are as they were. -/
inductive Enqueueing (domain : SessionsDomain Neighbours) (input : EnqueueCommandInput)
    (dateNow : Instant) : Outcome (SessionsDomain Neighbours) SessionCommandRecord → Prop
  | unchanged (answer : Except StoreError SessionCommandRecord)
      (next : SessionsDomain Neighbours)
      (hcounters : next.neighbours.usageCounters = domain.neighbours.usageCounters)
      (hreplay : ∀ command, answer = .ok command →
        (domain.findSessionCommandById input.commandId).isSome = true) :
      Enqueueing domain input dateNow (answer, next)
  | granted (command : SessionCommandRecord) (next : SessionsDomain Neighbours)
      (hnew : domain.findSessionCommandById input.commandId = none)
      (hgrants : Neighbours.Grants dateNow input.usageQuotas domain.neighbours next.neighbours) :
      Enqueueing domain input dateNow (.ok command, next)

theorem SessionsDomain.enqueueSessionCommand_enqueueing (env : Environment)
    (audit : AuditEnvironment) (domain : SessionsDomain Neighbours) (input : EnqueueCommandInput)
    (dateNow : Instant) :
    Enqueueing domain input dateNow
      (domain.enqueueSessionCommand env (Neighbours.host audit) input dateNow) := by
  unfold SessionsDomain.enqueueSessionCommand
  split
  · exact .unchanged _ _ rfl fun _ h => nomatch h
  split
  · exact .unchanged _ _ rfl fun _ h => nomatch h
  split
  next hexisting =>
    split
    · exact .unchanged _ _ rfl fun _ _ => by rw [hexisting, Option.isSome_some]
    · exact .unchanged _ _ rfl fun _ h => nomatch h
  next hnew =>
  split
  · exact .unchanged _ _ rfl fun _ h => nomatch h
  split
  · exact .unchanged _ _ rfl fun _ h => nomatch h
  next hconsumed => exact .granted _ _ hnew (grants_of_consumeUsageQuotas hconsumed)

/-! ## A counter along the run -/

/-- A ledger accounts for a counter, and the instants still to come are in order and not
before the window that the counter is in. -/
structure Metered (counterKey : String) (limit windowMs : ℚ) (ledger : List (MeterEntry Int ℚ))
    (state : Neighbours) (upcoming : List Instant) : Prop where
  accounts : Accounts limit ledger (state.reading counterKey)
  ahead : ∀ held, state.reading counterKey = some held →
    ∀ instant ∈ upcoming, held.window ≤ Neighbours.quotaWindowStart instant windowMs
  ordered : upcoming.Pairwise (· ≤ ·)

def OneQuota (counterKey : String) (limit windowMs : ℚ) (inputs : List ConsumeUsageQuotaInput) :
    Prop :=
  ∀ input ∈ inputs, input.counterKey = counterKey → input.limit = limit ∧ input.windowMs = windowMs

namespace Metered

variable {counterKey : String} {limit windowMs : ℚ} {ledger : List (MeterEntry Int ℚ)}
  {state : Neighbours} {times later : List Instant} {dateNow : Instant}

theorem skip (hmetered : Metered counterKey limit windowMs ledger state (times ++ later)) :
    Metered counterKey limit windowMs ledger state later where
  accounts := hmetered.accounts
  ahead := fun held hheld instant hinstant =>
    hmetered.ahead held hheld instant (List.mem_append_right _ hinstant)
  ordered := (List.pairwise_append.mp hmetered.ordered).2.1

theorem transfer {next : Neighbours}
    (hmetered : Metered counterKey limit windowMs ledger state later)
    (hreading : next.reading counterKey = state.reading counterKey) :
    Metered counterKey limit windowMs ledger next later where
  accounts := hreading ▸ hmetered.accounts
  ahead := hreading ▸ hmetered.ahead
  ordered := hmetered.ordered

theorem grant {input : ConsumeUsageQuotaInput}
    (hmetered : Metered counterKey limit windowMs ledger state
      (input.clock counterKey dateNow ++ later))
    (hone : input.counterKey = counterKey → input.limit = limit ∧ input.windowMs = windowMs)
    (hallows : state.QuotaAllows input dateNow) :
    Metered counterKey limit windowMs (ledger ++ input.booked counterKey dateNow)
      (state.charged input dateNow) later := by
  by_cases hkey : input.counterKey = counterKey
  · obtain ⟨hlimit, hlength⟩ := hone hkey
    have hreading := state.reading_charged input dateNow counterKey
    rw [if_pos hkey, hkey] at hreading
    rw [ConsumeUsageQuotaInput.clock, if_pos hkey, List.singleton_append] at hmetered
    have hordered := List.pairwise_cons.mp hmetered.ordered
    have hroom := hallows.room
    rw [hkey] at hroom
    rw [ConsumeUsageQuotaInput.booked, if_pos hkey]
    refine ⟨?_, ?_, hordered.2⟩
    · rw [hreading]
      apply hmetered.accounts.grant
      · intro held hheld
        rw [ConsumeUsageQuotaInput.window, hlength]
        exact hmetered.ahead held hheld _ (.head _)
      · exact hallows.amount.2.le
      · exact hroom.trans_eq hlimit
    · intro held hheld instant hinstant
      rw [hreading] at hheld
      rw [← Option.some.inj hheld, ConsumeUsageQuotaInput.window, hlength]
      exact Neighbours.quotaWindowStart_mono (hlength ▸ hallows.windowMs.2)
        (hordered.1 instant hinstant)
  · rw [ConsumeUsageQuotaInput.booked, if_neg hkey, List.append_nil]
    apply hmetered.skip.transfer
    rw [Neighbours.reading_charged, if_neg hkey]

theorem grants {inputs : List ConsumeUsageQuotaInput} {last : Neighbours}
    (hgrants : Neighbours.Grants dateNow inputs state last)
    (hone : OneQuota counterKey limit windowMs inputs)
    (hmetered : Metered counterKey limit windowMs ledger state
      ((inputs.flatMap fun input => input.clock counterKey dateNow) ++ later)) :
    Metered counterKey limit windowMs
      (ledger ++ inputs.flatMap fun input => input.booked counterKey dateNow) last later := by
  induction hgrants generalizing ledger with
  | none => simpa using hmetered
  | @next input _ state _ _ _ hconsumed hallowed _ ih =>
    rw [List.flatMap_cons, List.append_assoc] at hmetered
    have hinput := Neighbours.consumeUsageQuota_consumption state dateNow input
    rw [hconsumed] at hinput
    rw [List.flatMap_cons, ← List.append_assoc]
    apply ih (fun quota hquota => hone quota (.tail _ hquota))
    cases hinput with
    | refused _ hrefused => exact absurd (hrefused.symm.trans hallowed) (by simp)
    | granted _ _ hallows => exact hmetered.grant (hone input (.head _)) hallows

theorem idle (hmetered : Metered counterKey limit windowMs ledger state later) (window : Int)
    (quantityDelta : ℚ) :
    Metered counterKey limit windowMs
      (ledger ++ if quantityDelta ≤ 0 then [.refunded window 0] else [.added window 0])
      state later where
  accounts := by
    split <;> exact hmetered.accounts.congr (by simp) (by simp [MeterEntry.addedIn])
  ahead := hmetered.ahead
  ordered := hmetered.ordered

theorem adjust {adjusted : String} {window : Int} {quantityDelta : ℚ}
    {outcome : Outcome Neighbours Unit}
    (hadjustment : Neighbours.Adjustment state adjusted window quantityDelta outcome)
    (hmetered : Metered counterKey limit windowMs ledger state later) :
    Metered counterKey limit windowMs
      (ledger ++ if adjusted = counterKey then
        let before := Reading.countedIn (state.reading counterKey) window
        let after := Reading.countedIn (outcome.2.reading counterKey) window
        if quantityDelta ≤ 0 then [.refunded window (before - after)]
        else [.added window (after - before)]
      else []) outcome.2 later := by
  cases hadjustment with
  | missed =>
    dsimp only
    rw [sub_self]
    split
    · exact hmetered.idle window quantityDelta
    · rwa [List.append_nil]
  | applied counter hget hwindow =>
    have hreading := Neighbours.reading_set state adjusted counterKey
      ⟨counter.windowStartedAtMs, max 0 (counter.quantity + quantityDelta)⟩
    by_cases hkey : adjusted = counterKey
    · subst hkey
      subst hwindow
      have hheld : state.reading adjusted =
          some ⟨counter.windowStartedAtMs, counter.quantity⟩ := by
        rw [Neighbours.reading, hget, Option.map_some]
      have hahead := hmetered.ahead _ hheld
      have haccounts := hmetered.accounts
      rw [if_pos rfl] at hreading
      rw [hheld] at haccounts
      rw [if_pos rfl]
      refine ⟨?_, ?_, hmetered.ordered⟩
      · rw [hreading, hheld]
        exact haccounts.adjust quantityDelta
      · intro _ hnext
        rw [hreading] at hnext
        rw [← Option.some.inj hnext]
        exact hahead
    · rw [if_neg hkey, List.append_nil]
      apply hmetered.transfer
      rw [hreading, if_neg hkey]

end Metered

/-! ## Runs -/

section Runs

variable (env : Environment) (audit : AuditEnvironment)

theorem performQuota_enqueue (domain : SessionsDomain Neighbours) (input : EnqueueCommandInput)
    (dateNow : Instant) :
    performQuota env audit domain (.enqueueSessionCommand input dateNow) =
      (.enqueued (domain.enqueueSessionCommand env (Neighbours.host audit) input dateNow).1,
        (domain.enqueueSessionCommand env (Neighbours.host audit) input dateNow).2) := rfl

variable {counterKey : String} {limit windowMs : ℚ} {ledger : List (MeterEntry Int ℚ)}
  {later : List Instant} (domain : SessionsDomain Neighbours) (operation : QuotaOperation)
  {entry : MeterEntry Int ℚ}

/-- An operation is accounted for in the ledger of the counter. -/
theorem Metered.perform (hone : OneQuota counterKey limit windowMs operation.consumptions)
    (hmetered : Metered counterKey limit windowMs ledger domain.neighbours
      (operation.clock counterKey ++ later)) :
    Metered counterKey limit windowMs
      (ledger ++ QuotaMoment.entries counterKey ((quotaMachine env audit).moment domain operation))
      (performQuota env audit domain operation).2.neighbours later := by
  cases operation with
  | consumeUsageQuota input dateNow =>
    have hinput := Neighbours.consumeUsageQuota_consumption domain.neighbours dateNow input
    simp only [QuotaMoment.entries, Machine.moment, quotaMachine, performQuota]
    generalize domain.neighbours.consumeUsageQuota dateNow input = outcome at hinput ⊢
    cases hinput with
    | thrown =>
      rw [List.append_nil]
      exact hmetered.skip
    | refused _ hrefused =>
      dsimp only
      rw [hrefused, if_neg (by simp), List.append_nil]
      exact hmetered.skip
    | granted _ hallowed hallows =>
      dsimp only
      rw [hallowed, if_pos rfl]
      exact hmetered.grant (hone input (List.mem_singleton_self input)) hallows
  | adjustUsageQuota =>
    exact hmetered.skip.adjust (domain.neighbours.adjustUsageQuota_adjustment _ _ _ _)
  | enqueueSessionCommand input dateNow =>
    have henqueue := domain.enqueueSessionCommand_enqueueing env audit input dateNow
    simp only [QuotaMoment.entries, Machine.moment, quotaMachine, performQuota_enqueue]
    generalize domain.enqueueSessionCommand env (Neighbours.host audit) input dateNow = outcome
      at henqueue ⊢
    cases henqueue with
    | unchanged answer next hcounters hreplay =>
      have hnext : Metered counterKey limit windowMs ledger next.neighbours later := by
        apply hmetered.skip.transfer
        rw [Neighbours.reading, Neighbours.reading, hcounters]
      cases answer with
      | error =>
        rw [List.append_nil]
        exact hnext
      | ok command =>
        obtain ⟨_, hexisting⟩ := Option.isSome_iff_exists.mp (hreplay command rfl)
        dsimp only
        rw [hexisting, List.append_nil]
        exact hnext
    | granted _ _ hnew hgrants =>
      dsimp only
      rw [hnew]
      exact hmetered.grants hgrants hone

theorem QuotaMoment.unchanged_of_refused
    (hrefused : QuotaMoment.Refused ((quotaMachine env audit).moment domain operation)) :
    (performQuota env audit domain operation).2.neighbours.usageCounters =
      domain.neighbours.usageCounters := by
  cases operation with
  | consumeUsageQuota input dateNow =>
    have hinput := Neighbours.consumeUsageQuota_consumption domain.neighbours dateNow input
    simp only [QuotaMoment.Refused, Machine.moment, quotaMachine, performQuota] at hrefused ⊢
    generalize domain.neighbours.consumeUsageQuota dateNow input = outcome at hinput hrefused ⊢
    cases hinput with
    | thrown | refused => rfl
    | granted _ hallowed => exact absurd (hallowed.symm.trans hrefused) (by simp)
  | adjustUsageQuota orgId quotaKey window quantityDelta =>
    have hadjustment :=
      domain.neighbours.adjustUsageQuota_adjustment orgId quotaKey window quantityDelta
    simp only [QuotaMoment.Refused, Machine.moment, quotaMachine, performQuota] at hrefused ⊢
    generalize domain.neighbours.adjustUsageQuota orgId quotaKey window quantityDelta = outcome
      at hadjustment hrefused ⊢
    cases hadjustment with
    | missed => rfl
    | applied => exact hrefused.elim
  | enqueueSessionCommand input dateNow =>
    have henqueue := domain.enqueueSessionCommand_enqueueing env audit input dateNow
    simp only [QuotaMoment.Refused, Machine.moment, quotaMachine, performQuota_enqueue]
      at hrefused ⊢
    generalize domain.enqueueSessionCommand env (Neighbours.host audit) input dateNow = outcome
      at henqueue hrefused ⊢
    cases henqueue with
    | unchanged _ _ hcounters => exact hcounters
    | granted => exact hrefused.elim

theorem QuotaMoment.allOrNone :
    QuotaMoment.AllOrNone ((quotaMachine env audit).moment domain operation) := by
  cases operation with
  | consumeUsageQuota | adjustUsageQuota => trivial
  | enqueueSessionCommand input dateNow =>
    have henqueue := domain.enqueueSessionCommand_enqueueing env audit input dateNow
    simp only [QuotaMoment.AllOrNone, Machine.moment, quotaMachine, performQuota_enqueue]
    generalize domain.enqueueSessionCommand env (Neighbours.host audit) input dateNow = outcome
      at henqueue ⊢
    cases henqueue with
    | unchanged _ _ hcounters => exact .inr hcounters
    | granted _ _ _ hgrants => exact .inl hgrants

/-- The entries of a whole run, oldest first. -/
def quotaLedger (counterKey : String) (history : List QuotaMoment) : List (MeterEntry Int ℚ) :=
  history.flatMap (QuotaMoment.entries counterKey)

theorem Metered.run (operations : List QuotaOperation)
    (hone : OneQuota counterKey limit windowMs (operations.flatMap QuotaOperation.consumptions))
    (hmetered : Metered counterKey limit windowMs ledger domain.neighbours
      (operations.flatMap (QuotaOperation.clock counterKey))) :
    Metered counterKey limit windowMs
      (ledger ++ quotaLedger counterKey ((quotaMachine env audit).history domain operations))
      ((quotaMachine env audit).run domain operations).neighbours [] := by
  induction operations generalizing domain ledger with
  | nil => simpa [quotaLedger] using hmetered
  | cons operation _ ih =>
    rw [List.flatMap_cons] at hone hmetered
    have hstep := hmetered.perform env audit domain operation
      fun input hinput => hone input (List.mem_append_left _ hinput)
    have hrest := ih _ (fun input hinput => hone input (List.mem_append_right _ hinput)) hstep
    rwa [List.append_assoc] at hrest

theorem ConsumeUsageQuotaInput.addedIn_of_booked {input : ConsumeUsageQuotaInput}
    {dateNow : Instant} (hentry : entry ∈ input.booked counterKey dateNow) (window : Int) :
    entry.addedIn window = 0 := by
  unfold ConsumeUsageQuotaInput.booked at hentry
  split at hentry
  · rw [List.mem_singleton.mp hentry]
    rfl
  · exact absurd hentry List.not_mem_nil

theorem QuotaMoment.addedIn_of_lowers {moment : QuotaMoment} (hlowers : moment.input.Lowers)
    (hentry : entry ∈ QuotaMoment.entries counterKey moment)
    (window : Int) : entry.addedIn window = 0 := by
  unfold QuotaMoment.entries at hentry
  split at hentry
  · split at hentry
    · exact ConsumeUsageQuotaInput.addedIn_of_booked hentry window
    · exact absurd hentry List.not_mem_nil
  next quantityDelta hinput =>
    rw [hinput] at hlowers
    have hnonpos : quantityDelta ≤ 0 := hlowers
    split at hentry
    · rw [List.mem_singleton.mp hentry]
      rfl
    · exact absurd hentry List.not_mem_nil
  · split at hentry
    · exact absurd hentry List.not_mem_nil
    · obtain ⟨_, _, hquota⟩ := List.mem_flatMap.mp hentry
      exact ConsumeUsageQuotaInput.addedIn_of_booked hquota window
  · exact absurd hentry List.not_mem_nil

theorem totalAdded_of_lowers {history : List QuotaMoment}
    (hlowers : ∀ moment ∈ history, moment.input.Lowers) (window : Int) :
    totalAdded (quotaLedger counterKey history) window = 0 := by
  unfold totalAdded
  apply List.sum_eq_zero
  intro _ hquantity
  obtain ⟨_, hentry, rfl⟩ := List.mem_map.mp hquantity
  obtain ⟨moment, hmoment, hbooked⟩ := List.mem_flatMap.mp hentry
  exact QuotaMoment.addedIn_of_lowers (hlowers moment hmoment) hbooked window

/-- What holds of a run for one counter: no window of it grants more than the limit, and none
gives back more than it granted or was made to add, so that refunds alone leave it between zero
and the limit; the counter shows the balance of its window. A refused call changes no counter
at all, and quotas consumed together are granted together. -/
structure QuotaAccounted (machine : Machine (SessionsDomain Neighbours) QuotaOperation QuotaAnswer)
    (domain : SessionsDomain Neighbours) (operations : List QuotaOperation) (counterKey : String)
    (limit : ℚ) (ledger : List (MeterEntry Int ℚ)) : Prop where
  bounded : ∀ window, totalGranted ledger window - totalRefunded ledger window ≤ limit
  nonneg : ∀ window,
    0 ≤ totalGranted ledger window - totalRefunded ledger window + totalAdded ledger window
  refunded : (∀ operation ∈ operations, operation.Lowers) →
    ∀ window, 0 ≤ totalGranted ledger window - totalRefunded ledger window
  shown : ∀ counter,
    (machine.run domain operations).neighbours.usageCounters.get counterKey = some counter →
    counter.quantity = totalGranted ledger counter.windowStartedAtMs -
      totalRefunded ledger counter.windowStartedAtMs + totalAdded ledger counter.windowStartedAtMs
  refused : ∀ moment ∈ machine.history domain operations, QuotaMoment.Refused moment →
    moment.after.neighbours.usageCounters = moment.before.neighbours.usageCounters
  together : ∀ moment ∈ machine.history domain operations, QuotaMoment.AllOrNone moment

/-- Every run of consumptions under one limit, with a clock that does not go back, and of
adjustments. -/
theorem quota_runs_accounted (domain : SessionsDomain Neighbours) (operations : List QuotaOperation)
    (hnew : domain.neighbours.usageCounters.get counterKey = none) (hlimit : 0 < limit)
    (hone : OneQuota counterKey limit windowMs (operations.flatMap QuotaOperation.consumptions))
    (hclock : (operations.flatMap (QuotaOperation.clock counterKey)).Pairwise (· ≤ ·)) :
    QuotaAccounted (quotaMachine env audit) domain operations counterKey limit
      (quotaLedger counterKey ((quotaMachine env audit).history domain operations)) := by
  have hstart : domain.neighbours.reading counterKey = none := by
    rw [Neighbours.reading, hnew, Option.map_none]
  have hmetered : Metered counterKey limit windowMs [] domain.neighbours
      (operations.flatMap (QuotaOperation.clock counterKey)) :=
    ⟨hstart ▸ Accounts.empty hlimit.le, by simp [hstart], hclock⟩
  have hrun := hmetered.run env audit domain operations hone
  rw [List.nil_append] at hrun
  refine ⟨hrun.accounts.bounded, hrun.accounts.nonneg, ?_, ?_, ?_, ?_⟩
  · intro hlowers window
    have hnonneg := hrun.accounts.nonneg window
    rw [balance, totalAdded_of_lowers, add_zero] at hnonneg
    · exact hnonneg
    · intro moment hmoment
      obtain ⟨first, operation, rest, rfl, rfl⟩ :=
        (quotaMachine env audit).exists_prefix_of_mem_history domain operations moment hmoment
      exact hlowers operation (by simp)
  · intro counter hcounter
    have hreading : ((quotaMachine env audit).run domain operations).neighbours.reading
        counterKey = some ⟨counter.windowStartedAtMs, counter.quantity⟩ := by
      rw [Neighbours.reading, hcounter, Option.map_some]
    have hnow := hrun.accounts.current counter.windowStartedAtMs fun held hheld => by
      rw [hreading] at hheld
      rw [← Option.some.inj hheld]
    rw [hreading, Reading.countedIn, if_pos rfl] at hnow
    exact hnow.symm
  · intro moment hmoment
    obtain ⟨first, operation, rest, _, rfl⟩ :=
      (quotaMachine env audit).exists_prefix_of_mem_history domain operations moment hmoment
    exact QuotaMoment.unchanged_of_refused env audit _ operation
  · intro moment hmoment
    obtain ⟨_, operation, _, _, rfl⟩ :=
      (quotaMachine env audit).exists_prefix_of_mem_history domain operations moment hmoment
    exact QuotaMoment.allOrNone env audit _ operation

end Runs

/-! ## A run with a refund, and one with an addition -/

/-- Some units of the quota `q` of organisation `t`, ten to every window of 100 ms. -/
def drawUnits (quantity : ℚ) (now : Instant) : QuotaOperation :=
  .consumeUsageQuota
    { orgId := "t"
      quotaKey := "q"
      limit := 10
      quantity := some quantity
      windowMs := 100
      now := some now
      policyCode := none } now

/-- A store in which nothing was consumed. -/
def unusedQuotas : SessionsDomain Neighbours := ⟨OrderedMap.empty, Neighbours.single "t" "u"⟩

/-- Eight units, a refusal, a refund, a grant that fits again, and the next window. -/
def refundedDraws : List QuotaOperation :=
  [drawUnits 8 110, drawUnits 4 120, .adjustUsageQuota "t" "q" 100 (-5), drawUnits 4 130,
    drawUnits 9 200, .adjustUsageQuota "t" "q" 100 (-4)]

/-- An adjustment that raises the counter is not checked against the limit, and what is taken
back afterwards exceeds what was granted. -/
theorem raised_counter_unbalanced :
    let history := (quotaMachine plainEnvironment plainAudit).history unusedQuotas
      [drawUnits 1 110, .adjustUsageQuota "t" "q" 100 20, .adjustUsageQuota "t" "q" 100 (-15)]
    let ledger := quotaLedger (key "t" "q") history
    (history.map fun moment =>
      Reading.countedIn (moment.after.neighbours.reading (key "t" "q")) 100) = [1, 21, 6] ∧
      totalGranted ledger 100 - totalRefunded ledger 100 = -14 := by
  decide +kernel

theorem refunded_draws_accounted :
    QuotaAccounted (quotaMachine plainEnvironment plainAudit) unusedQuotas refundedDraws
      (key "t" "q") 10 (quotaLedger (key "t" "q")
        ((quotaMachine plainEnvironment plainAudit).history unusedQuotas refundedDraws)) :=
  quota_runs_accounted plainEnvironment plainAudit unusedQuotas refundedDraws rfl (by norm_num)
    (by simp [OneQuota, refundedDraws, drawUnits, QuotaOperation.consumptions] :
      OneQuota (key "t" "q") 10 100 (refundedDraws.flatMap QuotaOperation.consumptions))
    (by decide +kernel)

end OpenCowork.ControlPlane
