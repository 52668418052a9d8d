import Mathlib.Algebra.BigOperators.Group.List.Basic
import Mathlib.Tactic.Linarith
import Mathlib.Tactic.Ring

/-! # Metered windows

A meter counts in one window at a time. What it granted, took back or was made to add
in each window is kept in a ledger, and the ledger of a window stays balanced between
zero and the limit long after the meter has left that window.
-/

namespace OpenCowork.Foundation

variable {ω α : Type*}

/-- The window a meter is in and what it has counted there. -/
structure Reading (ω α : Type*) where
  window : ω
  quantity : α

inductive MeterEntry (ω α : Type*) where
  | granted (window : ω) (quantity : α)
  | refunded (window : ω) (quantity : α)
  | added (window : ω) (quantity : α)

section Totals

variable [DecidableEq ω] [AddCommMonoid α]

def MeterEntry.grantedIn (window : ω) : MeterEntry ω α → α
  | .granted other quantity => if other = window then quantity else 0
  | _ => 0

def MeterEntry.refundedIn (window : ω) : MeterEntry ω α → α
  | .refunded other quantity => if other = window then quantity else 0
  | _ => 0

def MeterEntry.addedIn (window : ω) : MeterEntry ω α → α
  | .added other quantity => if other = window then quantity else 0
  | _ => 0

def totalGranted (ledger : List (MeterEntry ω α)) (window : ω) : α :=
  (ledger.map (MeterEntry.grantedIn window)).sum

def totalRefunded (ledger : List (MeterEntry ω α)) (window : ω) : α :=
  (ledger.map (MeterEntry.refundedIn window)).sum

def totalAdded (ledger : List (MeterEntry ω α)) (window : ω) : α :=
  (ledger.map (MeterEntry.addedIn window)).sum

variable (ledger rest : List (MeterEntry ω α)) (window : ω) (entry : MeterEntry ω α)

@[simp] theorem totalGranted_nil : totalGranted ([] : List (MeterEntry ω α)) window = 0 := rfl

@[simp] theorem totalRefunded_nil : totalRefunded ([] : List (MeterEntry ω α)) window = 0 := rfl

@[simp] theorem totalAdded_nil : totalAdded ([] : List (MeterEntry ω α)) window = 0 := rfl

@[simp] theorem totalGranted_append :
    totalGranted (ledger ++ rest) window =
      totalGranted ledger window + totalGranted rest window := by
  simp [totalGranted]

@[simp] theorem totalRefunded_append :
    totalRefunded (ledger ++ rest) window =
      totalRefunded ledger window + totalRefunded rest window := by
  simp [totalRefunded]

@[simp] theorem totalAdded_append :
    totalAdded (ledger ++ rest) window = totalAdded ledger window + totalAdded rest window := by
  simp [totalAdded]

@[simp] theorem totalGranted_singleton : totalGranted [entry] window = entry.grantedIn window := by
  simp [totalGranted]

@[simp] theorem totalRefunded_singleton :
    totalRefunded [entry] window = entry.refundedIn window := by
  simp [totalRefunded]

@[simp] theorem totalAdded_singleton : totalAdded [entry] window = entry.addedIn window := by
  simp [totalAdded]

end Totals

variable [LinearOrder ω] [CommRing α] [LinearOrder α] [IsStrictOrderedRing α] {window : ω}

def netGranted (ledger : List (MeterEntry ω α)) (window : ω) : α :=
  totalGranted ledger window - totalRefunded ledger window

/-- What was granted or added in a window and not taken back. -/
def balance (ledger : List (MeterEntry ω α)) (window : ω) : α :=
  netGranted ledger window + totalAdded ledger window

section Entries

omit [LinearOrder α] [IsStrictOrderedRing α]

variable (ledger : List (MeterEntry ω α)) (window other : ω) (quantity : α)

@[simp] theorem netGranted_granted :
    netGranted (ledger ++ [.granted window quantity]) other =
      netGranted ledger other + if window = other then quantity else 0 := by
  simp only [netGranted, totalGranted_append, totalGranted_singleton, MeterEntry.grantedIn,
    totalRefunded_append, totalRefunded_singleton, MeterEntry.refundedIn]
  ring

@[simp] theorem netGranted_refunded :
    netGranted (ledger ++ [.refunded window quantity]) other =
      netGranted ledger other - if window = other then quantity else 0 := by
  simp only [netGranted, totalGranted_append, totalGranted_singleton, MeterEntry.grantedIn,
    totalRefunded_append, totalRefunded_singleton, MeterEntry.refundedIn]
  ring

@[simp] theorem netGranted_added :
    netGranted (ledger ++ [.added window quantity]) other = netGranted ledger other := by
  simp [netGranted, MeterEntry.grantedIn, MeterEntry.refundedIn]

@[simp] theorem balance_granted :
    balance (ledger ++ [.granted window quantity]) other =
      balance ledger other + if window = other then quantity else 0 := by
  simp only [balance, netGranted_granted, totalAdded_append, totalAdded_singleton,
    MeterEntry.addedIn]
  ring

@[simp] theorem balance_refunded :
    balance (ledger ++ [.refunded window quantity]) other =
      balance ledger other - if window = other then quantity else 0 := by
  simp only [balance, netGranted_refunded, totalAdded_append, totalAdded_singleton,
    MeterEntry.addedIn]
  ring

@[simp] theorem balance_added :
    balance (ledger ++ [.added window quantity]) other =
      balance ledger other + if window = other then quantity else 0 := by
  simp only [balance, netGranted_added, totalAdded_append, totalAdded_singleton, MeterEntry.addedIn]
  ring

end Entries

def Reading.countedIn (reading : Option (Reading ω α)) (window : ω) : α :=
  match reading with
  | none => 0
  | some reading => if reading.window = window then reading.quantity else 0

omit [LinearOrder α] [IsStrictOrderedRing α] in
theorem Reading.countedIn_of_lt {reading : Option (Reading ω α)}
    (hlater : ∀ held, reading = some held → held.window < window) :
    Reading.countedIn reading window = 0 := by
  cases reading with
  | none => rfl
  | some held => exact if_neg (hlater held rfl).ne

/-- A ledger accounts for a reading under a limit: what a window granted stays within the
limit, no window's balance is negative, and a window that the meter has not left balances
to what is counted there. -/
structure Accounts (limit : α) (ledger : List (MeterEntry ω α))
    (reading : Option (Reading ω α)) : Prop where
  bounded : ∀ window, netGranted ledger window ≤ limit
  nonneg : ∀ window, 0 ≤ balance ledger window
  addedNonneg : ∀ window, 0 ≤ totalAdded ledger window
  current : ∀ window, (∀ held, reading = some held → held.window ≤ window) →
    balance ledger window = Reading.countedIn reading window

omit [IsStrictOrderedRing α] in
theorem Accounts.empty {limit : α} (hlimit : 0 ≤ limit) :
    Accounts limit ([] : List (MeterEntry ω α)) none where
  bounded := fun window => by simpa [netGranted] using hlimit
  nonneg := fun window => by simp [balance, netGranted]
  addedNonneg := fun window => by simp
  current := fun window _ => by simp [balance, netGranted, Reading.countedIn]

variable {limit : α} {ledger : List (MeterEntry ω α)} {reading : Option (Reading ω α)}
  {held : Reading ω α} {quantity : α}

theorem Accounts.grant (haccounts : Accounts limit ledger reading)
    (hlater : ∀ held, reading = some held → held.window ≤ window) (hquantity : 0 ≤ quantity)
    (hroom : Reading.countedIn reading window + quantity ≤ limit) :
    Accounts limit (ledger ++ [.granted window quantity])
      (some ⟨window, Reading.countedIn reading window + quantity⟩) where
  bounded := by
    intro other
    rw [netGranted_granted]
    by_cases heq : window = other
    · subst heq
      have hnow := haccounts.current window hlater
      have hadded := haccounts.addedNonneg window
      rw [balance] at hnow
      rw [if_pos rfl]
      linarith
    · rw [if_neg heq, add_zero]
      exact haccounts.bounded other
  nonneg := by
    intro other
    have hnonneg := haccounts.nonneg other
    rw [balance_granted]
    split <;> linarith
  addedNonneg := by
    intro other
    simpa [MeterEntry.addedIn] using haccounts.addedNonneg other
  current := by
    intro other hother
    have hle : window ≤ other := hother _ rfl
    have hbefore := haccounts.current other fun held hheld => (hlater held hheld).trans hle
    rw [balance_granted, hbefore, Reading.countedIn]
    by_cases heq : window = other
    · subst heq
      rw [if_pos rfl, if_pos rfl]
    · -- no meter that was in the new window or before it has counted anything after it
      have hlt : window < other := lt_of_le_of_ne hle heq
      rw [Reading.countedIn_of_lt fun held hheld => (hlater held hheld).trans_lt hlt,
        if_neg heq, if_neg heq, add_zero]

variable (haccounts : Accounts limit ledger (some held))
include haccounts

theorem Accounts.refund (hquantity : 0 ≤ quantity) (hle : quantity ≤ held.quantity) :
    Accounts limit (ledger ++ [.refunded held.window quantity])
      (some ⟨held.window, held.quantity - quantity⟩) where
  bounded := by
    intro other
    have hbounded := haccounts.bounded other
    rw [netGranted_refunded]
    split <;> linarith
  nonneg := by
    intro other
    rw [balance_refunded]
    by_cases heq : held.window = other
    · have hnow := haccounts.current other fun _ hearlier => by
        rw [← Option.some.inj hearlier, heq]
      rw [Reading.countedIn, if_pos heq] at hnow
      rw [if_pos heq]
      linarith
    · rw [if_neg heq, sub_zero]
      exact haccounts.nonneg other
  addedNonneg := by
    intro other
    simpa [MeterEntry.addedIn] using haccounts.addedNonneg other
  current := by
    intro other hother
    have hle := hother _ rfl
    have hbefore := haccounts.current other fun _ hearlier => by
      rw [← Option.some.inj hearlier]
      exact hle
    rw [balance_refunded, hbefore, Reading.countedIn, Reading.countedIn]
    split <;> simp

theorem Accounts.add (hquantity : 0 ≤ quantity) :
    Accounts limit (ledger ++ [.added held.window quantity])
      (some ⟨held.window, held.quantity + quantity⟩) where
  bounded := by
    intro other
    rw [netGranted_added]
    exact haccounts.bounded other
  nonneg := by
    intro other
    have hnonneg := haccounts.nonneg other
    rw [balance_added]
    split <;> linarith
  addedNonneg := by
    intro other
    have hadded := haccounts.addedNonneg other
    rw [totalAdded_append, totalAdded_singleton, MeterEntry.addedIn]
    split <;> linarith
  current := by
    intro other hother
    have hle := hother _ rfl
    have hbefore := haccounts.current other fun _ hearlier => by
      rw [← Option.some.inj hearlier]
      exact hle
    rw [balance_added, hbefore, Reading.countedIn, Reading.countedIn]
    split <;> simp

omit [IsStrictOrderedRing α] haccounts in
theorem Accounts.congr (haccounts : Accounts limit ledger reading) {other : List (MeterEntry ω α)}
    (hnet : ∀ window, netGranted other window = netGranted ledger window)
    (hadded : ∀ window, totalAdded other window = totalAdded ledger window) :
    Accounts limit other reading where
  bounded := fun window => hnet window ▸ haccounts.bounded window
  nonneg := fun window => by
    rw [balance, hnet, hadded]
    exact haccounts.nonneg window
  addedNonneg := fun window => hadded window ▸ haccounts.addedNonneg window
  current := fun window hlater => by
    rw [balance, hnet, hadded]
    exact haccounts.current window hlater

theorem Accounts.adjust (delta : α) :
    Accounts limit
      (ledger ++
        if delta ≤ 0 then
          [.refunded held.window (Reading.countedIn (some held) held.window -
            Reading.countedIn (some ⟨held.window, max 0 (held.quantity + delta)⟩) held.window)]
        else
          [.added held.window
            (Reading.countedIn (some ⟨held.window, max 0 (held.quantity + delta)⟩) held.window -
              Reading.countedIn (some held) held.window)])
      (some ⟨held.window, max 0 (held.quantity + delta)⟩) := by
  have hnow := haccounts.current held.window fun _ hearlier => by
    rw [← Option.some.inj hearlier]
  have hnonneg := haccounts.nonneg held.window
  rw [hnow] at hnonneg
  simp only [Reading.countedIn, if_true] at hnonneg ⊢
  by_cases hdelta : delta ≤ 0
  · rw [if_pos hdelta]
    have hle : max 0 (held.quantity + delta) ≤ held.quantity := max_le hnonneg (by linarith)
    have hzero : 0 ≤ max 0 (held.quantity + delta) := le_max_left _ _
    have hrefund := haccounts.refund (sub_nonneg.mpr hle) (by linarith)
    rwa [sub_sub_cancel] at hrefund
  · rw [if_neg hdelta]
    have hsum : max 0 (held.quantity + delta) = held.quantity + delta :=
      max_eq_right (by linarith [not_le.mp hdelta])
    rw [hsum, add_sub_cancel_left]
    exact haccounts.add (not_le.mp hdelta).le

end OpenCowork.Foundation
