import Mathlib.Data.List.Pairwise

/-! # Windows of an increasing log

The entries of a log above one cursor and up to another. A window only changes
when its upper cursor moves past further entries, and it grows by one entry when
the cursor moves to the next one.
-/

namespace OpenCowork.Foundation

variable {log : List Nat} {low high entry : Nat}

/-- The entries above `low` and up to `high`. -/
def window (log : List Nat) (low high : Nat) : List Nat :=
  log.filter fun entry => decide (low < entry) && decide (entry ≤ high)

@[simp] theorem mem_window :
    entry ∈ window log low high ↔ entry ∈ log ∧ low < entry ∧ entry ≤ high := by
  simp [window]

@[simp] theorem window_self (log : List Nat) (cursor : Nat) : window log cursor cursor = [] := by
  rw [window, List.filter_eq_nil_iff]
  intro _ _
  simp only [Bool.and_eq_true, decide_eq_true_eq]
  omega

theorem window_increasing (hlog : log.Pairwise (· < ·)) (low high : Nat) :
    (window log low high).Pairwise (· < ·) :=
  hlog.sublist List.filter_sublist

theorem window_append_of_lt (log : List Nat) (h : high < entry) :
    window (log ++ [entry]) low high = window log low high := by
  have hout : (decide (low < entry) && decide (entry ≤ high)) = false := by
    simp only [Bool.and_eq_false_iff, decide_eq_false_iff_not]
    omega
  simp [window, List.filter_append, hout]

theorem window_next (hlog : log.Pairwise (· < ·))
    (hentry : entry ∈ log) (hlow : low ≤ high) (hhigh : high < entry)
    (hnext : ∀ other ∈ log, high < other → other ≤ entry → other = entry) :
    window log low entry = window log low high ++ [entry] := by
  obtain ⟨before, later, rfl⟩ := List.append_of_mem hentry
  rw [List.pairwise_append, List.pairwise_cons] at hlog
  obtain ⟨-, ⟨hlater, -⟩, hbefore⟩ := hlog
  have hlaterOut : ∀ bound, bound ≤ entry →
      later.filter (fun other => decide (low < other) && decide (other ≤ bound)) = [] := by
    intro bound _
    rw [List.filter_eq_nil_iff]
    intro other hother
    have := hlater other hother
    simp only [Bool.and_eq_true, decide_eq_true_eq]
    omega
  have hbeforeSame : before.filter (fun other => decide (low < other) && decide (other ≤ entry)) =
      before.filter (fun other => decide (low < other) && decide (other ≤ high)) := by
    apply List.filter_congr
    intro other hother
    have hlt : other < entry := hbefore other hother entry (.head _)
    have hle : other ≤ high := by
      by_contra hgt
      have := hnext other (List.mem_append_left _ hother) (by omega) (by omega)
      omega
    have hleft : decide (other ≤ entry) = true := by simpa using Nat.le_of_lt hlt
    have hright : decide (other ≤ high) = true := by simpa using hle
    rw [hleft, hright]
  have hself : (decide (low < entry) && decide (entry ≤ entry)) = true := by
    simp only [Bool.and_eq_true, decide_eq_true_eq]
    omega
  have hselfOut : (decide (low < entry) && decide (entry ≤ high)) = false := by
    simp only [Bool.and_eq_false_iff, decide_eq_false_iff_not]
    omega
  simp only [window, List.filter_append, List.filter_cons, hself, hselfOut, if_true,
    Bool.false_eq_true, if_false, hbeforeSame, hlaterOut entry (Nat.le_refl _),
    hlaterOut high (Nat.le_of_lt hhigh), List.append_nil]

end OpenCowork.Foundation
