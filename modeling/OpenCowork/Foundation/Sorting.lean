import Mathlib.Data.List.Sort

/-! # Sorted logs

Facts about insertion sort that a log read in order rests on.
-/

namespace OpenCowork.Foundation

variable {α : Type*} (before : α → α → Prop) [DecidableRel before] {last : α}

theorem orderedInsert_append_last {item : α} (items : List α) (hlast : before item last) :
    (items ++ [last]).orderedInsert before item = items.orderedInsert before item ++ [last] := by
  induction items with
  | nil => simp [hlast]
  | cons first _ ih =>
    by_cases hfirst : before item first
    · simp [hfirst]
    · simp [hfirst, ih]

theorem insertionSort_append_last {items : List α} (hlast : ∀ item ∈ items, before item last) :
    (items ++ [last]).insertionSort before = items.insertionSort before ++ [last] := by
  induction items with
  | nil => rfl
  | cons first rest ih =>
    have hrest : ∀ item ∈ rest, before item last := fun item hmem => hlast item (.tail _ hmem)
    rw [List.cons_append, List.insertionSort_cons, List.insertionSort_cons, ih hrest]
    exact orderedInsert_append_last before _ (hlast first (.head _))

end OpenCowork.Foundation
