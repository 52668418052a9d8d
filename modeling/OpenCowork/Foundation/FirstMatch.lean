import Mathlib.Data.List.Basic

/-! # Updating the first match

An in-place update of the element that `List.find?` answers.
-/

namespace OpenCowork.Foundation

variable {α β : Type*} {test : α → Bool} (update : α → α) (project : α → β) {items : List α}
  {item found : α} {merge : α → α → α} {incoming : α} {view : α → β} {items' : List α}

/-- The list with `update` applied to the first element that satisfies `test`. -/
def modifyFirst (test : α → Bool) (update : α → α) : List α → List α
  | [] => []
  | item :: rest => if test item then update item :: rest else item :: modifyFirst test update rest

theorem mem_modifyFirst {update : α → α} {items : List α}
    (h : item ∈ modifyFirst test update items) :
    item ∈ items ∨ ∃ found, items.find? test = some found ∧ item = update found := by
  induction items with
  | nil => simp [modifyFirst] at h
  | cons first _ ih =>
    rw [modifyFirst] at h
    by_cases htest : test first = true
    · rw [if_pos htest, List.mem_cons] at h
      rcases h with rfl | h
      · exact .inr ⟨first, by simp [htest], rfl⟩
      · exact .inl (.tail _ h)
    · rw [if_neg htest, List.mem_cons] at h
      rcases h with rfl | h
      · exact .inl (.head _)
      · rcases ih h with h | ⟨found, hfound, rfl⟩
        · exact .inl (.tail _ h)
        · exact .inr ⟨found, by simp [htest, hfound], rfl⟩

theorem getElem?_modifyFirst {update : α → α} {items : List α} {index : Nat}
    (h : items[index]? = some item) :
    (modifyFirst test update items)[index]? = some item ∨
      items.find? test = some item ∧
        (modifyFirst test update items)[index]? = some (update item) := by
  induction items generalizing index with
  | nil => cases h
  | cons first rest ih =>
    rw [modifyFirst]
    by_cases htest : test first = true
    · rw [if_pos htest, List.find?_cons_of_pos htest]
      cases index with
      | zero =>
        cases h
        exact .inr ⟨rfl, rfl⟩
      | succ => exact .inl h
    · rw [if_neg htest, List.find?_cons_of_neg htest]
      cases index with
      | zero => exact .inl h
      | succ => exact ih h

theorem map_modifyFirst
    (hkeep : ∀ found, items.find? test = some found → project (update found) = project found) :
    (modifyFirst test update items).map project = items.map project := by
  induction items with
  | nil => rfl
  | cons first _ ih =>
    rw [modifyFirst]
    by_cases htest : test first = true
    · rw [if_pos htest, List.map_cons, List.map_cons, hkeep first (by simp [htest])]
    · rw [if_neg htest, List.map_cons, List.map_cons, ih]
      intro found hfound
      exact hkeep found (by simp [htest, hfound])

theorem find?_modifyFirst_self {update : α → α} {items : List α}
    (hfound : items.find? test = some found) (hkeep : test (update found) = true) :
    (modifyFirst test update items).find? test = some (update found) := by
  induction items with
  | nil => cases hfound
  | cons first _ ih =>
    rw [modifyFirst]
    by_cases htest : test first = true
    · rw [List.find?_cons_of_pos htest] at hfound
      cases hfound
      rw [if_pos htest, List.find?_cons_of_pos hkeep]
    · rw [List.find?_cons_of_neg htest] at hfound
      rw [if_neg htest, List.find?_cons_of_neg htest, ih hfound]

theorem find?_modifyFirst_of_ne {test other : α → Bool} {update : α → α} {items : List α}
    (hother : ∀ item, test item = true → other item = false)
    (hupdate : ∀ item, test item = true → other (update item) = false) :
    (modifyFirst test update items).find? other = items.find? other := by
  induction items with
  | nil => rfl
  | cons first _ ih =>
    rw [modifyFirst]
    by_cases htest : test first = true
    · rw [if_pos htest, List.find?_cons_of_neg (by simp [hupdate first htest]),
        List.find?_cons_of_neg (by simp [hother first htest])]
    · rw [if_neg htest, List.find?_cons, List.find?_cons, ih]

theorem mem_modifyFirst_of_key (hfound : items.find? test = some found)
    (hnodup : (items.map project).Nodup)
    (hkeep : project (update found) = project found) (h : item ∈ modifyFirst test update items) :
    item = update found ∨ (item ∈ items ∧ project item ≠ project found) := by
  induction items with
  | nil => simp at hfound
  | cons first rest ih =>
    rw [modifyFirst] at h
    rw [List.map_cons, List.nodup_cons] at hnodup
    by_cases htest : test first = true
    · rw [if_pos htest, List.mem_cons] at h
      obtain rfl : first = found := by simpa [List.find?_cons, htest] using hfound
      rcases h with h | h
      · exact .inl h
      · refine .inr ⟨.tail _ h, fun heq => hnodup.1 ?_⟩
        exact heq ▸ List.mem_map_of_mem h
    · rw [if_neg htest, List.mem_cons] at h
      have hrest : rest.find? test = some found := by
        simpa [List.find?_cons, htest] using hfound
      rcases h with rfl | h
      · refine .inr ⟨.head _, fun heq => hnodup.1 ?_⟩
        exact heq ▸ List.mem_map_of_mem (List.mem_of_find?_eq_some hrest)
      · rcases ih hrest hnodup.2 h with h | ⟨hmem, hne⟩
        · exact .inl h
        · exact .inr ⟨.tail _ hmem, hne⟩

theorem nodup_map_of_determines {γ : Type*} {mark : α → β} {key : α → γ} {items : List α}
    (hmarks : (items.map mark).Nodup)
    (hkey : ∀ item ∈ items, ∀ other ∈ items, key item = key other → mark item = mark other) :
    (items.map key).Nodup := by
  rw [List.Nodup, List.pairwise_map] at hmarks ⊢
  apply hmarks.imp_of_mem
  intro item other hitem hother hne heq
  exact hne (hkey item hitem other hother heq)

theorem find?_key_of_mem [DecidableEq β] {project : α → β} {items : List α} {item : α}
    (hnodup : (items.map project).Nodup) (h : item ∈ items) :
    items.find? (fun entry => decide (project entry = project item)) = some item := by
  induction items with
  | nil => simp at h
  | cons first _ ih =>
    rw [List.map_cons, List.nodup_cons] at hnodup
    rcases List.mem_cons.mp h with rfl | h
    · simp
    · have hne : project first ≠ project item := fun heq =>
        hnodup.1 (heq ▸ List.mem_map_of_mem h)
      rw [List.find?_cons]
      simp only [hne, decide_false]
      exact ih hnodup.2 h

/-- The list with the first element that satisfies `test` merged with `incoming`, which
goes to the end when there is none. -/
def upsertFirst (test : α → Bool) (merge : α → α → α) (incoming : α) : List α → List α
  | [] => [incoming]
  | item :: rest =>
    if test item then merge item incoming :: rest
    else item :: upsertFirst test merge incoming rest

theorem forall_mem_upsertFirst {holds : α → Prop} {test : α → Bool} {items : List α}
    (hitems : ∀ item ∈ items, holds item)
    (hincoming : holds incoming) (hmerge : ∀ found ∈ items, holds (merge found incoming)) :
    ∀ item ∈ upsertFirst test merge incoming items, holds item := by
  induction items with
  | nil => simpa [upsertFirst] using hincoming
  | cons _ _ ih =>
    rw [List.forall_mem_cons] at hitems hmerge
    rw [upsertFirst]
    split
    · exact List.forall_mem_cons.mpr ⟨hmerge.1, hitems.2⟩
    · exact List.forall_mem_cons.mpr ⟨hitems.1, ih hitems.2 hmerge.2⟩

theorem find?_upsertFirst (hfound : items.find? test = some found)
    (hkeep : test (merge found incoming) = true) :
    (upsertFirst test merge incoming items).find? test = some (merge found incoming) := by
  induction items with
  | nil => cases hfound
  | cons first _ ih =>
    rw [upsertFirst]
    by_cases htest : test first = true
    · rw [List.find?_cons_of_pos htest] at hfound
      cases hfound
      rw [if_pos htest, List.find?_cons_of_pos hkeep]
    · rw [List.find?_cons_of_neg htest] at hfound
      rw [if_neg htest, List.find?_cons_of_neg htest, ih hfound]

theorem find?_upsertFirst_of_none (hnone : items.find? test = none)
    (hincoming : test incoming = true) :
    (upsertFirst test merge incoming items).find? test = some incoming := by
  induction items with
  | nil => exact List.find?_cons_of_pos hincoming
  | cons first _ ih =>
    rw [List.find?_cons] at hnone
    rw [upsertFirst]
    cases htest : test first with
    | true => simp [htest] at hnone
    | false => simpa [htest] using ih (by simpa [htest] using hnone)

variable (htest : ∀ first second, view first = view second → test first = test second)
include htest

theorem map_upsertFirst_congr {incoming' : α} (hincoming : view incoming = view incoming')
    {items : List α}
    (hmerge : ∀ found found', items.find? test = some found → items'.find? test = some found' →
      view found = view found' → view (merge found incoming) = view (merge found' incoming'))
    (hitems : items.map view = items'.map view) :
    (upsertFirst test merge incoming items).map view =
      (upsertFirst test merge incoming' items').map view := by
  induction items generalizing items' with
  | nil =>
    rw [List.map_nil] at hitems
    rw [List.map_eq_nil_iff.mp hitems.symm]
    exact congrArg (fun seen => [seen]) hincoming
  | cons item _ ih =>
    cases items' with
    | nil => simp at hitems
    | cons item' =>
      obtain ⟨hitem, hrest⟩ := List.cons.inj hitems
      have hsame := htest item item' hitem
      rw [upsertFirst, upsertFirst, hsame]
      by_cases hfound : test item' = true
      · rw [if_pos hfound, if_pos hfound, List.map_cons, List.map_cons, hrest,
          hmerge item item' (by simp [hsame, hfound]) (by simp [hfound]) hitem]
      · rw [if_neg hfound, if_neg hfound, List.map_cons, List.map_cons, hitem, ih ?_ hrest]
        intro found found' hone hother
        exact hmerge found found' (by simp [hsame, hfound, hone]) (by simp [hfound, hother])

theorem map_find?_congr {items : List α} (hitems : items.map view = items'.map view) :
    (items.find? test).map view = (items'.find? test).map view := by
  induction items generalizing items' with
  | nil =>
    rw [List.map_nil] at hitems
    rw [List.map_eq_nil_iff.mp hitems.symm]
  | cons item _ ih =>
    cases items' with
    | nil => simp at hitems
    | cons item' =>
      obtain ⟨hitem, hrest⟩ := List.cons.inj hitems
      rw [List.find?_cons, List.find?_cons, htest item item' hitem]
      cases test item' with
      | true => exact congrArg some hitem
      | false => exact ih hrest

end OpenCowork.Foundation
