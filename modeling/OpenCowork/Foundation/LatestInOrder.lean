import Mathlib.Data.List.Basic

/-! # Latest entries in order

In a log, the latest entry of each key of a list, all of them good and one behind the other. A
log only grows at its end: an entry of another key changes nothing, and a good entry of the next
key extends the list.
-/

namespace OpenCowork.Foundation

variable {ρ σ : Type*} (key : ρ → σ) (good : ρ → Prop)

/-- The latest entry of each key is good, and stands before the latest entry of the next. -/
def LatestInOrder : List ρ → List σ → Prop
  | _, [] => True
  | log, first :: rest => ∃ before entry after, log = before ++ entry :: after ∧
      key entry = first ∧ good entry ∧ (∀ later ∈ after, key later ≠ first) ∧
      LatestInOrder after rest

namespace LatestInOrder

variable {key good} {log : List ρ} {keys : List σ} {entry : ρ}

theorem map {τ : Type*} {key' : τ → σ} {good' : τ → Prop} (f : ρ → τ)
    (hkey : ∀ entry ∈ log, key' (f entry) = key entry)
    (hgood : ∀ entry ∈ log, good entry → good' (f entry))
    (h : LatestInOrder key good log keys) : LatestInOrder key' good' (log.map f) keys := by
  induction keys generalizing log with
  | nil => trivial
  | cons _ _ ih =>
    obtain ⟨before, entry, after, rfl, hfirst, hentry, hlatest, hrest⟩ := h
    refine ⟨before.map f, f entry, after.map f, by simp, (hkey entry (by simp)).trans hfirst,
      hgood entry (by simp) hentry, ?_, ih (fun later hlater => hkey later (by simp [hlater]))
        (fun later hlater => hgood later (by simp [hlater])) hrest⟩
    intro later hlater
    obtain ⟨held, hheld, rfl⟩ := List.mem_map.mp hlater
    rw [hkey held (by simp [hheld])]
    exact hlatest held hheld

theorem of_append {rest : List σ} (h : LatestInOrder key good log (keys ++ rest)) :
    LatestInOrder key good log keys := by
  induction keys generalizing log with
  | nil => trivial
  | cons _ _ ih =>
    obtain ⟨before, entry, after, rfl, hkey, hgood, hlatest, hrest⟩ := h
    exact ⟨before, entry, after, rfl, hkey, hgood, hlatest, ih hrest⟩

theorem push (hother : key entry ∉ keys) (h : LatestInOrder key good log keys) :
    LatestInOrder key good (log ++ [entry]) keys := by
  induction keys generalizing log with
  | nil => trivial
  | cons _ _ ih =>
    rw [List.mem_cons, not_or] at hother
    obtain ⟨before, held, after, rfl, hkey, hgood, hlatest, hrest⟩ := h
    refine ⟨before, held, after ++ [entry], by simp, hkey, hgood, ?_, ih hother.2 hrest⟩
    intro later hlater
    rcases List.mem_append.mp hlater with hlater | hlater
    · exact hlatest later hlater
    · rw [List.mem_singleton.mp hlater]
      exact hother.1

theorem push_next (hgood : good entry) (hother : key entry ∉ keys)
    (h : LatestInOrder key good log keys) :
    LatestInOrder key good (log ++ [entry]) (keys ++ [key entry]) := by
  induction keys generalizing log with
  | nil => exact ⟨log, entry, [], rfl, rfl, hgood, by simp, trivial⟩
  | cons _ _ ih =>
    rw [List.mem_cons, not_or] at hother
    obtain ⟨before, held, after, rfl, hkey, hheld, hlatest, hrest⟩ := h
    refine ⟨before, held, after ++ [entry], by simp, hkey, hheld, ?_, ih hother.2 hrest⟩
    intro later hlater
    rcases List.mem_append.mp hlater with hlater | hlater
    · exact hlatest later hlater
    · rw [List.mem_singleton.mp hlater]
      exact hother.1

end LatestInOrder

end OpenCowork.Foundation
