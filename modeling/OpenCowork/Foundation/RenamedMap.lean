import OpenCowork.Foundation.OrderedMap

/-! # Maps under renamed keys

Two ordered maps with the same values in the same order, whose keys correspond
under a renaming that confuses none of them, answer alike and stay alike under
the same operations. A view of a map keeps the entries whose values pass a test;
writing a key whose values stay outside of the view does not change it.
-/

namespace OpenCowork.Foundation

namespace OrderedMap

variable {κ μ ν : Type*}

/-- The entries of `right` are those of `left` under renamed keys. -/
def Renamed (rename : κ → μ) (left : OrderedMap κ ν) (right : OrderedMap μ ν) : Prop :=
  right.entries = left.entries.map fun entry => (rename entry.1, entry.2)

def Separates (rename : κ → μ) (map : OrderedMap κ ν) (key : κ) : Prop :=
  ∀ entry ∈ map.entries, rename entry.1 = rename key → entry.1 = key

variable [DecidableEq κ] [DecidableEq μ] {rename : κ → μ} {left : OrderedMap κ ν}
  {right : OrderedMap μ ν}

section

variable (h : Renamed rename left right) {key : κ} (hkey : Separates rename left key)
include h hkey

theorem Renamed.get : right.get (rename key) = left.get key := by
  unfold OrderedMap.get
  rw [h]
  unfold Separates at hkey
  generalize left.entries = entries at hkey
  induction entries with
  | nil => rfl
  | cons entry _ ih =>
    obtain ⟨other, _⟩ := entry
    rw [List.map_cons, lookup, lookup]
    by_cases hother : other = key
    · rw [if_pos hother, if_pos (congrArg rename hother)]
    · have hrenamed : rename other ≠ rename key := fun heq =>
        hother (hkey _ (.head _) heq)
      rw [if_neg hother, if_neg hrenamed]
      exact ih fun entry hmem => hkey entry (.tail _ hmem)

theorem Renamed.set
    (value : ν) : Renamed rename (left.set key value) (right.set (rename key) value) := by
  unfold Renamed OrderedMap.set
  dsimp only
  rw [h]
  unfold Separates at hkey
  generalize left.entries = entries at hkey
  induction entries with
  | nil => rfl
  | cons entry _ ih =>
    obtain ⟨other, _⟩ := entry
    rw [List.map_cons, assign, assign]
    by_cases hother : other = key
    · rw [if_pos hother, if_pos (congrArg rename hother), List.map_cons]
    · have hrenamed : rename other ≠ rename key := fun heq =>
        hother (hkey _ (.head _) heq)
      rw [if_neg hother, if_neg hrenamed, List.map_cons,
        ih fun entry hmem => hkey entry (.tail _ hmem)]

theorem Renamed.erase : Renamed rename (left.erase key) (right.erase (rename key)) := by
  unfold Renamed OrderedMap.erase
  dsimp only
  rw [h, List.filter_map]
  congr 1
  apply List.filter_congr
  intro entry hmem
  simp only [Function.comp_apply, decide_eq_decide]
  exact not_congr ⟨hkey entry hmem, congrArg rename⟩

end

omit [DecidableEq κ] [DecidableEq μ] in
theorem Renamed.filter (h : Renamed rename left right) (test : ν → Bool) :
    Renamed rename (left.filter fun _ value => test value)
      (right.filter fun _ value => test value) := by
  unfold Renamed OrderedMap.filter
  dsimp only
  rw [h, List.filter_map]
  rfl

section Views

variable (test : ν → Bool) (map : OrderedMap κ ν) {key : κ} {value : ν}

/-- The entries whose values pass a test. -/
def view : OrderedMap κ ν := map.filter fun _ value => test value

theorem get_view :
    (view test map).get key = some value ↔ map.get key = some value ∧ test value = true :=
  get_filter_eq_some_iff _ _ _ _

omit [DecidableEq κ] in
theorem entries_view : (view test map).entries = map.entries.filter fun entry => test entry.2 := rfl

theorem view_set_of_outside (hvalue : test value = false)
    (hold : ∀ old, map.get key = some old → test old = false) :
    view test (map.set key value) = view test map := by
  apply ext_entries
  rw [entries_view, entries_view]
  cases hget : map.get key with
  | none => rw [entries_set_of_free value hget, List.filter_append]; simp [hvalue]
  | some =>
    rw [set_eq_mapWithKey map value hget]
    have hout : ∀ entry ∈ map.entries, entry.1 = key → test entry.2 = false := by
      rintro ⟨other, held⟩ hmem rfl
      exact hold held ((get_eq_some_iff map other held).mpr hmem)
    change (map.entries.map _).filter _ = _
    rw [List.filter_map]
    have htest : map.entries.filter ((fun entry : κ × ν => test entry.2) ∘ fun entry =>
        (entry.1, if entry.1 = key then value else entry.2)) =
          map.entries.filter fun entry => test entry.2 := by
      apply List.filter_congr
      intro entry hmem
      by_cases hkey : entry.1 = key
      · simp [hkey, hvalue, hout entry hmem hkey]
      · simp [hkey]
    rw [htest]
    refine (List.map_congr_left ?_).trans (List.map_id' _)
    intro entry hmem
    obtain ⟨hentry, hpass⟩ := List.mem_filter.mp hmem
    have hkey : entry.1 ≠ key := by
      intro hkey
      rw [hout entry hentry hkey] at hpass
      cases hpass
    dsimp only
    rw [if_neg hkey]

theorem view_set_of_inside (hvalue : test value = true)
    (hold : ∀ old, map.get key = some old → test old = true) :
    view test (map.set key value) = (view test map).set key value := by
  apply ext_entries
  rw [entries_view]
  cases hget : map.get key with
  | none =>
    have hfree : (view test map).get key = none := by
      rw [Option.eq_none_iff_forall_ne_some]
      intro old hview
      rw [get_view, hget] at hview
      cases hview.1
    rw [entries_set_of_free value hget, entries_set_of_free value hfree, List.filter_append,
      entries_view]
    simp [hvalue]
  | some old =>
    have hview : (view test map).get key = some old := (get_view test map).mpr ⟨hget, hold old hget⟩
    rw [set_eq_mapWithKey map value hget, set_eq_mapWithKey _ value hview]
    change (map.entries.map _).filter _ = (view test map).entries.map _
    rw [List.filter_map, entries_view]
    congr 1
    apply List.filter_congr
    rintro ⟨other, held⟩ hmem
    have hheld := (get_eq_some_iff map other held).mpr hmem
    by_cases hkey : other = key
    · subst hkey
      simp [hvalue, hold held hheld]
    · simp [hkey]

theorem view_erase (key : κ) : view test (map.erase key) = (view test map).erase key := by
  apply ext_entries
  change (map.entries.filter _).filter _ = (map.entries.filter _).filter _
  rw [List.filter_filter, List.filter_filter]
  simp only [Bool.and_comm]

theorem view_erase_of_outside (hold : ∀ old, map.get key = some old → test old = false) :
    view test (map.erase key) = view test map := by
  rw [view_erase]
  apply ext_entries
  change (view test map).entries.filter _ = (view test map).entries
  rw [List.filter_eq_self]
  rintro ⟨_, held⟩ hmem
  have hheld := (get_view test map).mp ((get_eq_some_iff _ _ _).mpr hmem)
  rw [decide_eq_true_eq]
  rintro rfl
  rw [hold held hheld.1] at hheld
  cases hheld.2

end Views

end OrderedMap

end OpenCowork.Foundation
