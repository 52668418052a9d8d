import Mathlib.Data.List.Count
import Mathlib.Data.List.Nodup

/-! # Insertion-ordered maps

A map that remembers the order in which its keys first appeared. Assigning to a
present key keeps its place; a new key goes to the end. Distinctness of the keys
is part of the map.
-/

namespace OpenCowork.Foundation

structure OrderedMap (κ : Type*) (ν : Type*) where
  entries : List (κ × ν)
  nodupKeys : (entries.map Prod.fst).Nodup

namespace OrderedMap

variable {κ ν μ : Type*} [DecidableEq κ] {key other : κ} {value old : ν} {entries : List (κ × ν)}

/-- The value of the first entry with the given key. -/
def lookup (key : κ) : List (κ × ν) → Option ν
  | [] => none
  | (other, value) :: rest => if other = key then some value else lookup key rest

/-- Replace the value in place, or append a new entry. -/
def assign (key : κ) (value : ν) : List (κ × ν) → List (κ × ν)
  | [] => [(key, value)]
  | (other, old) :: rest =>
    if other = key then (other, value) :: rest else (other, old) :: assign key value rest

theorem mem_keys_assign (key : κ) (value : ν) (entries : List (κ × ν)) (other : κ) :
    other ∈ (assign key value entries).map Prod.fst ↔
      other = key ∨ other ∈ entries.map Prod.fst := by
  induction entries with
  | nil => simp [assign]
  | cons entry _ ih =>
    obtain ⟨first, _⟩ := entry
    by_cases hfirst : first = key
    · subst hfirst
      simp [assign]
    · simp only [assign, hfirst, if_false, List.map_cons, List.mem_cons, ih]
      tauto

theorem nodup_keys_assign (key : κ) (value : ν) (entries : List (κ × ν))
    (hnodup : (entries.map Prod.fst).Nodup) : ((assign key value entries).map Prod.fst).Nodup := by
  induction entries with
  | nil => simp [assign]
  | cons entry _ ih =>
    obtain ⟨first, _⟩ := entry
    rw [List.map_cons, List.nodup_cons] at hnodup
    by_cases hfirst : first = key
    · simpa [assign, hfirst] using hnodup
    · rw [assign, if_neg hfirst, List.map_cons, List.nodup_cons]
      refine ⟨?_, ih hnodup.2⟩
      rw [mem_keys_assign]
      exact fun h => h.elim hfirst hnodup.1

theorem lookup_assign (key other : κ) (value : ν) (entries : List (κ × ν)) :
    lookup other (assign key value entries) =
      if key = other then some value else lookup other entries := by
  induction entries with
  | nil => simp [assign, lookup]
  | cons entry _ ih =>
    obtain ⟨first, _⟩ := entry
    by_cases hfirst : first = key
    · subst hfirst
      simp only [assign, if_true, lookup]
      split <;> rfl
    · simp only [assign, hfirst, if_false, lookup, ih]
      split
      next hother =>
        subst hother
        rw [if_neg (Ne.symm hfirst)]
      · rfl

theorem assign_assign (key : κ) (first second : ν) (entries : List (κ × ν)) :
    assign key second (assign key first entries) = assign key second entries := by
  induction entries with
  | nil => simp [assign]
  | cons entry _ ih =>
    obtain ⟨other, _⟩ := entry
    by_cases hother : other = key
    · simp [assign, hother]
    · simp [assign, hother, ih]

theorem mem_of_lookup (key : κ) (value : ν) (entries : List (κ × ν))
    (h : lookup key entries = some value) : (key, value) ∈ entries := by
  induction entries with
  | nil => simp [lookup] at h
  | cons entry _ ih =>
    obtain ⟨_, old⟩ := entry
    rw [lookup] at h
    split at h
    next hfirst =>
      obtain rfl : old = value := by simpa using h
      simp [hfirst]
    · exact .tail _ (ih h)

theorem lookup_of_mem (key : κ) (value : ν) (entries : List (κ × ν))
    (hnodup : (entries.map Prod.fst).Nodup) (h : (key, value) ∈ entries) :
    lookup key entries = some value := by
  induction entries with
  | nil => simp at h
  | cons entry _ ih =>
    obtain ⟨first, _⟩ := entry
    rw [List.map_cons, List.nodup_cons] at hnodup
    rw [lookup]
    rcases List.mem_cons.mp h with heq | hmem
    · obtain ⟨rfl, rfl⟩ := Prod.mk.inj heq
      rw [if_pos rfl]
    · have hne : first ≠ key := by
        rintro rfl
        exact hnodup.1 (List.mem_map.mpr ⟨_, hmem, rfl⟩)
      rw [if_neg hne, ih hnodup.2 hmem]

/-- The map without entries. -/
def empty : OrderedMap κ ν := ⟨[], List.nodup_nil⟩

def get (map : OrderedMap κ ν) (key : κ) : Option ν := lookup key map.entries

def set (map : OrderedMap κ ν) (key : κ) (value : ν) : OrderedMap κ ν where
  entries := assign key value map.entries
  nodupKeys := nodup_keys_assign key value map.entries map.nodupKeys

def erase (map : OrderedMap κ ν) (key : κ) : OrderedMap κ ν where
  entries := map.entries.filter fun entry => decide (entry.1 ≠ key)
  nodupKeys := map.nodupKeys.sublist (List.filter_sublist.map Prod.fst)

def filter (test : κ → ν → Bool) (map : OrderedMap κ ν) : OrderedMap κ ν where
  entries := map.entries.filter fun entry => test entry.1 entry.2
  nodupKeys := map.nodupKeys.sublist (List.filter_sublist.map Prod.fst)

def values (map : OrderedMap κ ν) : List ν := map.entries.map Prod.snd

/-- Every value through `f`, keys and order kept. -/
def map {μ : Type*} (f : ν → μ) (source : OrderedMap κ ν) : OrderedMap κ μ where
  entries := source.entries.map fun entry => (entry.1, f entry.2)
  nodupKeys := by
    have h : (source.entries.map fun entry => (entry.1, f entry.2)).map Prod.fst =
        source.entries.map Prod.fst := by simp [Function.comp_def]
    rw [h]
    exact source.nodupKeys

@[simp] theorem get_empty (key : κ) : (empty : OrderedMap κ ν).get key = none := rfl

section

variable (map : OrderedMap κ ν)
include map

@[grind =] theorem get_set (key other : κ) (value : ν) :
    (map.set key value).get other = if key = other then some value else map.get other :=
  lookup_assign key other value map.entries

@[simp] theorem get_set_self (key : κ) (value : ν) : (map.set key value).get key = some value := by
  rw [get_set, if_pos rfl]

theorem get_set_of_ne {key other : κ} (value : ν) (h : key ≠ other) :
    (map.set key value).get other = map.get other := by
  rw [get_set, if_neg h]

theorem set_set (key : κ) (first second : ν) :
    (map.set key first).set key second = map.set key second := by
  simp only [set, assign_assign]

@[simp] theorem get_erase_self (key : κ) : (map.erase key).get key = none := by
  cases hget : (map.erase key).get key with
  | none => rfl
  | some value =>
    have hmem := mem_of_lookup key value _ hget
    simp [erase] at hmem

theorem get_eq_some_iff (key : κ) (value : ν) :
    map.get key = some value ↔ (key, value) ∈ map.entries :=
  ⟨mem_of_lookup key value map.entries, lookup_of_mem key value map.entries map.nodupKeys⟩

theorem get_erase_of_ne {key other : κ} (h : key ≠ other) :
    (map.erase key).get other = map.get other := by
  ext value
  simp only [get_eq_some_iff, erase, List.mem_filter, decide_eq_true_eq]
  exact ⟨fun hmem => hmem.1, fun hmem => ⟨hmem, Ne.symm h⟩⟩

end

/-- What holds of the new value and of those that were there holds of each value. -/
@[elab_as_elim] theorem of_get_set {motive : κ → ν → Prop} {map map' : OrderedMap κ ν} {found : ν}
    (hmap : map' = map.set key value) (hget : map'.get other = some found) (hset : motive key value)
    (hkept : map.get other = some found → motive other found) : motive other found := by
  rw [hmap, get_set] at hget
  split at hget
  next hkey =>
    obtain rfl := Option.some.inj hget
    exact hkey ▸ hset
  · exact hkept hget

theorem isSome_set {map : OrderedMap κ ν} (value : ν)
    (hother : (map.get other).isSome) : ((map.set key value).get other).isSome := by
  rw [get_set]
  split
  · rfl
  · exact hother

@[elab_as_elim] theorem of_isSome_set {motive : κ → Prop} {map map' : OrderedMap κ ν}
    (hmap : map' = map.set key value) (hget : (map'.get other).isSome) (hset : motive key)
    (hkept : (map.get other).isSome → motive other) : motive other := by
  obtain ⟨_, hfound⟩ := Option.isSome_iff_exists.mp hget
  exact of_get_set hmap hfound hset fun hheld => hkept (by rw [hheld]; rfl)

theorem of_get_erase {map : OrderedMap κ ν}
    (h : (map.erase key).get other = some value) : key ≠ other ∧ map.get other = some value := by
  by_cases hkey : key = other
  · rw [hkey, get_erase_self] at h
    cases h
  · exact ⟨hkey, get_erase_of_ne map hkey ▸ h⟩

theorem get_filter_eq_some_iff (test : κ → ν → Bool) (map : OrderedMap κ ν) (key : κ) (value : ν) :
    (map.filter test).get key = some value ↔ map.get key = some value ∧ test key value = true := by
  simp only [get_eq_some_iff, filter, List.mem_filter]

theorem mem_values_iff (map : OrderedMap κ ν) (value : ν) :
    value ∈ map.values ↔ ∃ key, map.get key = some value := by
  simp only [values, List.mem_map, get_eq_some_iff, Prod.exists]
  exact ⟨fun ⟨key, _, hmem, heq⟩ => ⟨key, heq ▸ hmem⟩, fun ⟨key, hmem⟩ => ⟨key, value, hmem, rfl⟩⟩

omit [DecidableEq κ] in
theorem ext_entries {left right : OrderedMap κ ν} (h : left.entries = right.entries) :
    left = right := by
  cases left
  cases right
  cases h
  rfl

/-- Every value through `f`, which also sees its key. -/
def mapWithKey {μ : Type*} (f : κ → ν → μ) (source : OrderedMap κ ν) : OrderedMap κ μ where
  entries := source.entries.map fun entry => (entry.1, f entry.1 entry.2)
  nodupKeys := by
    have h : (source.entries.map fun entry => (entry.1, f entry.1 entry.2)).map Prod.fst =
        source.entries.map Prod.fst := by simp [Function.comp_def]
    rw [h]
    exact source.nodupKeys

theorem get_mapWithKey (f : κ → ν → μ) (source : OrderedMap κ ν) (key : κ) :
    (source.mapWithKey f).get key = (source.get key).map (f key) := by
  unfold get mapWithKey
  simp only
  induction source.entries with
  | nil => rfl
  | cons _ _ ih =>
    simp only [List.map_cons, lookup]
    split
    next h => rw [← h, Option.map_some]
    · exact ih

omit [DecidableEq κ] in
theorem mapWithKey_map {τ : Type*} (f : ν → μ) (g : κ → μ → τ) (source : OrderedMap κ ν) :
    (source.map f).mapWithKey g = source.mapWithKey fun key value => g key (f value) := by
  apply ext_entries
  simp [map, mapWithKey, Function.comp_def]

theorem get_map (f : ν → μ) (source : OrderedMap κ ν) (key : κ) :
    (source.map f).get key = (source.get key).map f :=
  get_mapWithKey (fun _ => f) source key

theorem set_get_self (map : OrderedMap κ ν)
    (h : map.get key = some value) : map.set key value = map := by
  have hassign : ∀ entries : List (κ × ν), lookup key entries = some value →
      assign key value entries = entries := by
    intro entries
    induction entries with
    | nil => simp [lookup]
    | cons entry _ ih =>
      obtain ⟨_, _⟩ := entry
      rw [lookup, assign]
      split
      · intro heq
        rw [Option.some.inj heq]
      · exact fun heq => by rw [ih heq]
  exact ext_entries (hassign map.entries h)

theorem set_eq_mapWithKey (map : OrderedMap κ ν) (value : ν) (h : map.get key = some old) :
    map.set key value = map.mapWithKey fun other held => if other = key then value else held := by
  have hassign : ∀ entries : List (κ × ν), (entries.map Prod.fst).Nodup →
      lookup key entries = some old → assign key value entries =
        entries.map fun entry => (entry.1, if entry.1 = key then value else entry.2) := by
    intro entries
    induction entries with
    | nil => simp [lookup]
    | cons entry rest ih =>
      obtain ⟨other, _⟩ := entry
      intro hnodup hlookup
      rw [List.map_cons, List.nodup_cons] at hnodup
      rw [assign, List.map_cons]
      by_cases hother : other = key
      · rw [if_pos hother, if_pos hother]
        congr 1
        -- behind its own entry the key does not come again
        refine (List.map_id' rest).symm.trans (List.map_congr_left fun later hlater => ?_)
        have hne : later.1 ≠ key := by
          rintro rfl
          exact hnodup.1 (List.mem_map.mpr ⟨later, hlater, hother.symm⟩)
        rw [if_neg hne]
      · rw [lookup, if_neg hother] at hlookup
        rw [if_neg hother, if_neg hother, ih hnodup.2 hlookup]
  exact ext_entries (hassign map.entries map.nodupKeys h)

def setAll (map : OrderedMap κ ν) (entries : List (κ × ν)) : OrderedMap κ ν :=
  entries.foldl (fun map entry => map.set entry.1 entry.2) map

variable (map : OrderedMap κ ν)
include map

theorem setAll_cons (entry : κ × ν) (rest : List (κ × ν)) :
    map.setAll (entry :: rest) = (map.set entry.1 entry.2).setAll rest := rfl

theorem setAll_append (first rest : List (κ × ν)) :
    map.setAll (first ++ rest) = (map.setAll first).setAll rest :=
  List.foldl_append

theorem get_setAll_of_not_mem
    (hkey : key ∉ entries.map Prod.fst) : (map.setAll entries).get key = map.get key := by
  induction entries generalizing map with
  | nil => rfl
  | cons entry _ ih =>
    rw [List.map_cons, List.mem_cons, not_or] at hkey
    exact (ih (map.set entry.1 entry.2) hkey.2).trans (map.get_set_of_ne _ (Ne.symm hkey.1))

theorem get_setAll_of_mem (hdistinct : (entries.map Prod.fst).Nodup)
    (hmem : (key, value) ∈ entries) : (map.setAll entries).get key = some value := by
  induction entries generalizing map with
  | nil => exact absurd hmem List.not_mem_nil
  | cons entry _ ih =>
    rw [List.map_cons, List.nodup_cons] at hdistinct
    rcases List.mem_cons.mp hmem with rfl | hmem
    · exact ((map.set key value).get_setAll_of_not_mem hdistinct.1).trans
        (map.get_set_self key value)
    · exact ih (map.set entry.1 entry.2) hdistinct.2 hmem

theorem get_setAll_eq_some_iff (hdistinct : (entries.map Prod.fst).Nodup) :
    (map.setAll entries).get key = some value ↔
      (key, value) ∈ entries ∨ key ∉ entries.map Prod.fst ∧ map.get key = some value := by
  by_cases hkey : key ∈ entries.map Prod.fst
  · obtain ⟨_, hmem, rfl⟩ := List.mem_map.mp hkey
    rw [map.get_setAll_of_mem hdistinct hmem, Option.some_inj]
    constructor
    · rintro rfl
      exact .inl hmem
    · rintro (hother | ⟨hfree, -⟩)
      · exact congrArg Prod.snd (List.inj_on_of_nodup_map hdistinct hmem hother rfl)
      · exact absurd hkey hfree
  · rw [map.get_setAll_of_not_mem hkey]
    constructor
    · exact fun hget => .inr ⟨hkey, hget⟩
    · rintro (hmem | ⟨-, hget⟩)
      · exact absurd (List.mem_map_of_mem hmem) hkey
      · exact hget

omit map

/-- A new entry; there is none where the key is taken. -/
def insertNew (map : OrderedMap κ ν) (key : κ) (value : ν) : Option (OrderedMap κ ν) :=
  if (map.get key).isSome then none else some (map.set key value)

/-- The entry of a key through `f`, if there is one. -/
def modify (map : OrderedMap κ ν) (key : κ) (f : ν → ν) : OrderedMap κ ν :=
  match map.get key with
  | none => map
  | some value => map.set key (f value)

theorem insertNew_of_free {map : OrderedMap κ ν} (value : ν)
    (hfree : map.get key = none) : map.insertNew key value = some (map.set key value) := by
  rw [insertNew, hfree, if_neg (by simp)]

theorem insertNew_of_taken {map : OrderedMap κ ν} {held : ν} (value : ν)
    (htaken : map.get key = some held) : map.insertNew key value = none := by
  rw [insertNew, htaken, if_pos Option.isSome_some]

theorem insertNew_eq_some_iff {map map' : OrderedMap κ ν} :
    map.insertNew key value = some map' ↔ map.get key = none ∧ map' = map.set key value := by
  cases hget : map.get key with
  | none => simp [insertNew_of_free value hget, eq_comm]
  | some => simp [insertNew_of_taken value hget]

theorem modify_of_get {map : OrderedMap κ ν} (f : ν → ν)
    (h : map.get key = some value) : map.modify key f = map.set key (f value) := by
  rw [modify, h]

theorem get_modify (map : OrderedMap κ ν) (key other : κ) (f : ν → ν) :
    (map.modify key f).get other = if key = other then (map.get key).map f else map.get other := by
  cases hget : map.get key with
  | none =>
    rw [modify, hget]
    by_cases hkey : key = other
    · rw [if_pos hkey, ← hkey, hget, Option.map_none]
    · rw [if_neg hkey]
  | some => rw [modify_of_get f hget, get_set, Option.map_some]

theorem entries_set_of_free {map : OrderedMap κ ν} (value : ν)
    (hfree : map.get key = none) : (map.set key value).entries = map.entries ++ [(key, value)] := by
  unfold get at hfree
  unfold set
  dsimp only
  generalize map.entries = entries at hfree
  induction entries with
  | nil => rfl
  | cons entry _ ih =>
    obtain ⟨other, _⟩ := entry
    rw [lookup] at hfree
    by_cases hother : other = key
    · rw [if_pos hother] at hfree
      simp at hfree
    · rw [if_neg hother] at hfree
      rw [assign, if_neg hother, ih hfree, List.cons_append]

theorem values_set_of_free {map : OrderedMap κ ν} (value : ν)
    (hfree : map.get key = none) : (map.set key value).values = map.values ++ [value] := by
  rw [values, entries_set_of_free value hfree, List.map_append]
  rfl

theorem length_filter_values_set {map : OrderedMap κ ν} (new : ν) (test : ν → Bool)
    (h : map.get key = some old) :
    ((map.set key new).values.filter test).length + (if test old then 1 else 0) =
      (map.values.filter test).length + if test new then 1 else 0 := by
  unfold get at h
  unfold values set
  dsimp only
  generalize map.entries = entries at h
  induction entries with
  | nil => cases h
  | cons entry _ ih =>
    obtain ⟨other, _⟩ := entry
    rw [lookup] at h
    rw [assign]
    by_cases hother : other = key
    · rw [if_pos hother] at h ⊢
      cases h
      simp only [List.map_cons, List.filter_cons]
      split <;> split <;> simp only [List.length_cons]
    · rw [if_neg hother] at h ⊢
      have hrest := ih h
      simp only [List.map_cons, List.filter_cons]
      split
      · simp only [List.length_cons]
        omega
      · exact hrest

theorem length_filter_values_le {before after : OrderedMap κ ν} {earlier later : ν → Bool}
    (fresh : List κ)
    (h : ∀ key ∉ fresh, ∀ value, after.get key = some value → later value = true →
      ∃ held, before.get key = some held ∧ earlier held = true) :
    (after.values.filter later).length ≤ fresh.length + (before.values.filter earlier).length := by
  have hkeys : ∀ (map : OrderedMap κ ν) (test : ν → Bool), (map.values.filter test).length =
      ((map.entries.filter (test ∘ Prod.snd)).map Prod.fst).length := by
    intro map test
    rw [values, List.filter_map, List.length_map, List.length_map]
  rw [hkeys, hkeys, ← List.length_append]
  apply List.Subperm.length_le
  apply List.subperm_of_subset
  · exact after.nodupKeys.sublist (List.filter_sublist.map Prod.fst)
  · intro _ hmem
    obtain ⟨⟨_, value⟩, hentry, rfl⟩ := List.mem_map.mp hmem
    rw [List.mem_filter] at hentry
    rw [List.mem_append, or_iff_not_imp_left]
    intro hfresh
    obtain ⟨held, hheld, hearlier⟩ := h _ hfresh value
      ((after.get_eq_some_iff _ _).mpr hentry.1) hentry.2
    exact List.mem_map.mpr ⟨(_, held),
      List.mem_filter.mpr ⟨(before.get_eq_some_iff _ _).mp hheld, hearlier⟩, rfl⟩

/-! ## Maps that agree entry by entry -/

section Alike

variable {μ : Type*} {related : ν → μ → Prop} {left : OrderedMap κ ν} {right : OrderedMap κ μ}

/-- The same keys in the same order, with related values. -/
def Alike (related : ν → μ → Prop) (left : OrderedMap κ ν) (right : OrderedMap κ μ) : Prop :=
  List.Forall₂ (fun first second => first.1 = second.1 ∧ related first.2 second.2)
    left.entries right.entries

variable (halike : Alike related left right)
include halike

theorem Alike.get (key : κ) :
    (left.get key = none ∧ right.get key = none) ∨
      ∃ first second, left.get key = some first ∧ right.get key = some second ∧
        related first second := by
  unfold Alike at halike
  unfold OrderedMap.get
  generalize left.entries = first, right.entries = second at halike
  induction halike with
  | nil => exact .inl ⟨rfl, rfl⟩
  | @cons first second _ _ hentry _ ih =>
    obtain ⟨firstKey, firstValue⟩ := first
    obtain ⟨secondKey, secondValue⟩ := second
    obtain ⟨rfl, hrelated⟩ : firstKey = secondKey ∧ related firstValue secondValue := hentry
    simp only [lookup]
    split
    · exact .inr ⟨firstValue, secondValue, rfl, rfl, hrelated⟩
    · exact ih

theorem Alike.set (key : κ) {first : ν} {second : μ}
    (hrelated : related first second) : Alike related (left.set key first)
    (right.set key second) := by
  unfold Alike at halike ⊢
  simp only [OrderedMap.set]
  generalize left.entries = first, right.entries = second at halike
  induction halike with
  | nil => exact .cons ⟨rfl, hrelated⟩ .nil
  | @cons old new _ _ hentry hrest ih =>
    obtain ⟨oldKey, oldValue⟩ := old
    obtain ⟨newKey, newValue⟩ := new
    obtain ⟨rfl, hold⟩ : oldKey = newKey ∧ related oldValue newValue := hentry
    simp only [assign]
    split
    · exact .cons ⟨rfl, hrelated⟩ hrest
    · exact .cons ⟨rfl, hold⟩ ih

theorem Alike.mono {wider : ν → μ → Prop}
    (h : ∀ key first second, left.get key = some first → right.get key = some second →
      related first second → wider first second) : Alike wider left right := by
  have hleft : ∀ entry ∈ left.entries, left.get entry.1 = some entry.2 :=
    fun entry hmem => lookup_of_mem entry.1 entry.2 left.entries left.nodupKeys hmem
  have hright : ∀ entry ∈ right.entries, right.get entry.1 = some entry.2 :=
    fun entry hmem => lookup_of_mem entry.1 entry.2 right.entries right.nodupKeys hmem
  have hall : ∀ (first : List (κ × ν)) (second : List (κ × μ)),
      List.Forall₂ (fun a b => a.1 = b.1 ∧ related a.2 b.2) first second →
      (∀ entry ∈ first, left.get entry.1 = some entry.2) →
      (∀ entry ∈ second, right.get entry.1 = some entry.2) →
      List.Forall₂ (fun a b => a.1 = b.1 ∧ wider a.2 b.2) first second := by
    intro first second hboth
    induction hboth with
    | nil => exact fun _ _ => .nil
    | @cons a b _ _ hentry _ ih =>
      intro hfirst hsecond
      have ha := hfirst a (.head _)
      have hb := hsecond b (.head _)
      refine .cons ⟨hentry.1, h a.1 a.2 b.2 ha (hentry.1 ▸ hb) hentry.2⟩ (ih ?_ ?_)
      · exact fun entry hmem => hfirst entry (.tail _ hmem)
      · exact fun entry hmem => hsecond entry (.tail _ hmem)
  exact hall left.entries right.entries halike hleft hright

omit halike

theorem Alike.mapWithKey (related : ν → μ → Prop) (left : OrderedMap κ ν) (f : κ → ν → μ)
    (h : ∀ key value, left.get key = some value → related value (f key value)) :
    Alike related left (left.mapWithKey f) := by
  have hall : ∀ entries : List (κ × ν), (∀ entry ∈ entries, related entry.2 (f entry.1 entry.2)) →
      List.Forall₂ (fun a b => a.1 = b.1 ∧ related a.2 b.2) entries
        (entries.map fun entry => (entry.1, f entry.1 entry.2)) := by
    intro entries
    induction entries with
    | nil => exact fun _ => .nil
    | cons entry _ ih =>
      intro hentries
      exact .cons ⟨rfl, hentries entry (.head _)⟩
        (ih fun other hmem => hentries other (.tail _ hmem))
  exact hall left.entries fun entry hmem =>
    h entry.1 entry.2 (lookup_of_mem entry.1 entry.2 left.entries left.nodupKeys hmem)

omit [DecidableEq κ] in
theorem Alike.map_eq {τ : Type*} (halike : Alike related left right) (f : ν → τ) (g : μ → τ)
    (h : ∀ first second, related first second → f first = g second) : left.map f = right.map g := by
  apply ext_entries
  unfold Alike at halike
  simp only [OrderedMap.map]
  generalize left.entries = first, right.entries = second at halike
  induction halike with
  | nil => rfl
  | @cons a b _ _ hentry _ ih => rw [List.map_cons, List.map_cons, ih, hentry.1, h _ _ hentry.2]

end Alike

end OrderedMap

end OpenCowork.Foundation
