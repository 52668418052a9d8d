import Mathlib.Algebra.Ring.Nat
import Mathlib.Data.List.Sort
import OpenCowork.Foundation.OrderedMap

/-! # Objects as maps

A JavaScript object that is filled key by key. Its own keys come in the order of their first
assignment, but array indices come first, by their numbers; a key that is assigned again keeps
its place, and an assignment of a plain value to `__proto__` adds none.
-/

namespace OpenCowork.Foundation

/-- The number of a key that is an array index: decimal digits without a leading zero, below
`2 ^ 32 - 1`. -/
def arrayIndex (key : String) : Option Nat :=
  let number := key.toList.foldl (fun number c => 10 * number + (c.toNat - 48)) 0
  if key ≠ "" ∧ key.toList.all Char.isDigit ∧ (key.toList.head? ≠ some '0' ∨ key = "0") ∧
      number < 2 ^ 32 - 1 then some number
  else none

/-- Whether a key comes in the order of its assignment. -/
def isNamed (key : String) : Bool := (arrayIndex key).isNone

theorem digits_of_index {key : String} (h : isNamed key = false) (c : Char)
    (hc : c ∈ key.toList) : c.isDigit = true := by
  unfold isNamed arrayIndex at h
  rw [Option.isNone_eq_false_iff] at h
  dsimp only at h
  split at h
  next hindex => exact List.all_eq_true.mp hindex.2.1 c hc
  · cases h

abbrev JsObject (ν : Type*) := OrderedMap String ν

namespace JsObject

variable {ν : Type*} (test : String → Bool) (object : JsObject ν) (value : ν) (key : String)
  {given : List String}

/-- The keys in the order of their first assignment. -/
def keys : List String := object.entries.map Prod.fst

/-- `Object.entries`. -/
def ownEntries : List (String × ν) :=
  (object.entries.filter fun entry => !isNamed entry.1).insertionSort
      (fun left right => (arrayIndex left.1).getD 0 ≤ (arrayIndex right.1).getD 0) ++
    object.entries.filter fun entry => isNamed entry.1

/-- `object[key] = value` of a value that is no object. -/
def setProperty (value : ν) : JsObject ν :=
  if key = "__proto__" then object else OrderedMap.set object key value

/-- `for (const key of keys) object[key] = value`. -/
def setAllTo (object : JsObject ν) (given : List String) : JsObject ν :=
  given.foldl (fun object key => object.setProperty key value) object

/-- The value of the last own key that passes a test. -/
def lastMatch : Option ν :=
  ((object.ownEntries.filter fun entry => test entry.1).getLast?).map Prod.snd

/-- The last of some keys that is no array index and passes a test. -/
def lastNamed (given : List String) : Option String := ((given.filter isNamed).filter test).getLast?

def newKeys (held : List String) : List String → List String
  | [] => []
  | key :: rest =>
    if key = "__proto__" ∨ key ∈ held then newKeys held rest
    else key :: newKeys (held ++ [key]) rest

/-! ## Keys -/

theorem keys_assign (value : ν) (entries : List (String × ν)) :
    (OrderedMap.assign key value entries).map Prod.fst =
      if key ∈ entries.map Prod.fst then entries.map Prod.fst
      else entries.map Prod.fst ++ [key] := by
  induction entries with
  | nil => simp [OrderedMap.assign]
  | cons entry _ ih =>
    by_cases hkey : entry.1 = key
    · simp [OrderedMap.assign, hkey]
    · have hne : key ≠ entry.1 := Ne.symm hkey
      simp only [OrderedMap.assign, if_neg hkey, List.map_cons, ih, List.mem_cons, hne, false_or]
      split <;> rfl

theorem keys_set (value : ν) :
    keys (OrderedMap.set object key value) =
      if key ∈ object.keys then object.keys else object.keys ++ [key] :=
  keys_assign key value object.entries

theorem keys_erase : keys (OrderedMap.erase object key) = object.keys.filter (· ≠ key) := by
  simp only [keys, OrderedMap.erase, List.filter_map]
  rfl

theorem keys_setAllTo (object : JsObject ν) (given : List String) :
    (setAllTo value object given).keys = object.keys ++ newKeys object.keys given := by
  induction given generalizing object with
  | nil => simp [setAllTo, newKeys]
  | cons key _ ih =>
    rw [setAllTo, List.foldl_cons, ← setAllTo, ih, newKeys]
    by_cases hproto : key = "__proto__"
    · rw [setProperty, if_pos hproto, if_pos (.inl hproto)]
    · rw [setProperty, if_neg hproto, keys_set]
      by_cases hheld : key ∈ object.keys
      · rw [if_pos hheld, if_pos (.inr hheld)]
      · rw [if_neg hheld, if_neg (not_or.mpr ⟨hproto, hheld⟩), List.append_assoc]
        rfl

theorem mem_newKeys {held : List String} {key : String} :
    key ∈ newKeys held given ↔ key ∈ given ∧ key ≠ "__proto__" ∧ key ∉ held := by
  induction given generalizing held with
  | nil => simp [newKeys]
  | cons first _ ih =>
    rw [newKeys]
    split
    next hskip =>
      rw [ih, List.mem_cons]
      constructor
      · exact fun h => ⟨.inr h.1, h.2⟩
      · rintro ⟨rfl | hmem, hproto, hheld⟩
        · rcases hskip with h | h
          · exact absurd h hproto
          · exact absurd h hheld
        · exact ⟨hmem, hproto, hheld⟩
    next hnew =>
      rw [not_or] at hnew
      rw [List.mem_cons, ih, List.mem_cons, List.mem_append, List.mem_singleton]
      by_cases heq : key = first
      · subst heq
        simp [hnew.1, hnew.2]
      · simp [heq]

theorem get_setAllTo (object : JsObject ν) (given : List String) (key : String) :
    OrderedMap.get (setAllTo value object given) key =
      if key ∈ given ∧ key ≠ "__proto__" then some value else OrderedMap.get object key := by
  induction given generalizing object with
  | nil => simp [setAllTo]
  | cons first rest ih =>
    rw [setAllTo, List.foldl_cons, ← setAllTo, ih]
    simp only [List.mem_cons]
    by_cases hrest : key ∈ rest ∧ key ≠ "__proto__"
    · rw [if_pos hrest, if_pos ⟨.inr hrest.1, hrest.2⟩]
    · rw [if_neg hrest, setProperty]
      by_cases hproto : first = "__proto__"
      · rw [if_pos hproto, if_neg]
        rintro ⟨rfl | hmem, hne⟩
        · exact hne hproto
        · exact hrest ⟨hmem, hne⟩
      · rw [if_neg hproto, OrderedMap.get_set]
        by_cases heq : first = key
        · subst heq
          rw [if_pos rfl, if_pos ⟨.inl rfl, hproto⟩]
        · rw [if_neg heq, if_neg]
          rintro ⟨rfl | hmem, hne⟩
          · exact heq rfl
          · exact hrest ⟨hmem, hne⟩

theorem mem_ownEntries (entry : String × ν) :
    entry ∈ object.ownEntries ↔ OrderedMap.get object entry.1 = some entry.2 := by
  rw [ownEntries, List.mem_append, List.mem_insertionSort, List.mem_filter, List.mem_filter,
    OrderedMap.get_eq_some_iff]
  cases isNamed entry.1 <;> simp

theorem nodup_keys_ownEntries : (object.ownEntries.map Prod.fst).Nodup := by
  have hperm : object.ownEntries.Perm object.entries :=
    ((List.perm_insertionSort _ _).append (.refl _)).trans
      (List.perm_append_comm.trans (List.filter_append_perm _ _))
  exact (hperm.map Prod.fst).nodup_iff.mpr object.nodupKeys

/-! ## The last match -/

theorem lastNamed_append (first rest : List String) :
    lastNamed test (first ++ rest) = (lastNamed test rest).or (lastNamed test first) := by
  rw [lastNamed, List.filter_append, List.filter_append, List.getLast?_append]
  rfl

theorem lastNamed_eq_some {test : String → Bool} {key : String}
    (h : lastNamed test given = some key) : key ∈ given ∧ isNamed key = true ∧ test key = true := by
  have hmem := List.mem_of_getLast? h
  rw [List.mem_filter, List.mem_filter] at hmem
  exact ⟨hmem.1.1, hmem.1.2, hmem.2⟩

theorem lastNamed_eq_none {test : String → Bool} :
    lastNamed test given = none ↔
      ∀ key ∈ given, isNamed key = true → test key = false := by
  rw [lastNamed, List.getLast?_eq_none_iff, List.filter_eq_nil_iff]
  simp only [List.mem_filter, Bool.not_eq_true, and_imp]

/-- Where array indices pass the test for themselves only, the last match is the last key of
another kind that passes, and else the index itself. -/
theorem lastMatch_eq (name : String)
    (hindex : ∀ key, isNamed key = false → test key = decide (key = name)) :
    object.lastMatch test =
      match lastNamed test object.keys with
      | some key => OrderedMap.get object key
      | none => if isNamed name then none else OrderedMap.get object name := by
  have hnamed : lastNamed test object.keys =
      ((object.entries.filter fun entry => isNamed entry.1).filter fun entry =>
        test entry.1).getLast?.map Prod.fst := by
    rw [lastNamed, keys, List.filter_map, List.filter_map, List.getLast?_map]
    rfl
  rw [lastMatch, ownEntries, List.filter_append, List.getLast?_append, hnamed]
  cases hlast : ((object.entries.filter fun entry => isNamed entry.1).filter fun entry =>
      test entry.1).getLast? with
  | some entry =>
    have hmem := List.mem_of_getLast? hlast
    rw [List.mem_filter, List.mem_filter] at hmem
    exact ((OrderedMap.get_eq_some_iff object entry.1 entry.2).mpr hmem.1.1).symm
  | none =>
    rw [Option.none_or, Option.map_none]
    -- only the index of that name itself is left
    generalize hleft : (((object.entries.filter fun entry => !isNamed entry.1).insertionSort
      fun left right => (arrayIndex left.1).getD 0 ≤ (arrayIndex right.1).getD 0).filter
        fun entry => test entry.1) = left
    have hof : ∀ entry ∈ left, entry.1 = name ∧ isNamed name = false ∧
        OrderedMap.get object name = some entry.2 := by
      intro entry hmem
      rw [← hleft, List.mem_filter, List.mem_insertionSort, List.mem_filter,
        Bool.not_eq_true'] at hmem
      obtain ⟨⟨hentry, hindexed⟩, htest⟩ := hmem
      rw [hindex entry.1 hindexed, decide_eq_true_eq] at htest
      exact ⟨htest, htest ▸ hindexed,
        htest ▸ (OrderedMap.get_eq_some_iff object entry.1 entry.2).mpr hentry⟩
    cases hfound : left.getLast? with
    | some entry =>
      obtain ⟨-, hindexed, hget⟩ := hof entry (List.mem_of_getLast? hfound)
      rw [hindexed, hget]
      rfl
    | none =>
      rw [List.getLast?_eq_none_iff] at hfound
      cases hindexed : isNamed name with
      | true => rfl
      | false =>
        cases hget : OrderedMap.get object name with
        | none => rfl
        | some value =>
          have hmem : (name, value) ∈ left := by
            rw [← hleft, List.mem_filter, List.mem_insertionSort, List.mem_filter,
              Bool.not_eq_true']
            refine ⟨⟨(OrderedMap.get_eq_some_iff object name value).mp hget, hindexed⟩, ?_⟩
            rw [hindex name hindexed, decide_eq_true_eq]
          rw [hfound] at hmem
          cases hmem

end JsObject

end OpenCowork.Foundation
