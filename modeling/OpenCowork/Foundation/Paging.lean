import Mathlib.Data.List.Nodup

/-! # Keyset pages

A list is handed out page by page. A page names the cursor of the next one, the key of its
last item, and the next page starts with what lies beyond that key. The order of the list
and the order that `beyond` reads are independent of each other here; whether following
the cursors lists everything is decided at the ends of the pages.
-/

namespace OpenCowork.Foundation

structure Page (α κ : Type*) where
  items : List α
  next : Option κ
  deriving DecidableEq

variable {α κ ε : Type*}

/-- Fetching from a cursor and following the next cursors until one is absent lists these
items. -/
inductive Enumerates (fetch : Option κ → Except ε (Page α κ)) : Option κ → List α → Prop where
  | last {cursor : Option κ} {page : Page α κ} (hfetch : fetch cursor = .ok page)
      (hnext : page.next = none) : Enumerates fetch cursor page.items
  | more {cursor : Option κ} {page : Page α κ} {next : κ} {listed : List α}
      (hfetch : fetch cursor = .ok page) (hnext : page.next = some next)
      (hrest : Enumerates fetch (some next) listed) : Enumerates fetch cursor (page.items ++ listed)

theorem Enumerates.unique {fetch : Option κ → Except ε (Page α κ)} {cursor : Option κ}
    {listed other : List α} (hlisted : Enumerates fetch cursor listed)
    (hother : Enumerates fetch cursor other) : listed = other := by
  induction hlisted generalizing other with
  | last hfetch hnext =>
    cases hother with
    | last hfetch' => rw [Except.ok.inj (hfetch.symm.trans hfetch')]
    | more hfetch' hnext' =>
      rw [Except.ok.inj (hfetch.symm.trans hfetch'), hnext'] at hnext
      simp at hnext
  | more hfetch hnext _ ih =>
    cases hother with
    | last hfetch' hnext' =>
      rw [Except.ok.inj (hfetch.symm.trans hfetch'), hnext'] at hnext
      simp at hnext
    | more hfetch' hnext' hrest' =>
      obtain rfl := Except.ok.inj (hfetch.symm.trans hfetch')
      obtain rfl := Option.mem_unique hnext hnext'
      rw [ih hrest']

section Keyset

variable (keyOf : α → κ) (beyond : κ → α → Bool)

def afterCursor (items : List α) : Option κ → List α
  | none => items
  | some cursor => items.filter (beyond cursor)

def keysetPage (limit : Nat) (items : List α) (cursor : Option κ) : Page α κ where
  items := (afterCursor beyond items cursor).take limit
  next :=
    if limit < (afterCursor beyond items cursor).length then
      ((afterCursor beyond items cursor).take limit).getLast?.map keyOf
    else none

/-- At the end of every page that is followed by another, the items still to come are the
ones beyond the key of the last item. -/
def BoundariesAgree (limit : Nat) (items : List α) : Prop :=
  ∀ before last after, items = before ++ last :: after → limit ∣ before.length + 1 →
    after ≠ [] → ∀ item ∈ items, beyond (keyOf last) item = true ↔ item ∈ after

variable {keyOf beyond}
variable {items after : List α} {limit : Nat} {before : List α} {last : α} {cursor : Option κ}

theorem boundariesAgree_of_pairwise
    (hsorted : items.Pairwise fun earlier later =>
      beyond (keyOf earlier) later = true ∧ beyond (keyOf later) earlier = false)
    (hirrefl : ∀ item, beyond (keyOf item) item = false) (limit : Nat) :
    BoundariesAgree keyOf beyond limit items := by
  rintro _ last _ rfl - - item hitem
  obtain ⟨-, htail, hcross⟩ := List.pairwise_append.mp hsorted
  constructor
  · intro hbeyond
    rcases List.mem_append.mp hitem with hbefore | hrest
    · have hback := (hcross item hbefore last (.head _)).2
      rw [hbeyond] at hback
      simp at hback
    · rcases List.mem_cons.mp hrest with rfl | hafter
      · rw [hirrefl] at hbeyond
        simp at hbeyond
      · exact hafter
  · intro hafter
    exact ((List.pairwise_cons.mp htail).1 item hafter).1

theorem boundariesAgree_map {β μ : Type*} {keyOf' : β → μ} {beyond' : μ → β → Bool}
    {view : α → β} {read : β → α} (hread : ∀ item, read (view item) = item)
    (hbeyond : ∀ last item, beyond' (keyOf' (view last)) (view item) = beyond (keyOf last) item)
    (limit : Nat) (items : List α) :
    BoundariesAgree keyOf' beyond' limit (items.map view) ↔
      BoundariesAgree keyOf beyond limit items := by
  have hmem : ∀ item (list : List α), view item ∈ list.map view ↔ item ∈ list := by
    intro item list
    exact List.mem_map_of_injective (Function.LeftInverse.injective hread)
  constructor
  · rintro hagree before last after rfl hdvd hafter item hitem
    rw [← hbeyond, ← hmem item after]
    apply hagree (before.map view) (view last) (after.map view) (by simp) (by simpa using hdvd)
    · simpa using hafter
    · exact (hmem item _).mpr hitem
  · intro hagree before last after hitems hdvd hafter item hitem
    obtain ⟨first, rest, rfl, hfirst, hrest⟩ := List.map_eq_append_iff.mp hitems
    obtain ⟨last, rest, rfl, rfl, rfl⟩ := List.map_eq_cons_iff.mp hrest
    obtain ⟨source, hsource, rfl⟩ := List.mem_map.mp hitem
    subst hfirst
    rw [hbeyond, hmem]
    exact hagree first last rest rfl (by simpa using hdvd) (by simpa using hafter) source hsource

theorem filter_beyond_eq (hnodup : (before ++ last :: after).Nodup)
    (hagree : ∀ item ∈ before ++ last :: after, beyond (keyOf last) item = true ↔ item ∈ after) :
    (before ++ last :: after).filter (beyond (keyOf last)) = after := by
  have hdisjoint := (List.nodup_append'.mp hnodup).2.2
  have hhead := (List.nodup_cons.mp (List.nodup_append'.mp hnodup).2.1).1
  have hbefore : before.filter (beyond (keyOf last)) = [] := by
    apply List.filter_eq_nil_iff.mpr
    intro item hitem hbeyond
    have hafter := (hagree item (List.mem_append_left _ hitem)).mp hbeyond
    exact hdisjoint hitem (.tail _ hafter)
  have hlast : ¬ beyond (keyOf last) last = true := fun hbeyond =>
    hhead ((hagree last (by simp)).mp hbeyond)
  have hafter : after.filter (beyond (keyOf last)) = after := by
    apply List.filter_eq_self.mpr
    intro item hitem
    exact (hagree item (by simp [hitem])).mpr hitem
  rw [List.filter_append, List.filter_cons_of_neg hlast, hbefore, hafter, List.nil_append]

theorem keysetPage_next (hcursor : afterCursor beyond items cursor = before ++ last :: after)
    (hlength : before.length + 1 = limit) (hafter : after ≠ []) :
    keysetPage keyOf beyond limit items cursor = ⟨before ++ [last], some (keyOf last)⟩ := by
  have htake : (before ++ last :: after).take limit = before ++ [last] := by
    rw [← hlength, ← List.singleton_append, ← List.append_assoc]
    exact List.take_left' (by simp)
  have hmore : limit < (before ++ last :: after).length := by
    have := List.length_pos_iff.mpr hafter
    simp only [List.length_append, List.length_cons]
    omega
  rw [keysetPage, hcursor, if_pos hmore, htake]
  simp

theorem keysetPage_last
    (hcursor : afterCursor beyond items cursor = after) (hshort : after.length ≤ limit) :
    keysetPage keyOf beyond limit items cursor = ⟨after, none⟩ := by
  rw [keysetPage, hcursor, if_neg (Nat.not_lt.mpr hshort), List.take_of_length_le hshort]

theorem exists_page_split (hlimit : 0 < limit) (hmore : limit < items.length) :
    ∃ before last after, items = before ++ last :: after ∧ before.length + 1 = limit ∧
      after ≠ [] := by
  have hbound : limit - 1 < items.length := by omega
  refine ⟨items.take (limit - 1), items[limit - 1], items.drop limit, ?_, ?_, ?_⟩
  · have hdrop := List.drop_eq_getElem_cons hbound
    rw [Nat.sub_add_cancel hlimit] at hdrop
    rw [← hdrop, List.take_append_drop]
  · rw [List.length_take]
    omega
  · intro hnil
    have := congrArg List.length hnil
    rw [List.length_drop, List.length_nil] at this
    omega

theorem page_ends_iff
    (hlength : before.length + 1 = limit) (hafter : after ≠ []) (holds : α → List α → Prop) :
    (∀ first item rest, before ++ last :: after = first ++ item :: rest →
        limit ∣ first.length + 1 → rest ≠ [] → holds item rest) ↔
      holds last after ∧ ∀ first item rest, after = first ++ item :: rest →
        limit ∣ first.length + 1 → rest ≠ [] → holds item rest := by
  constructor
  · intro h
    refine ⟨h before last after rfl (hlength ▸ Nat.dvd_refl _) hafter, ?_⟩
    rintro first item rest rfl hdvd hrest
    refine h (before ++ last :: first) item rest (by simp) ?_ hrest
    have hlen : (before ++ last :: first).length + 1 = limit + (first.length + 1) := by
      simp only [List.length_append, List.length_cons]
      omega
    rw [hlen]
    exact Nat.dvd_add (Nat.dvd_refl _) hdvd
  · rintro ⟨hlast, hlater⟩ first item rest hsplit hdvd hrest
    rcases List.append_eq_append_iff.mp hsplit with
      ⟨middle, rfl, hmiddle⟩ | ⟨middle, rfl, hmiddle⟩
    · cases middle with
      | nil =>
        obtain ⟨rfl, rfl⟩ := List.cons.inj hmiddle
        exact hlast
      | cons _ middle =>
        obtain ⟨rfl, rfl⟩ := List.cons.inj hmiddle
        refine hlater middle item rest rfl ?_ hrest
        have hlen : (before ++ last :: middle).length + 1 = limit + (middle.length + 1) := by
          simp only [List.length_append, List.length_cons]
          omega
        rw [hlen] at hdvd
        exact (Nat.dvd_add_right (Nat.dvd_refl _)).mp hdvd
    · -- no page ends before the first page is full
      have hle : limit ≤ first.length + 1 := Nat.le_of_dvd (Nat.succ_pos _) hdvd
      have hnil : middle = [] := by
        apply List.eq_nil_of_length_eq_zero
        rw [List.length_append] at hlength
        omega
      subst hnil
      obtain ⟨rfl, rfl⟩ := List.cons.inj hmiddle
      exact hlast

section Following

variable {fetch : Option κ → Except ε (Page α κ)} {limit : Nat} {items : List α}

theorem Enumerates.all_beyond {cursor : κ} {listed : List α}
    (htrans : ∀ first second third, beyond first second = true →
      beyond (keyOf second) third = true → beyond first third = true)
    (hnext : ∀ item ∈ items, fetch (some (keyOf item)) =
      .ok (keysetPage keyOf beyond limit items (some (keyOf item))))
    (hfetch : fetch (some cursor) = .ok (keysetPage keyOf beyond limit items (some cursor)))
    (henumerates : Enumerates fetch (some cursor) listed) :
    ∀ item ∈ listed, beyond cursor item = true := by
  generalize hstart : some cursor = start at henumerates
  induction henumerates generalizing cursor with
  | last hpage =>
    subst hstart
    obtain rfl := Except.ok.inj (hfetch.symm.trans hpage)
    intro item hitem
    exact (List.mem_filter.mp (List.mem_of_mem_take hitem)).2
  | @more start page next _ hpage hmore _ ih =>
    subst hstart
    obtain rfl := Except.ok.inj (hfetch.symm.trans hpage)
    have hitems : ∀ item ∈ (keysetPage keyOf beyond limit items (some cursor)).items,
        item ∈ items ∧ beyond cursor item = true := fun item hitem =>
      List.mem_filter.mp (List.mem_of_mem_take hitem)
    have hkey : ∃ last ∈ (keysetPage keyOf beyond limit items (some cursor)).items,
        keyOf last = next := by
      dsimp only [keysetPage] at hmore
      split at hmore
      · obtain ⟨last, hlast, hkey⟩ := Option.map_eq_some_iff.mp hmore
        exact ⟨last, List.mem_of_getLast? hlast, hkey⟩
      · simp at hmore
    obtain ⟨last, hlast, rfl⟩ := hkey
    obtain ⟨hmem, hbeyond⟩ := hitems last hlast
    intro item hitem
    rcases List.mem_append.mp hitem with hitem | hitem
    · exact (hitems item hitem).2
    · exact htrans cursor last item hbeyond (ih (hnext last hmem) rfl item hitem)

theorem filter_beyond_of_enumerates {before rest : List α} {last : α} (hlimit : 0 < limit)
    (hitems : items = before ++ last :: rest) (hnodup : items.Nodup)
    (htrans : ∀ first second third, beyond first second = true →
      beyond (keyOf second) third = true → beyond first third = true)
    (hnext : ∀ item ∈ items, fetch (some (keyOf item)) =
      .ok (keysetPage keyOf beyond limit items (some (keyOf item))))
    (henumerates : Enumerates fetch (some (keyOf last)) rest) :
    items.filter (beyond (keyOf last)) = rest := by
  have hfetch := hnext last (by simp [hitems])
  have hbeyond := henumerates.all_beyond htrans hnext hfetch
  have happend : items = (before ++ [last]) ++ rest := by simp [hitems]
  have hsplit : items.filter (beyond (keyOf last)) =
      (before ++ [last]).filter (beyond (keyOf last)) ++ rest := by
    rw [happend, List.filter_append, List.filter_eq_self.mpr hbeyond]
  cases hfirst : (before ++ [last]).filter (beyond (keyOf last)) with
  | nil => rw [hsplit, hfirst, List.nil_append]
  | cons head =>
    -- the first item fetched would be one listed before, and none repeats
    exfalso
    have hmem : head ∈ before ++ [last] := (List.mem_filter.mp (hfirst ▸ List.mem_cons_self)).1
    have hpage : head ∈ (keysetPage keyOf beyond limit items (some (keyOf last))).items := by
      dsimp only [keysetPage, afterCursor]
      rw [hsplit, hfirst]
      obtain ⟨_, rfl⟩ := Nat.exists_eq_succ_of_ne_zero (Nat.pos_iff_ne_zero.mp hlimit)
      simp
    have hlisted : head ∈ rest := by
      cases henumerates with
      | last hfetch' =>
        rw [← Except.ok.inj (hfetch.symm.trans hfetch')]
        exact hpage
      | more hfetch' =>
        rw [← Except.ok.inj (hfetch.symm.trans hfetch')]
        exact List.mem_append_left _ hpage
    rw [happend] at hnodup
    exact (List.nodup_append'.mp hnodup).2.2 hmem hlisted

variable (hlimit : 0 < limit) (hnodup : items.Nodup)
variable (htrans : ∀ first second third, beyond first second = true →
    beyond (keyOf second) third = true → beyond first third = true)
include hlimit hnodup htrans

/-- The rest is listed from a cursor on if and only if every page end within it separates
what follows. -/
theorem enumerates_iff_page_ends (hnext : ∀ item ∈ items, fetch (some (keyOf item)) =
      .ok (keysetPage keyOf beyond limit items (some (keyOf item))))
    (before after : List α) (cursor : Option κ) (hitems : items = before ++ after)
    (hcursor : afterCursor beyond items cursor = after)
    (hfetch : fetch cursor = .ok (keysetPage keyOf beyond limit items cursor)) :
    Enumerates fetch cursor after ↔
      ∀ first last rest, after = first ++ last :: rest → limit ∣ first.length + 1 → rest ≠ [] →
        items.filter (beyond (keyOf last)) = rest := by
  -- every page takes a positive number of items off what is left
  induction hsize : after.length using Nat.strongRecOn generalizing before after cursor with
  | _ size ih =>
    by_cases hmore : limit < after.length
    · obtain ⟨first, last, rest, rfl, hlength, hrest⟩ := exists_page_split hlimit hmore
      rw [keysetPage_next hcursor hlength hrest] at hfetch
      have hsplit : items = (before ++ first) ++ last :: rest := by
        rw [hitems, List.append_assoc]
      have hshorter : rest.length < size := by
        rw [← hsize, List.length_append, List.length_cons]
        omega
      have hlater := fun hbeyond : items.filter (beyond (keyOf last)) = rest =>
        ih rest.length hshorter (before ++ first ++ [last]) rest (some (keyOf last))
          (by simp [hsplit]) hbeyond (hnext last (by simp [hsplit])) rfl
      rw [page_ends_iff hlength hrest fun item rest => items.filter (beyond (keyOf item)) = rest]
      constructor
      · intro henumerates
        have hlisted : Enumerates fetch (some (keyOf last)) rest := by
          generalize hall : first ++ last :: rest = all at henumerates
          cases henumerates with
          | last hpage hlast =>
            rw [← Except.ok.inj (hfetch.symm.trans hpage)] at hlast
            simp at hlast
          | @more _ page next listed hpage hnext' hlisted =>
            obtain rfl := Except.ok.inj (hfetch.symm.trans hpage)
            obtain rfl := Option.some.inj hnext'
            have hsame : (first ++ [last]) ++ rest = (first ++ [last]) ++ listed := by
              rw [List.append_assoc, List.singleton_append]
              exact hall
            rw [List.append_cancel_left hsame]
            exact hlisted
        have hbeyond := filter_beyond_of_enumerates hlimit hsplit hnodup htrans hnext hlisted
        exact ⟨hbeyond, (hlater hbeyond).mp hlisted⟩
      · rintro ⟨hbeyond, hends⟩
        have hcons : first ++ last :: rest = (first ++ [last]) ++ rest := by simp
        rw [hcons]
        exact .more hfetch rfl ((hlater hbeyond).mpr hends)
    · have hshort := Nat.not_lt.mp hmore
      rw [keysetPage_last hcursor hshort] at hfetch
      refine iff_of_true (.last hfetch rfl) ?_
      rintro first _ _ rfl hdvd hrest
      have hle : limit ≤ first.length + 1 := Nat.le_of_dvd (Nat.succ_pos _) hdvd
      have := List.length_pos_iff.mpr hrest
      rw [List.length_append, List.length_cons] at hshort
      omega

theorem enumerates_iff_boundariesAgree
    (hfirst : fetch none = .ok (keysetPage keyOf beyond limit items none))
    (hnext : ∀ item ∈ items, fetch (some (keyOf item)) =
      .ok (keysetPage keyOf beyond limit items (some (keyOf item)))) :
    Enumerates fetch none items ↔ BoundariesAgree keyOf beyond limit items := by
  rw [enumerates_iff_page_ends hlimit hnodup htrans hnext [] items none rfl rfl hfirst]
  constructor
  · intro hends before last after hitems hdvd hafter _ hitem
    rw [← hends before last after hitems hdvd hafter, List.mem_filter]
    exact ⟨fun hbeyond => ⟨hitem, hbeyond⟩, And.right⟩
  · intro hagree before last after hitems hdvd hafter
    have hitem := hagree before last after hitems hdvd hafter
    rw [hitems] at hitem hnodup ⊢
    exact filter_beyond_eq hnodup hitem

end Following

end Keyset

end OpenCowork.Foundation
