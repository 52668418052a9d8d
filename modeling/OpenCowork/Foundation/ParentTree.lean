import Mathlib.Logic.Relation

/-! # Records with parents

Records that are kept under keys, each with the key of its parent or none. They form a
forest when the way up from every record ends at a record without parent, through records
of one place.
-/

namespace OpenCowork.Foundation.ParentTree

open Relation (ReflTransGen TransGen)

variable {κ ν π : Type*} (parent : ν → Option κ) (place : ν → π) (find : κ → Option ν)

inductive Rooted : κ → Prop
  | root {key : κ} {record : ν} (hfind : find key = some record) (hparent : parent record = none) :
      Rooted key
  | under {key above : κ} {record upper : ν} (hfind : find key = some record)
      (hparent : parent record = some above) (habove : find above = some upper)
      (hplace : place upper = place record) (hrooted : Rooted above) : Rooted key

/-- Every record has such a way up. -/
def Forest : Prop := ∀ key record, find key = some record → Rooted parent place find key

/-- One step up. -/
def Climbs (key above : κ) : Prop := ∃ record, find key = some record ∧ parent record = some above

variable {parent place find}
variable {key above other : κ} {record : ν}

theorem Forest.of_none (h : ∀ key, find key = none) : Forest parent place find := by
  intro key _ hfind
  rw [h key] at hfind
  cases hfind

variable (h : Rooted parent place find key)
include h

theorem Rooted.found : ∃ record, find key = some record := by
  cases h with
  | root hfind | under hfind => exact ⟨_, hfind⟩

omit h in
theorem Climbs.of_parent (hfind : find key = some record)
    (hparent : parent record = some above) (hedge : Climbs parent find key other) :
    other = above := by
  obtain ⟨_, hfind', hparent'⟩ := hedge
  rw [hfind] at hfind'
  cases hfind'
  exact (Option.mem_unique hparent hparent').symm

omit h in
theorem Climbs.not_of_root (hfind : find key = some record)
    (hparent : parent record = none) : ¬ Climbs parent find key other := by
  rintro ⟨_, hfind', hparent'⟩
  rw [hfind] at hfind'
  cases hfind'
  rw [hparent] at hparent'
  cases hparent'

theorem Rooted.climbs
    (hpath : ReflTransGen (Climbs parent find) key above) : Rooted parent place find above := by
  induction hpath with
  | refl => exact h
  | tail _ hedge ih =>
    cases ih with
    | root hfind hparent => exact absurd hedge (Climbs.not_of_root hfind hparent)
    | under hfind hparent _ _ hrooted => exact hedge.of_parent hfind hparent ▸ hrooted

theorem Rooted.not_cycle : ¬ TransGen (Climbs parent find) key key := by
  induction h with
  | root hfind hparent =>
    intro hcycle
    obtain ⟨_, hedge, -⟩ := TransGen.head'_iff.mp hcycle
    exact Climbs.not_of_root hfind hparent hedge
  | under hfind hparent _ _ _ ih =>
    intro hcycle
    obtain ⟨_, hedge, hrest⟩ := TransGen.head'_iff.mp hcycle
    cases hedge.of_parent hfind hparent
    -- the way back from the parent goes on to the parent again
    exact ih (TransGen.tail' hrest hedge)

omit h

section Changed

variable {find' : κ → Option ν} {key : κ} {new : ν}

/-- The records after `new` was put under `key`. -/
structure Put (find find' : κ → Option ν) (key : κ) (new : ν) : Prop where
  here : find' key = some new
  elsewhere : ∀ other, other ≠ key → find' other = find other

/-- A record whose parent, if it has one, is a record of the same place. -/
def Placed (parent : ν → Option κ) (place : ν → π) (find : κ → Option ν) (new : ν) : Prop :=
  ∀ above, parent new = some above → ∃ upper, find above = some upper ∧ place upper = place new

theorem Put.rooted_of_not_climbs (hput : Put find find' key new) {other : κ}
    (hrooted : Rooted parent place find other)
    (haway : ¬ ReflTransGen (Climbs parent find) other key) : Rooted parent place find' other := by
  induction hrooted with
  | @root other record hfind hparent =>
    have hne : other ≠ key := fun heq => haway (heq ▸ .refl)
    exact .root ((hput.elsewhere other hne).trans hfind) hparent
  | @under other above record upper hfind hparent habove hplace _ ih =>
    have hne : other ≠ key := fun heq => haway (heq ▸ .refl)
    have hup : ¬ ReflTransGen (Climbs parent find) above key :=
      fun hpath => haway (.head ⟨record, hfind, hparent⟩ hpath)
    have hneup : above ≠ key := fun heq => hup (heq ▸ .refl)
    exact .under ((hput.elsewhere other hne).trans hfind) hparent
      ((hput.elsewhere above hneup).trans habove) hplace (ih hup)

theorem Put.rooted_here (hput : Put find find' key new) (hforest : Forest parent place find)
    (hplaced : Placed parent place find new)
    (haway : ∀ above, parent new = some above →
      ¬ ReflTransGen (Climbs parent find) above key) :
    Rooted parent place find' key := by
  cases hparent : parent new with
  | none => exact .root hput.here hparent
  | some above =>
    obtain ⟨upper, hupper, hplace⟩ := hplaced above hparent
    have hne : above ≠ key := fun heq => haway above hparent (heq ▸ .refl)
    exact .under hput.here hparent ((hput.elsewhere above hne).trans hupper) hplace
      (hput.rooted_of_not_climbs (hforest above upper hupper) (haway above hparent))

theorem Forest.grow [DecidableEq κ] (hforest : Forest parent place find)
    (hfree : find key = none) (hput : Put find find' key new)
    (hplaced : Placed parent place find new) : Forest parent place find' := by
  -- nothing climbs to a key without record
  have haway : ∀ other record, find other = some record →
      ¬ ReflTransGen (Climbs parent find) other key := by
    intro other record hother hpath
    obtain ⟨_, hfound⟩ := ((hforest other record hother).climbs hpath).found
    rw [hfree] at hfound
    cases hfound
  intro other record hother
  by_cases heq : other = key
  · subst heq
    refine hput.rooted_here hforest hplaced fun above hparent => ?_
    obtain ⟨upper, hupper, -⟩ := hplaced above hparent
    exact haway above upper hupper
  · rw [hput.elsewhere other heq] at hother
    exact hput.rooted_of_not_climbs (hforest other record hother) (haway other record hother)

/-- A record that stays in its place may be hung under any parent that does not lead to it,
and under no other. -/
theorem Forest.move_iff [DecidableEq κ] {old : ν} (hforest : Forest parent place find)
    (hold : find key = some old) (hput : Put find find' key new)
    (hstays : place new = place old) (hplaced : Placed parent place find new) :
    Forest parent place find' ↔ ∀ above, parent new = some above →
      ¬ ReflTransGen (Climbs parent find) above key := by
  constructor
  · intro hforest' above hparent hpath
    have hpath' : ReflTransGen (Climbs parent find') above key := by
      clear hparent
      induction hpath using ReflTransGen.head_induction_on with
      | refl => exact .refl
      | @head other _ hedge _ ih =>
        by_cases heq : other = key
        · rw [heq]
        · obtain ⟨record, hfind, hup⟩ := hedge
          exact .head ⟨record, (hput.elsewhere other heq).trans hfind, hup⟩ ih
    exact (hforest' key new hput.here).not_cycle (.head' ⟨new, hput.here, hparent⟩ hpath')
  · intro haway other record hother
    have hhere := hput.rooted_here hforest hplaced haway
    have hrooted : Rooted parent place find other := by
      by_cases heq : other = key
      · exact heq ▸ hforest key old hold
      · rw [hput.elsewhere other heq] at hother
        exact hforest other record hother
    clear hother
    -- on the way up from the other records the changed one keeps its place
    induction hrooted with
    | @root other record hfind hparent =>
      by_cases heq : other = key
      · exact heq ▸ hhere
      · exact .root ((hput.elsewhere other heq).trans hfind) hparent
    | @under other above record upper hfind hparent habove hplace _ ih =>
      by_cases heq : other = key
      · exact heq ▸ hhere
      · by_cases heqAbove : above = key
        · subst heqAbove
          rw [hold] at habove
          cases habove
          exact .under ((hput.elsewhere other heq).trans hfind) hparent hput.here
            (hstays.trans hplace) hhere
        · exact .under ((hput.elsewhere other heq).trans hfind) hparent
            ((hput.elsewhere above heqAbove).trans habove) hplace ih

end Changed

end OpenCowork.Foundation.ParentTree
