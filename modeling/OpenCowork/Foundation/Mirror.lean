import OpenCowork.Foundation.OrderedMap

/-! # Mirrors

A table mirrors a collection of records when it holds the row of every record that is shown, under
the key where it is shown, and nothing else. Whoever changes the records has to keep the table: the
rows of the records that go or move are taken off, the row of the record that comes is drawn.
-/

namespace OpenCowork.Foundation

/-- Where a record is shown, if it is, and how. -/
structure Mirror (ν κ ρ : Type*) where
  key : ν → Option κ
  row : ν → ρ

namespace Mirror

variable {ι ν κ ρ : Type*} [DecidableEq ι] [DecidableEq κ] {mirror : Mirror ν κ ρ}
  {records records' : OrderedMap ι ν} {table table' : OrderedMap κ ρ}

/-- The table shows the records, no two of them under the same key. -/
structure Holds (mirror : Mirror ν κ ρ) (records : OrderedMap ι ν) (table : OrderedMap κ ρ) :
    Prop where
  backed : ∀ {key row}, table.get key = some row →
    ∃ id record, records.get id = some record ∧ mirror.key record = some key ∧
      mirror.row record = row
  shown : ∀ {id record key}, records.get id = some record → mirror.key record = some key →
    table.get key = some (mirror.row record)
  single : ∀ {id other record held key}, records.get id = some record →
    records.get other = some held → mirror.key record = some key → mirror.key held = some key →
    id = other

theorem Holds.empty (mirror : Mirror ν κ ρ) :
    mirror.Holds (OrderedMap.empty : OrderedMap ι ν) OrderedMap.empty where
  backed h := by cases h
  shown h := by cases h
  single h := by cases h

theorem Holds.of_get (h : mirror.Holds records table)
    (hrecords : ∀ id, records'.get id = records.get id)
    (htable : ∀ key, table'.get key = table.get key) : mirror.Holds records' table' where
  backed {key row} hrow := by
    obtain ⟨id, record, hrecord, hat, hsame⟩ := h.backed (htable key ▸ hrow)
    exact ⟨id, record, (hrecords id).trans hrecord, hat, hsame⟩
  shown {id _ key} hrecord hat := (htable key).trans (h.shown (hrecords id ▸ hrecord) hat)
  single {id other _ _ _} hrecord hheld := h.single (hrecords id ▸ hrecord) (hrecords other ▸ hheld)

/-- One record is written, in a new place or over an old one, and others go. -/
structure Replaces (gone : ι → Prop) (id : ι) (record : ν) (records records' : OrderedMap ι ν) :
    Prop where
  written : records'.get id = some record
  kept : ∀ {other}, other ≠ id → ¬ gone other → records'.get other = records.get other
  dropped : ∀ {other}, other ≠ id → gone other → records'.get other = none

/-- The row of a record is drawn, where it is shown, after others were taken off. -/
structure Redraws (mirror : Mirror ν κ ρ) (erased : κ → Prop) (record : ν)
    (table table' : OrderedMap κ ρ) : Prop where
  drawn : ∀ {key}, mirror.key record = some key → table'.get key = some (mirror.row record)
  removed : ∀ {key}, mirror.key record ≠ some key → erased key → table'.get key = none
  kept : ∀ {key}, mirror.key record ≠ some key → ¬ erased key → table'.get key = table.get key

section Replace

variable {gone : ι → Prop} {erased : κ → Prop} {id : ι} {record : ν}

/-- The records that a replacement takes from their keys. -/
def Leaves (gone : ι → Prop) (id other : ι) : Prop := gone other ∨ other = id

variable (h : Replaces gone id record records records') {other : ι}
include h

theorem Replaces.get_of_stays
    (hstays : ¬ Leaves gone id other) : records'.get other = records.get other :=
  h.kept (fun heq => hstays (.inr heq)) fun hgone => hstays (.inl hgone)

theorem Replaces.get_eq_some {held : ν} (hheld : records'.get other = some held) :
    (other = id ∧ held = record) ∨ (¬ Leaves gone id other ∧ records.get other = some held) := by
  by_cases hid : other = id
  · subst hid
    exact .inl ⟨rfl, Option.mem_unique hheld h.written⟩
  · by_cases hgone : gone other
    · rw [h.dropped hid hgone] at hheld
      cases hheld
    · exact .inr ⟨fun hleaves => hleaves.elim hgone hid, h.kept hid hgone ▸ hheld⟩

omit h

theorem Replaces.of_set (gone : List ι) (id : ι) (record : ν) (records : OrderedMap ι ν) :
    Replaces (· ∈ gone) id record records
      ((records.filter fun other _ => other ∉ gone).set id record) where
  written := OrderedMap.get_set_self _ _ _
  kept {other} hid hstays := by
    apply Option.ext
    intro held
    rw [OrderedMap.get_set_of_ne _ _ (Ne.symm hid), OrderedMap.get_filter_eq_some_iff]
    simp [hstays]
  dropped {other} hid hgone := by
    apply Option.eq_none_iff_forall_ne_some.mpr
    intro held hheld
    rw [OrderedMap.get_set_of_ne _ _ (Ne.symm hid), OrderedMap.get_filter_eq_some_iff] at hheld
    simp [hgone] at hheld

theorem Holds.replace (h : mirror.Holds records table)
    (hrecords : Replaces gone id record records records')
    (htable : mirror.Redraws erased record table table')
    (hfree : ∀ {other held key}, ¬ Leaves gone id other → records.get other = some held →
      mirror.key held = some key → mirror.key record ≠ some key)
    (herased : ∀ {key}, erased key → ∃ other held, Leaves gone id other ∧
      records.get other = some held ∧ mirror.key held = some key)
    (hclean : ∀ {other held key}, Leaves gone id other → records.get other = some held →
      mirror.key held = some key → mirror.key record ≠ some key → erased key) :
    mirror.Holds records' table' where
  backed {key row} hrow := by
    by_cases hkey : mirror.key record = some key
    · rw [htable.drawn hkey] at hrow
      exact ⟨id, record, hrecords.written, hkey, Option.some.inj hrow⟩
    · by_cases hgone : erased key
      · rw [htable.removed hkey hgone] at hrow
        cases hrow
      · rw [htable.kept hkey hgone] at hrow
        obtain ⟨other, held, hheld, hat, hsame⟩ := h.backed hrow
        have hstays : ¬ Leaves gone id other := fun hleaves =>
          hgone (hclean hleaves hheld hat hkey)
        exact ⟨other, held, (hrecords.get_of_stays hstays).trans hheld, hat, hsame⟩
  shown {other held key} hheld hat := by
    rcases hrecords.get_eq_some hheld with ⟨rfl, rfl⟩ | ⟨hstays, hold⟩
    · exact htable.drawn hat
    · have hkey := hfree hstays hold hat
      rw [htable.kept hkey ?_]
      · exact h.shown hold hat
      · intro hgone
        obtain ⟨_, _, hleaves, hrow, hsame⟩ := herased hgone
        exact hstays (h.single hold hrow hat hsame ▸ hleaves)
  single {first second _ _ key} hfirst hsecond hatFirst hatSecond := by
    rcases hrecords.get_eq_some hfirst with ⟨rfl, rfl⟩ | ⟨hstays, hold⟩
    · rcases hrecords.get_eq_some hsecond with ⟨rfl, -⟩ | ⟨hstays, hold⟩
      · rfl
      · exact absurd hatFirst (hfree hstays hold hatSecond)
    · rcases hrecords.get_eq_some hsecond with ⟨rfl, rfl⟩ | ⟨-, hother⟩
      · exact absurd hatSecond (hfree hstays hold hatFirst)
      · exact h.single hold hother hatFirst hatSecond

end Replace

theorem Holds.remove (h : mirror.Holds records table) (gone : ι → Prop)
    (hkept : ∀ {other}, ¬ gone other → records'.get other = records.get other)
    (hdropped : ∀ {other}, gone other → records'.get other = none)
    (herased : ∀ {other held key}, gone other → records.get other = some held →
      mirror.key held = some key → table'.get key = none)
    (hstays : ∀ {key}, (∀ other held, gone other → records.get other = some held →
      mirror.key held ≠ some key) → table'.get key = table.get key) :
    mirror.Holds records' table' := by
  have hold : ∀ {other held}, records'.get other = some held →
      ¬ gone other ∧ records.get other = some held := by
    intro other held hheld
    by_cases hgone : gone other
    · rw [hdropped hgone] at hheld
      cases hheld
    · exact ⟨hgone, hkept hgone ▸ hheld⟩
  refine ⟨fun {key row} hrow => ?_, fun {other held key} hheld hat => ?_, ?_⟩
  · by_cases hleft : ∀ other held, gone other → records.get other = some held →
        mirror.key held ≠ some key
    · rw [hstays hleft] at hrow
      obtain ⟨other, held, hheld, hat, hsame⟩ := h.backed hrow
      have hgone : ¬ gone other := fun hgone => hleft other held hgone hheld hat
      exact ⟨other, held, (hkept hgone).trans hheld, hat, hsame⟩
    · push Not at hleft
      obtain ⟨_, _, hgone, hheld, hat⟩ := hleft
      rw [herased hgone hheld hat] at hrow
      cases hrow
  · obtain ⟨hgone, hrecord⟩ := hold hheld
    rw [hstays ?_]
    · exact h.shown hrecord hat
    · intro _ row hleaver hrow hsame
      exact hgone (h.single hrecord hrow hat hsame ▸ hleaver)
  · intro _ _ _ _ key hfirst hsecond
    exact h.single (hold hfirst).2 (hold hsecond).2

end Mirror

end OpenCowork.Foundation
