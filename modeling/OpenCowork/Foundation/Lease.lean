import Mathlib.Order.Defs.PartialOrder

/-! # Leases on a register

A register holds at most one lease. Parties take it over only after it has
expired, and go on with what they remember of it: such a memory may be older
than the register, but as long as it has not expired the register agrees with it.
-/

namespace OpenCowork.Foundation

/-- Who holds the register, under which token, and until when. -/
structure Lease (Owner Token Time : Type*) where
  owner : Owner
  token : Token
  expires : Time

namespace Lease

section

variable {Owner Token Time : Type*} [LE Time]

/-- What an actor with a reading of the clock may do to the register, with the
tokens of the terms that this begins. -/
inductive Move (actor : Owner) (now : Time) :
    Option (Lease Owner Token Time) → List Token → Option (Lease Owner Token Time) → Prop
  | stay (register) : Move actor now register [] register
  | claim (lease) (howner : lease.owner = actor) : Move actor now none [lease.token] (some lease)
  | renew (lease) (expires) (howner : lease.owner = actor) :
      Move actor now (some lease) [] (some { lease with expires })
  | takeOver (old new) (hexpired : old.expires ≤ now) (howner : new.owner = actor) :
      Move actor now (some old) [new.token] (some new)
  | resign (lease) (howner : lease.owner = actor) : Move actor now (some lease) [] none

/-- Moves of any actors one after the other, with the tokens of all terms begun. -/
inductive Course : Option (Lease Owner Token Time) → List Token →
    Option (Lease Owner Token Time) → Prop
  | refl (register) : Course register [] register
  | step {register middle next} {begun later : List Token} {actor : Owner} {now : Time}
      (hcourse : Course register begun middle) (hmove : Move actor now middle later next) :
      Course register (begun ++ later) next

def Backs [LT Time] (register : Option (Lease Owner Token Time)) (now : Time)
    (remembered : Lease Owner Token Time) : Prop :=
  now < remembered.expires → ∃ lease, register = some lease ∧ lease.owner = remembered.owner ∧
    lease.token = remembered.token ∧ remembered.expires ≤ lease.expires

end

variable {Owner Token Time : Type*} [Preorder Time]
  {register next : Option (Lease Owner Token Time)} {now : Time}
  {remembered : Lease Owner Token Time} {begun : List Token}

theorem backs_self (now : Time) (lease : Lease Owner Token Time) : Backs (some lease) now lease :=
  fun _ => ⟨lease, rfl, rfl, rfl, le_refl _⟩

theorem Backs.later {later : Time} (h : Backs register now remembered)
    (htime : now ≤ later) : Backs register later remembered :=
  fun hheld => h (lt_of_le_of_lt htime hheld)

theorem Backs.move {reading : Time} {actor : Owner}
    (h : Backs register now remembered) (hmove : Move actor reading register begun next)
    (hreading : reading ≤ now) (hother : remembered.owner ≠ actor) : Backs next now remembered := by
  intro hheld
  obtain ⟨lease, hregister, howner, htoken, hexpires⟩ := h hheld
  have hnot : lease.owner ≠ actor := by rwa [howner]
  cases hmove with
  | stay => exact ⟨lease, hregister, howner, htoken, hexpires⟩
  | claim => cases hregister
  | renew _ _ hactor | resign _ hactor =>
    cases hregister
    exact absurd hactor hnot
  | takeOver _ _ hexpired =>
    cases hregister
    have hlive : now < lease.expires := lt_of_lt_of_le hheld hexpires
    exact absurd (lt_of_lt_of_le hlive (le_trans hexpired hreading)) (lt_irrefl _)

theorem Backs.owner_unique {first second : Lease Owner Token Time}
    (hfirst : Backs register now first) (hsecond : Backs register now second)
    (hfirstHeld : now < first.expires)
    (hsecondHeld : now < second.expires) : first.owner = second.owner := by
  obtain ⟨_, hregister, howner, -, -⟩ := hfirst hfirstHeld
  obtain ⟨_, hother, howner', -, -⟩ := hsecond hsecondHeld
  cases hregister.symm.trans hother
  exact howner.symm.trans howner'

theorem Course.token_begun (h : Course register begun next) :
    ∀ lease, next = some lease → lease.token ∈ begun ∨ (begun = [] ∧
      ∃ old, register = some old ∧ old.owner = lease.owner ∧ old.token = lease.token) := by
  induction h with
  | refl =>
    intro lease hlease
    exact .inr ⟨rfl, lease, hlease, rfl, rfl⟩
  | step _ hmove ih =>
    intro lease hlease
    cases hmove with
    | stay => simpa using ih lease hlease
    | claim | takeOver =>
      cases hlease
      exact .inl (by simp)
    | renew old =>
      cases hlease
      simpa using ih old rfl
    | resign => cases hlease

end Lease

end OpenCowork.Foundation
