import Mathlib.Data.Rat.Defs

/-! # JSON values

Values that survive a serialization round trip. Numbers are rationals, an object
keeps its fields in the order in which they were added.
-/

namespace OpenCowork.Foundation

inductive Json where
  | null
  | bool (value : Bool)
  | num (value : ℚ)
  | str (value : String)
  | arr (items : List Json)
  | obj (fields : List (String × Json))

namespace Json

mutual

/-- Structural equality test. -/
def beq : Json → Json → Bool
  | null, null => true
  | bool a, bool b => a == b
  | num a, num b => decide (a = b)
  | str a, str b => a == b
  | arr a, arr b => beqItems a b
  | obj a, obj b => beqFields a b
  | _, _ => false

def beqItems : List Json → List Json → Bool
  | [], [] => true
  | a :: as, b :: bs => beq a b && beqItems as bs
  | _, _ => false

def beqFields : List (String × Json) → List (String × Json) → Bool
  | [], [] => true
  | (k, a) :: as, (l, b) :: bs => k == l && beq a b && beqFields as bs
  | _, _ => false

end

mutual

theorem beq_iff : ∀ a b : Json, beq a b = true ↔ a = b
  | null, b => by cases b <;> simp [beq]
  | bool _, b => by cases b <;> simp [beq]
  | num _, b => by cases b <;> simp [beq]
  | str _, b => by cases b <;> simp [beq]
  | arr items, b => by
      cases b with
      | arr items' => simpa [beq] using beqItems_iff items items'
      | _ => simp [beq]
  | obj fields, b => by
      cases b with
      | obj fields' => simpa [beq] using beqFields_iff fields fields'
      | _ => simp [beq]

theorem beqItems_iff : ∀ as bs : List Json, beqItems as bs = true ↔ as = bs
  | [], bs => by cases bs <;> simp [beqItems]
  | a :: as, bs => by
      cases bs with
      | nil => simp [beqItems]
      | cons b bs => simp [beqItems, beq_iff a b, beqItems_iff as bs]

theorem beqFields_iff : ∀ as bs : List (String × Json), beqFields as bs = true ↔ as = bs
  | [], bs => by cases bs <;> simp [beqFields]
  | (k, a) :: as, bs => by
      cases bs with
      | nil => simp [beqFields]
      | cons entry bs =>
        obtain ⟨l, b⟩ := entry
        simp [beqFields, beq_iff a b, beqFields_iff as bs, and_assoc]

end

instance : DecidableEq Json := fun a b => decidable_of_iff _ (beq_iff a b)

def emptyObject : Json := obj []

def findField (key : String) : List (String × Json) → Option Json
  | [] => none
  | (other, value) :: rest => if other = key then some value else findField key rest

/-- Reading a field; anything but an object has none. -/
def field? : Json → String → Option Json
  | obj fields, key => findField key fields
  | _, _ => none

end Json

end OpenCowork.Foundation
