import Mathlib.Logic.Relation

/-! # Relations without cycles

What one more edge does to a relation, and what a search has found out when it remembers the
elements that it has visited.
-/

namespace OpenCowork.Foundation

open Relation

section Edges

variable {α : Type*} {r r' : α → α → Prop} {a b source target : α}

/-- No element is reached from itself. -/
def Acyclic (r : α → α → Prop) : Prop := ∀ a, ¬ TransGen r a a

def WithEdge (r : α → α → Prop) (source target a b : α) : Prop := r a b ∨ a = source ∧ b = target

theorem Acyclic.mono (h : Acyclic r) (hle : ∀ a b, r' a b → r a b) : Acyclic r' :=
  fun a hcycle => h a (TransGen.mono hle a a hcycle)

theorem reflTransGen_withEdge_source :
    ReflTransGen (WithEdge r source target) a source ↔ ReflTransGen r a source := by
  constructor
  · intro h
    induction h using ReflTransGen.head_induction_on with
    | refl => exact .refl
    | head hedge _ ih =>
      rcases hedge with hedge | ⟨rfl, -⟩
      · exact ih.head hedge
      · exact .refl
  · exact ReflTransGen.mono (fun _ _ hedge => .inl hedge) a source

theorem transGen_withEdge (h : TransGen (WithEdge r source target) a b) :
    TransGen r a b ∨ ReflTransGen r a source ∧ ReflTransGen r target b := by
  induction h with
  | single hedge =>
    rcases hedge with hedge | ⟨rfl, rfl⟩
    · exact .inl (.single hedge)
    · exact .inr ⟨.refl, .refl⟩
  | tail _ hedge ih =>
    rcases hedge with hedge | ⟨rfl, rfl⟩
    · exact ih.imp (fun hpath => hpath.tail hedge) fun ⟨hto, hfrom⟩ => ⟨hto, hfrom.tail hedge⟩
    · refine .inr ⟨?_, .refl⟩
      rcases ih with hpath | ⟨hto, -⟩
      · exact hpath.to_reflTransGen
      · exact hto

theorem acyclic_withEdge_iff (h : Acyclic r) :
    Acyclic (WithEdge r source target) ↔ ¬ ReflTransGen r target source := by
  constructor
  · intro hacyclic hpath
    have hedge : WithEdge r source target source target := .inr ⟨rfl, rfl⟩
    exact hacyclic source (.head' hedge (ReflTransGen.mono (fun _ _ => .inl) _ _ hpath))
  · intro hpath a hcycle
    rcases transGen_withEdge hcycle with hcycle | ⟨hto, hfrom⟩
    · exact h a hcycle
    · exact hpath (hfrom.trans hto)

end Edges

/-! ## Searching -/

section Searching

variable {α : Type*} {r : α → α → Prop} {target a : α} {stack seen : List α}

/-- What a search has left to do: an edge from a visited element leads to a visited one or to one
of the stack, and the target has not been visited. -/
structure Searched (r : α → α → Prop) (target : α) (stack seen : List α) : Prop where
  closed : ∀ a ∈ seen, ∀ b, r a b → b ∈ seen ∨ b ∈ stack
  missed : target ∉ seen

namespace Searched

theorem start (r : α → α → Prop) (target : α) (stack : List α) : Searched r target stack [] :=
  ⟨fun _ hseen => absurd hseen List.not_mem_nil, List.not_mem_nil⟩

theorem exists_mem_stack (h : Searched r target stack seen) (hseen : a ∈ seen)
    (hpath : ReflTransGen r a target) : ∃ b ∈ stack, ReflTransGen r b target := by
  induction hpath using ReflTransGen.head_induction_on with
  | refl => exact absurd hseen h.missed
  | head hedge hrest ih =>
    rcases h.closed _ hseen _ hedge with hnext | hnext
    · exact ih hnext
    · exact ⟨_, hnext, hrest⟩

variable (h : Searched r target (a :: stack) seen)
include h

theorem drop (hseen : a ∈ seen) : Searched r target stack seen := by
  refine ⟨fun other hother b hedge => ?_, h.missed⟩
  rcases h.closed other hother b hedge with hb | hb
  · exact .inl hb
  · rcases List.mem_cons.mp hb with rfl | hb
    · exact .inl hseen
    · exact .inr hb

theorem visit (hne : a ≠ target) {next : List α}
    (hnext : ∀ b, r a b → b ∈ next) : Searched r target (next ++ stack) (a :: seen) := by
  constructor
  · intro other hother b hedge
    rcases List.mem_cons.mp hother with rfl | hother
    · exact .inr (List.mem_append_left _ (hnext b hedge))
    · rcases h.closed other hother b hedge with hb | hb
      · exact .inl (.tail _ hb)
      · rcases List.mem_cons.mp hb with rfl | hb
        · exact .inl (.head _)
        · exact .inr (List.mem_append_right _ hb)
  · rw [List.mem_cons, not_or]
    exact ⟨hne.symm, h.missed⟩

end Searched

end Searching

end OpenCowork.Foundation
