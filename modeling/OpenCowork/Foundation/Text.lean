import Mathlib.Data.List.Basic

/-! # Text

Strings as the host language trims and joins them, and the facts about joined
strings that make composed identifiers unambiguous: a separator that does not
occur in a part determines that part.
-/

namespace OpenCowork.Foundation

namespace Text

variable {c : Char} (text : String) {α : Type*} {separator : α} {first first' rest rest' : List α}

/-- White space and line terminators, as `trim` removes them. -/
def isWhiteSpace (c : Char) : Bool :=
  (0x09 ≤ c.val && c.val ≤ 0x0D) || c.val == 0x20 || c.val == 0xA0 || c.val == 0x1680 ||
    (0x2000 ≤ c.val && c.val ≤ 0x200A) || c.val == 0x2028 || c.val == 0x2029 ||
    c.val == 0x202F || c.val == 0x205F || c.val == 0x3000 || c.val == 0xFEFF

theorem not_isWhiteSpace (h : 45 ≤ c.toNat ∧ c.toNat ≤ 122) : isWhiteSpace c = false := by
  have hval : c.toNat = c.val.toNat := rfl
  rw [hval] at h
  simp only [isWhiteSpace, Bool.or_eq_false_iff, Bool.and_eq_false_iff,
    decide_eq_false_iff_not, UInt32.le_iff_toNat_le, beq_eq_false_iff_ne, ne_eq,
    ← UInt32.toNat_inj]
  simp
  omega

def trimChars (chars : List Char) : List Char :=
  ((chars.dropWhile isWhiteSpace).reverse.dropWhile isWhiteSpace).reverse

/-- The text without leading and trailing white space. -/
def trim : String := String.ofList (trimChars text.toList)

/-- Only white space, or nothing at all. -/
def isBlank : Bool := text.toList.all isWhiteSpace

def charCodeUnits (c : Char) : List Nat :=
  if c.toNat < 0x10000 then [c.toNat]
  else [0xD800 + (c.toNat - 0x10000) / 0x400, 0xDC00 + (c.toNat - 0x10000) % 0x400]

def codeUnits : List Nat := text.toList.flatMap charCodeUnits

theorem charCodeUnits_append_inj {c d : Char} {rest rest' : List Nat}
    (h : charCodeUnits c ++ rest = charCodeUnits d ++ rest') : c = d ∧ rest = rest' := by
  -- a unit of its own is no surrogate
  have hc : c.toNat < 0xD800 ∨ 0xDFFF < c.toNat ∧ c.toNat < 0x110000 := c.valid
  have hd : d.toNat < 0xD800 ∨ 0xDFFF < d.toNat ∧ d.toNat < 0x110000 := d.valid
  suffices hnat : c.toNat = d.toNat ∧ rest = rest' from ⟨Char.toNat_inj.mp hnat.1, hnat.2⟩
  unfold charCodeUnits at h
  split at h <;> split at h <;>
    simp only [List.cons_append, List.nil_append, List.cons.injEq] at h
  · exact h
  · omega
  · omega
  · exact ⟨by omega, h.2.2⟩

theorem codeUnits_injective : Function.Injective codeUnits := by
  intro _ _ h
  suffices hlist : ∀ left right : List Char,
      left.flatMap charCodeUnits = right.flatMap charCodeUnits → left = right from
    String.toList_inj.mp (hlist _ _ h)
  have hne : ∀ c, charCodeUnits c ≠ [] := by
    intro c
    unfold charCodeUnits
    split <;> simp
  intro left
  induction left with
  | nil =>
    intro right hright
    cases right with
    | nil => rfl
    | cons d =>
      rw [List.flatMap_nil, List.flatMap_cons] at hright
      exact absurd (List.append_eq_nil_iff.mp hright.symm).1 (hne d)
  | cons c _ ih =>
    intro right hright
    cases right with
    | nil =>
      rw [List.flatMap_nil, List.flatMap_cons] at hright
      exact absurd (List.append_eq_nil_iff.mp hright).1 (hne c)
    | cons _ right =>
      rw [List.flatMap_cons, List.flatMap_cons] at hright
      obtain ⟨rfl, hrest⟩ := charCodeUnits_append_inj hright
      rw [ih right hrest]

/-- `left < right`, which compares strings by their code units. -/
def unitsBefore (left right : String) : Bool := decide (codeUnits left < codeUnits right)

theorem unitsBefore_irrefl : unitsBefore text text = false := decide_eq_false (List.lt_irrefl _)

theorem unitsBefore_trans {first second third : String} (hfirst : unitsBefore first second = true)
    (hsecond : unitsBefore second third = true) : unitsBefore first third = true :=
  decide_eq_true (List.lt_trans (of_decide_eq_true hfirst) (of_decide_eq_true hsecond))

/-- `text.includes(part)`. -/
def includes (text part : String) : Bool :=
  text.toList.tails.any fun rest => part.toList.isPrefixOf rest

/-- `text.startsWith(part)`. -/
def startsWith (text part : String) : Bool := part.toList.isPrefixOf text.toList

theorem append_separator_inj (hfirst : separator ∉ first) (hfirst' : separator ∉ first')
    (h : first ++ separator :: rest = first' ++ separator :: rest') :
    first = first' ∧ rest = rest' := by
  induction first generalizing first' with
  | nil =>
    cases first' with
    | nil => exact ⟨rfl, by simpa using h⟩
    | cons c =>
      have hc : separator = c := (List.cons.inj h).1
      exact absurd (hc ▸ List.mem_cons_self) hfirst'
  | cons c tail ih =>
    cases first' with
    | nil =>
      have hc : c = separator := (List.cons.inj h).1
      exact absurd (hc ▸ List.mem_cons_self) hfirst
    | cons =>
      obtain ⟨rfl, htail⟩ := List.cons.inj h
      obtain ⟨rfl, hrest⟩ := ih (fun hmem => hfirst (.tail _ hmem))
        (fun hmem => hfirst' (.tail _ hmem)) htail
      exact ⟨rfl, hrest⟩

theorem append_separator_eq_iff :
    first ++ separator :: rest = first' ++ separator :: rest' ↔
      (first = first' ∧ rest = rest') ∨
        (∃ middle, first' = first ++ separator :: middle ∧ rest = middle ++ separator :: rest') ∨
        ∃ middle, first = first' ++ separator :: middle ∧ rest' = middle ++ separator :: rest := by
  constructor
  · intro h
    rcases List.append_eq_append_iff.mp h with ⟨middle, hfirst, hrest⟩ | ⟨middle, hfirst, hrest⟩
    · cases middle with
      | nil =>
        rw [List.append_nil] at hfirst
        exact .inl ⟨hfirst.symm, (List.cons.inj hrest).2⟩
      | cons _ middle =>
        obtain ⟨hitem, htail⟩ := List.cons.inj hrest
        exact .inr (.inl ⟨middle, hitem ▸ hfirst, htail⟩)
    · cases middle with
      | nil =>
        rw [List.append_nil] at hfirst
        exact .inl ⟨hfirst, (List.cons.inj hrest).2.symm⟩
      | cons _ middle =>
        obtain ⟨hitem, htail⟩ := List.cons.inj hrest
        exact .inr (.inr ⟨middle, hitem ▸ hfirst, htail⟩)
  · rintro (⟨rfl, rfl⟩ | ⟨middle, rfl, rfl⟩ | ⟨middle, rfl, rfl⟩)
    · rfl
    · simp
    · simp

theorem append_two_separators_inj {one other : α} (hne : one ≠ other)
    {first first' rest rest' tail tail' : List α}
    (h : first ++ one :: rest = first' ++ one :: rest')
    (h' : first ++ other :: tail = first' ++ other :: tail') : first = first' := by
  induction first generalizing first' with
  | nil =>
    cases first' with
    | nil => rfl
    | cons => exact absurd ((List.cons.inj h).1.trans (List.cons.inj h').1.symm) hne
  | cons _ _ ih =>
    cases first' with
    | nil => exact absurd ((List.cons.inj h).1.symm.trans (List.cons.inj h').1) hne
    | cons =>
      obtain ⟨rfl, htail⟩ := List.cons.inj h
      rw [ih htail (List.cons.inj h').2]

theorem not_mem_repr (hc : c.isDigit = false) (n : Nat) : c ∉ n.repr.toList := by
  rw [Nat.toList_repr]
  intro hmem
  have hdigit := Nat.isDigit_of_mem_toDigits (by omega) (by omega) hmem
  rw [hdigit] at hc
  exact Bool.noConfusion hc

theorem repr_toList_injective {m n : Nat} (h : m.repr.toList = n.repr.toList) : m = n := by
  rw [Nat.toList_repr, Nat.toList_repr] at h
  rw [← Nat.ofDigitChars_ten_toDigits (n := m), h, Nat.ofDigitChars_ten_toDigits]

theorem repr_append_inj (hc : c.isDigit = false) {m n : Nat} {rest rest' : List Char}
    (h : m.repr.toList ++ c :: rest = n.repr.toList ++ c :: rest') : m = n :=
  repr_toList_injective (append_separator_inj (not_mem_repr hc m) (not_mem_repr hc n) h).1

theorem replicate_a_injective : Function.Injective fun n => String.ofList
    (List.replicate n 'a') := by
  intro _ _ h
  have hlength := congrArg List.length (String.ofList_injective h)
  rwa [List.length_replicate, List.length_replicate] at hlength

end Text

end OpenCowork.Foundation
