import Mathlib.Algebra.Ring.Nat
import Mathlib.Algebra.BigOperators.Group.List.Basic

/-! # Joined parts

Lists joined by a separator that may occur inside the parts too. What tells the parts apart
is then only how a part may begin: a joined list has one reading exactly if no part holds a
separator that is followed by the beginning of another part.
-/

namespace OpenCowork.Foundation

variable {α : Type}

/-- How the parts of a joined list are spelt. A separator may stand inside a part, and does
not begin one. -/
structure PartAlphabet (α : Type) where
  (begins allowed : α → Bool)
  separator : α
  separator_allowed : allowed separator = true
  not_begins_separator : begins separator = false

namespace PartAlphabet

variable (alphabet : PartAlphabet α)

structure IsPart (part : List α) : Prop where
  begins : ∃ first rest, part = first :: rest ∧ alphabet.begins first = true
  allowed : ∀ item ∈ part, alphabet.allowed item = true

def joined (parts : List (List α)) : List α := List.intercalate [alphabet.separator] parts

@[simp] theorem joined_singleton (part : List α) : alphabet.joined [part] = part := by
  simp [joined]

theorem joined_cons_cons (part next : List α) (parts : List (List α)) :
    alphabet.joined (part :: next :: parts) =
      part ++ alphabet.separator :: alphabet.joined (next :: parts) := by
  simp [joined, List.intercalate_cons_cons]

variable {alphabet} {part : List α}

theorem IsPart.begins_joined (hpart : alphabet.IsPart part) (parts : List (List α)) :
    ∃ first rest, alphabet.joined (part :: parts) = first :: rest ∧
      alphabet.begins first = true := by
  obtain ⟨first, rest, rfl, hfirst⟩ := hpart.begins
  cases parts with
  | nil => exact ⟨first, rest, alphabet.joined_singleton _, hfirst⟩
  | cons => exact ⟨first, _, alphabet.joined_cons_cons _ _ _, hfirst⟩

theorem joined_append {before after : List (List α)} (hbefore : before ≠ []) (hafter : after ≠ []) :
    alphabet.joined (before ++ after) =
      alphabet.joined before ++ alphabet.separator :: alphabet.joined after := by
  induction before with
  | nil => exact absurd rfl hbefore
  | cons _ before ih =>
    cases before with
    | nil =>
      obtain ⟨next, _, rfl⟩ := List.exists_cons_of_ne_nil hafter
      rw [List.singleton_append, joined_cons_cons, joined_singleton]
    | cons =>
      rw [List.cons_append, List.cons_append, joined_cons_cons, ← List.cons_append,
        ih (List.cons_ne_nil _ _), joined_cons_cons, List.append_assoc, List.cons_append]

theorem joined_congr (before : List (List α)) {middle middle' : List (List α)}
    (after : List (List α)) (hne : middle ≠ []) (hne' : middle' ≠ [])
    (h : alphabet.joined middle = alphabet.joined middle') :
    alphabet.joined (before ++ middle ++ after) = alphabet.joined (before ++ middle' ++ after) := by
  have hlast : alphabet.joined (middle ++ after) = alphabet.joined (middle' ++ after) := by
    by_cases hafter : after = []
    · rw [hafter, List.append_nil, List.append_nil, h]
    · rw [joined_append hne hafter, joined_append hne' hafter, h]
  by_cases hbefore : before = []
  · rw [hbefore, List.nil_append, List.nil_append, hlast]
  · rw [List.append_assoc, List.append_assoc, joined_append hbefore (by simp [hne]),
      joined_append hbefore (by simp [hne']), hlast]

theorem IsPart.append {next : List α} (hpart : alphabet.IsPart part)
    (hnext : alphabet.IsPart next) : alphabet.IsPart (part ++ alphabet.separator :: next) := by
  obtain ⟨first, _, rfl, hfirst⟩ := hpart.begins
  refine ⟨⟨first, _, rfl, hfirst⟩, ?_⟩
  intro item hitem
  rcases List.mem_append.mp hitem with hitem | hitem
  · exact hpart.allowed item hitem
  · rcases List.mem_cons.mp hitem with rfl | hitem
    · exact alphabet.separator_allowed
    · exact hnext.allowed item hitem

variable [DecidableEq α]

variable (alphabet) in
variable {part after : List α} {parts : List (List α)}

/-- The number of separators that are followed by the beginning of a part. -/
def breaks : List α → Nat
  | [] => 0
  | [_] => 0
  | item :: next :: rest =>
    (if item = alphabet.separator ∧ alphabet.begins next = true then 1 else 0) +
      breaks (next :: rest)

theorem breaks_append (before : List α)
    (hafter : ∃ first rest, after = first :: rest ∧ alphabet.begins first = true) :
    alphabet.breaks (before ++ alphabet.separator :: after) =
      alphabet.breaks before + 1 + alphabet.breaks after := by
  obtain ⟨_, _, rfl, hfirst⟩ := hafter
  induction before with
  | nil => simp [breaks, hfirst]
  | cons _ before ih =>
    cases before with
    | nil => simp [breaks, hfirst, alphabet.not_begins_separator]
    | cons =>
      simp only [List.cons_append, breaks] at ih ⊢
      rw [ih]
      omega

theorem exists_of_breaks_ne_zero (hbreaks : alphabet.breaks part ≠ 0) :
    ∃ before first rest, part = before ++ alphabet.separator :: first :: rest ∧
      alphabet.begins first = true := by
  induction part with
  | nil => exact absurd rfl hbreaks
  | cons item part ih =>
    cases part with
    | nil => exact absurd rfl hbreaks
    | cons next part =>
      by_cases hcut : item = alphabet.separator ∧ alphabet.begins next = true
      · obtain ⟨rfl, hnext⟩ := hcut
        exact ⟨[], next, part, rfl, hnext⟩
      · rw [breaks, if_neg hcut, Nat.zero_add] at hbreaks
        obtain ⟨before, first, rest, hpart, hfirst⟩ := ih hbreaks
        exact ⟨item :: before, first, rest, by rw [hpart, List.cons_append], hfirst⟩

theorem breaks_joined (hne : parts ≠ []) (hparts : ∀ part ∈ parts, alphabet.IsPart part) :
    alphabet.breaks (alphabet.joined parts) + 1 =
      parts.length + (parts.map alphabet.breaks).sum := by
  induction parts with
  | nil => exact absurd rfl hne
  | cons part parts ih =>
    cases parts with
    | nil =>
      simp
      omega
    | cons next parts =>
      have hrest : ∀ part ∈ next :: parts, alphabet.IsPart part :=
        fun part hpart => hparts part (.tail _ hpart)
      have hcount := ih (List.cons_ne_nil _ _) hrest
      rw [joined_cons_cons, breaks_append part ((hrest next (.head _)).begins_joined parts)]
      simp only [List.length_cons, List.map_cons, List.sum_cons] at hcount ⊢
      omega

theorem append_separator_eq {part' after' : List α}
    (hafter : ∃ first rest, after = first :: rest ∧ alphabet.begins first = true)
    (hafter' : ∃ first rest, after' = first :: rest ∧ alphabet.begins first = true)
    (hpart : alphabet.breaks part = 0) (hpart' : alphabet.breaks part' = 0)
    (h : part ++ alphabet.separator :: after = part' ++ alphabet.separator :: after') :
    part = part' ∧ after = after' := by
  induction part generalizing part' with
  | nil =>
    cases part' with
    | nil => exact ⟨rfl, (List.cons.inj h).2⟩
    | cons _ rest =>
      obtain ⟨rfl, htail⟩ := List.cons.inj h
      obtain ⟨first, _, rfl, hfirst⟩ := hafter
      -- the other part would go on behind the separator
      cases rest with
      | nil =>
        obtain ⟨rfl, _⟩ := List.cons.inj htail
        rw [alphabet.not_begins_separator] at hfirst
        exact Bool.noConfusion hfirst
      | cons =>
        obtain ⟨rfl, _⟩ := List.cons.inj htail
        simp [breaks, hfirst] at hpart'
  | cons item part ih =>
    cases part' with
    | nil =>
      obtain ⟨rfl, htail⟩ := List.cons.inj h
      obtain ⟨_, _, rfl, hfirst⟩ := hafter'
      cases part with
      | nil =>
        obtain ⟨rfl, _⟩ := List.cons.inj htail
        rw [alphabet.not_begins_separator] at hfirst
        exact Bool.noConfusion hfirst
      | cons =>
        obtain ⟨rfl, _⟩ := List.cons.inj htail
        simp [breaks, hfirst] at hpart
    | cons =>
      obtain ⟨rfl, htail⟩ := List.cons.inj h
      have hrest : ∀ {rest : List α}, alphabet.breaks (item :: rest) = 0 →
          alphabet.breaks rest = 0 := by
        intro rest hrest
        cases rest with
        | nil => rfl
        | cons =>
          rw [breaks] at hrest
          omega
      obtain ⟨rfl, hafters⟩ := ih (hrest hpart) (hrest hpart') htail
      exact ⟨rfl, hafters⟩

theorem joined_inj {parts others : List (List α)} (hlength : others.length = parts.length)
    (hparts : ∀ part ∈ parts, alphabet.IsPart part)
    (hothers : ∀ part ∈ others, alphabet.IsPart part)
    (hplain : ∀ part ∈ parts, alphabet.breaks part = 0)
    (hplain' : ∀ part ∈ others, alphabet.breaks part = 0)
    (h : alphabet.joined others = alphabet.joined parts) : others = parts := by
  induction parts generalizing others with
  | nil => exact List.length_eq_zero_iff.mp hlength
  | cons _ parts ih =>
    cases others with
    | nil => cases hlength
    | cons _ others =>
      cases parts with
      | nil =>
        obtain rfl := List.length_eq_zero_iff.mp (Nat.succ.inj hlength)
        rw [joined_singleton, joined_singleton] at h
        rw [h]
      | cons next parts =>
        cases others with
        | nil => cases Nat.succ.inj hlength
        | cons next' others =>
          rw [joined_cons_cons, joined_cons_cons] at h
          rw [List.forall_mem_cons] at hparts hothers hplain hplain'
          obtain ⟨rfl, hrest⟩ := append_separator_eq
            ((hothers.2 next' (.head _)).begins_joined others)
            ((hparts.2 next (.head _)).begins_joined parts)
            hplain'.1 hplain.1 h
          rw [ih (Nat.succ.inj hlength) hparts.2 hothers.2 hplain.2 hplain'.2 hrest]

theorem IsPart.exists_cut (hpart : alphabet.IsPart part) (hbroken : alphabet.breaks part ≠ 0) :
    ∃ before after, part = before ++ alphabet.separator :: after ∧
      alphabet.IsPart before ∧ alphabet.IsPart after := by
  obtain ⟨before, first, rest, rfl, hfirst⟩ := exists_of_breaks_ne_zero hbroken
  refine ⟨before, first :: rest, rfl, ?_, ?_⟩
  · obtain ⟨_, _, hstart, hbegins⟩ := hpart.begins
    constructor
    · cases before with
      | nil =>
        rw [← (List.cons.inj hstart).1, alphabet.not_begins_separator] at hbegins
        exact Bool.noConfusion hbegins
      | cons item before =>
        rw [← (List.cons.inj hstart).1] at hbegins
        exact ⟨item, before, rfl, hbegins⟩
    · exact fun item hitem => hpart.allowed item (List.mem_append_left _ hitem)
  · refine ⟨⟨first, rest, rfl, hfirst⟩, ?_⟩
    exact fun item hitem =>
      hpart.allowed item (List.mem_append_right _ (.tail _ hitem))

/-- What follows a broken part, or else what precedes it, may take a piece of it over. -/
theorem exists_other_reading (htwo : 2 ≤ parts.length)
    (hparts : ∀ part ∈ parts, alphabet.IsPart part) (hmem : part ∈ parts)
    (hbroken : alphabet.breaks part ≠ 0) :
    ∃ others : List (List α), others.length = parts.length ∧
      (∀ part ∈ others, alphabet.IsPart part) ∧
      alphabet.joined others = alphabet.joined parts ∧ others ≠ parts := by
  obtain ⟨left, right, hpart, hleft, hright⟩ := (hparts part hmem).exists_cut hbroken
  obtain ⟨before, after, rfl⟩ := List.append_of_mem hmem
  cases after with
  | cons next after =>
    have hnext : alphabet.IsPart next := hparts next (by simp)
    refine ⟨before ++ [left, right ++ alphabet.separator :: next] ++ after, by simp, ?_, ?_, ?_⟩
    · intro other hother
      simp only [List.append_assoc, List.mem_append, List.mem_cons, List.not_mem_nil,
        or_false] at hother
      rcases hother with hother | (rfl | rfl) | hother
      · exact hparts other (by simp [hother])
      · exact hleft
      · exact hright.append hnext
      · exact hparts other (by simp [hother])
    · rw [show before ++ part :: next :: after = before ++ [part, next] ++ after by simp]
      apply joined_congr <;> simp [joined_cons_cons, hpart]
    · intro heq
      have hcut := congrArg List.length
        (List.cons.inj (List.append_cancel_left ((List.append_assoc _ _ _).symm.trans heq))).1
      rw [hpart, List.length_append, List.length_cons] at hcut
      omega
  | nil =>
    obtain rfl | ⟨before, previous, rfl⟩ := before.eq_nil_or_concat
    · simp at htwo
    · rw [List.concat_eq_append] at *
      have hprevious : alphabet.IsPart previous := hparts previous (by simp)
      refine ⟨before ++ [previous ++ alphabet.separator :: left, right], by simp, ?_, ?_, ?_⟩
      · intro other hother
        simp only [List.mem_append, List.mem_cons, List.not_mem_nil, or_false] at hother
        rcases hother with hother | rfl | rfl
        · exact hparts other (by simp [hother])
        · exact hprevious.append hleft
        · exact hright
      · rw [show before ++ [previous] ++ [part] = before ++ [previous, part] ++ [] by simp,
          ← List.append_nil (before ++ [_, right])]
        apply joined_congr <;> simp [joined_cons_cons, hpart]
      · intro heq
        rw [List.append_assoc] at heq
        have hcut := congrArg List.length (List.cons.inj (List.append_cancel_left heq)).1
        rw [List.length_append, List.length_cons] at hcut
        omega

theorem readings_unique_iff (htwo : 2 ≤ parts.length)
    (hparts : ∀ part ∈ parts, alphabet.IsPart part) :
    (∀ others : List (List α), others.length = parts.length →
        (∀ part ∈ others, alphabet.IsPart part) →
        alphabet.joined others = alphabet.joined parts → others = parts) ↔
      ∀ part ∈ parts, alphabet.breaks part = 0 := by
  constructor
  · intro hunique part hmem
    by_contra hbroken
    obtain ⟨others, hlength, hothers, hjoined, hne⟩ := exists_other_reading htwo hparts hmem hbroken
    exact hne (hunique others hlength hothers hjoined)
  · intro hplain others hlength hothers hjoined
    have hcount := breaks_joined (List.ne_nil_of_length_pos (by omega)) hparts
    have hcount' := breaks_joined (List.ne_nil_of_length_pos (by omega)) hothers
    have hsum : (parts.map alphabet.breaks).sum = 0 := by
      simpa [List.sum_eq_zero_iff_forall_eq_nat] using hplain
    -- both readings have as many parts, so the other one is not broken either
    have hsum' : (others.map alphabet.breaks).sum = 0 := by
      rw [hjoined] at hcount'
      omega
    have hplain' : ∀ part ∈ others, alphabet.breaks part = 0 := by
      simpa [List.sum_eq_zero_iff_forall_eq_nat] using hsum'
    exact joined_inj hlength hparts hothers hplain hplain' hjoined

end PartAlphabet

end OpenCowork.Foundation
