import Mathlib.Data.List.Forall2
import Mathlib.Data.List.Infix

/-! # Wildcards

Patterns in which one symbol stands for any text and another for any single symbol, and the
search that matches a pattern from left to right with one place to come back to.
-/

namespace OpenCowork.Foundation.Wildcard

variable {α : Type*} [DecidableEq α] (star question : α)

/-- The pattern matches the text: `star` any part of it, `question` any symbol. -/
def matchesText : List α → List α → Bool
  | [], text => text.isEmpty
  | c :: pattern, text =>
    if c = star then text.tails.any (matchesText pattern)
    else match text with
      | [] => false
      | d :: rest => (c = question || c = d) && matchesText pattern rest

variable {star question} {pattern text passed read tried : List α}

@[simp] theorem matchesText_nil : matchesText star question [] text = text.isEmpty := rfl

theorem matchesText_star :
    matchesText star question (star :: pattern) text = true ↔
      ∃ rest, rest <:+ text ∧ matchesText star question pattern rest = true := by
  simp only [matchesText, if_true, List.any_eq_true, List.mem_tails]

theorem matchesText_cons {c d : α} (hc : c ≠ star) :
    matchesText star question (c :: pattern) (d :: text) = true ↔
      (c = question ∨ c = d) ∧ matchesText star question pattern text = true := by
  simp only [matchesText, if_neg hc, Bool.and_eq_true, Bool.or_eq_true, decide_eq_true_eq]

theorem matchesText_cons_nil {c : α} (hc : c ≠ star) :
    matchesText star question (c :: pattern) [] = false := by
  simp only [matchesText, if_neg hc]

theorem matchesText_of_plain (hstar : star ∉ pattern) (hquestion : question ∉ pattern) :
    matchesText star question pattern text = true ↔ pattern = text := by
  induction pattern generalizing text with
  | nil => cases text <;> simp
  | cons _ _ ih =>
    rw [List.mem_cons, not_or] at hstar hquestion
    cases text with
    | nil => simp [matchesText_cons_nil (Ne.symm hstar.1)]
    | cons =>
      rw [matchesText_cons (Ne.symm hstar.1), ih hstar.2 hquestion.2, List.cons_eq_cons]
      simp [Ne.symm hquestion.1]

theorem matchesText_nil_right : matchesText star question pattern [] = pattern.all (· = star) := by
  induction pattern with
  | nil => rfl
  | cons c _ ih =>
    by_cases hc : c = star
    · subst hc
      simp [matchesText, ih]
    · simp [matchesText, hc]

/-- What was matched symbol by symbol, with no star in the pattern. -/
def Aligned (star question : α) (passed read : List α) : Prop :=
  List.Forall₂ (fun c d => c ≠ star ∧ (c = question ∨ c = d)) passed read

variable (h : Aligned star question passed read)
include h

theorem Aligned.matchesText_append :
    matchesText star question (passed ++ pattern) (read ++ text) =
      matchesText star question pattern text := by
  induction h with
  | nil => rfl
  | cons hc _ ih =>
    rw [Bool.eq_iff_iff, List.cons_append, List.cons_append, matchesText_cons hc.1, ih]
    exact and_iff_right hc.2

theorem Aligned.exists_rest (hmatch : matchesText star question (passed ++ pattern) tried = true) :
    ∃ skipped rest, tried = skipped ++ rest ∧ skipped.length = read.length ∧
      matchesText star question pattern rest = true := by
  induction h generalizing tried with
  | nil => exact ⟨[], tried, rfl, rfl, hmatch⟩
  | cons hc _ ih =>
    cases tried with
    | nil =>
      rw [List.cons_append, matchesText_cons_nil hc.1] at hmatch
      cases hmatch
    | cons d =>
      rw [List.cons_append, matchesText_cons hc.1] at hmatch
      obtain ⟨skipped, rest, rfl, hlength, hrest⟩ := ih hmatch.2
      exact ⟨d :: skipped, rest, rfl, congrArg (· + 1) hlength, hrest⟩

omit h

/-! ## The search -/

variable (star question)

/-- The search from left to right. `resume` is what follows the last star, with the text from
which on it was tried. -/
def search : Nat → List α → List α → Option (List α × List α) → Bool
  | 0, _, _, _ => false
  | _ + 1, pattern, [], _ => pattern.all (· = star)
  | fuel + 1, pattern, d :: text, resume =>
    if pattern.head? = some question ∨ pattern.head? = some d then
      search fuel pattern.tail text resume
    else if pattern.head? = some star then
      search fuel pattern.tail (d :: text) (some (pattern.tail, d :: text))
    else match resume with
      | some (after, tried) => search fuel after tried.tail (some (after, tried.tail))
      | none => false

variable {star question}

theorem matchesText_eq_false {d : α}
    (hfits : ¬ (pattern.head? = some question ∨ pattern.head? = some d))
    (hstar : pattern.head? ≠ some star) :
    matchesText star question pattern (d :: text) = false := by
  cases pattern with
  | nil => rfl
  | cons =>
    rw [List.head?_cons, Option.some.injEq, Option.some.injEq] at hfits
    rw [List.head?_cons, ne_eq, Option.some.injEq] at hstar
    rw [Bool.eq_false_iff, ne_eq, matchesText_cons hstar]
    exact fun h => hfits h.1

/-- After a star the search finds whether the rest of the pattern matches anywhere in the text
that the star has left, given a step for each symbol of the pattern at each place of it. -/
theorem search_resumed (hne : question ≠ star) {bound fuel : Nat} {after : List α}
    (haligned : Aligned star question passed read) (hafter : after = passed ++ pattern)
    (htried : tried = read ++ text) (hplain : star ∉ tried) (hbound : after.length ≤ bound)
    (hfuel : tried.length * (bound + 1) + pattern.length < fuel) :
    search star question fuel pattern text (some (after, tried)) =
      matchesText star question (star :: after) tried := by
  induction fuel generalizing pattern text passed read after tried with
  | zero => exact absurd hfuel (Nat.not_lt_zero _)
  | succ fuel ih =>
    cases text with
    | nil =>
      rw [List.append_nil] at htried
      subst htried hafter
      rw [search, ← @matchesText_nil_right _ _ star question, Bool.eq_iff_iff, matchesText_star]
      constructor
      · intro hrest
        refine ⟨tried, List.suffix_refl _, ?_⟩
        rw [← List.append_nil tried, haligned.matchesText_append]
        exact hrest
      · rintro ⟨rest, hsuffix, hmatch⟩
        obtain ⟨skipped, left, rfl, hlength, hleft⟩ := haligned.exists_rest hmatch
        have hle := hsuffix.length_le
        rw [List.length_append, hlength] at hle
        obtain rfl := List.length_eq_zero_iff.mp (by omega : left.length = 0)
        exact hleft
    | cons d text =>
      have hd : d ≠ star := by
        rintro rfl
        exact hplain (htried ▸ List.mem_append_right _ (.head _))
      have hlength : (d :: text).length ≤ tried.length := by
        rw [htried, List.length_append]
        omega
      rw [search]
      split_ifs with hfits hstar
      · -- the next symbol fits
        obtain ⟨c, rest, rfl⟩ :=
          List.exists_cons_of_ne_nil fun hnil : pattern = [] => by simp [hnil] at hfits
        rw [List.head?_cons, Option.some.injEq, Option.some.injEq] at hfits
        have hc : c ≠ star := by
          rcases hfits with rfl | rfl
          · exact hne
          · exact hd
        have hnext : Aligned star question (passed ++ [c]) (read ++ [d]) :=
          List.rel_append haligned (.cons ⟨hc, hfits⟩ .nil)
        rw [List.length_cons] at hfuel
        exact ih hnext (by simp [hafter]) (by simp [htried]) hplain hbound
          (by rw [List.tail_cons]; omega)
      · -- a new star takes over: what the old one could skip, the new one can
        obtain ⟨rest, rfl⟩ := List.head?_eq_some_iff.mp hstar
        have hplainNow : star ∉ d :: text := fun hmem =>
          hplain (htried ▸ List.mem_append_right _ hmem)
        have hshorter : rest.length ≤ bound := by
          rw [hafter, List.length_append, List.length_cons] at hbound
          omega
        have hsteps : (d :: text).length * (bound + 1) + rest.length < fuel := by
          have hmul := Nat.mul_le_mul_right (bound + 1) hlength
          rw [List.length_cons] at hfuel
          omega
        have hresumed := ih (.nil : Aligned star question [] [])
          (List.nil_append rest).symm (List.nil_append (d :: text)).symm hplainNow hshorter
          hsteps
        rw [List.tail_cons, hresumed, Bool.eq_iff_iff, @matchesText_star _ _ star question after]
        subst hafter
        constructor
        · intro hmatch
          refine ⟨tried, List.suffix_refl _, ?_⟩
          rw [htried, haligned.matchesText_append]
          exact hmatch
        · rintro ⟨place, hsuffix, hmatch⟩
          obtain ⟨skipped, left, rfl, hskipped, hleft⟩ := haligned.exists_rest hmatch
          obtain ⟨later, hlater, hrest⟩ := matchesText_star.mp hleft
          refine matchesText_star.mpr ⟨later, hlater.trans ?_, hrest⟩
          have hle := hsuffix.length_le
          rw [List.length_append, hskipped, htried, List.length_append] at hle
          exact List.suffix_of_suffix_length_le
            ((List.suffix_append skipped left).trans hsuffix)
            (htried ▸ List.suffix_append read (d :: text)) (by omega)
      · -- nothing fits: the star skips one more symbol
        have hnone : matchesText star question after tried = false := by
          rw [hafter, htried, haligned.matchesText_append]
          exact matchesText_eq_false hfits hstar
        obtain ⟨first, others, rfl⟩ : ∃ first others, tried = first :: others :=
          List.exists_cons_of_ne_nil fun hnil : tried = [] => by simp [hnil] at hlength
        have hsteps : others.length * (bound + 1) + after.length < fuel := by
          rw [List.length_cons, Nat.add_one_mul] at hfuel
          omega
        have hresumed := ih (.nil : Aligned star question [] [])
          (List.nil_append after).symm (List.nil_append others).symm
          (fun hmem => hplain (.tail _ hmem)) hbound hsteps
        rw [List.tail_cons, hresumed, Bool.eq_iff_iff, matchesText_star, matchesText_star]
        constructor
        · rintro ⟨place, hsuffix, hmatch⟩
          exact ⟨place, hsuffix.trans (List.suffix_cons _ _), hmatch⟩
        · rintro ⟨place, hsuffix, hmatch⟩
          rcases List.suffix_cons_iff.mp hsuffix with rfl | hsuffix
          · rw [hnone] at hmatch
            cases hmatch
          · exact ⟨place, hsuffix, hmatch⟩

/-- The search decides whether the pattern matches a text in which no star stands. -/
theorem search_eq (hne : question ≠ star) {fuel : Nat} (hplain : star ∉ text)
    (hfuel : (text.length + 1) * (pattern.length + 1) ≤ fuel) :
    search star question fuel pattern text none = matchesText star question pattern text := by
  suffices h : ∀ fuel pattern text bound, pattern.length ≤ bound → star ∉ text →
      text.length * (bound + 1) + pattern.length < fuel →
      search star question fuel pattern text none = matchesText star question pattern text by
    refine h fuel pattern text pattern.length le_rfl hplain ?_
    rw [Nat.add_one_mul] at hfuel
    omega
  intro fuel
  induction fuel with
  | zero => exact fun _ _ _ _ _ h => absurd h (Nat.not_lt_zero _)
  | succ fuel ih =>
    intro pattern text bound hbound hplain hfuel
    cases text with
    | nil => rw [search, matchesText_nil_right]
    | cons d text =>
      rw [search]
      split_ifs with hfits hstar
      · obtain ⟨c, rest, rfl⟩ :=
          List.exists_cons_of_ne_nil fun hnil : pattern = [] => by simp [hnil] at hfits
        rw [List.head?_cons, Option.some.injEq, Option.some.injEq] at hfits
        have hc : c ≠ star := by
          rcases hfits with rfl | rfl
          · exact hne
          · exact fun heq => hplain (heq ▸ List.mem_cons_self)
        rw [List.length_cons] at hbound
        rw [List.length_cons, List.length_cons, Nat.add_one_mul] at hfuel
        rw [List.tail_cons, ih rest text bound (by omega)
          (fun hmem => hplain (.tail _ hmem)) (by omega), Bool.eq_iff_iff,
          matchesText_cons hc]
        exact (and_iff_right hfits).symm
      · obtain ⟨rest, rfl⟩ := List.head?_eq_some_iff.mp hstar
        simp only [List.length_cons] at hbound hfuel
        have hshorter : rest.length ≤ bound := by omega
        have hsteps : (d :: text).length * (bound + 1) + rest.length < fuel := by
          rw [List.length_cons]
          omega
        exact search_resumed hne (.nil : Aligned star question [] [])
          (List.nil_append rest).symm (List.nil_append (d :: text)).symm hplain hshorter hsteps
      · exact (matchesText_eq_false hfits hstar).symm

end OpenCowork.Foundation.Wildcard
