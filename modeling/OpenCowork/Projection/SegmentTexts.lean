import OpenCowork.Projection.StreamedText

/-! # Texts of segments

How streamed text is merged and how a replacement is spread over the segments there were. The
texts here are lists of code units, which may be cut between any two of them.
-/

namespace OpenCowork.Projection.CodeUnits

variable {α : Type} [DecidableEq α] (existing incoming replacement : List α)

/-! ## Merging -/

/-- The search for an overlap, from this one down. -/
def mergeOverlap : Nat → List α
  | 0 => existing ++ incoming
  | overlap + 1 =>
    if existing.drop (existing.length - (overlap + 1)) = incoming.take (overlap + 1) then
      existing ++ incoming.drop (overlap + 1)
    else mergeOverlap overlap

def mergeStreamingText : List α :=
  if existing = [] then incoming
  else if incoming = [] then existing
  else if incoming = existing then existing
  else if existing.isPrefixOf incoming then incoming
  else if incoming.isSuffixOf existing then existing
  else mergeOverlap existing incoming (min existing.length incoming.length)

structure Merges (merged : List α) : Prop where
  starts : existing <+: merged
  ends : incoming <:+ merged

variable {existing incoming}

omit [DecidableEq α] in
theorem Merges.exists_shared {merged : List α} (h : Merges existing incoming merged)
    (hshort : merged.length ≤ existing.length + incoming.length) :
    ∃ shared, shared <:+ existing ∧ shared <+: incoming ∧
      merged.length + shared.length = existing.length + incoming.length := by
  obtain ⟨after, rfl⟩ := h.starts
  obtain ⟨before, hbefore⟩ := h.ends
  rw [List.length_append] at hshort
  have hlengths := congrArg List.length hbefore
  rw [List.length_append, List.length_append] at hlengths
  obtain ⟨shared, rfl, rfl⟩ | ⟨gap, rfl, rfl⟩ := List.append_eq_append_iff.mp hbefore
  · refine ⟨shared, List.suffix_append _ _, List.prefix_append _ _, ?_⟩
    simp only [List.length_append]
    omega
  · have hgap : gap = [] := by
      rw [← List.length_eq_zero_iff]
      simp only [List.length_append] at hlengths hshort
      omega
    subst hgap
    exact ⟨[], List.nil_suffix, List.nil_prefix, by simp⟩

theorem mergeOverlap_spec {overlap : Nat} (hexisting : overlap ≤ existing.length)
    (hincoming : overlap ≤ incoming.length) :
    Merges existing incoming (mergeOverlap existing incoming overlap) ∧
      ∀ shared, shared <:+ existing → shared <+: incoming → shared.length ≤ overlap →
        (mergeOverlap existing incoming overlap).length + shared.length ≤
          existing.length + incoming.length := by
  induction overlap with
  | zero =>
    refine ⟨⟨List.prefix_append _ _, List.suffix_append _ _⟩, fun shared _ _ hshared => ?_⟩
    rw [mergeOverlap, List.length_append]
    omega
  | succ overlap ih =>
    rw [mergeOverlap]
    split
    next hsame =>
      refine ⟨⟨List.prefix_append _ _, ?_⟩, fun shared _ _ hshared => ?_⟩
      · refine ⟨existing.take (existing.length - (overlap + 1)), ?_⟩
        calc existing.take (existing.length - (overlap + 1)) ++ incoming
            = existing.take (existing.length - (overlap + 1)) ++
                (incoming.take (overlap + 1) ++ incoming.drop (overlap + 1)) := by
              rw [List.take_append_drop]
          _ = existing ++ incoming.drop (overlap + 1) := by
              rw [← hsame, ← List.append_assoc, List.take_append_drop]
      · rw [List.length_append, List.length_drop]
        omega
    next hdiffers =>
      obtain ⟨hmerges, hleast⟩ := ih (by omega) (by omega)
      refine ⟨hmerges, fun shared hends hstarts hshared => ?_⟩
      obtain hlt | hlength := Nat.lt_or_eq_of_le hshared
      · exact hleast shared hends hstarts (Nat.le_of_lt_succ hlt)
      rw [← hlength, ← List.suffix_iff_eq_drop.mp hends,
        ← List.prefix_iff_eq_take.mp hstarts] at hdiffers
      exact absurd rfl hdiffers

theorem mergeStreamingText_of_suffix (h : incoming <:+ existing) :
    mergeStreamingText existing incoming = existing := by
  unfold mergeStreamingText
  split
  next hempty =>
    rw [hempty] at h ⊢
    exact List.suffix_nil.mp h
  split
  · rfl
  split
  · rfl
  split
  next hstarts =>
    exact h.eq_of_length_le (List.isPrefixOf_iff_prefix.mp hstarts).length_le
  · rw [if_pos (List.isSuffixOf_iff_suffix.mpr h)]

theorem mergeStreamingText_merges_least (existing incoming : List α) :
    Merges existing incoming (mergeStreamingText existing incoming) ∧
      ∀ other, Merges existing incoming other →
        (mergeStreamingText existing incoming).length ≤ other.length := by
  by_cases hends : incoming <:+ existing
  · rw [mergeStreamingText_of_suffix hends]
    exact ⟨⟨List.prefix_rfl, hends⟩, fun other hother => hother.starts.length_le⟩
  by_cases hstarts : existing <+: incoming
  · have hwhole : mergeStreamingText existing incoming = incoming := by
      unfold mergeStreamingText
      split
      · rfl
      split
      next hempty => exact absurd (hempty ▸ List.nil_suffix) hends
      split
      next hsame => exact hsame.symm
      · rw [if_pos (List.isPrefixOf_iff_prefix.mpr hstarts)]
    rw [hwhole]
    exact ⟨⟨hstarts, List.suffix_rfl⟩, fun other hother => hother.ends.length_le⟩
  · have hsearched : mergeStreamingText existing incoming =
        mergeOverlap existing incoming (min existing.length incoming.length) := by
      unfold mergeStreamingText
      rw [if_neg, if_neg, if_neg, if_neg, if_neg]
      · rwa [List.isSuffixOf_iff_suffix]
      · rwa [List.isPrefixOf_iff_prefix]
      · rintro rfl
        exact hends List.suffix_rfl
      · rintro rfl
        exact hends List.nil_suffix
      · rintro rfl
        exact hstarts List.nil_prefix
    obtain ⟨hmerges, hleast⟩ := mergeOverlap_spec (Nat.min_le_left _ _)
      (Nat.min_le_right existing.length incoming.length)
    rw [hsearched]
    refine ⟨hmerges, fun other hother => ?_⟩
    rcases Nat.le_total other.length (existing.length + incoming.length) with hshort | hlong
    · obtain ⟨shared, hend, hstart, hlength⟩ := hother.exists_shared hshort
      have hbound := hleast shared hend hstart (Nat.le_min.mpr ⟨hend.length_le, hstart.length_le⟩)
      omega
    · have hbound := hleast [] List.nil_suffix List.nil_prefix (Nat.zero_le _)
      rw [List.length_nil] at hbound
      omega

/-- No shorter text begins with the one and ends with the other, and what has been merged once
is not merged again. -/
theorem mergeStreamingText_shortest (existing incoming : List α) :
    let merged := mergeStreamingText existing incoming
    Merges existing incoming merged ∧
      (∀ other, Merges existing incoming other → merged.length ≤ other.length) ∧
      mergeStreamingText merged incoming = merged := by
  intro merged
  obtain ⟨hmerges, hleast⟩ := mergeStreamingText_merges_least existing incoming
  exact ⟨hmerges, hleast, mergeStreamingText_of_suffix hmerges.ends⟩

theorem toList_mergeStreamingText (existing incoming : String) :
    (Projection.mergeStreamingText existing incoming).toList =
      mergeStreamingText existing.toList incoming.toList := by
  have hsearch (overlap : Nat) : mergeOverlap existing.toList incoming.toList overlap =
      existing.toList ++
        incoming.toList.drop (overlapUpTo existing.toList incoming.toList overlap) := by
    induction overlap with
    | zero => rfl
    | succ overlap ih =>
      rw [mergeOverlap, overlapUpTo]
      split
      · rfl
      · exact ih
  unfold Projection.mergeStreamingText mergeStreamingText
  simp only [String.toList_eq_nil_iff, String.toList_inj, hsearch]
  split_ifs <;> simp

/-! ## Replacing -/

section Replacing

variable (replacement : List α)

/-- `text.slice(from, to)`. -/
def slice (text : List α) (start stop : Nat) : List α := (text.drop start).take (stop - start)

/-- `text.lastIndexOf(part, position)`. -/
def lastIndexOf (text part : List α) : Nat → Option Nat
  | 0 => if part.isPrefixOf text then some 0 else none
  | position + 1 =>
    if part.isPrefixOf (text.drop (position + 1)) then some (position + 1)
    else lastIndexOf text part position

/-- The boundaries before each of the segments and at the end, searched from the right. -/
def boundariesFromRight : List (List α) → Option (Nat × List Nat)
  | [] => some (replacement.length, [])
  | content :: rest => do
    let (searchBefore, later) ← boundariesFromRight rest
    if content = [] then some (searchBefore, searchBefore :: later)
    else
      let found ← lastIndexOf replacement content (searchBefore - content.length)
      some (found, searchBefore :: later)

def slices : Nat → List Nat → List (List α)
  | _, [] => []
  | start, stop :: later => slice replacement start stop :: slices stop later

/-- `splitReplacementTextFromRightByPreviousLengths` behind the first segment: where it begins,
and the parts. -/
def partsByLengths : List (List α) → Nat × List (List α)
  | [] => (replacement.length, [])
  | content :: rest =>
    let (offset, parts) := partsByLengths rest
    let nextOffset := offset - content.length
    (nextOffset, slice replacement nextOffset offset :: parts)

def splitReplacementTextByPreviousSegments (segments : List (List α)) : List (List α) :=
  match segments with
  | [] | [_] => [replacement]
  | _ :: later =>
    let prefixContent := segments.dropLast.flatten
    if prefixContent.isPrefixOf replacement then
      segments.dropLast ++ [replacement.drop prefixContent.length]
    else
      match boundariesFromRight replacement later with
      | some (boundary, boundaries) => slices replacement 0 (boundary :: boundaries)
      | none =>
        let (offset, parts) := partsByLengths replacement later
        replacement.take offset :: parts

variable {replacement}

omit [DecidableEq α] in
theorem slice_append_drop {start stop : Nat} (h : start ≤ stop) :
    slice replacement start stop ++ replacement.drop stop = replacement.drop start := by
  have hstop : stop = start + (stop - start) := (Nat.add_sub_of_le h).symm
  rw [slice, hstop, Nat.add_sub_cancel_left, ← List.drop_drop, List.take_append_drop]

theorem lastIndexOf_le {text part : List α} {position found : Nat}
    (h : lastIndexOf text part position = some found) : found ≤ position := by
  induction position with
  | zero =>
    rw [lastIndexOf] at h
    split at h <;> cases h
    exact Nat.le_refl 0
  | succ position ih =>
    rw [lastIndexOf] at h
    split at h
    · cases h
      exact Nat.le_refl _
    · exact Nat.le_succ_of_le (ih h)

theorem boundariesFromRight_spec {segments : List (List α)} {boundary : Nat} {later : List Nat}
    (h : boundariesFromRight replacement segments = some (boundary, later)) :
    (slices replacement boundary later).length = segments.length ∧
      (slices replacement boundary later).flatten = replacement.drop boundary := by
  induction segments generalizing boundary later with
  | nil =>
    cases h
    simp [slices]
  | cons content rest ih =>
    rw [boundariesFromRight] at h
    obtain ⟨⟨searchBefore, after⟩, hrest, h⟩ := Option.bind_eq_some_iff.mp h
    obtain ⟨hlength, hparts⟩ := ih hrest
    have hstarts : boundary ≤ searchBefore ∧ later = searchBefore :: after := by
      dsimp only at h
      split at h
      · cases h
        exact ⟨Nat.le_refl _, rfl⟩
      · obtain ⟨found, hfound, h⟩ := Option.bind_eq_some_iff.mp h
        cases h
        exact ⟨Nat.le_trans (lastIndexOf_le hfound) (Nat.sub_le _ _), rfl⟩
    rw [hstarts.2, slices, List.length_cons, hlength, List.flatten_cons, hparts]
    exact ⟨rfl, slice_append_drop hstarts.1⟩

omit [DecidableEq α] in
theorem partsByLengths_spec (replacement : List α) (segments : List (List α)) :
    (partsByLengths replacement segments).2.length = segments.length ∧
      (partsByLengths replacement segments).2.flatten =
        replacement.drop (partsByLengths replacement segments).1 := by
  induction segments with
  | nil => simp [partsByLengths]
  | cons content rest ih =>
    rw [partsByLengths, List.length_cons, ih.1, List.flatten_cons, ih.2]
    exact ⟨rfl, slice_append_drop (Nat.sub_le _ _)⟩

/-- A replacement is spread over as many parts as there were segments, nothing of it is lost, and
the text of the segments themselves is cut as it was. -/
theorem splitReplacementText_preserves (replacement : List α) {segments : List (List α)}
    (hsegments : segments ≠ []) :
    let parts := splitReplacementTextByPreviousSegments replacement segments
    parts.length = segments.length ∧ parts.flatten = replacement ∧
      (replacement = segments.flatten → parts = segments) := by
  match segments, hsegments with
  | [segment], _ => simp [splitReplacementTextByPreviousSegments]
  | first :: second :: rest, hsegments =>
    intro parts
    have hlast := List.dropLast_append_getLast hsegments
    have hflatten := (congrArg List.flatten hlast).symm.trans List.flatten_append
    by_cases hprefix : (first :: second :: rest).dropLast.flatten <+: replacement
    · have hparts : parts = (first :: second :: rest).dropLast ++
          [replacement.drop (first :: second :: rest).dropLast.flatten.length] :=
        if_pos (List.isPrefixOf_iff_prefix.mpr hprefix)
      obtain ⟨last, rfl⟩ := hprefix
      rw [List.drop_left] at hparts
      rw [hparts]
      refine ⟨by simp, by simp, fun hsame => ?_⟩
      rw [hflatten, List.flatten_singleton] at hsame
      rw [List.append_cancel_left hsame, hlast]
    · have hparts : parts = _ := if_neg (mt List.isPrefixOf_iff_prefix.mp hprefix)
      have hmoved : replacement ≠ (first :: second :: rest).flatten := by
        intro hsame
        apply hprefix
        rw [hsame, hflatten]
        exact List.prefix_append _ _
      rw [hparts, List.length_cons]
      refine and_assoc.mp ⟨?_, fun hsame => absurd hsame hmoved⟩
      split
      next boundary boundaries hfound =>
        obtain ⟨hlength, hwhole⟩ := boundariesFromRight_spec hfound
        rw [slices, List.length_cons, hlength, List.flatten_cons, hwhole,
          slice_append_drop (Nat.zero_le _)]
        exact ⟨rfl, rfl⟩
      · obtain ⟨hlength, hwhole⟩ := partsByLengths_spec replacement (second :: rest)
        rw [List.length_cons, hlength, List.flatten_cons, hwhole, List.take_append_drop]
        exact ⟨rfl, rfl⟩

/-- Without segments the replacement is one part of its own. -/
theorem splitReplacementText_of_none : ¬ ∀ (segments : List (List Char)) (replacement : List Char),
    let parts := splitReplacementTextByPreviousSegments replacement segments
    parts.length = segments.length ∧ parts.flatten = replacement ∧
      (replacement = segments.flatten → parts = segments) :=
  fun h => absurd (h [] []).1 (by decide)

theorem splitReplacementText_moved_boundary :
    let parts := splitReplacementTextByPreviousSegments ['a', 'c'] [['a', 'b'], ['c']]
    parts.length = 2 ∧ parts.flatten = ['a', 'c'] := by
  have h := splitReplacementText_preserves ['a', 'c']
    (List.cons_ne_nil ['a', 'b'] [['c']])
  exact ⟨h.1, h.2.1⟩

end Replacing

end OpenCowork.Projection.CodeUnits
