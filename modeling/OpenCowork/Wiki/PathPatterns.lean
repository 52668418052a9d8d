import Mathlib.Data.List.Chain
import Mathlib.Data.List.DropRight
import OpenCowork.Foundation.PathText

/-! # Path patterns

The patterns by which a policy names the paths of its sections. A pattern is matched as a
regular expression, but for the shapes that are compared as text.
-/

namespace OpenCowork.Wiki

open Foundation

def normalizeOpenWikiRepoPath (value : String) : List Char :=
  ((Text.slashed value).toList.dropWhile (· = '/')).rdropWhile (· = '/')

/-- What `.` stands for in a regular expression. -/
def inLine (c : Char) : Bool := c ∉ ['\n', '\r', '\u2028', '\u2029']

inductive PatternPart where
  /-- `(?:.*/)?` -/
  | leading
  /-- `.*` -/
  | anything
  /-- `[^/]*` -/
  | within
  | literal (c : Char)

def openWikiPathPatternRegex : List Char → List PatternPart
  | '*' :: '*' :: '/' :: rest => .leading :: openWikiPathPatternRegex rest
  | '*' :: '*' :: rest => .anything :: openWikiPathPatternRegex rest
  | '*' :: rest => .within :: openWikiPathPatternRegex rest
  | c :: rest => .literal c :: openWikiPathPatternRegex rest
  | [] => []

def PatternPart.accepts : PatternPart → List Char → Bool
  | leading, text => text.isEmpty || (text.getLast? = some '/' && text.dropLast.all inLine)
  | anything, text => text.all inLine
  | within, text => text.all (· ≠ '/')
  | literal c, text => text = [c]

def matchesRegex : List PatternPart → List Char → Bool
  | [], text => text.isEmpty
  | part :: parts, text => (List.range (text.length + 1)).any fun n =>
      part.accepts (text.take n) && matchesRegex parts (text.drop n)

def openWikiPathPatternMatches (pattern repoPath : String) : Bool :=
  let normalizedPattern := normalizeOpenWikiRepoPath pattern
  let normalizedPath := normalizeOpenWikiRepoPath repoPath
  if normalizedPattern = ['*', '*'] ∨ normalizedPattern = ['*'] then true
  else if ['/', '*', '*'] <:+ normalizedPattern then
    let directory := normalizedPattern.dropLast.dropLast.dropLast
    normalizedPath = directory ∨ directory ++ ['/'] <+: normalizedPath
  else if '*' ∉ normalizedPattern then normalizedPath = normalizedPattern
  else matchesRegex (openWikiPathPatternRegex normalizedPattern) normalizedPath

/-! ## What a pattern means -/

/-- The segments are not empty: no two slashes meet, nor does one stand at an end. -/
def IsRepoPath (path : List Char) : Prop :=
  ('/' :: path ++ ['/']).IsChain (fun c d => ¬ (c = '/' ∧ d = '/')) ∧ ∀ c ∈ path, inLine c

instance : DecidablePred IsRepoPath := fun _ =>
  @instDecidableAnd _ _ inferInstance (List.decidableBAll _ _)

/-- The pattern language, with one rule more for what is below a directory. -/
def PatternMeans (pattern path : List Char) : Prop :=
  (∃ directory, pattern = directory ++ ['/', '*', '*'] ∧
    ∃ top, matchesRegex (openWikiPathPatternRegex directory) top ∧
      (path = top ∨ top ++ ['/'] <+: path)) ∨
  (¬ ['/', '*', '*'] <:+ pattern ∧ matchesRegex (openWikiPathPatternRegex pattern) path)

variable {pattern repoPath : String} {text chars : List Char}

theorem matchesRegex_cons {part : PatternPart} {parts : List PatternPart} :
    matchesRegex (part :: parts) text ↔
      ∃ before after, text = before ++ after ∧ part.accepts before ∧ matchesRegex parts after := by
  rw [matchesRegex, List.any_eq_true]
  constructor
  · rintro ⟨n, _, h⟩
    rw [Bool.and_eq_true] at h
    exact ⟨text.take n, text.drop n, (List.take_append_drop n text).symm, h⟩
  · rintro ⟨before, _, rfl, hbefore, hafter⟩
    refine ⟨before.length, List.mem_range.mpr ?_, ?_⟩
    · rw [List.length_append]
      omega
    · rw [List.take_left, List.drop_left, hbefore, hafter, Bool.and_true]

theorem matchesRegex_plain (hstar : '*' ∉ chars) :
    matchesRegex (openWikiPathPatternRegex chars) text ↔ text = chars := by
  induction chars generalizing text with
  | nil => exact List.isEmpty_iff
  | cons c chars ih =>
    rw [List.mem_cons, not_or] at hstar
    have hparts : openWikiPathPatternRegex (c :: chars) =
        .literal c :: openWikiPathPatternRegex chars := by
      rw [openWikiPathPatternRegex]
      · rintro rest rfl
        exact absurd rfl hstar.1
      · rintro _ rfl
        exact absurd rfl hstar.1
      · rintro rfl
        exact absurd rfl hstar.1
    rw [hparts, matchesRegex_cons]
    constructor
    · rintro ⟨_, _, rfl, hbefore, hafter⟩
      rw [(ih hstar.2).mp hafter, of_decide_eq_true hbefore, List.singleton_append]
    · rintro rfl
      exact ⟨[c], chars, rfl, decide_eq_true rfl, (ih hstar.2).mpr rfl⟩

/-- A pattern matches what it becomes with a letter in the place of each star. -/
def filled (pattern : List Char) : List Char := pattern.map fun c => if c = '*' then 'x' else c

theorem matchesRegex_filled (chars : List Char) :
    matchesRegex (openWikiPathPatternRegex chars) (filled chars) := by
  induction chars using openWikiPathPatternRegex.induct with
  | case1 rest ih => exact matchesRegex_cons.mpr ⟨['x', 'x', '/'], filled rest, rfl, rfl, ih⟩
  | case2 rest hne ih =>
    rw [openWikiPathPatternRegex]
    · exact matchesRegex_cons.mpr ⟨['x', 'x'], filled rest, rfl, rfl, ih⟩
    · exact hne
  | case3 rest hne hne' ih =>
    rw [openWikiPathPatternRegex]
    · exact matchesRegex_cons.mpr ⟨['x'], filled rest, rfl, rfl, ih⟩
    · exact hne
    · exact hne'
  | case4 c rest _ _ hstar ih =>
    rw [openWikiPathPatternRegex]
    · refine matchesRegex_cons.mpr ⟨[c], filled rest, ?_, decide_eq_true rfl, ih⟩
      have hc : c ≠ '*' := hstar
      rw [filled, List.map_cons, if_neg hc]
      rfl
    all_goals assumption
  | case5 => rfl

theorem star_not_mem_filled (chars : List Char) : '*' ∉ filled chars := by
  intro hmem
  obtain ⟨_, _, hc⟩ := List.mem_map.mp hmem
  split at hc
  · exact absurd hc (by decide)
  next hne => exact hne hc

theorem isRepoPath_filled (h : IsRepoPath chars) : IsRepoPath (filled chars) := by
  have hslash (c : Char) : (if c = '*' then 'x' else c) = '/' → c = '/' := by
    split
    · exact fun h => absurd h (by decide)
    · exact id
  constructor
  · have hmap : '/' :: filled chars ++ ['/'] =
        ('/' :: chars ++ ['/']).map fun c => if c = '*' then 'x' else c := by
      simp [filled]
    rw [hmap, List.isChain_map]
    exact h.1.imp fun c d hne hboth => hne ⟨hslash c hboth.1, hslash d hboth.2⟩
  · intro c hc
    obtain ⟨d, hd, rfl⟩ := List.mem_map.mp hc
    split
    · rfl
    · exact h.2 d hd

theorem isRepoPath_of_below {directory : List Char} (h : IsRepoPath text)
    (hbelow : text = directory ∨ directory ++ ['/'] <+: text) : IsRepoPath directory := by
  rcases hbelow with rfl | ⟨_, rfl⟩
  · exact h
  · have hchain := h.1
    rw [← List.cons_append, ← List.cons_append, List.append_assoc] at hchain
    exact ⟨(List.isChain_append.mp hchain).1,
      fun c hc => h.2 c (List.mem_append_left _ (List.mem_append_left _ hc))⟩

theorem normalize_of_isRepoPath (h : IsRepoPath chars)
    (hbackslash : '\\' ∉ chars) : normalizeOpenWikiRepoPath (String.ofList chars) = chars := by
  obtain ⟨hfirst, _, hlast⟩ := List.isChain_append.mp h.1
  rw [normalizeOpenWikiRepoPath, Text.slashed_of_not_mem (by rwa [String.toList_ofList]),
    String.toList_ofList]
  have hhead : chars.dropWhile (· = '/') = chars := by
    cases chars with
    | nil => rfl
    | cons c =>
      have hc : c ≠ '/' := fun hc => (List.isChain_cons_cons.mp hfirst).1 ⟨rfl, hc⟩
      rw [List.dropWhile_cons_of_neg (by simpa using hc)]
  rw [hhead, List.rdropWhile_eq_self_iff]
  intro hne hc
  refine hlast _ ?_ '/' rfl ⟨of_decide_eq_true hc, rfl⟩
  rw [List.getLast?_cons, List.getLast?_eq_some_getLast hne]
  rfl

theorem backslash_not_mem_normalize (value : String) :
    '\\' ∉ normalizeOpenWikiRepoPath value := fun hmem =>
  Text.backslash_not_mem_slashed value ((List.dropWhile_suffix _).subset
    ((List.rdropWhile_prefix _ _).subset hmem))

/-! ## A wildcard before what is below -/

variable {directory : List Char}

theorem patternMeans_below : PatternMeans (directory ++ ['/', '*', '*']) text ↔
    ∃ top, matchesRegex (openWikiPathPatternRegex directory) top ∧
      (text = top ∨ top ++ ['/'] <+: text) := by
  constructor
  · rintro (⟨other, hother, h⟩ | ⟨hnot, _⟩)
    · rwa [List.append_cancel_right hother]
    · exact absurd (List.suffix_append _ _) hnot
  · exact fun h => .inl ⟨directory, rfl, h⟩

variable (hpattern : normalizeOpenWikiRepoPath pattern = directory ++ ['/', '*', '*'])
include hpattern

theorem openWikiPathPatternMatches_below :
    openWikiPathPatternMatches pattern repoPath = true ↔
      normalizeOpenWikiRepoPath repoPath = directory ∨
        directory ++ ['/'] <+: normalizeOpenWikiRepoPath repoPath := by
  have hlong : ¬ (directory ++ ['/', '*', '*'] = ['*', '*'] ∨
      directory ++ ['/', '*', '*'] = ['*']) := by
    rintro (h | h)
    · simpa using congrArg List.length h
    · simpa using congrArg List.length h
  have hcut : (directory ++ ['/', '*', '*']).dropLast.dropLast.dropLast = directory := by
    simp [List.dropLast_append_of_ne_nil]
  unfold openWikiPathPatternMatches
  rw [hpattern, if_neg hlong, if_pos (List.suffix_append _ _), hcut, decide_eq_true_iff]

theorem exists_meant (hpath : IsRepoPath (normalizeOpenWikiRepoPath repoPath))
    (hmatch : openWikiPathPatternMatches pattern repoPath = true) :
    ∃ other, normalizeOpenWikiRepoPath other = filled directory ∧ IsRepoPath (filled directory) ∧
      PatternMeans (normalizeOpenWikiRepoPath pattern) (filled directory) := by
  have hfilled := isRepoPath_filled
    (isRepoPath_of_below hpath ((openWikiPathPatternMatches_below hpattern).mp hmatch))
  refine ⟨_, normalize_of_isRepoPath hfilled ?_, hfilled, ?_⟩
  · intro hmem
    obtain ⟨_, hc, heq⟩ := List.mem_map.mp hmem
    split at heq
    · exact absurd heq (by decide)
    · exact backslash_not_mem_normalize pattern (hpattern ▸ List.mem_append_left _ (heq ▸ hc))
  · rw [hpattern]
    exact patternMeans_below.mpr ⟨_, matchesRegex_filled directory, .inl rfl⟩

omit hpattern

/-- A pattern matches what it means, a lone star and stars before a `/**` apart. -/
theorem path_patterns_agree_iff (pattern : String) :
    (∀ repoPath, IsRepoPath (normalizeOpenWikiRepoPath repoPath) →
      (openWikiPathPatternMatches pattern repoPath = true ↔
        PatternMeans (normalizeOpenWikiRepoPath pattern) (normalizeOpenWikiRepoPath repoPath))) ↔
    normalizeOpenWikiRepoPath pattern ≠ ['*'] ∧
      ∀ directory, normalizeOpenWikiRepoPath pattern = directory ++ ['/', '*', '*'] →
        '*' ∈ directory → ∀ repoPath, IsRepoPath (normalizeOpenWikiRepoPath repoPath) →
          ¬ PatternMeans (normalizeOpenWikiRepoPath pattern)
            (normalizeOpenWikiRepoPath repoPath) := by
  constructor
  · intro hagree
    constructor
    · intro hpattern
      have htrue : openWikiPathPatternMatches pattern "a/b" = true := by
        unfold openWikiPathPatternMatches
        rw [if_pos (.inr hpattern)]
      rcases (hagree "a/b" (by decide +kernel)).mp htrue with ⟨directory, h, _⟩ | ⟨_, h⟩
      · simpa using congrArg List.length (hpattern.symm.trans h)
      · rw [hpattern] at h
        exact absurd h (by decide +kernel)
    · intro directory hpattern hstar repoPath hpath hmeans
      obtain ⟨other, hother, hrepo, hmeant⟩ :=
        exists_meant hpattern hpath ((hagree repoPath hpath).mpr hmeans)
      rw [← hother] at hrepo hmeant
      have hmatch := (hagree other hrepo).mpr hmeant
      rw [openWikiPathPatternMatches_below hpattern, hother] at hmatch
      apply star_not_mem_filled directory
      rcases hmatch with heq | hprefix
      · rwa [heq]
      · exact hprefix.subset (List.mem_append_left _ hstar)
  · rintro ⟨hne, hmeant⟩ repoPath hpath
    by_cases hbelow : ['/', '*', '*'] <:+ normalizeOpenWikiRepoPath pattern
    · obtain ⟨directory, hpattern⟩ := hbelow
      by_cases hstar : '*' ∈ directory
      · have hnone := hmeant directory hpattern.symm hstar
        refine iff_of_false (fun hmatch => ?_) (hnone repoPath hpath)
        obtain ⟨other, hother, hrepo, h⟩ := exists_meant hpattern.symm hpath hmatch
        exact hnone other (hother ▸ hrepo) (hother ▸ h)
      · rw [openWikiPathPatternMatches_below hpattern.symm, ← hpattern, patternMeans_below]
        simp only [matchesRegex_plain hstar, exists_eq_left]
    · have hmeans : PatternMeans (normalizeOpenWikiRepoPath pattern)
          (normalizeOpenWikiRepoPath repoPath) ↔
          matchesRegex (openWikiPathPatternRegex (normalizeOpenWikiRepoPath pattern))
            (normalizeOpenWikiRepoPath repoPath) := by
        constructor
        · rintro (⟨directory, h, _⟩ | ⟨_, h⟩)
          · exact absurd ⟨directory, h.symm⟩ hbelow
          · exact h
        · exact fun h => .inr ⟨hbelow, h⟩
      rw [hmeans]
      unfold openWikiPathPatternMatches
      dsimp only
      split_ifs with hshort hplain
      · rw [hshort.resolve_right hne]
        refine iff_of_true rfl (matchesRegex_cons.mpr ⟨_, [], (List.append_nil _).symm, ?_, rfl⟩)
        exact List.all_eq_true.mpr hpath.2
      · rfl
      · rw [decide_eq_true_iff, matchesRegex_plain hplain]

theorem private_section_missed :
    ¬ ∀ pattern : String, pattern ≠ "*" → pattern ≠ "**" →
      ∀ repoPath, IsRepoPath (normalizeOpenWikiRepoPath repoPath) →
        (openWikiPathPatternMatches pattern repoPath = true ↔
          PatternMeans (normalizeOpenWikiRepoPath pattern)
            (normalizeOpenWikiRepoPath repoPath)) := by
  intro hagree
  have hmatch := (hagree "wiki/*/private/**" (by decide) (by decide) "wiki/team/private/plan.md"
    (by decide +kernel)).mpr (.inl ⟨"wiki/*/private".toList, by decide +kernel,
      "wiki/team/private".toList, by decide +kernel, .inr (by decide +kernel)⟩)
  exact absurd hmatch (by decide +kernel)

end OpenCowork.Wiki
