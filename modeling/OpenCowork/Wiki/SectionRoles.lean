import Mathlib.Data.List.Sort
import OpenCowork.Wiki.PathPatterns

/-! # Roles in sections

A policy divides the paths of a wiki into sections and grants roles in them. Who may do what at
a path is decided by the grants in the most specific of the sections that it belongs to.
-/

namespace OpenCowork.Wiki

open Foundation

inductive OpenWikiRole where
  | viewer | contributor | researcher | reviewer | maintainer | admin | agent
  deriving DecidableEq

inductive OpenWikiScope where
  | read | search | ask | inboxRead | inboxSubmit | inboxProcess | inboxAdmin | propose
  | ingestDraft | review | patch | commit | publish | admin
  deriving DecidableEq

def OpenWikiRole.name : OpenWikiRole → String
  | viewer => "viewer"
  | contributor => "contributor"
  | researcher => "researcher"
  | reviewer => "reviewer"
  | maintainer => "maintainer"
  | admin => "admin"
  | agent => "agent"

def roleLevel : OpenWikiRole → Nat
  | .admin => 6
  | .maintainer => 5
  | .reviewer => 4
  | .researcher | .contributor | .agent => 3
  | .viewer => 1

def higherRole (best : Option OpenWikiRole) (role : OpenWikiRole) : Option OpenWikiRole :=
  match best with
  | none => some role
  | some held => if roleLevel held < roleLevel role then some role else best

def highestRole (roles : List OpenWikiRole) : Option OpenWikiRole := roles.foldl higherRole none

structure OpenWikiSectionRecord where
  id : String
  paths : List String

structure OpenWikiGrantRecord where
  (principal sectionId : String)
  role : OpenWikiRole

structure OpenWikiPolicyBundle where
  sections : List OpenWikiSectionRecord
  grants : List OpenWikiGrantRecord

structure PolicyContext where
  actorId : Option String := none
  scopes : List OpenWikiScope := []
  role : Option OpenWikiRole := none
  principals : Option (List String) := none

/-- The length of a pattern without slashes, stars and question marks. -/
def literalLength (pattern : String) : Nat :=
  ((pattern.toList.filter (· ∉ ['/', '*', '?'])).flatMap Text.charCodeUnits).length

namespace OpenWikiSectionRecord

variable (candidate : OpenWikiSectionRecord)

def sectionSpecificity : Nat := (candidate.paths.map literalLength).foldr max 0

def matchesPath (repoPath : String) : Bool :=
  candidate.paths.any fun pattern => openWikiPathPatternMatches pattern repoPath

end OpenWikiSectionRecord

def principalsForContext (context : PolicyContext) : List String :=
  let principals := "group:all-users" :: (context.actorId.toList ++
    (context.role.map fun role => "role:" ++ role.name).toList ++ context.principals.getD [])
  (principals.zipIdx.filter fun (principal, index) =>
    !Text.isBlank principal && principals.idxOf principal = index).map Prod.fst

variable (policy : OpenWikiPolicyBundle) (context : PolicyContext) (repoPath : String)

/-- The matching sections, the most specific ones first. -/
def matchingSections : List OpenWikiSectionRecord :=
  (policy.sections.filter (·.matchesPath repoPath)).insertionSort
    fun left right => right.sectionSpecificity ≤ left.sectionSpecificity

def sectionRoleForPath : Option OpenWikiRole :=
  if .admin ∈ context.scopes then some .admin
  else match matchingSections policy repoPath with
    | [] => if policy.sections.isEmpty then some (context.role.getD .admin) else none
    | first :: rest =>
      let principals := principalsForContext context
      let sectionIds := ((first :: rest).filter fun candidate =>
        candidate.sectionSpecificity = first.sectionSpecificity).map (·.id)
      highestRole ((policy.grants.filter fun grant =>
        grant.sectionId ∈ sectionIds && grant.principal ∈ principals).map (·.role))

/-! ## The sections that decide -/

/-- The section owns a pattern that matches, and none that matches is longer. -/
def OwnsMostSpecific (candidate : OpenWikiSectionRecord) : Prop :=
  candidate ∈ policy.sections ∧ ∃ pattern ∈ candidate.paths,
    openWikiPathPatternMatches pattern repoPath ∧
      ∀ other ∈ policy.sections, ∀ rival ∈ other.paths,
        openWikiPathPatternMatches rival repoPath → literalLength rival ≤ literalLength pattern

/-- The section matches, and no other one has a longer pattern, whatever that matches. -/
def HasLongest (candidate : OpenWikiSectionRecord) : Prop :=
  (candidate ∈ policy.sections ∧ candidate.matchesPath repoPath) ∧
    ∀ other ∈ policy.sections, other.matchesPath repoPath →
      other.sectionSpecificity ≤ candidate.sectionSpecificity

def Granted (sections : OpenWikiSectionRecord → Prop) (role : OpenWikiRole) : Prop :=
  ∃ grant ∈ policy.grants, grant.role = role ∧ grant.principal ∈ principalsForContext context ∧
    ∃ candidate, sections candidate ∧ candidate.id = grant.sectionId

/-- A role as high as the highest of those that are granted, or none if none is. -/
def IsHighest (granted : OpenWikiRole → Prop) : Option OpenWikiRole → Prop
  | none => ∀ role, ¬ granted role
  | some best => (∃ role, granted role ∧ roleLevel role = roleLevel best) ∧
      ∀ role, granted role → roleLevel role ≤ roleLevel best

/-- Where some pattern matches, the highest role granted in the sections with the most specific
of these patterns is the one returned. -/
def MostSpecificDecides : Prop :=
  (∃ candidate ∈ policy.sections, candidate.matchesPath repoPath) →
    IsHighest (Granted policy context (OwnsMostSpecific policy repoPath))
      (sectionRoleForPath policy context repoPath)

def Covered (granted other : OpenWikiRole → Prop) : Prop :=
  ∀ role, granted role → ∃ rival, other rival ∧ roleLevel role ≤ roleLevel rival

variable {policy context repoPath}

theorem isHighest_iff {granted other : OpenWikiRole → Prop} {best : Option OpenWikiRole}
    (hbest : IsHighest granted best) :
    IsHighest other best ↔ Covered granted other ∧ Covered other granted := by
  cases best with
  | none =>
    constructor
    · exact fun hnone => ⟨fun role hrole => absurd hrole (hbest role),
        fun role hrole => absurd hrole (hnone role)⟩
    · rintro ⟨_, hcovered⟩ role hrole
      obtain ⟨rival, hrival, _⟩ := hcovered role hrole
      exact hbest rival hrival
  | some best =>
    obtain ⟨⟨held, hheld, hlevel⟩, hmost⟩ := hbest
    constructor
    · rintro ⟨⟨rival, hrival, heq⟩, hall⟩
      constructor
      · exact fun role hrole => ⟨rival, hrival, heq ▸ hmost role hrole⟩
      · exact fun role hrole => ⟨held, hheld, hlevel ▸ hall role hrole⟩
    · rintro ⟨hcovered, hback⟩
      have hall (role : OpenWikiRole) (hrole : other role) : roleLevel role ≤ roleLevel best := by
        obtain ⟨rival, hrival, hle⟩ := hback role hrole
        exact hle.trans (hmost rival hrival)
      obtain ⟨rival, hrival, hle⟩ := hcovered held hheld
      exact ⟨⟨rival, hrival, (hall rival hrival).antisymm (hlevel ▸ hle)⟩, hall⟩

theorem foldl_higherRole (roles : List OpenWikiRole) (held : OpenWikiRole) :
    ∃ best ∈ held :: roles, roles.foldl higherRole (some held) = some best ∧
      ∀ role ∈ held :: roles, roleLevel role ≤ roleLevel best := by
  induction roles generalizing held with
  | nil => exact ⟨held, .head _, rfl, by simp⟩
  | cons next _ ih =>
    rw [List.foldl_cons, higherRole]
    split_ifs with hlower
    · obtain ⟨best, hmem, hbest, hmost⟩ := ih next
      refine ⟨best, .tail _ hmem, hbest, List.forall_mem_cons.mpr ⟨?_, hmost⟩⟩
      exact hlower.le.trans (hmost next (.head _))
    · obtain ⟨best, hmem, hbest, hmost⟩ := ih held
      rw [List.forall_mem_cons] at hmost
      refine ⟨best, ?_, hbest, List.forall_mem_cons.mpr ⟨hmost.1, List.forall_mem_cons.mpr
        ⟨(Nat.le_of_not_lt hlower).trans hmost.1, hmost.2⟩⟩⟩
      rcases List.mem_cons.mp hmem with rfl | hmem
      · exact .head _
      · exact .tail _ (.tail _ hmem)

theorem isHighest_highestRole (roles : List OpenWikiRole) :
    IsHighest (· ∈ roles) (highestRole roles) := by
  cases roles with
  | nil => exact fun _ => List.not_mem_nil
  | cons held rest =>
    obtain ⟨best, hmem, hbest, hmost⟩ := foldl_higherRole rest held
    rw [highestRole, List.foldl_cons, higherRole, hbest]
    exact ⟨⟨best, hmem, rfl⟩, hmost⟩

/-- The code takes the sections with the longest patterns. -/
theorem isHighest_sectionRoleForPath (hscope : .admin ∉ context.scopes)
    (hmatch : ∃ candidate ∈ policy.sections, candidate.matchesPath repoPath) :
    IsHighest (Granted policy context (HasLongest policy repoPath))
      (sectionRoleForPath policy context repoPath) := by
  have hmem (candidate : OpenWikiSectionRecord) : candidate ∈ matchingSections policy repoPath ↔
      candidate ∈ policy.sections ∧ candidate.matchesPath repoPath := by
    rw [matchingSections, List.mem_insertionSort, List.mem_filter]
  have hsorted : (matchingSections policy repoPath).Pairwise fun left right =>
      right.sectionSpecificity ≤ left.sectionSpecificity := by
    have : Std.Total fun left right : OpenWikiSectionRecord =>
        right.sectionSpecificity ≤ left.sectionSpecificity := ⟨fun _ _ => Nat.le_total _ _⟩
    have : IsTrans OpenWikiSectionRecord fun left right =>
        right.sectionSpecificity ≤ left.sectionSpecificity := ⟨fun _ _ _ h h' => h'.trans h⟩
    exact List.pairwise_insertionSort _ _
  unfold sectionRoleForPath
  rw [if_neg hscope]
  cases hsections : matchingSections policy repoPath with
  | nil =>
    obtain ⟨candidate, hcandidate⟩ := hmatch
    rw [← hmem, hsections] at hcandidate
    exact absurd hcandidate List.not_mem_nil
  | cons first rest =>
    rw [hsections] at hmem hsorted
    have hfirst (candidate : OpenWikiSectionRecord) (hcandidate : candidate ∈ first :: rest) :
        candidate.sectionSpecificity ≤ first.sectionSpecificity := by
      rcases List.mem_cons.mp hcandidate with rfl | hrest
      · exact le_refl _
      · exact List.rel_of_pairwise_cons hsorted hrest
    have hlongest (candidate : OpenWikiSectionRecord) : HasLongest policy repoPath candidate ↔
        candidate ∈ first :: rest ∧
          candidate.sectionSpecificity = first.sectionSpecificity := by
      rw [HasLongest, ← hmem]
      constructor
      · rintro ⟨hcandidate, hmost⟩
        have hself := (hmem first).mp (.head _)
        exact ⟨hcandidate, (hfirst candidate hcandidate).antisymm (hmost first hself.1 hself.2)⟩
      · rintro ⟨hcandidate, heq⟩
        refine ⟨hcandidate, fun other hother hmatches => ?_⟩
        rw [heq]
        exact hfirst other ((hmem other).mpr ⟨hother, hmatches⟩)
    convert isHighest_highestRole _ using 1
    ext role
    simp only [Granted, hlongest, List.mem_map, List.mem_filter, Bool.and_eq_true,
      decide_eq_true_eq]
    constructor
    · rintro ⟨grant, hgrant, hrole, hprincipal, candidate, hcandidate, hid⟩
      exact ⟨grant, ⟨hgrant, ⟨candidate, hcandidate, hid⟩, hprincipal⟩, hrole⟩
    · rintro ⟨grant, ⟨hgrant, ⟨candidate, hcandidate, hid⟩, hprincipal⟩, hrole⟩
      exact ⟨grant, hgrant, hrole, hprincipal, candidate, hcandidate, hid⟩

/-- The role of the longest pattern is that of the sections which own the path. -/
theorem section_role_iff (policy : OpenWikiPolicyBundle) (context : PolicyContext)
    (repoPath : String) (hscope : .admin ∉ context.scopes) :
    MostSpecificDecides policy context repoPath ↔
      Covered (Granted policy context (HasLongest policy repoPath))
          (Granted policy context (OwnsMostSpecific policy repoPath)) ∧
        Covered (Granted policy context (OwnsMostSpecific policy repoPath))
          (Granted policy context (HasLongest policy repoPath)) := by
  unfold MostSpecificDecides
  by_cases hmatch : ∃ candidate ∈ policy.sections, candidate.matchesPath repoPath
  · rw [forall_prop_of_true hmatch]
    exact isHighest_iff (isHighest_sectionRoleForPath hscope hmatch)
  · refine iff_of_true (fun h => absurd h hmatch) ⟨?_, ?_⟩
    · rintro role ⟨_, _, _, _, candidate, hlongest, _⟩
      exact absurd ⟨candidate, hlongest.1⟩ hmatch
    · rintro role ⟨_, _, _, _, candidate, ⟨hmem, pattern, hpattern, hmatches, _⟩, _⟩
      exact absurd ⟨candidate, hmem, List.any_eq_true.mpr ⟨pattern, hpattern, hmatches⟩⟩ hmatch

/-- A section of everything, with a long pattern for something else, and a private one. -/
def overlappingPolicy : OpenWikiPolicyBundle where
  sections := [⟨"everything", ["**", "handbook/onboarding/**"]⟩, ⟨"private", ["private/**"]⟩]
  grants := [⟨"group:all-users", "everything", .viewer⟩]

/-- The path is one of both sections. -/
theorem overlapping_section_role :
    MostSpecificDecides overlappingPolicy {} "private/plan.md" ↔
      Covered
          (Granted overlappingPolicy {} (HasLongest overlappingPolicy "private/plan.md"))
          (Granted overlappingPolicy {} (OwnsMostSpecific overlappingPolicy "private/plan.md")) ∧
        Covered
          (Granted overlappingPolicy {} (OwnsMostSpecific overlappingPolicy "private/plan.md"))
          (Granted overlappingPolicy {} (HasLongest overlappingPolicy "private/plan.md")) :=
  section_role_iff overlappingPolicy {} "private/plan.md" (by decide)

/-- The grant of the general section opens the private one. -/
theorem private_section_opened :
    ¬ ∀ policy context repoPath, .admin ∉ context.scopes →
      MostSpecificDecides policy context repoPath := by
  intro hhighest
  have hmost := hhighest overlappingPolicy {} "private/plan.md" (by decide)
    ⟨_, .head _, by decide +kernel⟩
  rw [show sectionRoleForPath overlappingPolicy {} "private/plan.md" = some .viewer by
    decide +kernel] at hmost
  obtain ⟨role, ⟨grant, hgrant, _, _, candidate, ⟨hcandidate, pattern, hpattern, hmatch, hlongest⟩,
    hid⟩, _⟩ := hmost.1
  obtain rfl := List.mem_singleton.mp hgrant
  have hlong := hlongest _ (List.mem_cons_of_mem _ (.head _)) "private/**"
    (List.mem_singleton_self _) (by decide +kernel)
  simp only [overlappingPolicy, List.mem_cons, List.not_mem_nil, or_false] at hcandidate
  rcases hcandidate with rfl | rfl
  · simp only [List.mem_cons, List.not_mem_nil, or_false] at hpattern
    rcases hpattern with rfl | rfl
    · exact absurd hlong (by decide +kernel)
    · exact absurd hmatch (by decide +kernel)
  · exact absurd hid (by decide +kernel)

end OpenCowork.Wiki
