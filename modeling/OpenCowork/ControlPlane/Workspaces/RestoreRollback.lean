import Mathlib.Data.List.Pairwise
import OpenCowork.ControlPlane.Workspaces.CheckpointSaves
import OpenCowork.ControlPlane.Workspaces.RestoreSwap

/-! # A restore that fails is rolled back

Each root that a swap touched can be undone at any time, which is what the rollback does.
-/

namespace OpenCowork.ControlPlane

open Foundation Disk

namespace RestoreStage

structure Clear (stage : RestoreStage) (other : List ByteArray) : Prop where
  root : Incomparable stage.rootPlace other
  staged : Incomparable stage.stagePlace other
  backup : Incomparable stage.backupPlace other

structure Separate (stage : RestoreStage) : Prop where
  staged : Incomparable stage.stagePlace stage.rootPlace
  backup : Incomparable stage.backupPlace stage.rootPlace
  scratch : Incomparable stage.stagePlace stage.backupPlace

/-- What happens to one stage does not concern the other. -/
structure Apart (left right : RestoreStage) : Prop where
  root : left.Clear right.rootPlace
  backup : left.Clear right.backupPlace

/-- Neither stage concerns the other. -/
def Unrelated (left right : RestoreStage) : Prop := left.Apart right ∧ right.Apart left

instance : Std.Symm Unrelated := ⟨fun _ _ h => ⟨h.2, h.1⟩⟩

/-- The stage as it was before anything was moved. -/
def fresh (stage : RestoreStage) : RestoreStage :=
  { stage with
    hadOriginal := false
    installed := false }

/-- What a root held when the swap began can still be put back. -/
def Undoable {Body : Type} (held : Option (RestoreTree Body)) (stage : RestoreStage)
    (disk : RestoreDisk Body) : Prop :=
  if stage.hadOriginal = true then disk.lookup stage.backupPlace = held
  else if stage.installed = true then held = none
  else disk.lookup stage.rootPlace = held

/-- A step on the stage leaves alone what it does not concern. -/
structure Moves {Body : Type} (stage : RestoreStage) (disk : RestoreDisk Body)
    (after : RestoreStage) (disk' : RestoreDisk Body) : Prop where
  fresh : after.fresh = stage.fresh
  kept : ∀ other, stage.Clear other → disk'.lookup other = disk.lookup other

end RestoreStage

section Steps

theorem clear_of_fresh {left right : RestoreStage} (h : left.fresh = right.fresh)
    {other : List ByteArray} (hclear : left.Clear other) : right.Clear other := by
  have hroot : left.fresh.rootPlace = right.fresh.rootPlace := by rw [h]
  have hstaged : left.fresh.stagePlace = right.fresh.stagePlace := by rw [h]
  have hbackup : left.fresh.backupPlace = right.fresh.backupPlace := by rw [h]
  exact ⟨hroot ▸ hclear.root, hstaged ▸ hclear.staged, hbackup ▸ hclear.backup⟩

theorem separate_of_fresh {stage : RestoreStage} (h : stage.fresh.Separate) : stage.Separate :=
  ⟨h.staged, h.backup, h.scratch⟩

theorem apart_of_fresh {left right : RestoreStage} (h : left.fresh.Apart right.fresh) :
    left.Apart right :=
  ⟨⟨h.root.root, h.root.staged, h.root.backup⟩, ⟨h.backup.root, h.backup.staged, h.backup.backup⟩⟩

variable {Body : Type} {faults : RestoreFaults Body} {stage after : RestoreStage}
  {disk disk' : RestoreDisk Body} {answer : Except String Unit} {other : List ByteArray}
  {existing held : Option (RestoreTree Body)}

theorem RestoreStage.Moves.trans {middle : RestoreStage} {between : RestoreDisk Body}
    (h : stage.Moves disk middle between) (h' : middle.Moves between after disk') :
    stage.Moves disk after disk' := by
  refine ⟨h'.fresh.trans h.fresh, fun other hclear => ?_⟩
  rw [h'.kept other (clear_of_fresh h.fresh.symm hclear), h.kept other hclear]

theorem moveAside_keeps (h : moveAside faults existing stage disk = (answer, after, disk'))  :
    stage.Moves disk after disk' := by
  unfold moveAside at h
  split at h
  · split at h
    all_goals
      next hrename =>
        cases h
        exact ⟨rfl, fun _ hclear => lookup_of_eq hrename (lookup_rename hclear.root hclear.backup)⟩
  · cases h
    exact ⟨rfl, fun _ _ => rfl⟩

theorem install_keeps (h : install faults stage disk = (answer, after, disk'))  :
    stage.Moves disk after disk' := by
  unfold install at h
  split at h
  all_goals
    next hrename =>
      cases h
      exact ⟨rfl, fun _ hclear => lookup_of_eq hrename (lookup_rename hclear.staged hclear.root)⟩

theorem swapStage_keeps (h : swapStage faults stage disk = (answer, after, disk'))  :
    stage.Moves disk after disk' := by
  unfold swapStage at h
  split at h
  next hstat =>
    cases h
    exact ⟨rfl, fun _ _ => lookup_of_eq hstat lookup_lstat⟩
  next hstat =>
    have hseen := (lstat_eq_ok hstat).2
    split at h
    · cases h
      exact ⟨rfl, fun other _ => hseen other⟩
    · split at h
      next haside =>
        cases h
        obtain ⟨hfresh, hkept⟩ := moveAside_keeps haside
        exact ⟨hfresh, fun other hclear => (hkept other hclear).trans (hseen other)⟩
      next haside =>
        obtain ⟨hfresh, hkept⟩ := (moveAside_keeps haside).trans (install_keeps h)
        exact ⟨hfresh, fun other hclear => (hkept other hclear).trans (hseen other)⟩

theorem removeInstalled_keeps (h : removeInstalled faults stage disk = (answer, after, disk'))  :
    stage.Moves disk after disk' := by
  unfold removeInstalled at h
  split at h
  · split at h
    all_goals
      next hremove =>
        cases h
        exact ⟨rfl, fun _ hclear => lookup_of_eq hremove (lookup_rm hclear.root)⟩
  · cases h
    exact ⟨rfl, fun _ _ => rfl⟩

theorem moveBack_keeps (h : moveBack faults stage disk = (answer, after, disk'))  :
    stage.Moves disk after disk' := by
  unfold moveBack at h
  split at h
  · split at h
    all_goals
      next hrename =>
        cases h
        exact ⟨rfl, fun _ hclear => lookup_of_eq hrename (lookup_rename hclear.backup hclear.root)⟩
  · cases h
    exact ⟨rfl, fun _ _ => rfl⟩

theorem undoStage_keeps (h : undoStage faults stage disk = (answer, after, disk'))  :
    stage.Moves disk after disk' := by
  unfold undoStage at h
  split at h
  next hremove =>
    cases h
    exact removeInstalled_keeps hremove
  next hremove =>
    exact (removeInstalled_keeps hremove).trans (moveBack_keeps h)

theorem discardStage_keeps {outcome : Except String Unit × RestoreDisk Body}
    (h : discardStage faults stage disk = outcome) (hstaged : Incomparable stage.stagePlace other)
    (hbackup : Incomparable stage.backupPlace other) :
    outcome.2.lookup other = disk.lookup other := by
  unfold discardStage at h
  split at h
  next hremove =>
    cases h
    exact lookup_of_eq hremove (lookup_rm hstaged)
  next hremove =>
    have hkept := lookup_of_eq hremove (lookup_rm hstaged)
    split at h
    · cases h
      exact hkept
    · rw [← h, ← hkept]
      exact lookup_rm hbackup

/-! ### One stage -/

theorem moveAside_eq_ok
    (hexisting : existing = disk.lookup stage.rootPlace) (hseparate : stage.Separate)
    (h : moveAside faults existing stage disk = (.ok (), after, disk')) :
    after = { stage with hadOriginal := true } ∧
        disk'.lookup stage.backupPlace = disk.lookup stage.rootPlace ∨
      after = stage ∧ disk' = disk ∧ disk.lookup stage.rootPlace = none := by
  unfold moveAside at h
  split at h
  · split at h
    · cases h
    next hrename =>
      cases h
      obtain ⟨_, hmoved, htarget, _⟩ := rename_eq_ok hseparate.backup.symm hrename
      exact .inl ⟨rfl, htarget.trans hmoved.symm⟩
  next hnone =>
    cases h
    exact .inr ⟨rfl, rfl, by rw [← hexisting]; simpa using hnone⟩

theorem install_undoable (hseparate : stage.Separate) (hundoable : stage.Undoable held disk)
    (habsent : stage.hadOriginal = false → held = none)
    (h : install faults stage disk = (answer, after, disk')) : after.Undoable held disk' := by
  unfold install at h
  split at h
  next hrename =>
    cases h
    have hlookup : ∀ path, disk'.lookup path = disk.lookup path := by
      intro path
      rw [Disk.lookup, rename_eq_error hrename]
      rfl
    unfold RestoreStage.Undoable at hundoable ⊢
    rw [hlookup, hlookup]
    exact hundoable
  next hrename =>
    cases h
    unfold RestoreStage.Undoable at hundoable ⊢
    split
    next hleft =>
      rw [if_pos hleft] at hundoable
      rw [← hundoable]
      exact lookup_of_eq hrename (lookup_rename hseparate.scratch hseparate.backup.symm)
    next hleft =>
      rw [if_pos rfl]
      exact habsent (by simpa using hleft)

theorem swapStage_undoable (hfresh : stage.fresh = stage) (hseparate : stage.Separate)
    (h : swapStage faults stage disk = (answer, after, disk')) :
    after.Undoable (disk.lookup stage.rootPlace) disk' := by
  have hleft : stage.hadOriginal = false := congrArg RestoreStage.hadOriginal hfresh.symm
  have hplaced : stage.installed = false := congrArg RestoreStage.installed hfresh.symm
  have hkept : ∀ middle : RestoreDisk Body, (∀ path, middle.lookup path = disk.lookup path) →
      stage.Undoable (disk.lookup stage.rootPlace) middle := by
    intro middle hmiddle
    rw [RestoreStage.Undoable, if_neg (by simp [hleft]), if_neg (by simp [hplaced])]
    exact hmiddle _
  unfold swapStage at h
  split at h
  next hstat =>
    cases h
    exact hkept _ fun path => lookup_of_eq hstat lookup_lstat
  next hstat =>
    obtain ⟨hexisting, hseen⟩ := lstat_eq_ok hstat
    split at h
    · cases h
      exact hkept _ hseen
    · split at h
      next haside =>
        -- the root could not be moved aside, and is where it was
        cases h
        unfold moveAside at haside
        split at haside
        · split at haside
          next hrename =>
            cases haside
            apply hkept
            intro path
            rw [← hseen path, Disk.lookup, rename_eq_error hrename]
            rfl
          · cases haside
        · cases haside
      next haside =>
        rw [← hseen] at hexisting ⊢
        rcases moveAside_eq_ok hexisting hseparate haside with
          ⟨rfl, hbackup⟩ | ⟨rfl, rfl, hnone⟩
        · have haside : ({ stage with hadOriginal := true } : RestoreStage).Separate :=
            ⟨hseparate.staged, hseparate.backup, hseparate.scratch⟩
          apply install_undoable haside _ _ h
          · rw [RestoreStage.Undoable, if_pos rfl]
            exact hbackup
          · intro habsent
            cases habsent
        · rw [hseen] at hnone ⊢
          exact install_undoable hseparate (hkept _ hseen) (fun _ => hnone) h

theorem undoStage_eq_ok (hseparate : stage.Separate) (hundoable : stage.Undoable held disk)
    (h : undoStage faults stage disk = (.ok (), after, disk')) :
    disk'.lookup stage.rootPlace = held := by
  have hback : ∀ {removed : RestoreStage} {middle : RestoreDisk Body},
      removed.fresh = stage.fresh → removed.hadOriginal = true →
        middle.lookup stage.backupPlace = held →
          moveBack faults removed middle = (.ok (), after, disk') →
            disk'.lookup stage.rootPlace = held := by
    intro removed middle hfresh hleft hheld hmove
    have hroot : removed.fresh.rootPlace = stage.fresh.rootPlace := by rw [hfresh]
    have hbackup : removed.fresh.backupPlace = stage.fresh.backupPlace := by rw [hfresh]
    unfold moveBack at hmove
    rw [if_pos hleft, show removed.rootPlace = stage.rootPlace from hroot,
      show removed.backupPlace = stage.backupPlace from hbackup] at hmove
    split at hmove
    · cases hmove
    next hrename =>
      cases hmove
      obtain ⟨_, hmoved, htarget, _⟩ := rename_eq_ok hseparate.backup hrename
      rw [htarget, ← hheld, hmoved]
  have hstay : ∀ {removed : RestoreStage} {middle : RestoreDisk Body},
      removed.hadOriginal = false → moveBack faults removed middle = (.ok (), after, disk') →
        disk' = middle := by
    intro removed middle hleft hmove
    unfold moveBack at hmove
    rw [if_neg (by simp [hleft])] at hmove
    cases hmove
    rfl
  unfold undoStage removeInstalled at h
  unfold RestoreStage.Undoable at hundoable
  by_cases hplaced : stage.installed = true
  · rw [if_pos hplaced] at h hundoable
    split at h
    next hremove =>
      split at hremove
      · cases h
      · cases hremove
    next hremove =>
      split at hremove
      · cases hremove
      next hrm =>
        cases hremove
        by_cases hleft : stage.hadOriginal = true
        · rw [if_pos hleft] at hundoable
          have hkept := lookup_of_eq hrm (lookup_rm hseparate.backup.symm)
          refine hback ?_ ?_ (hkept.trans hundoable) h
          · rfl
          · exact hleft
        · rw [if_neg hleft] at hundoable
          rw [hstay (by simpa using hleft) h, hundoable]
          exact rm_eq_ok hrm
  · rw [if_neg hplaced] at h hundoable
    by_cases hleft : stage.hadOriginal = true
    · rw [if_pos hleft] at hundoable
      exact hback rfl hleft hundoable h
    · rw [if_neg hleft] at hundoable
      rw [hstay (by simpa using hleft) h]
      exact hundoable

end Steps

section Runs

variable {Body : Type} {faults : RestoreFaults Body} (stages : List RestoreStage)
  {disk : RestoreDisk Body} {other : List ByteArray} {stage : RestoreStage}

theorem undoAll_keeps (faults : RestoreFaults Body) (stages : List RestoreStage)
    (disk : RestoreDisk Body) :
    (undoAll faults stages disk).2.1.map RestoreStage.fresh = stages.map RestoreStage.fresh ∧
      ∀ other, (∀ stage ∈ stages, stage.Clear other) →
        (undoAll faults stages disk).2.2.lookup other = disk.lookup other := by
  induction stages generalizing disk with
  | nil => exact ⟨rfl, fun _ _ => rfl⟩
  | cons stage _ ih =>
    unfold undoAll
    split
    all_goals
      rename_i middle hundo
      obtain ⟨hfresh, hkept⟩ := undoStage_keeps hundo
      obtain ⟨hrest, hothers⟩ := ih middle
      refine ⟨congrArg₂ List.cons hfresh hrest, fun other hclear => ?_⟩
      exact (hothers other fun s hs => hclear s (.tail _ hs)).trans
        (hkept other (hclear stage (.head _)))

theorem undoable_of_keeps {held : Option (RestoreTree Body)}
    {disk' : RestoreDisk Body} (hundoable : stage.Undoable held disk)
    (hroot : disk'.lookup stage.rootPlace = disk.lookup stage.rootPlace)
    (hbackup : disk'.lookup stage.backupPlace = disk.lookup stage.backupPlace) :
    stage.Undoable held disk' := by
  unfold RestoreStage.Undoable at hundoable ⊢
  rw [hroot, hbackup]
  exact hundoable

theorem undoAll_eq_nil {held : List ByteArray → Option (RestoreTree Body)}
    {stages : List RestoreStage} (hapart : stages.Pairwise RestoreStage.Unrelated)
    (hstages : ∀ stage ∈ stages, stage.Separate ∧ stage.Undoable (held stage.rootPlace) disk)
    (h : (undoAll faults stages disk).1 = []) :
    ∀ stage ∈ stages, (undoAll faults stages disk).2.2.lookup stage.rootPlace =
      held stage.rootPlace := by
  induction stages generalizing disk with
  | nil => exact fun _ hmem => absurd hmem List.not_mem_nil
  | cons first rest ih =>
    obtain ⟨hfirst, hrest⟩ := List.pairwise_cons.mp hapart
    obtain ⟨hseparate, hundoable⟩ := hstages first (.head _)
    unfold undoAll at h ⊢
    split at h
    · cases h
    next middle hundo =>
      obtain ⟨_, hkept⟩ := undoStage_keeps hundo
      have hnext : ∀ stage ∈ rest,
          stage.Separate ∧ stage.Undoable (held stage.rootPlace) middle := by
        intro stage hmem
        obtain ⟨hseparate, hundoable⟩ := hstages stage (.tail _ hmem)
        have hclear := (hfirst stage hmem).1
        exact ⟨hseparate, undoable_of_keeps hundoable (hkept _ hclear.root) (hkept _ hclear.backup)⟩
      intro stage hmem
      rcases List.mem_cons.mp hmem with rfl | hmem
      · rw [← undoStage_eq_ok hseparate hundoable hundo]
        exact (undoAll_keeps faults rest middle).2 _ fun other hother =>
          (hfirst other hother).2.root
      · exact ih hrest hnext h stage hmem

theorem discardAll_keeps (disk : RestoreDisk Body) (hclear : ∀ stage ∈ stages,
      Incomparable stage.stagePlace other ∧ Incomparable stage.backupPlace other) :
    (discardAll faults stages disk).2.lookup other = disk.lookup other := by
  induction stages generalizing disk with
  | nil => rfl
  | cons stage _ ih =>
    have hrest := fun s hs => hclear s (.tail _ hs)
    obtain ⟨hstaged, hbackup⟩ := hclear stage (.head _)
    unfold discardAll
    split
    all_goals
      next middle hdiscard =>
        exact (ih middle hrest).trans (discardStage_keeps hdiscard hstaged hbackup)

theorem removePlaces_keeps (places : List (List ByteArray)) (disk : RestoreDisk Body)
    (hclear : ∀ place ∈ places, Incomparable place other) :
    (removePlaces faults places disk).2.lookup other = disk.lookup other := by
  induction places generalizing disk with
  | nil => rfl
  | cons place _ ih =>
    have hrest := fun p hp => hclear p (.tail _ hp)
    have hplace := hclear place (.head _)
    unfold removePlaces
    split
    all_goals
      next middle hremove =>
        exact (ih middle hrest).trans (lookup_of_eq hremove (lookup_rm hplace))

theorem removeRestorePaths_keeps (disk : RestoreDisk Body) (hclear : ∀ stage ∈ stages,
      Incomparable stage.stagePlace other ∧ Incomparable stage.backupPlace other) :
    (removeRestorePaths faults stages disk).2.lookup other = disk.lookup other := by
  apply removePlaces_keeps
  intro _ hplace
  obtain ⟨stage, hstage, hplace⟩ := List.mem_flatMap.mp hplace
  rcases List.mem_pair.mp hplace with rfl | rfl
  · exact (hclear stage hstage).1
  · exact (hclear stage hstage).2

theorem scratch_clear {stages : List RestoreStage}
    (hseparate : ∀ stage ∈ stages, stage.Separate) (hapart : stages.Pairwise RestoreStage.Unrelated)
    {other : RestoreStage} (hstage : stage ∈ stages) (hother : other ∈ stages) :
    Incomparable other.stagePlace stage.rootPlace ∧
      Incomparable other.backupPlace stage.rootPlace := by
  by_cases hsame : other = stage
  · subst hsame
    exact ⟨(hseparate other hother).staged, (hseparate other hother).backup⟩
  · have hclear := (hapart.forall hother hstage hsame).1.root
    exact ⟨hclear.staged, hclear.backup⟩

theorem rollbackRestore_keeps (disk : RestoreDisk Body)
    (hclear : ∀ stage ∈ stages, stage.Clear other) :
    (rollbackRestore faults stages disk).2.lookup other = disk.lookup other := by
  obtain ⟨hfresh, hundone⟩ := undoAll_keeps faults stages.reverse disk
  unfold rollbackRestore
  rw [discardAll_keeps, hundone]
  · exact fun stage hmem => hclear stage (List.mem_reverse.mp hmem)
  · intro stage hmem
    have hsame : stage.fresh ∈ stages.reverse.map RestoreStage.fresh :=
      hfresh ▸ List.mem_map_of_mem (List.mem_reverse.mp hmem)
    obtain ⟨original, horiginal, hplaces⟩ := List.mem_map.mp hsame
    have hstage := clear_of_fresh hplaces (hclear original (List.mem_reverse.mp horiginal))
    exact ⟨hstage.staged, hstage.backup⟩

theorem rollbackRestore_eq_nil (held : List ByteArray → Option (RestoreTree Body))
    {stages : List RestoreStage} (hapart : stages.Pairwise RestoreStage.Unrelated)
    (hstages : ∀ stage ∈ stages, stage.Separate ∧ stage.Undoable (held stage.rootPlace) disk)
    (h : (rollbackRestore faults stages disk).1 = []) :
    ∀ stage ∈ stages, (rollbackRestore faults stages disk).2.lookup stage.rootPlace =
      held stage.rootPlace := by
  intro stage hstage
  obtain ⟨hfresh, _⟩ := undoAll_keeps faults stages.reverse disk
  have hreversed : stages.reverse.Pairwise RestoreStage.Unrelated :=
    List.pairwise_reverse.mpr (hapart.imp fun h => ⟨h.2, h.1⟩)
  unfold rollbackRestore at h ⊢
  dsimp only at h ⊢
  rw [discardAll_keeps]
  · exact undoAll_eq_nil hreversed (fun stage hmem => hstages stage (List.mem_reverse.mp hmem))
      (List.append_eq_nil_iff.mp h).1 stage (List.mem_reverse.mpr hstage)
  · intro other hmem
    have hsame : other.fresh ∈ stages.reverse.map RestoreStage.fresh :=
      hfresh ▸ List.mem_map_of_mem (List.mem_reverse.mp hmem)
    obtain ⟨original, horiginal, hplaces⟩ := List.mem_map.mp hsame
    have hclear := scratch_clear (fun stage hmem => (hstages stage hmem).1) hapart hstage
      (List.mem_reverse.mp horiginal)
    have hstaged : original.fresh.stagePlace = other.fresh.stagePlace := by rw [hplaces]
    have hbackup : original.fresh.backupPlace = other.fresh.backupPlace := by rw [hplaces]
    exact ⟨hstaged ▸ hclear.1, hbackup ▸ hclear.2⟩

/-- How far a swap of stages can have come: those that it touched can be undone, and it
touched nothing but the places of its stages. -/
structure SwapRun.Sound (run : SwapRun Body) (stages swapped : List RestoreStage)
    (disk : RestoreDisk Body) : Prop where
  progress : ∃ touched, run.swapped = swapped ++ touched ∧
    touched.map RestoreStage.fresh ++ run.untouched = stages ∧
    ∀ stage ∈ touched, stage.Undoable (disk.lookup stage.rootPlace) run.disk
  kept : ∀ other, (∀ stage ∈ stages, stage.Clear other) →
    run.disk.lookup other = disk.lookup other
  waiting : ∀ stage ∈ run.untouched,
    run.disk.lookup stage.rootPlace = disk.lookup stage.rootPlace

variable {stages}
variable (hstages : ∀ stage ∈ stages, stage.fresh = stage ∧ stage.Separate)
variable (hapart : stages.Pairwise RestoreStage.Unrelated)
include hstages hapart

/-- However far a swap comes, what it touched can be undone. -/
theorem swapAll_sound (swapped : List RestoreStage) (disk : RestoreDisk Body) :
    (swapAll faults stages swapped disk).Sound stages swapped disk := by
  induction stages generalizing swapped disk with
  | nil =>
    exact ⟨⟨[], (List.append_nil _).symm, rfl, fun _ hmem => absurd hmem List.not_mem_nil⟩,
      fun _ _ => rfl, fun _ hmem => absurd hmem List.not_mem_nil⟩
  | cons first rest ih =>
    obtain ⟨hfirst, hrest⟩ := List.pairwise_cons.mp hapart
    obtain ⟨hfresh, hseparate⟩ := hstages first (.head _)
    unfold swapAll
    split
    next after middle hswap =>
      obtain ⟨hafter, hkept⟩ := swapStage_keeps hswap
      rw [hfresh] at hafter
      have hundoable := swapStage_undoable hfresh hseparate hswap
      constructor
      · refine ⟨[after], rfl, congrArg (· :: rest) hafter, ?_⟩
        intro stage hmem
        obtain rfl := List.mem_singleton.mp hmem
        rw [← hafter] at hundoable
        exact hundoable
      · exact fun other hclear => hkept other (hclear first (.head _))
      · exact fun stage hmem => hkept _ (hfirst stage hmem).1.root
    next after middle hswap =>
      obtain ⟨hafter, hkept⟩ := swapStage_keeps hswap
      rw [hfresh] at hafter
      have hundoable := swapStage_undoable hfresh hseparate hswap
      have hrun := ih (fun stage hmem => hstages stage (.tail _ hmem)) hrest
        (swapped ++ [after]) middle
      obtain ⟨touched, hswapped, hsplit, htouched⟩ := hrun.progress
      constructor
      · refine ⟨after :: touched, hswapped.trans (List.append_cons _ _ _).symm, ?_, ?_⟩
        · rw [List.map_cons, List.cons_append, hsplit, hafter]
        · intro stage hmem
          rcases List.mem_cons.mp hmem with rfl | hmem
          · rw [← hafter] at hundoable
            apply undoable_of_keeps hundoable
            · apply hrun.kept
              intro other hother
              have hclear := (hfirst other hother).2.root
              rw [← hafter] at hclear
              exact hclear
            · apply hrun.kept
              intro other hother
              have hclear := (hfirst other hother).2.backup
              rw [← hafter] at hclear
              exact hclear
          · have hmem' : stage.fresh ∈ rest :=
              hsplit ▸ List.mem_append_left _ (List.mem_map_of_mem hmem)
            have hroot := hkept _ (hfirst _ hmem').1.root
            have hheld := htouched stage hmem
            rw [show middle.lookup stage.rootPlace = disk.lookup stage.rootPlace from hroot]
              at hheld
            exact hheld
      · intro other hclear
        rw [hrun.kept other fun stage hmem => hclear stage (.tail _ hmem)]
        exact hkept other (hclear first (.head _))
      · intro stage hmem
        have hmem' : stage ∈ rest := hsplit ▸ List.mem_append_right _ hmem
        rw [hrun.waiting stage hmem]
        exact hkept _ (hfirst stage hmem').1.root

/-- Where a swap fails and its rollback does not, every root holds what it held when the swap
began. -/
theorem swapStaged_rolled_back
    {after : RestoreDisk Body} {thrown : String} {cleanupErrors : List String}
    (h : swapStaged faults stages disk = (.error (.swapping thrown [] cleanupErrors), after)) :
    ∀ stage ∈ stages, after.lookup stage.rootPlace = disk.lookup stage.rootPlace := by
  have hrun : (swapAll faults stages [] disk).Sound stages [] disk :=
    swapAll_sound hstages hapart [] disk
  unfold swapStaged at h
  generalize swapAll faults stages [] disk = run at h hrun
  obtain ⟨touched, hswapped, hsplit, htouched⟩ := hrun.progress
  rw [List.nil_append] at hswapped
  subst hswapped
  have hmem : ∀ stage ∈ run.swapped, stage.fresh ∈ stages :=
    fun stage hstage => hsplit ▸ List.mem_append_left _ (List.mem_map_of_mem hstage)
  have hpairs : run.swapped.Pairwise RestoreStage.Unrelated := by
    have hfresh := (List.pairwise_append.mp (hsplit ▸ hapart)).1
    rw [List.pairwise_map] at hfresh
    exact hfresh.imp fun h => ⟨apart_of_fresh h.1, apart_of_fresh h.2⟩
  have hundone : ∀ stage ∈ run.swapped, stage.Separate ∧
      stage.Undoable (disk.lookup stage.rootPlace) run.disk :=
    fun stage hstage =>
      ⟨separate_of_fresh (hstages _ (hmem stage hstage)).2, htouched stage hstage⟩
  dsimp only at h
  split at h
  · obtain ⟨hfailure, rfl⟩ := Prod.mk.inj h
    have hrollback : (rollbackRestore faults run.swapped run.disk).1 = [] := by
      injection hfailure with hfailure
      injection hfailure
    have hback := rollbackRestore_eq_nil (fun place => disk.lookup place) hpairs hundone hrollback
    intro stage hstage
    rw [removeRestorePaths_keeps]
    · have hall := hstage
      rw [← hsplit, List.mem_append] at hstage
      rcases hstage with hstage | hstage
      · obtain ⟨touched, htouched, rfl⟩ := List.mem_map.mp hstage
        exact hback touched htouched
      · rw [rollbackRestore_keeps]
        · exact hrun.waiting stage hstage
        · intro touched htouched
          rw [← hsplit] at hapart
          have hpair := (List.pairwise_append.mp hapart).2.2 _ (List.mem_map_of_mem htouched)
            stage hstage
          exact clear_of_fresh (show touched.fresh.fresh = touched.fresh from rfl) hpair.1.root
    · intro _ hother
      exact scratch_clear (fun stage hstage => (hstages stage hstage).2) hapart hstage
        (hsplit ▸ List.mem_append_right _ hother)
  · split at h
    · cases h
    · cases h

end Runs

end OpenCowork.ControlPlane
