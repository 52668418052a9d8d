import OpenCowork.ControlPlane.Workspaces.RestoreRollback

/-! # What staging leaves at the roots

Staging a root touches its scratch places, and the root itself where an earlier restore had
left a backup of it, which is then put back.
-/

namespace OpenCowork.ControlPlane

open Foundation Disk Attempt

section Recovery

variable {Body : Type} {faults : RestoreFaults Body} {stage : RestoreStage}

/-- What a root holds: the backup that a restore has left of it, if there is one. -/
def heldAt (disk : RestoreDisk Body) (stage : RestoreStage) : Option (RestoreTree Body) :=
  match disk.lookup stage.backupPlace with
  | some backup => some backup
  | none => disk.lookup stage.rootPlace

theorem recoverInterruptedRestore_keeps {other : List ByteArray} (hclear : stage.Clear other)
    (held : Option (RestoreTree Body)) :
    (recoverInterruptedRestore faults stage).Keeps fun disk => disk.lookup other = held := by
  have hstat : ∀ place, (Attempt.step fun disk : RestoreDisk Body =>
      disk.lstat faults place).Keeps fun disk => disk.lookup other = held :=
    fun _ => keeps_step fun _ hdisk => lookup_lstat.trans hdisk
  refine (hstat _).bind fun _ => (hstat _).bind fun _ => (hstat _).bind fun _ =>
    (keeps_check _ _).bind fun _ => (keeps_check _ _).bind fun _ => ?_
  refine .bind (keeps_when _ ?_) fun _ => keeps_when _ ?_
  · refine .bind (keeps_when _ ?_) fun _ => ?_
    · exact keeps_step fun _ hdisk => (lookup_rm hclear.root).trans hdisk
    · exact keeps_step fun _ hdisk =>
        (lookup_rename hclear.backup hclear.root).trans hdisk
  · exact keeps_step fun _ hdisk => (lookup_rm hclear.staged).trans hdisk

theorem recoverInterruptedRestore_eq_ok (hseparate : stage.Separate) {disk after : RestoreDisk Body}
    (h : (recoverInterruptedRestore faults stage).runFrom disk = (.ok (), after)) :
    after.lookup stage.rootPlace = heldAt disk stage ∧ after.lookup stage.backupPlace = none := by
  obtain ⟨_, _, hlive, h⟩ := bind_eq_ok h
  obtain ⟨staged, _, hstaged, h⟩ := bind_eq_ok h
  obtain ⟨backup, third, hbackup, h⟩ := bind_eq_ok h
  obtain ⟨rfl, hfirst⟩ := lstat_eq_ok hlive
  obtain ⟨rfl, hsecond⟩ := lstat_eq_ok hstaged
  obtain ⟨rfl, hthird⟩ := lstat_eq_ok hbackup
  obtain ⟨_, _, hchecked, h⟩ := bind_eq_ok h
  obtain ⟨_, rfl⟩ := check_eq_ok hchecked
  obtain ⟨_, _, hchecked, h⟩ := bind_eq_ok h
  obtain ⟨_, rfl⟩ := check_eq_ok hchecked
  obtain ⟨_, recovered, hrecovered, hremoved⟩ := bind_eq_ok h
  have hseen : ∀ path, third.lookup path = disk.lookup path :=
    fun path => (hthird path).trans ((hsecond path).trans (hfirst path))
  have hkept : ∀ other, Incomparable stage.stagePlace other →
      after.lookup other = recovered.lookup other := by
    intro other hother
    rcases when_eq_ok hremoved with ⟨_, hrm⟩ | ⟨_, rfl⟩
    · exact lookup_of_eq hrm (lookup_rm hother)
    · rfl
  rw [hkept _ hseparate.staged, hkept _ hseparate.scratch]
  rw [hsecond, hfirst] at hrecovered
  unfold heldAt
  rcases when_eq_ok hrecovered with ⟨_, hmoved⟩ | ⟨hnone, rfl⟩
  · -- the backup takes the place of what is there
    obtain ⟨_, emptied, hemptied, hmoved⟩ := bind_eq_ok hmoved
    obtain ⟨_, hmoved, htarget, hsource⟩ := rename_eq_ok hseparate.backup hmoved
    have hsame : emptied.lookup stage.backupPlace = disk.lookup stage.backupPlace := by
      rcases when_eq_ok hemptied with ⟨_, hrm⟩ | ⟨_, rfl⟩
      · exact (lookup_of_eq hrm (lookup_rm hseparate.backup.symm)).trans (hseen _)
      · exact hseen _
    rw [← hsame, hmoved]
    exact ⟨htarget, hsource⟩
  · rw [Option.isSome_eq_false_iff, Option.isNone_iff_eq_none] at hnone
    rw [hseen, hseen, hnone]
    exact ⟨rfl, rfl⟩

end Recovery

section Stages

variable {Body : Type} {faults : RestoreFaults Body} {rootKey : String → String}
  {root : WorkspaceCheckpointRoot}

theorem placeOf_below {left right : List String} :
    placeOf left <+: placeOf right ↔ left <+: right :=
  List.prefix_map_iff_of_injective fun _ _ => String.toByteArray_inj.mp

theorem rootPlace_not_above (hroot : root.path ≠ []) :
    ¬(scratchOf rootKey root).rootPlace <+: placeOf root.path.dropLast := by
  intro hbelow
  have hlength := (placeOf_below.mp hbelow).length_le
  have hpositive := List.length_pos_of_ne_nil hroot
  rw [List.length_dropLast] at hlength
  change root.path.length ≤ _ at hlength
  omega

theorem scratch_not_above (name : String) :
    ¬placeOf (root.path.dropLast ++ [name]) <+: placeOf root.path.dropLast := by
  intro hbelow
  have hlength := (placeOf_below.mp hbelow).length_le
  rw [List.length_append, List.length_singleton] at hlength
  omega

theorem stageRoot_keeps (faults : RestoreFaults Body) {other : List ByteArray}
    (hclear : (scratchOf rootKey root).Clear other)
    (habove : ¬other <+: placeOf root.path.dropLast) (held : Option (RestoreTree Body)) :
    (stageRoot faults rootKey root).Keeps fun disk => disk.lookup other = held := by
  have hstat : (Attempt.step fun disk : RestoreDisk Body =>
      disk.lstat faults (placeOf root.path)).Keeps fun disk => disk.lookup other = held :=
    keeps_step fun _ hdisk => lookup_lstat.trans hdisk
  refine hstat.bind fun _ => (keeps_check _ _).bind fun _ => ?_
  refine .bind (keeps_step fun _ hdisk => (lookup_mkdirs habove).trans hdisk) fun _ => ?_
  refine (recoverInterruptedRestore_keeps hclear held).bind fun _ => ?_
  exact .bind (keeps_step fun _ hdisk => (lookup_mkdir hclear.staged).trans hdisk)
    fun _ => keeps_pure _ _

theorem stageRoot_eq_ok (hseparate : (scratchOf rootKey root).Separate)
    (hroot : root.path ≠ []) {disk after : RestoreDisk Body} {stage : RestoreStage}
    (h : (stageRoot faults rootKey root).runFrom disk = (.ok stage, after)) :
    stage = scratchOf rootKey root ∧
      after.lookup stage.rootPlace = heldAt disk stage ∧ after.lookup stage.backupPlace = none := by
  obtain ⟨_, _, hexisting, h⟩ := bind_eq_ok h
  obtain ⟨_, hfirst⟩ := lstat_eq_ok hexisting
  obtain ⟨_, _, hchecked, h⟩ := bind_eq_ok h
  obtain ⟨_, rfl⟩ := check_eq_ok hchecked
  obtain ⟨_, second, hmade, h⟩ := bind_eq_ok h
  obtain ⟨_, _, hrecovered, h⟩ := bind_eq_ok h
  obtain ⟨_, _, hstaged, h⟩ := bind_eq_ok h
  obtain ⟨hstage, rfl⟩ := Prod.mk.inj h
  obtain rfl := Except.ok.inj hstage
  obtain ⟨hheld, hbackup⟩ := recoverInterruptedRestore_eq_ok hseparate hrecovered
  have hseen : ∀ place, ¬place <+: placeOf root.path.dropLast →
      second.lookup place = disk.lookup place :=
    fun place hplace => (lookup_of_eq hmade (lookup_mkdirs hplace)).trans (hfirst place)
  have hroot : second.lookup (scratchOf rootKey root).rootPlace = disk.lookup _ :=
    hseen _ (rootPlace_not_above hroot)
  have hback : second.lookup (scratchOf rootKey root).backupPlace = disk.lookup _ :=
    hseen _ (scratch_not_above _)
  refine ⟨rfl, ?_, ?_⟩
  · rw [lookup_of_eq hstaged (lookup_mkdir hseparate.staged), hheld, heldAt, heldAt, hroot, hback]
  · rw [lookup_of_eq hstaged (lookup_mkdir hseparate.scratch), hbackup]

end Stages

/-! ## Places that lie apart -/

structure ScratchApart (rootKey : String → String) (roots : List WorkspaceCheckpointRoot) :
    Prop where
  outside : ∀ root ∈ roots, ∀ other ∈ roots, ¬(scratchOf rootKey other).stagePath <+: root.path ∧
    ¬(scratchOf rootKey other).backupPath <+: root.path
  distinct : (roots.map fun root => (scratchOf rootKey root).stagePath).Nodup

/-- Roots do not lie on each other's way. -/
structure RootsApart (roots : List WorkspaceCheckpointRoot) : Prop where
  named : ∀ root ∈ roots, root.path ≠ []
  apart : roots.Pairwise fun left right => Incomparable left.path right.path

section Places

variable {rootKey : String → String} {root other : WorkspaceCheckpointRoot}

theorem incomparable_placeOf {left right : List String} (h : Incomparable left right) :
    Incomparable (placeOf left) (placeOf right) :=
  ⟨fun hbelow => h.1 (placeOf_below.mp hbelow), fun hbelow => h.2 (placeOf_below.mp hbelow)⟩

theorem beside_incomparable {name : String} (hother : other.path ≠ [])
    (hroots : root.path = other.path ∨ Incomparable root.path other.path)
    (houtside : ¬other.path.dropLast ++ [name] <+: root.path) :
    Incomparable (other.path.dropLast ++ [name]) root.path := by
  refine ⟨houtside, fun hbelow => ?_⟩
  rcases List.prefix_concat_iff.mp hbelow with heq | hbelow
  · exact houtside (heq ▸ List.prefix_refl _)
  · rcases hroots with hsame | hapart
    · have hlength := hbelow.length_le
      have hpositive := List.length_pos_of_ne_nil hother
      rw [hsame, List.length_dropLast] at hlength
      omega
    · exact hapart.1 (hbelow.trans (List.dropLast_prefix _))

theorem beside_beside {name name' : String}
    (hne : root.path.dropLast ++ [name] ≠ other.path.dropLast ++ [name'])
    (hroot : ¬root.path.dropLast ++ [name] <+: other.path)
    (hother : ¬other.path.dropLast ++ [name'] <+: root.path) :
    Incomparable (root.path.dropLast ++ [name]) (other.path.dropLast ++ [name']) := by
  constructor
  · intro hbelow
    rcases List.prefix_concat_iff.mp hbelow with heq | hbelow
    · exact hne heq
    · exact hroot (hbelow.trans (List.dropLast_prefix _))
  · intro hbelow
    rcases List.prefix_concat_iff.mp hbelow with heq | hbelow
    · exact hne heq.symm
    · exact hother (hbelow.trans (List.dropLast_prefix _))

theorem stagePath_ne_backupPath :
    (scratchOf rootKey root).stagePath ≠ (scratchOf rootKey other).backupPath := by
  intro heq
  have hname := List.singleton_inj.mp (List.append_inj' heq rfl).2
  -- one ends in `stage`, the other in `backup`
  have hlast := congrArg (fun text => text.toList.reverse.head?) hname
  simp [List.reverse_append] at hlast

theorem backupPath_ne
    (hne : (scratchOf rootKey root).stagePath ≠ (scratchOf rootKey other).stagePath) :
    (scratchOf rootKey root).backupPath ≠ (scratchOf rootKey other).backupPath := by
  intro heq
  obtain ⟨hparent, hname⟩ := List.append_inj' heq rfl
  have hkey := congrArg String.toList (List.singleton_inj.mp hname)
  simp only [String.toList_append, List.append_cancel_right_eq, List.append_cancel_left_eq,
    String.toList_inj] at hkey
  apply hne
  simp only [scratchOf, hparent, hkey]

variable {roots : List WorkspaceCheckpointRoot} (hroots : RootsApart roots)
  (hscratch : ScratchApart rootKey roots)
include hroots hscratch

theorem separate_scratchOf (hroot : root ∈ roots) : (scratchOf rootKey root).Separate := by
  have hnamed := hroots.named root hroot
  obtain ⟨hstage, hbackup⟩ := hscratch.outside root hroot root hroot
  constructor
  · exact incomparable_placeOf (beside_incomparable hnamed (.inl rfl) hstage)
  · exact incomparable_placeOf (beside_incomparable hnamed (.inl rfl) hbackup)
  · exact incomparable_placeOf (beside_beside stagePath_ne_backupPath hstage hbackup)

theorem apart_scratchOf
    (hroot : root ∈ roots) (hother : other ∈ roots) (hpaths : Incomparable root.path other.path)
    (hne : (scratchOf rootKey root).stagePath ≠ (scratchOf rootKey other).stagePath) :
    (scratchOf rootKey root).Apart (scratchOf rootKey other) := by
  have hnamed := hroots.named root hroot
  obtain ⟨hstage, hbackup⟩ := hscratch.outside other hother root hroot
  obtain ⟨_, hbackup'⟩ := hscratch.outside root hroot other hother
  constructor
  · constructor
    · exact incomparable_placeOf hpaths
    · exact incomparable_placeOf (beside_incomparable hnamed (.inr hpaths.symm) hstage)
    · exact incomparable_placeOf (beside_incomparable hnamed (.inr hpaths.symm) hbackup)
  · constructor
    · have hbeside := beside_incomparable (hroots.named other hother) (.inr hpaths) hbackup'
      exact incomparable_placeOf hbeside.symm
    · exact incomparable_placeOf (beside_beside stagePath_ne_backupPath hstage hbackup')
    · exact incomparable_placeOf (beside_beside (backupPath_ne hne) hbackup hbackup')

theorem unrelated_scratchOf : (roots.map (scratchOf rootKey)).Pairwise RestoreStage.Unrelated := by
  have hdistinct := List.pairwise_map.mp hscratch.distinct
  rw [List.pairwise_map]
  refine (hroots.apart.and hdistinct).imp_of_mem fun hroot hother h => ⟨?_, ?_⟩
  · exact apart_scratchOf hroots hscratch hroot hother h.1 h.2
  · exact apart_scratchOf hroots hscratch hother hroot h.1.symm h.2.symm

end Places

/-! ## All stages -/

section Runs

variable {Body : Type} {faults : RestoreFaults Body} {rootKey : String → String}
  {first : WorkspaceCheckpointRoot} {rest roots : List WorkspaceCheckpointRoot}

theorem not_above {path : List String} {root : WorkspaceCheckpointRoot}
    (h : ¬path <+: root.path) : ¬placeOf path <+: placeOf root.path.dropLast :=
  fun hbelow => h ((placeOf_below.mp hbelow).trans (List.dropLast_prefix _))

theorem RootsApart.tail (hroots : RootsApart (first :: rest)) : RootsApart rest :=
  ⟨fun root hroot => hroots.named root (.tail _ hroot),
    (List.pairwise_cons.mp hroots.apart).2⟩

theorem ScratchApart.tail
    (hscratch : ScratchApart rootKey (first :: rest)) : ScratchApart rootKey rest :=
  ⟨fun root hroot other hother => hscratch.outside root (.tail _ hroot) other
    (.tail _ hother), (List.nodup_cons.mp hscratch.distinct).2⟩

theorem stageAll_keeps (faults : RestoreFaults Body) {other : List ByteArray}
    (hclear : ∀ root ∈ roots, (scratchOf rootKey root).Clear other ∧
      ¬other <+: placeOf root.path.dropLast) (stages : List RestoreStage)
    (disk : RestoreDisk Body) :
    (stageAll faults rootKey roots stages disk).2.2.lookup other = disk.lookup other := by
  induction roots generalizing stages disk with
  | nil => rfl
  | cons root _ ih =>
    obtain ⟨hroot, habove⟩ := hclear root (.head _)
    have hrest := fun r hr => hclear r (.tail _ hr)
    have hkept := stageRoot_keeps faults hroot habove _ disk rfl
    unfold stageAll
    split
    next hstage =>
      rw [hstage] at hkept
      exact hkept
    next hstage =>
      rw [hstage] at hkept
      exact (ih hrest _ _).trans hkept

/-- What the roots hold after all of them were staged is what they held at the start. -/
theorem stageAll_eq_ok (hroots : RootsApart roots) (hscratch : ScratchApart rootKey roots)
    {stages found : List RestoreStage} {disk after : RestoreDisk Body}
    (h : stageAll faults rootKey roots stages disk = (.ok (), found, after)) :
    found = stages ++ roots.map (scratchOf rootKey) ∧
      ∀ root ∈ roots, after.lookup (placeOf root.path) = heldAt disk (scratchOf rootKey root) := by
  induction roots generalizing stages disk with
  | nil =>
    cases h
    exact ⟨(List.append_nil _).symm, fun _ hmem => absurd hmem List.not_mem_nil⟩
  | cons first rest ih =>
    obtain ⟨hapart, _⟩ := List.pairwise_cons.mp (unrelated_scratchOf hroots hscratch)
    obtain ⟨hpaths, _⟩ := List.pairwise_cons.mp hroots.apart
    unfold stageAll at h
    split at h
    · cases h
    next middle hstage =>
      have hfirst := hroots.named first (.head _)
      obtain ⟨rfl, hheld, _⟩ := stageRoot_eq_ok
        (separate_scratchOf hroots hscratch (.head _)) hfirst hstage
      obtain ⟨rfl, hrest⟩ := ih hroots.tail hscratch.tail h
      have hunrelated : ∀ root ∈ rest,
          (scratchOf rootKey first).Unrelated (scratchOf rootKey root) :=
        fun root hroot => hapart _ (List.mem_map_of_mem hroot)
      refine ⟨(List.append_cons _ _ _).symm, fun root hroot => ?_⟩
      rcases List.mem_cons.mp hroot with rfl | hroot
      · rw [← hheld]
        have hkept := stageAll_keeps faults (fun other hother =>
          ⟨(hunrelated other hother).2.root, not_above (hpaths other hother).1⟩)
          (stages ++ [scratchOf rootKey root]) middle
        rw [h] at hkept
        exact hkept
      · rw [hrest root hroot, heldAt, heldAt]
        have hkept : ∀ place, (scratchOf rootKey first).Clear place →
            ¬place <+: placeOf first.path.dropLast →
              middle.lookup place = disk.lookup place := by
          intro place hclear habove
          have hkept := stageRoot_keeps faults hclear habove _ disk rfl
          rw [hstage] at hkept
          exact hkept
        have hclear := (hunrelated root hroot).1
        rw [hkept _ hclear.root (not_above (hpaths root hroot).2),
          hkept _ hclear.backup (not_above (hscratch.outside first (.head _) root
            (.tail _ hroot)).2)]

end Runs

/-! ## Filling -/

section Filling

variable {Body : Type} {faults : RestoreFaults Body} {platform : CheckpointPlatform Body}
  {options : WorkspaceCheckpointOptions} {ids : CheckpointIds} {objects : ObjectStore Body}
  {stages : List RestoreStage} {other : List ByteArray}
  (hclear : ∀ stage ∈ stages, Incomparable stage.stagePlace other)
include hclear

theorem fillEntry_keeps (entry : WorkspaceCheckpointEntry) (held : Option (RestoreTree Body)) :
    (fillEntry faults platform options ids objects stages entry).Keeps fun disk =>
      disk.lookup other = held := by
  refine keeps_check_bind fun stage hfound => ?_
  have hstage := hclear stage (List.mem_of_find?_eq_some (orThrow_eq_ok hfound))
  have hbelow : ∀ rest, Incomparable (stage.stagePlace ++ rest) other := by
    intro rest
    refine ⟨fun hbelow => hstage.1 ((List.prefix_append _ _).trans hbelow), fun hbelow => ?_⟩
    exact (List.prefix_or_prefix_of_prefix hbelow (List.prefix_append _ rest)).elim
      hstage.2 hstage.1
  refine (keeps_check _ _).bind fun _ => ?_
  refine (keeps_check _ _).bind fun _ => ?_
  refine .bind (keeps_step fun _ hdisk => ?_) fun _ => ?_
  · exact (lookup_mkdirs (hbelow _).2).trans hdisk
  · refine .bind (keeps_step fun _ hdisk => ?_) fun _ => keeps_when _ ?_
    · exact (lookup_writeFile (hbelow _) _).trans hdisk
    · exact keeps_step fun _ hdisk => (lookup_utimes (hbelow _) _).trans hdisk

theorem fillAll_keeps (entries : List WorkspaceCheckpointEntry) (held : Option (RestoreTree Body)) :
    (fillAll faults platform options ids objects stages entries).Keeps fun disk =>
      disk.lookup other = held := by
  induction entries with
  | nil => exact keeps_pure _ _
  | cons entry _ ih => exact (fillEntry_keeps hclear entry held).bind fun _ => ih

end Filling

end OpenCowork.ControlPlane
