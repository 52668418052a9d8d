import Mathlib.Data.List.Perm.Subperm
import OpenCowork.ControlPlane.Workspaces.CheckpointRoundTrip
import OpenCowork.ControlPlane.Workspaces.RestoreStaging

/-! # Restores that fail leave the roots as they were

When the swap of a restore fails and its rollback does not, every root holds what it held
before the restore, or the backup that an earlier restore had left of it.
-/

namespace OpenCowork.ControlPlane

open Foundation Disk

section Manifests

theorem parseManifestRoots_nodup {index : Nat} {rootIds : List String} {values : List Json}
    {roots : List WorkspaceCheckpointManifestRoot} (hids : rootIds.Nodup)
    (h : parseManifestRoots index rootIds values = .ok roots) :
    (rootIds ++ roots.map WorkspaceCheckpointManifestRoot.rootId).Nodup := by
  induction values generalizing index rootIds roots with
  | nil =>
    cases h
    rw [List.map_nil, List.append_nil]
    exact hids
  | cons _ _ ih =>
    obtain ⟨root, hroot, h⟩ := bind_eq_ok h
    obtain ⟨_, hothers, h⟩ := bind_eq_ok h
    obtain rfl := Except.ok.inj h
    have hnew : root.rootId ∉ rootIds := by
      iterate 3 obtain ⟨_, _, hroot⟩ := bind_eq_ok hroot
      obtain ⟨_, hfresh, hroot⟩ := bind_eq_ok hroot
      iterate 3 obtain ⟨_, _, hroot⟩ := bind_eq_ok hroot
      obtain rfl := Except.ok.inj hroot
      exact refuseIf_eq_ok.mp hfresh
    have hgrown := ih (List.concat_eq_append ▸ hids.concat hnew) hothers
    rw [List.map_cons, List.append_cons]
    exact hgrown

namespace CheckpointPlatform

variable {Body : Type} {platform : CheckpointPlatform Body} {options : WorkspaceCheckpointOptions}
  {manifest : WorkspaceCheckpointManifest}

theorem parseManifest_nodup {body : Body} {maxFiles : Nat}
    (h : platform.parseManifest body maxFiles = .ok manifest) :
    (manifest.roots.map WorkspaceCheckpointManifestRoot.rootId).Nodup := by
  unfold parseManifest at h
  iterate 8 obtain ⟨_, _, h⟩ := bind_eq_ok h
  -- the three ids, the version, the date and the two keys
  iterate 6 obtain ⟨_, _, h⟩ := bind_eq_ok h
  obtain ⟨_, _, h⟩ := bind_eq_ok h
  iterate 6 obtain ⟨_, _, h⟩ := bind_eq_ok h
  obtain ⟨_, hroots, h⟩ := bind_eq_ok h
  obtain ⟨_, _, h⟩ := bind_eq_ok h
  obtain rfl := Except.ok.inj h
  exact parseManifestRoots_nodup List.nodup_nil hroots

theorem readSessionCheckpoint_nodup {objects : ObjectStore Body}
    {input : ReadSessionCheckpointInput}
    (h : platform.readSessionCheckpoint options objects input = .ok (some manifest)) :
    (manifest.roots.map WorkspaceCheckpointManifestRoot.rootId).Nodup := by
  unfold readSessionCheckpoint at h
  iterate 4 obtain ⟨_, _, h⟩ := bind_eq_ok h
  split at h
  · cases h
  · obtain ⟨_, hchecked, h⟩ := bind_eq_ok h
    obtain rfl := Option.some.inj (Except.ok.inj h)
    obtain ⟨_, hparsed, hchecked⟩ := bind_eq_ok hchecked
    iterate 3 obtain ⟨_, _, hchecked⟩ := bind_eq_ok hchecked
    obtain rfl := Except.ok.inj hchecked
    exact parseManifest_nodup hparsed

end CheckpointPlatform

end Manifests

/-! ## The roots of a restore -/

section Roots

open WorkspaceCheckpointRoot

variable {roots : List WorkspaceCheckpointRoot}
  {manifestRoots : List WorkspaceCheckpointManifestRoot}

theorem refuseDuplicates_named {rootIds : List String} {paths : List (List String)}
    (h : refuseDuplicates rootIds paths roots = .ok ()) : ∀ root ∈ roots, root.path ≠ [] := by
  induction roots generalizing rootIds paths with
  | nil => exact fun _ hmem => absurd hmem List.not_mem_nil
  | cons _ _ ih =>
    obtain ⟨_, _, h⟩ := bind_eq_ok h
    obtain ⟨_, _, h⟩ := bind_eq_ok h
    obtain ⟨_, hnamed, h⟩ := bind_eq_ok h
    intro other hother
    rcases List.mem_cons.mp hother with rfl | hother
    · exact refuseIf_eq_ok.mp hnamed
    · exact ih h other hother

theorem refuseOverlaps_eq_ok (h : refuseOverlaps roots = .ok ()) :
    roots.Pairwise fun left right => left.nested right = false := by
  induction roots with
  | nil => exact List.Pairwise.nil
  | cons _ _ ih =>
    unfold refuseOverlaps at h
    split at h
    · cases h
    next hnone =>
      refine List.pairwise_cons.mpr ⟨fun other hother => ?_, ih h⟩
      simpa using List.find?_eq_none.mp hnone other hother

theorem incomparable_of_not_nested {left right : WorkspaceCheckpointRoot}
    (hne : left.path ≠ right.path) (h : left.nested right = false) :
    Incomparable left.path right.path := by
  rw [nested, decide_eq_true hne, Bool.true_and, Bool.or_eq_false_iff, ← Bool.not_eq_true,
    ← Bool.not_eq_true, List.isPrefixOf_iff_prefix, List.isPrefixOf_iff_prefix] at h
  exact h

theorem normalizeRoots_apart {found : List WorkspaceCheckpointRoot}
    (h : normalizeRoots roots = .ok found) : RootsApart found := by
  obtain ⟨hfound, htaken⟩ := normalizeRoots_eq_ok h
  have hpaths : (found.map WorkspaceCheckpointRoot.path).Nodup := by
    rw [hfound, List.map_map]
    exact htaken.places
  obtain ⟨_, _, h⟩ := bind_eq_ok h
  obtain ⟨_, _, h⟩ := bind_eq_ok h
  obtain ⟨_, hdistinct, h⟩ := bind_eq_ok h
  obtain ⟨_, hoverlaps, h⟩ := bind_eq_ok h
  obtain rfl := Except.ok.inj h
  have hne := List.pairwise_map.mp hpaths
  exact ⟨refuseDuplicates_named hdistinct, ((refuseOverlaps_eq_ok hoverlaps).and hne).imp
    fun h => incomparable_of_not_nested h.2 h.1⟩

theorem matchRestoreRoots_eq_ok (h : matchRestoreRoots roots manifestRoots = .ok ()) :
    ∀ manifestRoot ∈ manifestRoots, ∃ root ∈ roots, root.rootId = manifestRoot.rootId := by
  induction manifestRoots with
  | nil => exact fun _ hmem => absurd hmem List.not_mem_nil
  | cons _ _ ih =>
    obtain ⟨root, hroot, h⟩ := bind_eq_ok h
    obtain ⟨_, _, h⟩ := bind_eq_ok h
    intro manifestRoot hmem
    rcases List.mem_cons.mp hmem with rfl | hmem
    · have hfound := orThrow_eq_ok hroot
      exact ⟨root, List.mem_of_find?_eq_some hfound, by simpa using List.find?_some hfound⟩
    · exact ih h manifestRoot hmem

theorem orderedRoots_rootIds
    (hmatched : ∀ manifestRoot ∈ manifestRoots,
      ∃ root ∈ roots, root.rootId = manifestRoot.rootId) :
    (manifestRoots.filterMap fun manifestRoot =>
      roots.find? fun root => root.rootId = manifestRoot.rootId).map
        WorkspaceCheckpointRoot.rootId =
      manifestRoots.map WorkspaceCheckpointManifestRoot.rootId := by
  induction manifestRoots with
  | nil => rfl
  | cons first _ ih =>
    have hrest := ih fun manifestRoot hmem => hmatched manifestRoot (.tail _ hmem)
    obtain ⟨root, hroot, hid⟩ := hmatched first (.head _)
    cases hfound : roots.find? fun root => root.rootId = first.rootId with
    | none => exact absurd hid (by simpa using List.find?_eq_none.mp hfound root hroot)
    | some found =>
      have hfirst : found.rootId = first.rootId := by simpa using List.find?_some hfound
      rw [List.filterMap_cons]
      simp only [hfound]
      rw [List.map_cons, List.map_cons, hrest, hfirst]

theorem orderedRoots_perm
    (hmanifest : (manifestRoots.map WorkspaceCheckpointManifestRoot.rootId).Nodup)
    (hcount : roots.length = manifestRoots.length)
    (hmatched : ∀ manifestRoot ∈ manifestRoots,
      ∃ root ∈ roots, root.rootId = manifestRoot.rootId) :
    (manifestRoots.filterMap fun manifestRoot =>
      roots.find? fun root => root.rootId = manifestRoot.rootId).Perm roots := by
  have hids := orderedRoots_rootIds hmatched
  generalize hordered : (manifestRoots.filterMap fun manifestRoot =>
    roots.find? fun root => root.rootId = manifestRoot.rootId) = ordered at hids
  have hsubset : ordered ⊆ roots := by
    intro root hroot
    rw [← hordered] at hroot
    obtain ⟨_, _, hfound⟩ := List.mem_filterMap.mp hroot
    exact List.mem_of_find?_eq_some hfound
  have hlength : roots.length ≤ ordered.length := by
    rw [hcount, ← List.length_map, ← hids, List.length_map]
  rw [← hids] at hmanifest
  exact (List.subperm_of_subset (List.Nodup.of_map _ hmanifest) hsubset).perm_of_length_le hlength

theorem prepareRestore_eq_ok {Body : Type} {platform : CheckpointPlatform Body}
    {options : WorkspaceCheckpointOptions} {objects : ObjectStore Body}
    {input : ReadSessionCheckpointInput} {inputRoots : List WorkspaceCheckpointRoot}
    {ids : CheckpointIds} {manifest : WorkspaceCheckpointManifest}
    (h : prepareRestore platform options objects input inputRoots = .ok (ids, manifest, roots)) :
    RootsApart roots ∧ roots.Perm (inputRoots.map WorkspaceCheckpointRoot.normalized) := by
  obtain ⟨_, _, h⟩ := bind_eq_ok h
  obtain ⟨_, _, h⟩ := bind_eq_ok h
  obtain ⟨_, hread, h⟩ := bind_eq_ok h
  obtain ⟨_, hfound, h⟩ := bind_eq_ok h
  obtain ⟨_, hnormal, h⟩ := bind_eq_ok h
  rw [orThrow_eq_ok hfound] at hread
  cases h
  obtain ⟨_, htaken, hnormal⟩ := bind_eq_ok hnormal
  obtain ⟨_, hcount, hnormal⟩ := bind_eq_ok hnormal
  obtain ⟨_, hmatched, hnormal⟩ := bind_eq_ok hnormal
  obtain rfl := Except.ok.inj hnormal
  have hapart := normalizeRoots_apart htaken
  obtain ⟨hequal, _⟩ := normalizeRoots_eq_ok htaken
  have hperm := orderedRoots_perm (CheckpointPlatform.readSessionCheckpoint_nodup hread)
    (not_not.mp (refuseIf_eq_ok.mp hcount)) (matchRestoreRoots_eq_ok hmatched)
  refine ⟨⟨fun root hroot => hapart.named root (hperm.subset hroot), ?_⟩, hequal ▸ hperm⟩
  exact (hperm.pairwise_iff fun h => h.symm).mpr hapart.apart

end Roots

section Restores

variable {Body : Type} {roots : List WorkspaceCheckpointRoot}

theorem scratchApart_of_perm {rootKey : String → String} {inputRoots : List WorkspaceCheckpointRoot}
    (hperm : roots.Perm (inputRoots.map WorkspaceCheckpointRoot.normalized))
    (hscratch : ScratchApart rootKey inputRoots) : ScratchApart rootKey roots := by
  constructor
  · intro _ hroot _ hother
    obtain ⟨given, hgiven, rfl⟩ := List.mem_map.mp (hperm.subset hroot)
    obtain ⟨given', hgiven', rfl⟩ := List.mem_map.mp (hperm.subset hother)
    exact hscratch.outside given hgiven given' hgiven'
  · rw [(hperm.map _).nodup_iff, List.map_map]
    exact hscratch.distinct

theorem stageAndFill_eq_ok {faults : RestoreFaults Body} {platform : CheckpointPlatform Body}
    {options : WorkspaceCheckpointOptions} {ids : CheckpointIds} {objects : ObjectStore Body}
    {manifest : WorkspaceCheckpointManifest} (hroots : RootsApart roots)
    (hscratch : ScratchApart platform.rootKey roots) {disk after : RestoreDisk Body}
    {stages : List RestoreStage}
    (h : stageAndFill faults platform options ids objects manifest roots disk =
      (.ok (), stages, after)) :
    stages = roots.map (scratchOf platform.rootKey) ∧
      ∀ root ∈ roots, after.lookup (placeOf root.path) =
        heldAt disk (scratchOf platform.rootKey root) := by
  unfold stageAndFill at h
  split at h
  · cases h
  next middle hstaged =>
    obtain ⟨rfl, hheld⟩ := stageAll_eq_ok hroots hscratch hstaged
    obtain ⟨_, hrest⟩ := Prod.mk.inj h
    obtain ⟨rfl, rfl⟩ := Prod.mk.inj hrest
    refine ⟨rfl, fun root hroot => ?_⟩
    rw [← hheld root hroot]
    refine fillAll_keeps (fun stage hstage => ?_) _ _ middle rfl
    obtain ⟨other, hother, rfl⟩ := List.mem_map.mp hstage
    have hseparate : ∀ stage ∈ roots.map (scratchOf platform.rootKey), stage.Separate := by
      intro stage hstage
      obtain ⟨_, hother, rfl⟩ := List.mem_map.mp hstage
      exact separate_scratchOf hroots hscratch hother
    exact (scratch_clear hseparate (unrelated_scratchOf hroots hscratch)
      (List.mem_map_of_mem hroot) hstage).1

/-- Where the swap of a restore fails and the rollback's own operations succeed, every root
path holds what it held before the restore, which is the backup if an earlier restore had
left one. -/
theorem failed_swap_rolled_back (faults : RestoreFaults Body) (platform : CheckpointPlatform Body)
    (options : WorkspaceCheckpointOptions) (objects : ObjectStore Body)
    (input : ReadSessionCheckpointInput) (inputRoots : List WorkspaceCheckpointRoot)
    (disk after : RestoreDisk Body) (thrown : String) (cleanupErrors : List String)
    (hscratch : ScratchApart platform.rootKey inputRoots)
    (h : restoreOnDisk faults platform options objects input inputRoots disk =
      (.error (.swapping thrown [] cleanupErrors), after)) :
    ∀ root ∈ inputRoots, after.lookup (placeOf root.path) =
      heldAt disk (scratchOf platform.rootKey root) := by
  unfold restoreOnDisk at h
  split at h
  · cases h
  next hprepared =>
    obtain ⟨hroots, hperm⟩ := prepareRestore_eq_ok hprepared
    have hscratch := scratchApart_of_perm hperm hscratch
    split at h
    · cases h
    next hstaged =>
      split at h
      next hswap =>
        obtain ⟨hfailure, rfl⟩ := Prod.mk.inj h
        obtain rfl := Except.error.inj hfailure
        obtain ⟨rfl, hheld⟩ := stageAndFill_eq_ok hroots hscratch hstaged
        have hback := swapStaged_rolled_back (fun stage hstage => ?_)
          (unrelated_scratchOf hroots hscratch) hswap
        · intro root hroot
          have hmem := hperm.symm.subset (List.mem_map_of_mem hroot)
          exact (hback _ (List.mem_map_of_mem hmem)).trans (hheld _ hmem)
        · obtain ⟨_, hroot, rfl⟩ := List.mem_map.mp hstage
          exact ⟨rfl, separate_scratchOf hroots hscratch hroot⟩
      · cases h

end Restores

/-! ## Two failed restores -/

def workspaceRoots : List WorkspaceCheckpointRoot :=
  workspaceSave.roots.map WorkspaceCheckpointRoot.normalized

theorem emptyWorkspace_saved :
    ∃ manifest objects,
      prepareRestore plainCheckpointPlatform plainCheckpointOptions objects
          ⟨"t", "s", none, none⟩ workspaceSave.roots =
        .ok (⟨"t", "s", "c"⟩, manifest, workspaceRoots) ∧
        manifest.entries = [] := by
  obtain ⟨_, _, hprepared⟩ := workspaceSave_prepared
  obtain ⟨manifest, objects, hsaved⟩ := plainCheckpointPlatform.saveSessionCheckpoint_root
    plainCheckpointOptions OrderedMap.empty hprepared rfl
    (show plainCheckpointPlatform.collectRootFiles plainCheckpointOptions
      CheckpointPlatform.emptyFileSystem workspaceRoot ⟨0, 0⟩ = .ok ([], ⟨0, 0⟩) from rfl)
  have hsaved := plainCheckpointPlatform.saveSessionCheckpoint_eq_ok plainCheckpointOptions hsaved
  have hrestorable : plainCheckpointPlatform.Restorable CheckpointPlatform.emptyFileSystem
      workspaceSave (plainCheckpointPlatform.saveHeader workspaceSave "" 0) := by
    constructor
    · exact fun _ _ _ hfile => absurd hfile List.not_mem_nil
    · exact List.nodup_nil
    · exact Nat.zero_le _
    · exact fun _ hversion => absurd hversion (by simp [workspaceSave])
    · decide +kernel
    · decide +kernel
  refine ⟨manifest, objects, ?_, ?_⟩
  · have hnames : (⟨"t", "s", none, none⟩ : ReadSessionCheckpointInput).Names manifest := by
      rw [hsaved.manifest_eq]
      exact ⟨rfl, rfl, .inl rfl, .inl rfl⟩
    unfold prepareRestore
    rw [show assertCloudId "t" "tenantId" = .ok "t" by decide +kernel, ok_bind,
      show assertCloudId "s" "sessionId" = .ok "s" by decide +kernel, ok_bind,
      CheckpointPlatform.read_saved hsaved hrestorable hnames, ok_bind, orThrow_some, ok_bind,
      CheckpointPlatform.validateRestoreRoots_saved hsaved, ok_bind,
      CheckpointPlatform.restoreRoots_saved hsaved, hsaved.manifest_eq]
    rfl
  · rw [hsaved.manifest_eq]
    rfl

def emptySwap {Body : Type} (faults : RestoreFaults Body) (rootKey : String → String)
    (roots : List WorkspaceCheckpointRoot) (disk : RestoreDisk Body) :
    Except RestoreFailure Unit × RestoreDisk Body :=
  let staged := stageAll faults rootKey roots [] disk
  swapStaged faults staged.2.1 staged.2.2

theorem restoreOnDisk_of_swapStaged {Body : Type} (faults : RestoreFaults Body)
    {platform : CheckpointPlatform Body} {options : WorkspaceCheckpointOptions}
    {objects : ObjectStore Body} {input : ReadSessionCheckpointInput}
    {inputRoots roots : List WorkspaceCheckpointRoot} (disk : RestoreDisk Body)
    {ids : CheckpointIds} {manifest : WorkspaceCheckpointManifest} {failure : RestoreFailure}
    (hprepared : prepareRestore platform options objects input inputRoots =
      .ok (ids, manifest, roots)) (hentries : manifest.entries = [])
    (hstaged : (stageAll faults platform.rootKey roots [] disk).1 = .ok ())
    (hswapped : (emptySwap faults platform.rootKey roots disk).1 = .error failure) :
    restoreOnDisk faults platform options objects input inputRoots disk =
      (.error failure, (emptySwap faults platform.rootKey roots disk).2) := by
  unfold emptySwap at hswapped ⊢
  generalize hrun : stageAll faults platform.rootKey roots [] disk = staged at hstaged hswapped
  obtain ⟨answer, stages, middle⟩ := staged
  obtain rfl : answer = .ok () := hstaged
  have hfilled : stageAndFill faults platform options ids objects manifest roots disk =
      (.ok (), stages, middle) := by
    unfold stageAndFill
    rw [hrun, hentries]
    rfl
  simp only [restoreOnDisk, hprepared, hfilled]
  generalize swapStaged faults stages middle = outcome at hswapped
  obtain ⟨answer, _⟩ := outcome
  obtain rfl : answer = .error failure := hswapped
  rfl

def failsAt (number : Nat) : RestoreFaults PlainBody :=
  fun operation => if operation = number then some ⟨"EIO", id, 0⟩ else none

def namedFile (name : String) : RestoreTree PlainBody :=
  .directory [(name.toUTF8, .file ⟨.text "hello", 0o644, none⟩)]

/-- A workspace, and beside it what is given. -/
def diskWith (beside : List (ByteArray × RestoreTree PlainBody)) : RestoreDisk PlainBody where
  tree := .directory [("srv".toUTF8,
    .directory (("w".toUTF8, namedFile "today.txt") :: beside))]
  operations := 0

def namesAt (disk : RestoreDisk PlainBody) (path : List String) :
    Option (List (List ByteArray)) :=
  (disk.lookup (placeOf path)).map fun tree => tree.files.map Prod.fst

theorem workspaceScratch_apart :
    ScratchApart plainCheckpointPlatform.rootKey workspaceSave.roots := by
  constructor
  · intro _ hroot _ hother
    obtain rfl := List.mem_singleton.mp hroot
    obtain rfl := List.mem_singleton.mp hother
    decide +kernel
  · exact List.nodup_singleton _

/-- The restore whose last move fails leaves the workspace as it was. -/
theorem failed_install_rolled_back :
    ∃ objects after,
      restoreOnDisk (failsAt 8) plainCheckpointPlatform plainCheckpointOptions objects
          ⟨"t", "s", none, none⟩ workspaceSave.roots (diskWith []) =
        (.error (.swapping "EIO" [] []), after) ∧
      namesAt after ["srv", "w"] = some [["today.txt".toUTF8]] := by
  obtain ⟨_, objects, hprepared, hentries⟩ := emptyWorkspace_saved
  obtain ⟨hstaged, hswapped⟩ :
      (stageAll (failsAt 8) plainCheckpointPlatform.rootKey workspaceRoots [] (diskWith [])).1 =
        .ok () ∧
      (emptySwap (failsAt 8) plainCheckpointPlatform.rootKey workspaceRoots
        (diskWith [])).1 = .error (.swapping "EIO" [] []) := by decide +kernel
  have hrestore := restoreOnDisk_of_swapStaged _ _ hprepared hentries hstaged hswapped
  refine ⟨objects, _, hrestore, ?_⟩
  have hheld := failed_swap_rolled_back _ _ _ _ _ _ _ _ _ _ workspaceScratch_apart hrestore _
    (List.mem_singleton_self _)
  rw [namesAt, hheld]
  decide +kernel

/-- An earlier restore was interrupted after it had moved the workspace aside. -/
def interruptedDisk : RestoreDisk PlainBody :=
  diskWith [((".open-cowork-checkpoint-" ++ plainCheckpointPlatform.rootKey "workspace" ++
    ".backup").toUTF8, namedFile "yesterday.txt")]

/-- A restore puts back the backup of an interrupted one, which stays when its own swap
fails. -/
theorem interrupted_backup_stays :
    ∃ objects after,
      restoreOnDisk (failsAt 10) plainCheckpointPlatform plainCheckpointOptions objects
          ⟨"t", "s", none, none⟩ workspaceSave.roots interruptedDisk =
        (.error (.swapping "EIO" [] []), after) ∧
      after.lookup (placeOf ["srv", "w"]) ≠ interruptedDisk.lookup (placeOf ["srv", "w"]) := by
  obtain ⟨_, objects, hprepared, hentries⟩ := emptyWorkspace_saved
  obtain ⟨hstaged, hswapped, hnames⟩ :
      (stageAll (failsAt 10) plainCheckpointPlatform.rootKey workspaceRoots [] interruptedDisk).1 =
        .ok () ∧
      (emptySwap (failsAt 10) plainCheckpointPlatform.rootKey workspaceRoots
        interruptedDisk).1 = .error (.swapping "EIO" [] []) ∧
      namesAt (emptySwap (failsAt 10) plainCheckpointPlatform.rootKey workspaceRoots
        interruptedDisk).2 ["srv", "w"] ≠ namesAt interruptedDisk ["srv", "w"] := by decide +kernel
  have hrestore := restoreOnDisk_of_swapStaged _ _ hprepared hentries hstaged hswapped
  refine ⟨objects, _, hrestore, fun hsame => ?_⟩
  apply hnames
  rw [namesAt, namesAt, hsame]

example : namesAt interruptedDisk ["srv", "w"] = some [["today.txt".toUTF8]] := by decide +kernel

end OpenCowork.ControlPlane
