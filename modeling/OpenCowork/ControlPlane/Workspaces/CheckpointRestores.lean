import OpenCowork.ControlPlane.Workspaces.CheckpointSaves

/-! # What a restore writes

A restore writes below each root the files that the manifest lists for it, as long as the
objects are the ones that were put and no path runs through another. It never writes a
name that holds a backslash.
-/

namespace OpenCowork.ControlPlane

open Foundation

namespace CheckpointPlatform

variable {Body : Type} (platform : CheckpointPlatform Body) (options : WorkspaceCheckpointOptions)

section Backslashes

variable {ids : CheckpointIds} {files : FileSystem Body} {objects : ObjectStore Body}
  {stages next : RestoreStages Body} {path : List String} {roots : List WorkspaceCheckpointRoot}

def PlainNames (directory : NewFiles String (StagedFile Body)) : Prop :=
  ∀ staged ∈ directory, ∀ name ∈ staged.1, '\\' ∉ name.toList

theorem plainNames_create {directory next : NewFiles String (StagedFile Body)}
    (hplain : PlainNames directory)
    (hpath : ∀ name ∈ path, '\\' ∉ name.toList) {staged : StagedFile Body}
    (hnext : directory.create path staged = some next) : PlainNames next := by
  unfold NewFiles.create at hnext
  split at hnext
  · cases hnext
  · obtain rfl := Option.some.inj hnext
    intro found hmem
    rcases List.mem_append.mp hmem with hmem | hmem
    · exact hplain found hmem
    · rw [List.mem_singleton.mp hmem]
      exact hpath

theorem resolveInside_eq_ok {relativePath : String}
    (h : resolveInside relativePath = .ok path) : ∀ name ∈ path, '\\' ∉ name.toList := by
  obtain ⟨_, hnormalized, h⟩ := bind_eq_ok h
  obtain rfl := Except.ok.inj h
  obtain ⟨rfl, _⟩ := normalizeRelativePath_eq_ok hnormalized
  exact fun _ hname hc =>
    Text.backslash_not_mem_slashed relativePath (Text.mem_of_mem_segments hname hc)

theorem restoreEntry_plainNames {entry : WorkspaceCheckpointEntry}
    (h : platform.restoreEntry options ids objects stages entry = .ok next)
    (hplain : ∀ rootId directory, stages.get rootId = some directory → PlainNames directory) :
    ∀ rootId directory, next.get rootId = some directory → PlainNames directory := by
  unfold restoreEntry at h
  obtain ⟨_, hstage, h⟩ := bind_eq_ok h
  obtain ⟨_, _, h⟩ := bind_eq_ok h
  obtain ⟨_, hpath, h⟩ := bind_eq_ok h
  obtain ⟨_, hfilled, h⟩ := bind_eq_ok h
  obtain rfl := Except.ok.inj h
  intro rootId directory hget
  rw [OrderedMap.get_set] at hget
  split at hget
  · obtain rfl := Option.some.inj hget
    exact plainNames_create (hplain _ _ (orThrow_eq_ok hstage)) (resolveInside_eq_ok hpath)
      (orThrow_eq_ok hfilled)
  · exact hplain rootId directory hget

theorem restoreEntries_plainNames {entries : List WorkspaceCheckpointEntry}
    (h : platform.restoreEntries options ids objects entries stages = .ok next)
    (hplain : ∀ rootId directory, stages.get rootId = some directory → PlainNames directory) :
    ∀ rootId directory, next.get rootId = some directory → PlainNames directory := by
  induction entries generalizing stages with
  | nil =>
    cases h
    exact hplain
  | cons _ _ ih =>
    obtain ⟨_, hmiddle, h⟩ := bind_eq_ok h
    exact ih h (platform.restoreEntry_plainNames options hmiddle hplain)

theorem stageRoots_eq_ok (h : stageRoots files roots stages = .ok next) :
    next = stages.setAll (roots.map fun root => (root.rootId, [])) := by
  induction roots generalizing stages with
  | nil =>
    cases h
    rfl
  | cons _ _ ih =>
    rw [List.map_cons, OrderedMap.setAll_cons]
    unfold stageRoots at h
    split at h
    · cases h
    · exact ih h
    · exact ih h
    · cases h

theorem plainNames_of_staged
    (hplain : ∀ rootId directory, stages.get rootId = some directory → PlainNames directory) :
    ∀ rootId directory, (stages.setAll (roots.map fun root =>
      (root.rootId, ([] : NewFiles String (StagedFile Body))))).get rootId = some directory →
        PlainNames directory := by
  induction roots generalizing stages with
  | nil => exact hplain
  | cons _ _ ih =>
    apply ih
    intro rootId directory hget
    rw [OrderedMap.get_set] at hget
    split at hget
    · obtain rfl := Option.some.inj hget
      exact fun _ hmem => absurd hmem List.not_mem_nil
    · exact hplain rootId directory hget

theorem restoreSessionCheckpoint_plainNames {input : ReadSessionCheckpointInput}
    {inputRoots : List WorkspaceCheckpointRoot} {restore : WorkspaceCheckpointRestore Body}
    (h : platform.restoreSessionCheckpoint options files objects input inputRoots =
      .ok restore) : ∀ placed ∈ restore.directories, PlainNames placed.2 := by
  unfold restoreSessionCheckpoint at h
  iterate 5 obtain ⟨_, _, h⟩ := bind_eq_ok h
  obtain ⟨_, hstages, h⟩ := bind_eq_ok h
  obtain ⟨filled, hfilled, h⟩ := bind_eq_ok h
  obtain rfl := Except.ok.inj h
  obtain rfl := stageRoots_eq_ok hstages
  have hplain := platform.restoreEntries_plainNames options hfilled
    (plainNames_of_staged fun _ _ hget => absurd hget (by simp))
  intro _ hmem
  obtain ⟨root, _, rfl⟩ := List.mem_map.mp hmem
  cases hget : filled.get root.rootId with
  | none => exact fun _ hstaged => absurd hstaged List.not_mem_nil
  | some => exact hplain root.rootId _ hget

end Backslashes

section Staging

def stagedFile (file : CollectedFile Body) : List String × StagedFile Body :=
  (Text.segments file.relativePath, ⟨file.body, file.mode.getD 0o600, file.updatedAt⟩)

@[simp] theorem stagedFile_path (file : CollectedFile Body) :
    (stagedFile file).1 = Text.segments file.relativePath := rfl

@[simp] theorem stagedFile_body (file : CollectedFile Body) :
    (stagedFile file).2.body = file.body := rfl

def stagedFor (saved : List (WorkspaceCheckpointRoot × CollectedFile Body)) (rootId : String) :
    NewFiles String (StagedFile Body) :=
  (saved.filter fun found => found.1.rootId = rootId).map fun found => stagedFile found.2

theorem stagedFor_append (first rest : List (WorkspaceCheckpointRoot × CollectedFile Body))
    (rootId : String) :
    stagedFor (first ++ rest) rootId = stagedFor first rootId ++ stagedFor rest rootId := by
  rw [stagedFor, List.filter_append, List.map_append]
  rfl

/-- A saved file that can be restored: its object is the one that was put, and its path was
normalized. -/
structure Retrievable (ids : CheckpointIds) (objects : ObjectStore Body)
    (saved : WorkspaceCheckpointRoot × CollectedFile Body) : Prop where
  object : objects.get (platform.fileKey ids saved.1.rootId saved.2.relativePath) =
    some (platform.storedBody ids saved.1.rootId saved.2)
  size : saved.2.size = platform.byteLength saved.2.body
  canonical : normalizeRelativePath saved.2.relativePath = .ok saved.2.relativePath

variable {platform options}
variable {ids : CheckpointIds} {objects : ObjectStore Body} {stages : RestoreStages Body}
  (hadapter : options.secretAdapter = some .envelopeV1)
include hadapter

theorem restoreEntry_saved {saved : WorkspaceCheckpointRoot × CollectedFile Body}
    (hsaved : platform.Retrievable ids objects saved) {stage : NewFiles String (StagedFile Body)}
    (hstage : stages.get saved.1.rootId = some stage)
    (hfree : ∀ found ∈ stage, Incomparable found.1 (Text.segments saved.2.relativePath)) :
    platform.restoreEntry options ids objects stages
        (platform.savedEntry ids saved.1 saved.2) =
      .ok (stages.set saved.1.rootId (stage ++ [stagedFile saved.2])) := by
  have hreveal : platform.revealEntry options ids (platform.savedEntry ids saved.1 saved.2)
      (platform.storedBody ids saved.1.rootId saved.2) = .ok saved.2.body := by
    unfold revealEntry savedEntry checkpointEntry
    rw [if_pos rfl, refuseIf_of_not (by rw [hadapter]; simp), ok_bind]
    exact platform.reveal_protect _ _
  have hpath : resolveInside saved.2.relativePath =
      .ok (Text.segments saved.2.relativePath) := by
    rw [resolveInside, hsaved.canonical]
    rfl
  have hstored : ¬platform.byteLength (platform.storedBody ids saved.1.rootId saved.2) ≠
      (platform.savedEntry ids saved.1 saved.2).storedSize := not_not.mpr rfl
  have hsize : ¬platform.byteLength saved.2.body ≠
      (platform.savedEntry ids saved.1 saved.2).size := not_not.mpr hsaved.size.symm
  have hdigest : ¬platform.sha256 saved.2.body ≠
      (platform.savedEntry ids saved.1 saved.2).sha256 := not_not.mpr rfl
  have hcreate := NewFiles.create_of_incomparable (stagedFile saved.2).2 hfree
  have hretrieved : platform.retrieveEntry options ids objects
      (platform.savedEntry ids saved.1 saved.2) = .ok saved.2.body := by
    unfold retrieveEntry
    rw [show objects.get (platform.savedEntry ids saved.1 saved.2).objectKey = some _ from
        hsaved.object,
      orThrow_some, ok_bind, refuseIf_of_not hstored, ok_bind, hreveal, ok_bind,
      refuseIf_of_not hsize, ok_bind, refuseIf_of_not hdigest]
    rfl
  unfold restoreEntry
  rw [show stages.get (platform.savedEntry ids saved.1 saved.2).rootId = some stage from hstage,
    orThrow_some, ok_bind, hretrieved, ok_bind,
    show resolveInside (platform.savedEntry ids saved.1 saved.2).relativePath = _ from hpath,
    ok_bind]
  exact (congrArg (fun found => orThrow found _ >>= fun stage =>
    Except.ok (stages.set saved.1.rootId stage)) hcreate).trans rfl

/-- Saved files whose paths do not run through each other are restored one after the other. -/
theorem restoreEntries_saved {rootIds : List String}
    {first rest : List (WorkspaceCheckpointRoot × CollectedFile Body)}
    (hsaved : ∀ saved ∈ rest, platform.Retrievable ids objects saved ∧ saved.1.rootId ∈ rootIds)
    (hpaths : (first ++ rest).Pairwise fun left right => left.1.rootId = right.1.rootId →
      Incomparable (Text.segments left.2.relativePath) (Text.segments right.2.relativePath))
    (hstages : ∀ rootId ∈ rootIds, stages.get rootId = some (stagedFor first rootId)) :
    ∃ filled, platform.restoreEntries options ids objects
        (rest.map fun saved => platform.savedEntry ids saved.1 saved.2) stages = .ok filled ∧
      ∀ rootId ∈ rootIds, filled.get rootId = some (stagedFor (first ++ rest) rootId) := by
  induction rest generalizing first stages with
  | nil => exact ⟨stages, rfl, by rwa [List.append_nil]⟩
  | cons saved _ ih =>
    obtain ⟨hretrievable, hroot⟩ := hsaved saved (.head _)
    have hfree : ∀ found ∈ stagedFor first saved.1.rootId,
        Incomparable found.1 (Text.segments saved.2.relativePath) := by
      intro found hfound
      obtain ⟨earlier, hearlier, rfl⟩ := List.mem_map.mp hfound
      obtain ⟨hmem, hsame⟩ := List.mem_filter.mp hearlier
      have hpair := (List.pairwise_append.mp hpaths).2.2 earlier hmem saved (.head _)
      exact hpair (of_decide_eq_true hsame)
    have hentry := restoreEntry_saved hadapter hretrievable (hstages _ hroot) hfree
    have hnext : ∀ rootId ∈ rootIds, (stages.set saved.1.rootId
        (stagedFor first saved.1.rootId ++ [stagedFile saved.2])).get rootId =
          some (stagedFor (first ++ [saved]) rootId) := by
      intro rootId hmem
      rw [OrderedMap.get_set, stagedFor_append]
      split
      next heq =>
        subst heq
        simp [stagedFor]
      next hne => simp [stagedFor, hne, hstages rootId hmem]
    rw [List.append_cons] at hpaths
    obtain ⟨filled, hfilled, hget⟩ :=
      ih (fun other hmem => hsaved other (.tail _ hmem)) hpaths hnext
    refine ⟨filled, ?_, ?_⟩
    · rw [List.map_cons, restoreEntries, hentry, ok_bind]
      exact hfilled
    · rw [List.append_cons]
      exact hget

end Staging

end CheckpointPlatform

end OpenCowork.ControlPlane
