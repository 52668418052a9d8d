import OpenCowork.ControlPlane.Workspaces.CheckpointStore
import OpenCowork.Foundation.Attempt
import OpenCowork.Foundation.Disk

/-! # Restoring on a disk

A restore stages a directory beside each root, fills it, and then moves the roots aside and
the staged directories into their places, one root after the other. Every operation may
fail. A restore that fails in the middle of the swap moves back what it has moved.
-/

namespace OpenCowork.ControlPlane

open Foundation

/-- A disk whose names are bytes. -/
abbrev RestoreDisk (Body : Type) := Disk ByteArray (StagedFile Body)

abbrev RestoreFaults (Body : Type) := DiskFaults ByteArray (StagedFile Body)

/-- Where a path leads on a disk. -/
def placeOf (path : List String) : List ByteArray := path.map String.toUTF8

structure RestoreStage where
  root : WorkspaceCheckpointRoot
  (stagePath backupPath : List String)
  (hadOriginal installed : Bool)

/-- What a restore throws: the error of its first step that failed, with those of the
cleanup, or the errors of a cleanup after it succeeded. -/
inductive RestoreFailure where
  | rejected (error : String)
  | staging (error : String) (cleanupErrors : List String)
  | swapping (error : String) (rollbackErrors untouchedCleanupErrors : List String)
  | cleaning (cleanupErrors : List String)
  deriving DecidableEq

abbrev RestoreTree (Body : Type) := FileTree ByteArray (StagedFile Body)

namespace RestoreStage

def rootPlace (stage : RestoreStage) : List ByteArray := placeOf stage.root.path

def stagePlace (stage : RestoreStage) : List ByteArray := placeOf stage.stagePath

def backupPlace (stage : RestoreStage) : List ByteArray := placeOf stage.backupPath

end RestoreStage

/-- A directory may stand at a root's path, or nothing. -/
def refuseRoot {Body : Type} (found : Option (RestoreTree Body)) (linked other : String)
    (path : List String) : Except String Unit :=
  match found with
  | some .link => .error (linked ++ WorkspaceCheckpointRoot.pathText path)
  | none => .ok ()
  | some (.directory _) => .ok ()
  | some _ => .error (other ++ WorkspaceCheckpointRoot.pathText path)

def refuseScratch {Body : Type} (found : Option (RestoreTree Body)) (label rootId : String) :
    Except String Unit :=
  match found with
  | none => .ok ()
  | some (.directory _) => .ok ()
  | some _ => .error ("Checkpoint restore " ++ label ++ " path is invalid for " ++ rootId ++ ".")

/-! ## Staging -/

section Staging

variable {Body : Type} (faults : RestoreFaults Body)

/-- Puts back what an earlier restore had moved aside, and removes what it had staged. -/
def recoverInterruptedRestore (stage : RestoreStage) : Attempt (RestoreDisk Body) Unit := do
  let live ← .step fun disk => disk.lstat faults stage.rootPlace
  let staged ← .step fun disk => disk.lstat faults stage.stagePlace
  let backup ← .step fun disk => disk.lstat faults stage.backupPlace
  .check (refuseScratch staged "stage" stage.root.rootId)
  .check (refuseScratch backup "backup" stage.root.rootId)
  .when backup.isSome do
    .when live.isSome (.step fun disk => disk.rm faults stage.rootPlace)
    .step fun disk => disk.rename faults stage.backupPlace stage.rootPlace
  .when staged.isSome (.step fun disk => disk.rm faults stage.stagePlace)

def scratchOf (rootKey : String → String) (root : WorkspaceCheckpointRoot) : RestoreStage :=
  let parent := root.path.dropLast
  let suffix := ".open-cowork-checkpoint-" ++ rootKey root.rootId
  { root
    stagePath := parent ++ [suffix ++ ".stage"]
    backupPath := parent ++ [suffix ++ ".backup"]
    hadOriginal := false
    installed := false }

def stageRoot (rootKey : String → String) (root : WorkspaceCheckpointRoot) :
    Attempt (RestoreDisk Body) RestoreStage := do
  let existing ← .step fun disk => disk.lstat faults (placeOf root.path)
  .check (refuseRoot existing "Checkpoint restore root must not be a symlink: "
    "Checkpoint restore root must be a directory: " root.path)
  let stage := scratchOf rootKey root
  .step fun disk => disk.mkdirs faults (placeOf root.path.dropLast)
  recoverInterruptedRestore faults stage
  .step fun disk => disk.mkdir faults stage.stagePlace
  return stage

def stageAll (rootKey : String → String) : List WorkspaceCheckpointRoot → List RestoreStage →
    RestoreDisk Body → Except String Unit × List RestoreStage × RestoreDisk Body
  | [], stages, disk => (.ok (), stages, disk)
  | root :: rest, stages, disk =>
    match (stageRoot faults rootKey root).runFrom disk with
    | (.error thrown, disk) => (.error thrown, stages, disk)
    | (.ok stage, disk) => stageAll rootKey rest (stages ++ [stage]) disk

variable (platform : CheckpointPlatform Body) (options : WorkspaceCheckpointOptions)

def fillEntry (ids : CheckpointIds) (objects : ObjectStore Body) (stages : List RestoreStage)
    (entry : WorkspaceCheckpointEntry) : Attempt (RestoreDisk Body) Unit := do
  let stage ← .check (orThrow (stages.find? fun stage => stage.root.rootId = entry.rootId)
    "Cannot read properties of undefined")
  let body ← .check (platform.retrieveEntry options ids objects entry)
  let path ← .check (resolveInside entry.relativePath)
  let target := stage.stagePlace ++ placeOf path
  .step fun disk => disk.mkdirs faults (stage.stagePlace ++ (placeOf path).dropLast)
  .step fun disk => disk.writeFile faults target ⟨body, entry.mode.getD 0o600, none⟩
  .when (truthyText entry.updatedAt).isSome (.step fun disk =>
    disk.utimes faults target fun file => { file with updatedAt := entry.updatedAt })

def fillAll (ids : CheckpointIds) (objects : ObjectStore Body) (stages : List RestoreStage) :
    List WorkspaceCheckpointEntry → Attempt (RestoreDisk Body) Unit
  | [] => return ()
  | entry :: rest => do
      fillEntry faults platform options ids objects stages entry
      fillAll ids objects stages rest

end Staging

/-! ## Removing -/

section Removing

variable {Body : Type} (faults : RestoreFaults Body)

def removePlaces : List (List ByteArray) → RestoreDisk Body → List String × RestoreDisk Body
  | [], disk => ([], disk)
  | place :: rest, disk =>
    match disk.rm faults place with
    | (.error thrown, disk) =>
      let (errors, disk) := removePlaces rest disk
      (thrown :: errors, disk)
    | (.ok (), disk) => removePlaces rest disk

def removeRestorePaths (stages : List RestoreStage) (disk : RestoreDisk Body) :
    List String × RestoreDisk Body :=
  removePlaces faults (stages.flatMap fun stage => [stage.stagePlace, stage.backupPlace]) disk

end Removing

/-! ## Swapping -/

section Swapping

variable {Body : Type} (faults : RestoreFaults Body)

def moveAside (existing : Option (RestoreTree Body)) (stage : RestoreStage)
    (disk : RestoreDisk Body) : Except String Unit × RestoreStage × RestoreDisk Body :=
  if existing.isSome then
    match disk.rename faults stage.rootPlace stage.backupPlace with
    | (.error thrown, disk) => (.error thrown, stage, disk)
    | (.ok (), disk) => (.ok (), { stage with hadOriginal := true }, disk)
  else (.ok (), stage, disk)

/-- Moves the staged directory into the root's place. -/
def install (stage : RestoreStage) (disk : RestoreDisk Body) :
    Except String Unit × RestoreStage × RestoreDisk Body :=
  match disk.rename faults stage.stagePlace stage.rootPlace with
  | (.error thrown, disk) => (.error thrown, stage, disk)
  | (.ok (), disk) => (.ok (), { stage with installed := true }, disk)

def swapStage (stage : RestoreStage) (disk : RestoreDisk Body) :
    Except String Unit × RestoreStage × RestoreDisk Body :=
  match disk.lstat faults stage.rootPlace with
  | (.error thrown, disk) => (.error thrown, stage, disk)
  | (.ok existing, disk) =>
    match refuseRoot existing "Checkpoint restore root became a symlink: "
        "Checkpoint restore root became a non-directory: " stage.root.path with
    | .error thrown => (.error thrown, stage, disk)
    | .ok () =>
      match moveAside faults existing stage disk with
      | (.error thrown, stage, disk) => (.error thrown, stage, disk)
      | (.ok (), stage, disk) => install faults stage disk

/-- How far a swap went: its answer, the stages that it touched, those that it did not, and
the disk. -/
structure SwapRun (Body : Type) where
  answer : Except String Unit
  (swapped untouched : List RestoreStage)
  disk : RestoreDisk Body

def swapAll : List RestoreStage → List RestoreStage → RestoreDisk Body → SwapRun Body
  | [], swapped, disk => ⟨.ok (), swapped, [], disk⟩
  | stage :: rest, swapped, disk =>
    match swapStage faults stage disk with
    | (.error thrown, stage, disk) => ⟨.error thrown, swapped ++ [stage], rest, disk⟩
    | (.ok (), stage, disk) => swapAll rest (swapped ++ [stage]) disk

/-! ## Rolling back -/

def removeInstalled (stage : RestoreStage) (disk : RestoreDisk Body) :
    Except String Unit × RestoreStage × RestoreDisk Body :=
  if stage.installed then
    match disk.rm faults stage.rootPlace with
    | (.error thrown, disk) => (.error thrown, stage, disk)
    | (.ok (), disk) => (.ok (), { stage with installed := false }, disk)
  else (.ok (), stage, disk)

def moveBack (stage : RestoreStage) (disk : RestoreDisk Body) :
    Except String Unit × RestoreStage × RestoreDisk Body :=
  if stage.hadOriginal then
    match disk.rename faults stage.backupPlace stage.rootPlace with
    | (.error thrown, disk) => (.error thrown, stage, disk)
    | (.ok (), disk) => (.ok (), { stage with hadOriginal := false }, disk)
  else (.ok (), stage, disk)

def undoStage (stage : RestoreStage) (disk : RestoreDisk Body) :
    Except String Unit × RestoreStage × RestoreDisk Body :=
  match removeInstalled faults stage disk with
  | (.error thrown, stage, disk) => (.error thrown, stage, disk)
  | (.ok (), stage, disk) => moveBack faults stage disk

def undoAll : List RestoreStage → RestoreDisk Body →
    List String × List RestoreStage × RestoreDisk Body
  | [], disk => ([], [], disk)
  | stage :: rest, disk =>
    match undoStage faults stage disk with
    | (.error thrown, stage, disk) =>
      let (errors, stages, disk) := undoAll rest disk
      (thrown :: errors, stage :: stages, disk)
    | (.ok (), stage, disk) =>
      let (errors, stages, disk) := undoAll rest disk
      (errors, stage :: stages, disk)

/-- The scratch directories go, apart from a backup that was not moved back. -/
def discardStage (stage : RestoreStage) (disk : RestoreDisk Body) :
    Except String Unit × RestoreDisk Body :=
  match disk.rm faults stage.stagePlace with
  | (.error thrown, disk) => (.error thrown, disk)
  | (.ok (), disk) => if stage.hadOriginal then (.ok (), disk) else disk.rm faults stage.backupPlace

def discardAll : List RestoreStage → RestoreDisk Body → List String × RestoreDisk Body
  | [], disk => ([], disk)
  | stage :: rest, disk =>
    match discardStage faults stage disk with
    | (.error thrown, disk) =>
      let (errors, disk) := discardAll rest disk
      (thrown :: errors, disk)
    | (.ok (), disk) => discardAll rest disk

def rollbackRestore (stages : List RestoreStage) (disk : RestoreDisk Body) :
    List String × RestoreDisk Body :=
  let (errors, undone, disk) := undoAll faults stages.reverse disk
  let (others, disk) := discardAll faults undone.reverse disk
  (errors ++ others, disk)

end Swapping

/-! ## The whole restore -/

section Restoring

variable {Body : Type} (faults : RestoreFaults Body) (platform : CheckpointPlatform Body)
  (options : WorkspaceCheckpointOptions)

/-- What is settled of a restore before it touches the disk: the ids, the manifest, and its
roots in order. -/
def prepareRestore (objects : ObjectStore Body) (input : ReadSessionCheckpointInput)
    (inputRoots : List WorkspaceCheckpointRoot) :
    Except String
      (CheckpointIds × WorkspaceCheckpointManifest × List WorkspaceCheckpointRoot) := do
  let tenantId ← assertCloudId input.tenantId "tenantId"
  let sessionId ← assertCloudId input.sessionId "sessionId"
  let found ← platform.readSessionCheckpoint options objects input
  let manifest ← orThrow found "Checkpoint manifest was not found."
  let roots ← validateRestoreRoots inputRoots manifest
  return (⟨tenantId, sessionId, manifest.checkpointId⟩, manifest,
    manifest.roots.filterMap fun manifestRoot =>
      roots.find? fun root => root.rootId = manifestRoot.rootId)

def stageAndFill (ids : CheckpointIds) (objects : ObjectStore Body)
    (manifest : WorkspaceCheckpointManifest) (roots : List WorkspaceCheckpointRoot)
    (disk : RestoreDisk Body) : Except String Unit × List RestoreStage × RestoreDisk Body :=
  match stageAll faults platform.rootKey roots [] disk with
  | (.error thrown, stages, disk) => (.error thrown, stages, disk)
  | (.ok (), stages, disk) =>
    match (fillAll faults platform options ids objects stages manifest.entries).runFrom disk with
    | (answer, disk) => (answer, stages, disk)

def swapStaged (stages : List RestoreStage) (disk : RestoreDisk Body) :
    Except RestoreFailure Unit × RestoreDisk Body :=
  let run := swapAll faults stages [] disk
  match run.answer with
  | .error thrown =>
    let (rollbackErrors, disk) := rollbackRestore faults run.swapped run.disk
    let (untouchedCleanupErrors, disk) := removeRestorePaths faults run.untouched disk
    (.error (.swapping thrown rollbackErrors untouchedCleanupErrors), disk)
  | .ok () =>
    let (cleanupErrors, disk) := removeRestorePaths faults run.swapped run.disk
    if cleanupErrors.isEmpty then (.ok (), disk) else (.error (.cleaning cleanupErrors), disk)

def restoreOnDisk (objects : ObjectStore Body) (input : ReadSessionCheckpointInput)
    (inputRoots : List WorkspaceCheckpointRoot) (disk : RestoreDisk Body) :
    Except RestoreFailure (WorkspaceCheckpointManifest × Nat) × RestoreDisk Body :=
  match prepareRestore platform options objects input inputRoots with
  | .error thrown => (.error (.rejected thrown), disk)
  | .ok (ids, manifest, roots) =>
    match stageAndFill faults platform options ids objects manifest roots disk with
    | (.error thrown, stages, disk) =>
      let (cleanupErrors, disk) := removeRestorePaths faults stages disk
      (.error (.staging thrown cleanupErrors), disk)
    | (.ok (), stages, disk) =>
      match swapStaged faults stages disk with
      | (.error failure, disk) => (.error failure, disk)
      | (.ok (), disk) => (.ok (manifest, manifest.entries.length), disk)

end Restoring

end OpenCowork.ControlPlane
