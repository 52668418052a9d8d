import OpenCowork.ControlPlane.Channels.Inputs
import OpenCowork.ControlPlane.Workspaces.CheckpointManifests
import OpenCowork.Foundation.FileTree

/-! # The checkpoint store

Saving the files of a session's roots under object keys, with a manifest that lists them;
reading a manifest; and restoring its files into directories that take the place of the
roots. A directory is visited by the texts that its entries' names are read as, so that a
name that is not UTF-8 leads to another entry or nowhere. File systems have no limits of
their own here, nothing changes while it is saved, and the directories that a restore
stages are moved into place in one step.
-/

namespace OpenCowork.ControlPlane

open Foundation

/-- A regular file: its content and what `lstat` tells of it. -/
structure SourceFile (Body : Type) where
  body : Body
  (links mode : Nat)
  mtime : Instant

abbrev WorkspaceTree (Body : Type) := FileTree FileName (SourceFile Body)

/-- What is found at a path, with distinct names in every directory. -/
structure FileSystem (Body : Type) where
  lstat : List String → Option (WorkspaceTree Body)
  distinct : ∀ path tree, lstat path = some tree → tree.Distinct

/-- The objects that were put, by key. -/
abbrev ObjectStore (Body : Type) := OrderedMap String Body

/-! ## Roots -/

namespace WorkspaceCheckpointRoot

/-- A root with its flags spelt out. -/
def normalized (root : WorkspaceCheckpointRoot) : WorkspaceCheckpointRoot :=
  { root with
    required := some (root.required == some true)
    secretBearing := some (root.secretBearing == some true) }

def normalizeRoot (root : WorkspaceCheckpointRoot) : Except String WorkspaceCheckpointRoot := do
  let rootId ← assertCloudId root.rootId "checkpoint rootId"
  return { root.normalized with rootId }

def normalizeEach : List WorkspaceCheckpointRoot → Except String (List WorkspaceCheckpointRoot)
  | [] => .ok []
  | root :: rest => do
      let first ← root.normalizeRoot
      let others ← normalizeEach rest
      return first :: others

def pathText (path : List String) : String := "/" ++ Text.joinPath path

def refuseDuplicates : List String → List (List String) → List WorkspaceCheckpointRoot →
    Except String Unit
  | _, _, [] => .ok ()
  | rootIds, paths, root :: rest => do
      refuseIf (root.rootId ∈ rootIds) ("Checkpoint rootId is duplicated: " ++ root.rootId)
      refuseIf (root.path ∈ paths)
        ("Checkpoint root path is duplicated: " ++ pathText root.path)
      refuseIf (root.path = []) "Checkpoint roots must not target a filesystem root."
      refuseDuplicates (rootIds ++ [root.rootId]) (paths ++ [root.path]) rest

/-- One of the paths lies below the other. -/
def nested (left right : WorkspaceCheckpointRoot) : Bool :=
  left.path ≠ right.path && (left.path.isPrefixOf right.path || right.path.isPrefixOf left.path)

def refuseOverlaps : List WorkspaceCheckpointRoot → Except String Unit
  | [] => .ok ()
  | left :: rest =>
    match rest.find? left.nested with
    | some right => .error ("Checkpoint root paths must not overlap: " ++ pathText left.path ++
        " and " ++ pathText right.path)
    | none => refuseOverlaps rest

end WorkspaceCheckpointRoot

open WorkspaceCheckpointRoot in
def normalizeRoots (roots : List WorkspaceCheckpointRoot) :
    Except String (List WorkspaceCheckpointRoot) := do
  refuseIf (maxCheckpointRoots < roots.length) "Checkpoint has too many roots."
  let normalized ← normalizeEach roots
  refuseDuplicates [] [] normalized
  refuseOverlaps normalized
  return normalized

/-! ## Collecting files -/

/-- What a visit comes across: a regular file, or a name that nothing is found under. Paths
are the names as they were read. -/
inductive Visited (Body : Type) where
  | file (path : List String) (source : SourceFile Body)
  | missing (path : List String)

/-- The same, seen from the directory that the name leads down from. -/
def Visited.under {Body : Type} (name : String) : Visited Body → Visited Body
  | .file path source => .file (name :: path) source
  | .missing path => .missing (name :: path)

structure CollectedFile (Body : Type) where
  relativePath : String
  size : Nat
  mode : Option Nat
  updatedAt : Option String
  body : Body

structure CheckpointTotals where
  (files bytes : Nat)

namespace CheckpointPlatform

variable {Body : Type} (platform : CheckpointPlatform Body) (options : WorkspaceCheckpointOptions)

def nameBefore (left right : String) : Prop := platform.localeCompare left right ≠ .gt

instance : DecidableRel platform.nameBefore := fun left right =>
  inferInstanceAs (Decidable (platform.localeCompare left right ≠ .gt))

/-- The entries of a directory by the texts of their names, in order: each text is looked up
in the directory again. -/
def visitNames (children : List (FileName × List (Visited Body))) : List (Visited Body) :=
  let names := children.map fun child => platform.decodeUtf8 child.1.bytes
  (names.insertionSort platform.nameBefore).flatMap fun name =>
    match children.find? fun child => child.1.bytes = name.toUTF8 with
    | some child => child.2.map (Visited.under name)
    | none => [.missing [name]]

mutual

/-- Links and whatever is neither a file nor a directory are passed over. -/
def visit : WorkspaceTree Body → List (Visited Body)
  | .file source => [.file [] source]
  | .link => []
  | .special => []
  | .directory entries => platform.visitNames (visitEntries entries)

def visitEntries : List (FileName × WorkspaceTree Body) → List (FileName × List (Visited Body))
  | [] => []
  | (name, tree) :: rest => (name, visit tree) :: visitEntries rest

end

def collectVisited (rootPath : List String) : List (Visited Body) → List (CollectedFile Body) →
    Nat → CheckpointTotals → Except String (List (CollectedFile Body) × CheckpointTotals)
  | [], files, _, totals => .ok (files, totals)
  | .missing path :: _, _, _, _ =>
    .error ("ENOENT: no such file or directory, lstat '" ++
      WorkspaceCheckpointRoot.pathText (rootPath ++ path) ++ "'")
  | .file path source :: rest, files, totalBytes, totals => do
      refuseIf (source.links ≠ 1) ("Checkpoint source file must not be hard-linked: " ++
        WorkspaceCheckpointRoot.pathText (rootPath ++ path))
      let relativePath ← normalizeRelativePath (Text.slashed (Text.joinPath path))
      let size := platform.byteLength source.body
      refuseIf (options.maxFiles < files.length + 1)
        "Checkpoint file count exceeds the configured limit."
      refuseIf (options.maxBytes < totalBytes + size)
        "Checkpoint byte size exceeds the configured limit."
      refuseIf (options.maxFiles < totals.files + 1)
        "Checkpoint file count exceeds the configured limit."
      refuseIf (options.maxBytes < totals.bytes + size)
        "Checkpoint byte size exceeds the configured limit."
      let updatedAt ← orThrow (platform.isoString source.mtime) "Invalid time value"
      collectVisited rootPath rest
        (files ++ [{
          relativePath, size
          mode := some (source.mode &&& 0o777)
          updatedAt := some updatedAt
          body := source.body }])
        (totalBytes + size) ⟨totals.files + 1, totals.bytes + size⟩

def collectRootFiles (files : FileSystem Body) (root : WorkspaceCheckpointRoot)
    (totals : CheckpointTotals) :
    Except String (List (CollectedFile Body) × CheckpointTotals) :=
  match files.lstat root.path with
  | none =>
    if root.required = some true then
      .error ("ENOENT: no such file or directory, lstat '" ++
        WorkspaceCheckpointRoot.pathText root.path ++ "'")
    else .ok ([], totals)
  | some .link => .error ("Checkpoint root " ++ WorkspaceCheckpointRoot.pathText root.path ++
      " must not be a symlink.")
  | some (.directory entries) =>
    platform.collectVisited options root.path (platform.visit (.directory entries)) [] 0 totals
  | some _ => .error ("Checkpoint root " ++ WorkspaceCheckpointRoot.pathText root.path ++
      " must be a directory.")

end CheckpointPlatform

/-! ## Saving -/

structure SaveSessionCheckpointInput where
  (tenantId sessionId : String)
  checkpointId : Option String := none
  checkpointVersion : Option ℚ := none
  roots : List WorkspaceCheckpointRoot
  now : Option Instant := none

/-- What a save has settled before it touches a file. -/
structure CheckpointHeader where
  ids : CheckpointIds
  (createdAt manifestKey latestKey : String)
  roots : List WorkspaceCheckpointRoot

namespace CheckpointPlatform

variable {Body : Type} (platform : CheckpointPlatform Body) (options : WorkspaceCheckpointOptions)

def prepareSave (input : SaveSessionCheckpointInput) (randomUUID : String) (dateNow : Instant) :
    Except String CheckpointHeader := do
  let tenantId ← assertCloudId input.tenantId "tenantId"
  let sessionId ← assertCloudId input.sessionId "sessionId"
  let checkpointId ← assertCloudId (textOr input.checkpointId randomUUID) "checkpointId"
  refuseIf (options.secretAdapter ≠ some .envelopeV1)
    "Checkpoint saves require an envelope-encrypted SecretAdapter."
  let createdAt ← orThrow (platform.isoString (input.now.getD dateNow)) "Invalid time value"
  let ids : CheckpointIds := ⟨tenantId, sessionId, checkpointId⟩
  let manifestKey ← platform.sessionCheckpointManifestKey ids
  let latestKey ← platform.sessionCheckpointLatestKey tenantId sessionId
  let roots ← normalizeRoots input.roots
  return ⟨ids, createdAt, manifestKey, latestKey, roots⟩

def storedBody (ids : CheckpointIds) (rootId : String) (file : CollectedFile Body) : Body :=
  platform.protect file.body (secretContext ids rootId file.relativePath)

def checkpointEntry (ids : CheckpointIds) (root : WorkspaceCheckpointRoot)
    (file : CollectedFile Body) (objectKey : String) : WorkspaceCheckpointEntry where
  rootId := root.rootId
  kind := root.kind
  relativePath := file.relativePath
  objectKey := objectKey
  size := file.size
  storedSize := platform.byteLength (platform.storedBody ids root.rootId file)
  sha256 := platform.sha256 file.body
  mode := file.mode
  secretBearing := true
  encrypted := true
  updatedAt := file.updatedAt

def saveFiles (ids : CheckpointIds) (root : WorkspaceCheckpointRoot) :
    List (CollectedFile Body) → List WorkspaceCheckpointEntry → ObjectStore Body →
      Except String (List WorkspaceCheckpointEntry) × ObjectStore Body
  | [], entries, objects => (.ok entries, objects)
  | file :: rest, entries, objects =>
    match platform.checkpointFileObjectKey ids root.rootId file.relativePath with
    | .error thrown => (.error thrown, objects)
    | .ok objectKey =>
      saveFiles ids root rest
        (entries ++ [platform.checkpointEntry ids root file objectKey])
        (objects.set objectKey (platform.storedBody ids root.rootId file))

def saveRoots (ids : CheckpointIds) (files : FileSystem Body) :
    List WorkspaceCheckpointRoot → CheckpointTotals → List WorkspaceCheckpointEntry →
      ObjectStore Body → Except String (List WorkspaceCheckpointEntry) × ObjectStore Body
  | [], _, entries, objects => (.ok entries, objects)
  | root :: rest, totals, entries, objects =>
    match platform.collectRootFiles options files root totals with
    | .error thrown => (.error thrown, objects)
    | .ok (collected, totals) =>
      match platform.saveFiles ids root collected entries objects with
      | (.error thrown, objects) => (.error thrown, objects)
      | (.ok entries, objects) => saveRoots ids files rest totals entries objects

def checkpointManifest (header : CheckpointHeader) (checkpointVersion : Option ℚ)
    (entries : List WorkspaceCheckpointEntry) : WorkspaceCheckpointManifest where
  tenantId := header.ids.tenantId
  sessionId := header.ids.sessionId
  checkpointId := header.ids.checkpointId
  checkpointVersion := checkpointVersion
  createdAt := header.createdAt
  manifestKey := header.manifestKey
  latestKey := header.latestKey
  roots := header.roots.map fun root => ⟨root.rootId, root.kind, root.required == some true, true⟩
  entries := entries

/-- The files go first, then the manifest under its own key, then as the latest one. -/
def saveSessionCheckpoint (files : FileSystem Body) (input : SaveSessionCheckpointInput)
    (randomUUID : String) (dateNow : Instant) (objects : ObjectStore Body) :
    Except String WorkspaceCheckpointManifest × ObjectStore Body :=
  match platform.prepareSave options input randomUUID dateNow with
  | .error thrown => (.error thrown, objects)
  | .ok header =>
    match platform.saveRoots options header.ids files header.roots ⟨0, 0⟩ [] objects with
    | (.error thrown, objects) => (.error thrown, objects)
    | (.ok entries, objects) =>
      let manifest := checkpointManifest header input.checkpointVersion entries
      let body := platform.jsonBody manifest.toJson
      (.ok manifest, (objects.set header.manifestKey body).set header.latestKey body)

end CheckpointPlatform

/-! ## Reading -/

structure ReadSessionCheckpointInput where
  (tenantId sessionId : String)
  checkpointId : Option String := none
  manifestKey : Option String := none

def firstObject {Body : Type} (objects : ObjectStore Body) :
    List String → Option (String × Body)
  | [] => none
  | key :: rest =>
    match objects.get key with
    | some body => some (key, body)
    | none => firstObject objects rest

namespace CheckpointPlatform

variable {Body : Type} (platform : CheckpointPlatform Body) (options : WorkspaceCheckpointOptions)

/-- The keys to look under, of the current and of the legacy layout. -/
def manifestKeys (tenantId sessionId : String) (checkpointId manifestKey : Option String) :
    Except String (List String) :=
  match manifestKey, checkpointId with
  | some key, _ => do return [← assertSafeObjectKey key]
  | none, some checkpointId => do
      let current ← platform.sessionCheckpointManifestKey ⟨tenantId, sessionId, checkpointId⟩
      let legacy ← platform.legacySessionCheckpointManifestKey ⟨tenantId, sessionId, checkpointId⟩
      return [current, legacy]
  | none, none => do
      let current ← platform.sessionCheckpointLatestKey tenantId sessionId
      let legacy ← platform.legacySessionCheckpointLatestKey tenantId sessionId
      return [current, legacy]

def requestedCheckpoint (checkpointId : Option String) : Except String (Option String) :=
  match truthyText checkpointId with
  | some text => do return some (← assertCloudId text "checkpointId")
  | none => .ok none

def checkManifest (input : ReadSessionCheckpointInput) (objectKey : String) (body : Body) :
    Except String WorkspaceCheckpointManifest := do
  let manifest ← platform.parseManifest body options.maxFiles
  platform.validateManifestForRequest manifest input.tenantId input.sessionId options
  refuseIf (∃ checkpointId ∈ truthyText input.checkpointId, manifest.checkpointId ≠ checkpointId)
    "Checkpoint manifest ID does not match the requested checkpoint."
  refuseIf ((truthyText input.manifestKey).isSome = true ∧ objectKey ≠ manifest.manifestKey ∧
      objectKey ≠ manifest.latestKey)
    "Checkpoint manifest was read from an unexpected object key."
  return manifest

def readSessionCheckpoint (objects : ObjectStore Body) (input : ReadSessionCheckpointInput) :
    Except String (Option WorkspaceCheckpointManifest) := do
  let tenantId ← assertCloudId input.tenantId "tenantId"
  let sessionId ← assertCloudId input.sessionId "sessionId"
  let checkpointId ← requestedCheckpoint input.checkpointId
  let keys ← platform.manifestKeys tenantId sessionId checkpointId (truthyText input.manifestKey)
  match firstObject objects keys with
  | none => return none
  | some (objectKey, body) => return some (← platform.checkManifest options input objectKey body)

end CheckpointPlatform

/-! ## Restoring -/

structure StagedFile (Body : Type) where
  body : Body
  mode : Nat
  updatedAt : Option String

/-- The directory of each root while it is restored. -/
abbrev RestoreStages (Body : Type) := OrderedMap String (NewFiles String (StagedFile Body))

/-- The answer of a restore, with the directories that now stand at the roots' paths. -/
structure WorkspaceCheckpointRestore (Body : Type) where
  manifest : WorkspaceCheckpointManifest
  restoredEntries : Nat
  directories : List (List String × NewFiles String (StagedFile Body))

def matchRestoreRoots (roots : List WorkspaceCheckpointRoot) :
    List WorkspaceCheckpointManifestRoot → Except String Unit
  | [] => .ok ()
  | manifestRoot :: rest => do
      let root ← orThrow (roots.find? fun root => root.rootId = manifestRoot.rootId)
        ("No restore root was provided for checkpoint root " ++ manifestRoot.rootId ++ ".")
      refuseIf (root.kind ≠ manifestRoot.kind)
        ("Restore root kind does not match checkpoint root " ++ manifestRoot.rootId ++ ".")
      matchRestoreRoots roots rest

def validateRestoreRoots (inputRoots : List WorkspaceCheckpointRoot)
    (manifest : WorkspaceCheckpointManifest) : Except String (List WorkspaceCheckpointRoot) := do
  let roots ← normalizeRoots inputRoots
  refuseIf (roots.length ≠ manifest.roots.length)
    "Restore roots do not exactly match the checkpoint manifest."
  matchRestoreRoots roots manifest.roots
  return roots

/-- A directory is staged for each root, whose own path must hold a directory or nothing. -/
def stageRoots {Body : Type} (files : FileSystem Body) :
    List WorkspaceCheckpointRoot → RestoreStages Body → Except String (RestoreStages Body)
  | [], stages => .ok stages
  | root :: rest, stages =>
    match files.lstat root.path with
    | some .link => .error ("Checkpoint restore root must not be a symlink: " ++
        WorkspaceCheckpointRoot.pathText root.path)
    | none => stageRoots files rest (stages.set root.rootId [])
    | some (.directory _) => stageRoots files rest (stages.set root.rootId [])
    | some _ => .error ("Checkpoint restore root must be a directory: " ++
        WorkspaceCheckpointRoot.pathText root.path)

/-- The names that lead from a root to a file of its. -/
def resolveInside (relativePath : String) : Except String (List String) := do
  return Text.segments (← normalizeRelativePath relativePath)

namespace CheckpointPlatform

variable {Body : Type} (platform : CheckpointPlatform Body) (options : WorkspaceCheckpointOptions)

/-- The content of a stored file. -/
def revealEntry (ids : CheckpointIds) (entry : WorkspaceCheckpointEntry) (object : Body) :
    Except String Body :=
  if entry.encrypted = true then do
    refuseIf (options.secretAdapter = none)
      "Encrypted checkpoint entries require a SecretAdapter."
    platform.reveal object (secretContext ids entry.rootId entry.relativePath)
  else .ok object

/-- The content of an entry's file, if it is found as it was saved. -/
def retrieveEntry (ids : CheckpointIds) (objects : ObjectStore Body)
    (entry : WorkspaceCheckpointEntry) : Except String Body := do
  let object ← orThrow (objects.get entry.objectKey)
    ("Checkpoint object is missing: " ++ entry.objectKey)
  refuseIf (platform.byteLength object ≠ entry.storedSize)
    ("Checkpoint stored size mismatch for " ++ entry.rootId ++ "/" ++ entry.relativePath ++ ".")
  let body ← platform.revealEntry options ids entry object
  refuseIf (platform.byteLength body ≠ entry.size)
    ("Checkpoint object size mismatch for " ++ entry.rootId ++ "/" ++ entry.relativePath ++ ".")
  refuseIf (platform.sha256 body ≠ entry.sha256)
    ("Checkpoint object hash mismatch for " ++ entry.rootId ++ "/" ++ entry.relativePath ++ ".")
  return body

def restoreEntry (ids : CheckpointIds) (objects : ObjectStore Body)
    (stages : RestoreStages Body) (entry : WorkspaceCheckpointEntry) :
    Except String (RestoreStages Body) := do
  let stage ← orThrow (stages.get entry.rootId) "Cannot read properties of undefined"
  let body ← platform.retrieveEntry options ids objects entry
  let path ← resolveInside entry.relativePath
  let stage ← orThrow (stage.create path ⟨body, entry.mode.getD 0o600, entry.updatedAt⟩)
    "EEXIST: file already exists"
  return stages.set entry.rootId stage

def restoreEntries (ids : CheckpointIds) (objects : ObjectStore Body) :
    List WorkspaceCheckpointEntry → RestoreStages Body → Except String (RestoreStages Body)
  | [], stages => .ok stages
  | entry :: rest, stages => do
      let stages ← platform.restoreEntry options ids objects stages entry
      restoreEntries ids objects rest stages

def restoreSessionCheckpoint (files : FileSystem Body) (objects : ObjectStore Body)
    (input : ReadSessionCheckpointInput) (inputRoots : List WorkspaceCheckpointRoot) :
    Except String (WorkspaceCheckpointRestore Body) := do
  let tenantId ← assertCloudId input.tenantId "tenantId"
  let sessionId ← assertCloudId input.sessionId "sessionId"
  let found ← platform.readSessionCheckpoint options objects input
  let manifest ← orThrow found "Checkpoint manifest was not found."
  let roots ← validateRestoreRoots inputRoots manifest
  let stages ← stageRoots files (manifest.roots.filterMap fun manifestRoot =>
    roots.find? fun root => root.rootId = manifestRoot.rootId) OrderedMap.empty
  let stages ← platform.restoreEntries options ⟨tenantId, sessionId, manifest.checkpointId⟩
    objects manifest.entries stages
  return {
    manifest
    restoredEntries := manifest.entries.length
    directories := roots.map fun root => (root.path, (stages.get root.rootId).getD []) }

end CheckpointPlatform

end OpenCowork.ControlPlane
