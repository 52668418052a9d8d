import OpenCowork.ControlPlane.Workspaces.CheckpointKeys
import OpenCowork.ControlPlane.Workspaces.CheckpointRestores

/-! # Checkpoints round-trip

A workspace that was saved is found again by each way of asking for its checkpoint, and is
restored with the same files, exactly if no name on a file's path holds a backslash or is
no UTF-8, no two files share an object key, the manifest's text keeps within the limit, its
version counts, and the legacy keys of the checkpoint can be spelt out.
-/

namespace OpenCowork.ControlPlane

open Foundation OrderedMap

def FileSystem.workspaceFiles {Body : Type} (files : FileSystem Body) (path : List String) :
    List (List FileName × SourceFile Body) :=
  match files.lstat path with
  | some tree => tree.files
  | none => []

def FileSystem.MayTake {Body : Type} (files : FileSystem Body) (path : List String) : Prop :=
  files.lstat path = none ∨ ∃ entries, files.lstat path = some (.directory entries)

def SameFiles {Body : Type} (directory : NewFiles String (StagedFile Body))
    (sources : List (List FileName × SourceFile Body)) : Prop :=
  ∀ (path : List ByteArray) (body : Body),
    (∃ staged ∈ directory, staged.1.map String.toUTF8 = path ∧ staged.2.body = body) ↔
      ∃ source ∈ sources, source.1.map FileName.bytes = path ∧ source.2.body = body

/-- A request that asks for a saved checkpoint: as the latest of its session, by its id, or
by one of its keys. -/
structure ReadSessionCheckpointInput.Names (request : ReadSessionCheckpointInput)
    (manifest : WorkspaceCheckpointManifest) : Prop where
  tenantId : request.tenantId = manifest.tenantId
  sessionId : request.sessionId = manifest.sessionId
  checkpointId : request.checkpointId = none ∨ request.checkpointId = some manifest.checkpointId
  manifestKey : request.manifestKey = none ∨ request.manifestKey = some manifest.manifestKey ∨
    request.manifestKey = some manifest.latestKey

/-- A restore put a directory at the path of each root, with the files that were there when
the checkpoint was saved. -/
structure WorkspaceCheckpointRestore.Recreates {Body : Type}
    (restore : WorkspaceCheckpointRestore Body) (files : FileSystem Body)
    (roots : List WorkspaceCheckpointRoot) : Prop where
  places : restore.directories.map Prod.fst = roots.map WorkspaceCheckpointRoot.path
  same : ∀ root ∈ roots, ∀ directory, (root.path, directory) ∈ restore.directories →
    SameFiles directory (files.workspaceFiles root.path)

namespace CheckpointPlatform

variable {Body : Type} (platform : CheckpointPlatform Body) (options : WorkspaceCheckpointOptions)

/-- A saved checkpoint is read as it was written, and restores what was saved. -/
structure RoundTrips (files : FileSystem Body) (roots : List WorkspaceCheckpointRoot)
    (manifest : WorkspaceCheckpointManifest) (objects : ObjectStore Body) : Prop where
  read : ∀ request : ReadSessionCheckpointInput, request.Names manifest →
    platform.readSessionCheckpoint options objects request = .ok (some manifest)
  restored : ∀ request : ReadSessionCheckpointInput, request.Names manifest →
    ∀ target : FileSystem Body, (∀ root ∈ roots, target.MayTake root.path) →
      ∃ restore, platform.restoreSessionCheckpoint options target objects request roots =
        .ok restore ∧ restore.Recreates files roots

structure Restorable (files : FileSystem Body) (input : SaveSessionCheckpointInput)
    (header : CheckpointHeader) : Prop where
  names : ∀ root ∈ input.roots, ∀ file ∈ files.workspaceFiles root.path,
    ∃ path : List String, file.1.map FileName.bytes = path.map String.toUTF8 ∧
      ∀ name ∈ path, '\\' ∉ name.toList
  keys : ((platform.savedFiles files header.roots).map fun saved =>
    platform.checkpointFileObjectKey header.ids saved.1.rootId saved.2.relativePath).Nodup
  fits : platform.byteLength (platform.jsonBody (checkpointManifest header
    input.checkpointVersion (platform.savedEntries header.ids files header.roots)).toJson) ≤
      maxManifestBytes
  version : ∀ version ∈ input.checkpointVersion, isCount maxSafeInteger version
  legacyManifestKey : (platform.legacySessionCheckpointManifestKey header.ids).isOk = true
  legacyLatestKey : (platform.legacySessionCheckpointLatestKey header.ids.tenantId
    header.ids.sessionId).isOk = true

section SavedFiles

variable {files : FileSystem Body} {rootPath : List String}

theorem mem_savedFiles {roots : List WorkspaceCheckpointRoot}
    {saved : WorkspaceCheckpointRoot × CollectedFile Body} :
    saved ∈ platform.savedFiles files roots ↔
      saved.1 ∈ roots ∧ ∃ path source,
        .file path source ∈ platform.rootVisits files saved.1.path ∧
          platform.collectedFile path source = saved.2 := by
  unfold savedFiles
  rw [List.mem_flatMap]
  constructor
  · rintro ⟨_, hroot, hmem⟩
    obtain ⟨file, hfile, rfl⟩ := List.mem_map.mp hmem
    obtain ⟨seen, hseen, hcollected⟩ := List.mem_filterMap.mp hfile
    cases seen with
    | missing => cases hcollected
    | file path source => exact ⟨hroot, path, source, hseen, Option.some.inj hcollected⟩
  · rintro ⟨hroot, _, _, hseen, hfile⟩
    refine ⟨saved.1, hroot, List.mem_map.mpr ⟨saved.2, ?_, rfl⟩⟩
    exact List.mem_filterMap.mpr ⟨_, hseen, congrArg some hfile⟩

theorem workspaceFiles_of_visited {path : List String} {source : SourceFile Body}
    (hvisited : .file path source ∈ platform.rootVisits files rootPath) :
    ∃ names, (names, source) ∈ files.workspaceFiles rootPath ∧
      names.map FileName.bytes = path.map String.toUTF8 := by
  unfold rootVisits at hvisited
  unfold FileSystem.workspaceFiles
  cases hplace : files.lstat rootPath with
  | none =>
    rw [hplace] at hvisited
    exact absurd hvisited List.not_mem_nil
  | some tree =>
    rw [hplace] at hvisited
    cases tree with
    | directory => exact platform.files_of_visit hvisited
    | file | link | special => exact absurd hvisited List.not_mem_nil

theorem workspaceFiles_incomparable {path rest : List FileName} {source other : SourceFile Body}
    (hfile : (path, source) ∈ files.workspaceFiles rootPath)
    (hbelow : (path ++ rest, other) ∈ files.workspaceFiles rootPath) : rest = [] := by
  unfold FileSystem.workspaceFiles at hfile hbelow
  cases hplace : files.lstat rootPath with
  | none =>
    rw [hplace] at hfile
    exact absurd hfile List.not_mem_nil
  | some =>
    rw [hplace] at hfile hbelow
    exact (FileTree.files_incomparable (files.distinct _ _ hplace) hfile hbelow).1

end SavedFiles

section

variable {platform options} {files : FileSystem Body} {input : SaveSessionCheckpointInput}
  {header : CheckpointHeader} {objects after : ObjectStore Body}
  {manifest : WorkspaceCheckpointManifest} {root : WorkspaceCheckpointRoot}

section Visited

variable (hsaved : platform.CheckpointSaved options files input header objects manifest after)
include hsaved

theorem CheckpointSaved.root_of_mem (hroot : root ∈ header.roots) :
    ∃ given ∈ input.roots, given.path = root.path ∧ given.rootId = root.rootId := by
  obtain ⟨hroots, _⟩ := normalizeRoots_eq_ok hsaved.prepared.roots
  rw [hroots] at hroot
  obtain ⟨given, hgiven, rfl⟩ := List.mem_map.mp hroot
  exact ⟨given, hgiven, rfl, rfl⟩

theorem segments_of_visited
    (hnames : ∀ root ∈ input.roots, ∀ file ∈ files.workspaceFiles root.path,
      ∃ path : List String, file.1.map FileName.bytes = path.map String.toUTF8 ∧
        ∀ name ∈ path, '\\' ∉ name.toList) (hroot : root ∈ header.roots) {path : List String}
    {source : SourceFile Body}
    (hvisited : .file path source ∈ platform.rootVisits files root.path) :
    Text.segments (platform.collectedFile path source).relativePath = path := by
  obtain ⟨names, hfile, hspelt⟩ := platform.workspaceFiles_of_visited hvisited
  obtain ⟨given, hgiven, hplace, _⟩ := hsaved.root_of_mem hroot
  obtain ⟨texts, htexts, hplain⟩ := hnames given hgiven _ (hplace ▸ hfile)
  -- the texts that the visit read are the ones that spell the names
  obtain rfl : texts = path := by
    apply List.map_injective_iff.mpr (fun _ _ => String.toByteArray_inj.mp)
    exact htexts.symm.trans hspelt
  have hcanonical := (hsaved.roots root hroot).canonical texts source hvisited
  have hnonempty := normalizeRelativePath_ne_empty hcanonical
  rw [collectedFile,
    Text.slashed_of_not_mem (Text.backslash_not_mem_joinPath hplain)] at hnonempty ⊢
  apply Text.segments_joinPath
  · rintro rfl
    exact hnonempty rfl
  · intro text htext hslash
    have hbytes : text.toUTF8 ∈ texts.map String.toUTF8 := List.mem_map_of_mem htext
    rw [← hspelt] at hbytes
    obtain ⟨_, _, hname⟩ := List.mem_map.mp hbytes
    exact FileName.slash_not_mem hname hslash

theorem CheckpointSaved.rootIds_nodup :
    (header.roots.map WorkspaceCheckpointRoot.rootId).Nodup := by
  obtain ⟨hroots, htaken⟩ := normalizeRoots_eq_ok hsaved.prepared.roots
  rw [hroots, List.map_map]
  exact htaken.distinct

theorem relativePath_eq_of_prefix
    (hnames : ∀ root ∈ input.roots, ∀ file ∈ files.workspaceFiles root.path,
      ∃ path : List String, file.1.map FileName.bytes = path.map String.toUTF8 ∧
        ∀ name ∈ path, '\\' ∉ name.toList)
    {left right : WorkspaceCheckpointRoot × CollectedFile Body}
    (hleft : left ∈ platform.savedFiles files header.roots)
    (hright : right ∈ platform.savedFiles files header.roots)
    (hroot : left.1.rootId = right.1.rootId)
    (hbelow : Text.segments left.2.relativePath <+: Text.segments right.2.relativePath) :
    left.2.relativePath = right.2.relativePath := by
  obtain ⟨leftRoot, _⟩ := left
  obtain ⟨rightRoot, _⟩ := right
  obtain ⟨hleftRoot, _, _, hvisited, rfl⟩ := platform.mem_savedFiles.mp hleft
  obtain ⟨hrightRoot, _, _, hrightVisited, rfl⟩ := platform.mem_savedFiles.mp hright
  obtain rfl : leftRoot = rightRoot :=
    List.inj_on_of_nodup_map hsaved.rootIds_nodup hleftRoot hrightRoot hroot
  rw [segments_of_visited hsaved hnames hleftRoot hvisited,
    segments_of_visited hsaved hnames hleftRoot hrightVisited] at hbelow
  obtain ⟨_, rfl⟩ := hbelow
  obtain ⟨names, hfile, hspelt⟩ := platform.workspaceFiles_of_visited hvisited
  obtain ⟨_, hother, hlonger⟩ := platform.workspaceFiles_of_visited hrightVisited
  rw [List.map_append, List.map_eq_append_iff] at hlonger
  obtain ⟨upper, _, rfl, hupper, hlower⟩ := hlonger
  obtain rfl : upper = names := by
    apply List.map_injective_iff.mpr (fun _ _ => FileName.bytes_injective)
    exact hupper.trans hspelt.symm
  obtain rfl := workspaceFiles_incomparable hfile hother
  rw [List.map_nil, eq_comm, List.map_eq_nil_iff] at hlower
  rw [hlower, List.append_nil]
  rfl

theorem savedFiles_incomparable (hrestorable : platform.Restorable files input header) :
    (platform.savedFiles files header.roots).Pairwise fun left right =>
      left.1.rootId = right.1.rootId → Incomparable (Text.segments left.2.relativePath)
        (Text.segments right.2.relativePath) := by
  have hkeys := hrestorable.keys
  rw [List.Nodup, List.pairwise_map] at hkeys
  apply hkeys.imp_of_mem
  intro _ _ hleft hright hne hroot
  constructor
  · intro hbelow
    exact hne (by rw [hroot, relativePath_eq_of_prefix hsaved hrestorable.names hleft hright hroot
      hbelow])
  · intro hbelow
    exact hne (by rw [hroot, relativePath_eq_of_prefix hsaved hrestorable.names hright hleft
      hroot.symm hbelow])

end Visited

section Manifests

variable {saved : WorkspaceCheckpointRoot × CollectedFile Body}
variable (hsaved : platform.CheckpointSaved options files input header objects manifest after)
include hsaved

theorem CheckpointSaved.manifestRoots_nodup :
    (manifest.roots.map WorkspaceCheckpointManifestRoot.rootId).Nodup := by
  have hrootIds := hsaved.rootIds_nodup
  rw [hsaved.manifest_eq, checkpointManifest, List.map_map]
  exact hrootIds

theorem CheckpointSaved.find_manifestRoot (hroot : root ∈ header.roots) :
    manifest.roots.find? (fun found => found.rootId = root.rootId) =
      some ⟨root.rootId, root.kind, root.required == some true, true⟩ := by
  have hdistinct := hsaved.manifestRoots_nodup
  rw [hsaved.manifest_eq] at hdistinct ⊢
  exact find?_key_of_mem hdistinct (List.mem_map.mpr ⟨root, hroot, rfl⟩)

theorem CheckpointSaved.rootId_checked (hroot : root ∈ header.roots) :
    '\x00' ∉ root.rootId.toList ∧
      ∀ label, assertCloudId root.rootId label = .ok root.rootId := by
  obtain ⟨_, htaken⟩ := normalizeRoots_eq_ok hsaved.prepared.roots
  obtain ⟨given, hgiven, _, hid⟩ := hsaved.root_of_mem hroot
  exact hid ▸ htaken.ids given hgiven

variable (hmem : saved ∈ platform.savedFiles files header.roots)
include hmem

theorem savedEntry_valid :
    (platform.savedEntry header.ids saved.1 saved.2).Valid platform manifest.roots := by
  obtain ⟨root, _⟩ := saved
  obtain ⟨hroot, path, source, hvisited, rfl⟩ := platform.mem_savedFiles.mp hmem
  have hrootSaved := hsaved.roots root hroot
  constructor
  · exact (hsaved.rootId_checked hroot).2 _
  · exact ⟨_, hsaved.find_manifestRoot hroot, rfl⟩
  · exact hrootSaved.canonical path source hvisited
  · exact platform.objectKey_eq_ok (.file _ _ _) (hrootSaved.keyed path source hvisited)
  · exact platform.isDigest_sha256 _
  · rintro _ ⟨⟩
    exact Nat.and_le_right
  · exact platform.byteLength_le _
  · exact platform.byteLength_le _
  · intro text htext
    exact platform.isDate_isoString source.mtime text htext

theorem savedFile_key :
    platform.checkpointFileObjectKey header.ids saved.1.rootId saved.2.relativePath =
      .ok (platform.fileKey header.ids saved.1.rootId saved.2.relativePath) := by
  obtain ⟨root, _⟩ := saved
  obtain ⟨hroot, path, source, hvisited, rfl⟩ := platform.mem_savedFiles.mp hmem
  exact (hsaved.roots root hroot).keyed path source hvisited

omit hmem

theorem CheckpointSaved.ids_eq :
    (⟨manifest.tenantId, manifest.sessionId, manifest.checkpointId⟩ : CheckpointIds) =
      header.ids := by
  rw [hsaved.manifest_eq]
  rfl

theorem CheckpointSaved.entries_eq :
    manifest.entries = platform.savedEntries header.ids files header.roots := by
  rw [hsaved.manifest_eq]
  rfl

theorem savedManifest_valid (hrestorable : platform.Restorable files input header) :
    manifest.Valid platform options.maxFiles := by
  have hrootsDistinct := hsaved.manifestRoots_nodup
  obtain ⟨hroots, htaken⟩ := normalizeRoots_eq_ok hsaved.prepared.roots
  have hprepared := hsaved.prepared
  have hmanifest := hsaved.manifest_eq
  constructor
  · rw [hmanifest]
    exact hprepared.tenantId _
  · rw [hmanifest]
    exact hprepared.sessionId _
  · rw [hmanifest]
    exact hprepared.checkpointId _
  · rw [hmanifest]
    exact hrestorable.version
  · rw [hmanifest]
    exact hprepared.createdAt
  · rw [hmanifest]
    exact platform.objectKey_eq_ok (.manifest _) hprepared.manifestKey
  · rw [hmanifest]
    exact platform.objectKey_eq_ok (.latest _ _) hprepared.latestKey
  · rw [hmanifest, checkpointManifest, List.length_map, hroots, List.length_map]
    exact htaken.count
  · rw [hmanifest]
    intro _ hfound
    obtain ⟨_, hroot, rfl⟩ := List.mem_map.mp hfound
    exact (hsaved.rootId_checked hroot).2 _
  · exact hrootsDistinct
  · rw [hmanifest, checkpointManifest, savedEntries, List.length_map]
    exact hsaved.count
  · intro _ hentry
    rw [hmanifest] at hentry
    obtain ⟨saved, hmem, rfl⟩ := List.mem_map.mp hentry
    exact savedEntry_valid hsaved hmem
  · rw [hmanifest, checkpointManifest, savedEntries, List.map_map]
    apply nodup_map_of_determines hrestorable.keys
    intro saved hmem other hother hsame
    -- an id and a path are joined by NUL, which is in neither
    have hleft := hsaved.rootId_checked (platform.mem_savedFiles.mp hmem).1
    have hright := hsaved.rootId_checked (platform.mem_savedFiles.mp hother).1
    obtain ⟨hid, hpath⟩ : saved.1.rootId = other.1.rootId ∧
        saved.2.relativePath = other.2.relativePath := key_inj hleft.1 hright.1 hsame
    rw [hid, hpath]
  · rw [hmanifest, checkpointManifest, savedEntries, List.map_map]
    apply nodup_map_of_determines hrestorable.keys
    intro saved hmem other hother hsame
    rw [savedFile_key hsaved hmem, savedFile_key hsaved hother]
    exact congrArg Except.ok hsame

theorem savedManifest_accepted (hrestorable : platform.Restorable files input header) :
    platform.validateManifestForRequest manifest manifest.tenantId manifest.sessionId options =
      .ok () := by
  have hids := hsaved.ids_eq
  have hentries := hsaved.entries_eq
  apply validateManifestForRequest_of_current rfl rfl
  · rw [hids, hsaved.prepared.manifestKey, hsaved.manifest_eq]
    rfl
  · rw [show manifest.tenantId = header.ids.tenantId from congrArg CheckpointIds.tenantId hids,
      show manifest.sessionId = header.ids.sessionId from congrArg CheckpointIds.sessionId hids,
      hsaved.prepared.latestKey, hsaved.manifest_eq]
    rfl
  · rw [hids]
    exact hrestorable.legacyManifestKey
  · rw [show manifest.tenantId = header.ids.tenantId from congrArg CheckpointIds.tenantId hids,
      show manifest.sessionId = header.ids.sessionId from congrArg CheckpointIds.sessionId hids]
    exact hrestorable.legacyLatestKey
  · rw [hentries, savedEntries, List.length_map]
    exact hsaved.count
  · rw [hids, hentries]
    intro _ hentry
    obtain ⟨_, hmem, rfl⟩ := List.mem_map.mp hentry
    exact savedFile_key hsaved hmem
  · rw [hentries, savedEntries, List.map_map]
    exact hsaved.bytes

end Manifests

section Reading

variable {request : ReadSessionCheckpointInput}

theorem truthyText_of_ne {text : String} (hne : text ≠ "") : truthyText (some text) =
    some text := by
  simp [truthyText, hne]

theorem firstObject_cons {key : String} {body : Body} (hkey : after.get key = some body)
    (rest : List String) : firstObject after (key :: rest) = some (key, body) := by
  rw [firstObject, hkey]

variable (hsaved : platform.CheckpointSaved options files input header objects manifest after)
include hsaved

theorem CheckpointSaved.manifestObjects :
    after.get manifest.manifestKey = some (platform.jsonBody manifest.toJson) ∧
      after.get manifest.latestKey = some (platform.jsonBody manifest.toJson) := by
  have hkey : manifest.manifestKey = header.manifestKey := by rw [hsaved.manifest_eq]; rfl
  have hlatest : manifest.latestKey = header.latestKey := by rw [hsaved.manifest_eq]; rfl
  rw [hkey, hlatest, hsaved.objects, get_set, get_set, get_set_self]
  refine ⟨?_, rfl⟩
  split
  · rfl
  · exact if_pos rfl

variable (hrestorable : platform.Restorable files input header)
include hrestorable

theorem savedObject_found {saved : WorkspaceCheckpointRoot × CollectedFile Body}
    (hmem : saved ∈ platform.savedFiles files header.roots) :
    after.get (platform.fileKey header.ids saved.1.rootId saved.2.relativePath) =
      some (platform.storedBody header.ids saved.1.rootId saved.2) := by
  obtain ⟨hmanifest, hlatest⟩ := platform.checkpointFileObjectKey_ne (savedFile_key hsaved hmem)
  rw [hsaved.prepared.manifestKey, Ne, Except.ok.injEq] at hmanifest
  rw [hsaved.prepared.latestKey, Ne, Except.ok.injEq] at hlatest
  rw [hsaved.objects, get_set_of_ne _ _ hlatest, get_set_of_ne _ _ hmanifest]
  apply get_setAll_of_mem
  · rw [savedObjects, List.map_map]
    apply nodup_map_of_determines hrestorable.keys
    intro _ hone _ hother hsame
    rw [savedFile_key hsaved hone, savedFile_key hsaved hother]
    exact congrArg Except.ok hsame
  · exact List.mem_map.mpr ⟨saved, hmem, rfl⟩

variable (hnames : request.Names manifest)
include hnames

omit hrestorable in
theorem requestedCheckpoint_saved :
    requestedCheckpoint request.checkpointId = .ok request.checkpointId := by
  rcases hnames.checkpointId with hnone | hsome
  · rw [hnone]
    rfl
  · have hchecked := hsaved.prepared.checkpointId "checkpointId"
    rw [show header.ids.checkpointId = manifest.checkpointId from
      (congrArg CheckpointIds.checkpointId hsaved.ids_eq).symm] at hchecked
    rw [hsome, requestedCheckpoint, truthyText_of_ne (assertCloudId_ne_empty hchecked)]
    exact congrArg (fun checked => checked >>= fun text => Except.ok (some text)) hchecked

theorem manifest_found :
    ∃ keys objectKey, platform.manifestKeys request.tenantId request.sessionId
        request.checkpointId (truthyText request.manifestKey) = .ok keys ∧
      firstObject after keys = some (objectKey, platform.jsonBody manifest.toJson) ∧
      (objectKey = manifest.manifestKey ∨ objectKey = manifest.latestKey) := by
  obtain ⟨hmanifestKey, hlatestKey⟩ := hsaved.manifestObjects
  have hmanifest := hsaved.prepared.manifestKey
  have hlatest := hsaved.prepared.latestKey
  have hlegacy := hrestorable.legacyManifestKey
  have hlegacyLatest := hrestorable.legacyLatestKey
  rw [← hsaved.ids_eq] at hmanifest hlatest hlegacy hlegacyLatest
  rw [show header.manifestKey = manifest.manifestKey by rw [hsaved.manifest_eq]; rfl] at hmanifest
  rw [show header.latestKey = manifest.latestKey by rw [hsaved.manifest_eq]; rfl] at hlatest
  -- a key that is given is looked under as it is
  have hgiven : ∀ key, assertSafeObjectKey key = .ok key →
      platform.manifestKeys request.tenantId request.sessionId request.checkpointId
        (truthyText (some key)) = .ok [key] := by
    intro key hkey
    rw [truthyText_of_ne (assertSafeObjectKey_ne_empty hkey), manifestKeys]
    exact congrArg (fun checked => checked >>= fun key => Except.ok [key]) hkey
  rcases hnames.manifestKey with hnone | hkey | hkey
  · rw [hnone, hnames.tenantId, hnames.sessionId]
    rcases hnames.checkpointId with hid | hid
    · obtain ⟨legacy, hlegacyLatest⟩ := isOk_iff.mp hlegacyLatest
      refine ⟨[manifest.latestKey, legacy], manifest.latestKey, ?_,
        firstObject_cons hlatestKey _, .inr rfl⟩
      rw [hid]
      change platform.manifestKeys _ _ none none = _
      rw [manifestKeys, hlatest, ok_bind, hlegacyLatest, ok_bind]
      rfl
    · obtain ⟨legacy, hlegacy⟩ := isOk_iff.mp hlegacy
      refine ⟨[manifest.manifestKey, legacy], manifest.manifestKey, ?_,
        firstObject_cons hmanifestKey _, .inl rfl⟩
      rw [hid]
      change platform.manifestKeys _ _ (some _) none = _
      rw [manifestKeys, hmanifest, ok_bind, hlegacy, ok_bind]
      rfl
  · rw [hkey]
    exact ⟨_, _, hgiven _ (platform.objectKey_eq_ok (.manifest _) hmanifest),
      firstObject_cons hmanifestKey _, .inl rfl⟩
  · rw [hkey]
    exact ⟨_, _, hgiven _ (platform.objectKey_eq_ok (.latest _ _) hlatest),
      firstObject_cons hlatestKey _, .inr rfl⟩

theorem checkManifest_saved {objectKey : String}
    (hkey : objectKey = manifest.manifestKey ∨ objectKey = manifest.latestKey) :
    platform.checkManifest options request objectKey (platform.jsonBody manifest.toJson) =
      .ok manifest := by
  have hfits := hrestorable.fits
  rw [← hsaved.manifest_eq] at hfits
  have hparsed := parseManifest_jsonBody (savedManifest_valid hsaved hrestorable) hfits
  have haccepted := savedManifest_accepted hsaved hrestorable
  rw [← hnames.tenantId, ← hnames.sessionId] at haccepted
  have hrequested : ¬∃ checkpointId ∈ truthyText request.checkpointId,
      manifest.checkpointId ≠ checkpointId := by
    rintro ⟨checkpointId, hmem, hne⟩
    obtain ⟨hgiven, _⟩ := Option.mem_filter_iff.mp hmem
    rcases hnames.checkpointId with hnone | hsome
    · rw [hnone] at hgiven
      cases hgiven
    · rw [hsome] at hgiven
      exact hne (Option.some.inj hgiven)
  have hexpected : ¬((truthyText request.manifestKey).isSome = true ∧
      objectKey ≠ manifest.manifestKey ∧ objectKey ≠ manifest.latestKey) := by
    rintro ⟨_, hmanifest, hlatest⟩
    exact hkey.elim hmanifest hlatest
  unfold checkManifest
  rw [hparsed, ok_bind, haccepted, ok_bind, refuseIf_of_not hrequested, ok_bind,
    refuseIf_of_not hexpected]
  rfl

omit hrestorable in
theorem request_checked :
    assertCloudId request.tenantId "tenantId" = .ok request.tenantId ∧
      assertCloudId request.sessionId "sessionId" = .ok request.sessionId := by
  have htenant := hsaved.prepared.tenantId "tenantId"
  have hsession := hsaved.prepared.sessionId "sessionId"
  rw [← hsaved.ids_eq] at htenant hsession
  rw [hnames.tenantId, hnames.sessionId]
  exact ⟨htenant, hsession⟩

theorem read_saved :
    platform.readSessionCheckpoint options after request = .ok (some manifest) := by
  obtain ⟨_, _, hkeys, hfound, hkey⟩ := manifest_found hsaved hrestorable hnames
  have hrequested := requestedCheckpoint_saved hsaved hnames
  obtain ⟨htenant, hsession⟩ := request_checked hsaved hnames
  unfold readSessionCheckpoint
  rw [htenant, ok_bind, hsession, ok_bind, hrequested, ok_bind, hkeys, ok_bind, hfound]
  exact congrArg (fun read => read >>= fun manifest => Except.ok (some manifest))
    (checkManifest_saved hsaved hrestorable hnames hkey)

end Reading

section Restoring

variable {roots : List WorkspaceCheckpointRoot} {target : FileSystem Body}

theorem sameFiles_of_saved
    (hsaved : platform.CheckpointSaved options files input header objects manifest after)
    (hrestorable : platform.Restorable files input header) (hroot : root ∈ header.roots) :
    SameFiles (stagedFor (platform.savedFiles files header.roots) root.rootId)
      (files.workspaceFiles root.path) := by
  intro _ _
  constructor
  · rintro ⟨_, hstaged, rfl, rfl⟩
    obtain ⟨⟨other, file⟩, hmem, rfl⟩ := List.mem_map.mp hstaged
    obtain ⟨hmem, hid⟩ := List.mem_filter.mp hmem
    obtain ⟨hother, texts, source, hvisited, rfl⟩ := platform.mem_savedFiles.mp hmem
    obtain rfl : other = root := List.inj_on_of_nodup_map hsaved.rootIds_nodup hother hroot
      (of_decide_eq_true hid)
    obtain ⟨names, hfile, hspelt⟩ := platform.workspaceFiles_of_visited hvisited
    have hpath := segments_of_visited hsaved hrestorable.names hroot hvisited
    refine ⟨(names, source), hfile, ?_, ?_⟩
    · rw [stagedFile_path, hpath, hspelt]
    · rw [stagedFile_body, collectedFile]
  · rintro ⟨⟨names, source⟩, hfile, rfl, rfl⟩
    obtain ⟨given, hgiven, hplace, _⟩ := hsaved.root_of_mem hroot
    obtain ⟨texts, htexts, _⟩ := hrestorable.names given hgiven _ (hplace ▸ hfile)
    have hvisited : .file texts source ∈ platform.rootVisits files root.path := by
      unfold FileSystem.workspaceFiles at hfile
      cases htree : files.lstat root.path with
      | none =>
        rw [htree] at hfile
        exact absurd hfile List.not_mem_nil
      | some tree =>
        rw [htree] at hfile
        rw [(hsaved.roots root hroot).place tree htree]
        exact platform.visit_of_files (files.distinct _ _ htree) hfile htexts
    have hpath := segments_of_visited hsaved hrestorable.names hroot hvisited
    refine ⟨stagedFile (platform.collectedFile texts source), ?_, ?_, ?_⟩
    · refine List.mem_map.mpr ⟨(root, platform.collectedFile texts source), ?_, rfl⟩
      rw [List.mem_filter]
      exact ⟨platform.mem_savedFiles.mpr ⟨hroot, texts, source, hvisited, rfl⟩, by simp⟩
    · rw [stagedFile_path, hpath]
      exact htexts.symm
    · rw [stagedFile_body, collectedFile]

theorem matchRestoreRoots_of_found {manifestRoots : List WorkspaceCheckpointManifestRoot}
    (hfound : ∀ manifestRoot ∈ manifestRoots, ∃ root,
      roots.find? (fun root => root.rootId = manifestRoot.rootId) = some root ∧
        root.kind = manifestRoot.kind) :
    matchRestoreRoots roots manifestRoots = .ok () := by
  induction manifestRoots with
  | nil => rfl
  | cons manifestRoot _ ih =>
    obtain ⟨_, hroot, hkind⟩ := hfound manifestRoot (.head _)
    rw [matchRestoreRoots, hroot, orThrow_some, ok_bind,
      refuseIf_of_not (not_not.mpr hkind), ok_bind]
    exact ih fun other hmem => hfound other (.tail _ hmem)

theorem stageRoots_of_mayTake
    (hplaces : ∀ root ∈ roots, target.MayTake root.path) (stages : RestoreStages Body) :
    stageRoots target roots stages =
      .ok (stages.setAll (roots.map fun root => (root.rootId, []))) := by
  induction roots generalizing stages with
  | nil => rfl
  | cons root _ ih =>
    have hrest := ih (fun other hmem => hplaces other (.tail _ hmem)) (stages.set root.rootId [])
    rw [List.map_cons, setAll_cons]
    unfold stageRoots
    rcases hplaces root (.head _) with hnone | ⟨_, hsome⟩
    · rw [hnone]
      exact hrest
    · rw [hsome]
      exact hrest

section

variable (hsaved : platform.CheckpointSaved options files input header objects manifest after)
include hsaved

theorem CheckpointSaved.find_root (hroot : root ∈ header.roots) :
    header.roots.find? (fun found => found.rootId = root.rootId) = some root :=
  find?_key_of_mem hsaved.rootIds_nodup hroot

theorem CheckpointSaved.manifestRoots_eq :
    manifest.roots = header.roots.map fun root =>
      ⟨root.rootId, root.kind, root.required == some true, true⟩ := by
  rw [hsaved.manifest_eq]
  rfl

theorem validateRestoreRoots_saved :
    validateRestoreRoots input.roots manifest = .ok header.roots := by
  have hcount : ¬header.roots.length ≠ manifest.roots.length := by
    rw [hsaved.manifestRoots_eq, List.length_map, not_not]
  have hmatched : matchRestoreRoots header.roots manifest.roots = .ok () := by
    apply matchRestoreRoots_of_found
    rw [hsaved.manifestRoots_eq]
    intro _ hmem
    obtain ⟨root, hroot, rfl⟩ := List.mem_map.mp hmem
    exact ⟨root, hsaved.find_root hroot, rfl⟩
  rw [validateRestoreRoots, hsaved.prepared.roots, ok_bind, refuseIf_of_not hcount, ok_bind,
    hmatched]
  rfl

theorem restoreRoots_saved :
    (manifest.roots.filterMap fun manifestRoot =>
      header.roots.find? fun root => root.rootId = manifestRoot.rootId) = header.roots := by
  rw [hsaved.manifestRoots_eq, List.filterMap_map]
  exact (List.filterMap_congr fun _ hroot => hsaved.find_root hroot).trans List.filterMap_some

theorem retrievable_of_saved (hrestorable : platform.Restorable files input header)
    {saved : WorkspaceCheckpointRoot × CollectedFile Body}
    (hmem : saved ∈ platform.savedFiles files header.roots) :
    platform.Retrievable header.ids after saved := by
  have hobject := savedObject_found hsaved hrestorable hmem
  obtain ⟨root, _⟩ := saved
  obtain ⟨hroot, path, source, hvisited, rfl⟩ := platform.mem_savedFiles.mp hmem
  exact ⟨hobject, rfl, (hsaved.roots root hroot).canonical path source hvisited⟩

theorem restore_saved (hrestorable : platform.Restorable files input header)
    {request : ReadSessionCheckpointInput} (hnames : request.Names manifest)
    (hplaces : ∀ root ∈ input.roots, target.MayTake root.path) :
    ∃ restore, platform.restoreSessionCheckpoint options target after request input.roots =
      .ok restore ∧ restore.Recreates files input.roots := by
  obtain ⟨htenant, hsession⟩ := request_checked hsaved hnames
  have hids : (⟨request.tenantId, request.sessionId, manifest.checkpointId⟩ : CheckpointIds) =
      header.ids := by
    rw [hnames.tenantId, hnames.sessionId, hsaved.ids_eq]
  have hplaced : ∀ root ∈ header.roots, target.MayTake root.path := by
    intro root hroot
    obtain ⟨given, hgiven, hpath, _⟩ := hsaved.root_of_mem hroot
    exact hpath ▸ hplaces given hgiven
  have hstaged := stageRoots_of_mayTake hplaced OrderedMap.empty
  generalize hstages : (OrderedMap.empty : RestoreStages Body).setAll
    (header.roots.map fun root => (root.rootId, [])) = stages at hstaged
  have hempty : ∀ rootId ∈ header.roots.map WorkspaceCheckpointRoot.rootId,
      stages.get rootId = some (stagedFor ([] : List (WorkspaceCheckpointRoot ×
        CollectedFile Body)) rootId) := by
    intro rootId hmem
    obtain ⟨root, hroot, rfl⟩ := List.mem_map.mp hmem
    rw [← hstages]
    apply get_setAll_of_mem
    · rw [List.map_map]
      exact hsaved.rootIds_nodup
    · exact List.mem_map.mpr ⟨root, hroot, rfl⟩
  obtain ⟨filled, hfilled, hget⟩ := restoreEntries_saved hsaved.prepared.adapter
    (fun _ hmem => ⟨retrievable_of_saved hsaved hrestorable hmem,
      List.mem_map_of_mem (platform.mem_savedFiles.mp hmem).1⟩)
    (savedFiles_incomparable hsaved hrestorable) hempty
  have hentries : platform.restoreEntries options header.ids after manifest.entries stages =
      .ok filled := by
    rw [hsaved.entries_eq]
    exact hfilled
  refine ⟨⟨manifest, manifest.entries.length, header.roots.map fun root =>
    (root.path, (filled.get root.rootId).getD [])⟩, ?_, ?_, ?_⟩
  · unfold restoreSessionCheckpoint
    rw [htenant, ok_bind, hsession, ok_bind, read_saved hsaved hrestorable hnames, ok_bind,
      orThrow_some, ok_bind, validateRestoreRoots_saved hsaved, ok_bind,
      restoreRoots_saved hsaved, hstaged, ok_bind, hids, hentries]
    rfl
  · obtain ⟨hroots, _⟩ := normalizeRoots_eq_ok hsaved.prepared.roots
    rw [hroots, List.map_map, List.map_map]
    rfl
  · intro root hroot _ hmem
    obtain ⟨_, hother, heq⟩ := List.mem_map.mp hmem
    obtain ⟨hpath, rfl⟩ := Prod.mk.inj heq
    rw [hget _ (List.mem_map_of_mem hother), ← hpath]
    exact sameFiles_of_saved hsaved hrestorable hother

theorem checked_of_read
    {found : WorkspaceCheckpointManifest} (hread : platform.readSessionCheckpoint options after
      ⟨manifest.tenantId, manifest.sessionId, none, none⟩ = .ok (some found)) :
    platform.parseManifest (platform.jsonBody manifest.toJson) options.maxFiles = .ok found ∧
      platform.validateManifestForRequest found manifest.tenantId manifest.sessionId options =
        .ok () := by
  have hlatest := hsaved.prepared.latestKey
  rw [← hsaved.ids_eq, show header.latestKey = manifest.latestKey by
    rw [hsaved.manifest_eq]; rfl] at hlatest
  unfold readSessionCheckpoint at hread
  obtain ⟨_, htenant, hread⟩ := bind_eq_ok hread
  obtain ⟨_, hsession, hread⟩ := bind_eq_ok hread
  obtain ⟨rfl, _⟩ := assertCloudId_eq_ok htenant
  obtain ⟨rfl, _⟩ := assertCloudId_eq_ok hsession
  obtain ⟨checkpointId, hcheckpoint, hread⟩ := bind_eq_ok hread
  obtain rfl : none = checkpointId := Except.ok.inj hcheckpoint
  obtain ⟨_, hkeys, hread⟩ := bind_eq_ok hread
  obtain ⟨_, hcurrent, hkeys⟩ := bind_eq_ok hkeys
  obtain ⟨_, _, hkeys⟩ := bind_eq_ok hkeys
  obtain rfl := Except.ok.inj hkeys
  obtain rfl := Except.ok.inj (hlatest.symm.trans hcurrent)
  rw [firstObject_cons hsaved.manifestObjects.2] at hread
  obtain ⟨_, hchecked, hread⟩ := bind_eq_ok hread
  obtain rfl := Option.some.inj (Except.ok.inj hread)
  unfold checkManifest at hchecked
  obtain ⟨_, hparsed, hchecked⟩ := bind_eq_ok hchecked
  obtain ⟨_, haccepted, hchecked⟩ := bind_eq_ok hchecked
  obtain ⟨_, _, hchecked⟩ := bind_eq_ok hchecked
  obtain ⟨_, _, hchecked⟩ := bind_eq_ok hchecked
  obtain rfl := Except.ok.inj hchecked
  exact ⟨hparsed, haccepted⟩

end

/-- Nothing is found anywhere. -/
def emptyFileSystem : FileSystem Body where
  lstat := fun _ => none
  distinct := fun _ _ htree => absurd htree (by simp)

theorem restorable_of_roundTrips
    (hsaved : platform.CheckpointSaved options files input header objects manifest after)
    (htrips : platform.RoundTrips options files input.roots manifest after) :
    platform.Restorable files input header := by
  have hnames : (⟨manifest.tenantId, manifest.sessionId, none, none⟩ :
      ReadSessionCheckpointInput).Names manifest := ⟨rfl, rfl, .inl rfl, .inl rfl⟩
  obtain ⟨hparsed, haccepted⟩ := checked_of_read hsaved (htrips.read _ hnames)
  obtain ⟨hfits, hversion, hkeys⟩ := parseManifest_eq_ok hparsed
  obtain ⟨hlegacyKey, hlegacyLatest⟩ := validateManifestForRequest_eq_ok haccepted
  constructor
  · intro root hroot file hfile
    obtain ⟨restore, hrestore, hrecreates⟩ := htrips.restored _ hnames emptyFileSystem
      fun _ _ => .inl rfl
    have hplaced : root.path ∈ restore.directories.map Prod.fst := by
      rw [hrecreates.places]
      exact List.mem_map_of_mem hroot
    obtain ⟨⟨_, directory⟩, hdirectory, rfl⟩ := List.mem_map.mp hplaced
    obtain ⟨staged, hstaged, hpath, _⟩ :=
      (hrecreates.same root hroot directory hdirectory _ file.2.body).mpr ⟨file, hfile, rfl, rfl⟩
    exact ⟨staged.1, hpath.symm, platform.restoreSessionCheckpoint_plainNames options hrestore _
      hdirectory staged hstaged⟩
  · rw [hsaved.entries_eq, savedEntries, List.map_map] at hkeys
    apply nodup_map_of_determines hkeys
    intro _ hmem _ hother hsame
    rw [savedFile_key hsaved hmem, savedFile_key hsaved hother] at hsame
    exact Except.ok.inj hsame
  · rw [hsaved.manifest_eq] at hfits
    exact hfits
  · rw [hsaved.manifest_eq] at hversion
    exact hversion
  · rw [← hsaved.ids_eq]
    exact hlegacyKey
  · rw [← hsaved.ids_eq]
    exact hlegacyLatest

/-- Whatever is saved round-trips exactly if a workspace that can be saved is restorable. -/
theorem checkpoint_roundTrips_iff (platform : CheckpointPlatform Body)
    (options : WorkspaceCheckpointOptions) (files : FileSystem Body)
    (input : SaveSessionCheckpointInput) (randomUUID : String) (dateNow : Instant)
    (objects : ObjectStore Body) :
    (∀ manifest after, platform.saveSessionCheckpoint options files input randomUUID dateNow
        objects = (.ok manifest, after) →
        platform.RoundTrips options files input.roots manifest after) ↔
      ((platform.saveSessionCheckpoint options files input randomUUID dateNow objects).1.isOk =
          true →
        platform.Restorable files input (platform.saveHeader input randomUUID dateNow)) := by
  constructor
  · intro htrips hok
    obtain ⟨manifest, hmanifest⟩ := isOk_iff.mp hok
    generalize hsaved : platform.saveSessionCheckpoint options files input randomUUID dateNow
      objects = outcome at hmanifest htrips
    obtain ⟨_, after⟩ := outcome
    cases hmanifest
    exact restorable_of_roundTrips (platform.saveSessionCheckpoint_eq_ok options hsaved)
      (htrips _ _ rfl)
  · intro hrestorable manifest after hsaved
    replace hrestorable := hrestorable (by rw [hsaved]; rfl)
    have hsaved := platform.saveSessionCheckpoint_eq_ok options hsaved
    constructor
    · exact fun _ hnames => read_saved hsaved hrestorable hnames
    · exact fun _ hnames _ hplaces => restore_saved hsaved hrestorable hnames hplaces

end Restoring

end

end CheckpointPlatform

/-! ## A name that is lost -/

inductive PlainBody where
  | text (content : String)
  | json (value : Json)
  | sealed (content : PlainBody) (context : String)

def PlainBody.length : PlainBody → Nat
  | .text content => content.utf8ByteSize
  | .json _ => 0
  | .sealed content _ => content.length

/-- SHA-256 of a few texts. -/
def digestOf (text : String) : String :=
  ((OrderedMap.lookup text [
    ("t", "e3b98a4da31a127d4bde6e43033f66ba274cab0eb7eb1c70ec41402bf6273dd8"),
    ("s", "043a718774c572bd8a25adbeb1bfcd5c0256ae11cecf9f9c3f925d0e52beaf89"),
    ("c", "2e7d2c03a9507ae265ecf5b5356885a53393a2029d241394997265a1a25aefc6"),
    ("workspace", "21a3230e03772a58aff1b3709a9e232850916337e1fba95c434076b6668c6e08"),
    ("workspace\x00a/b", "7481a50a59bf537bfbea9333d9245044cc1ccf084074385ebc775198930265b7"),
    ("b", "3e23e8160039594a33894f6564e1b1348bbd7a0088d42c4acb73eeaed59c009d"),
    ("hello", "2cf24dba5fb0a30e26e83b2ac5b9e29e1b161e5c1fa7425e73043362938b9824")]).filter
      isDigest).getD "0000000000000000000000000000000000000000000000000000000000000000"

theorem isDigest_digestOf (text : String) : isDigest (digestOf text) = true := by
  unfold digestOf
  generalize OrderedMap.lookup text _ = found
  cases hfound : found.filter isDigest with
  | none => decide
  | some => exact (Option.filter_eq_some_iff.mp hfound).2

/-- Buffers that are kept as what they encode, with the lengths that they have. -/
def plainCheckpointPlatform : CheckpointPlatform PlainBody where
  byteLength := fun body => min body.length maxSafeInteger
  byteLength_le := fun _ => Nat.min_le_right _ _
  decodeUtf8 := fun bytes => (String.fromUTF8? bytes).getD "\uFFFD"
  decodeUtf8_toUTF8 := by
    intro text
    rw [String.fromUTF8?, dif_pos (show text.toUTF8.IsValidUTF8 from text.isValidUTF8)]
    rfl
  localeCompare := compare
  toLowerCase := fun text => String.ofList (text.toList.map Char.toLower)
  isoString := fun time => if time = 0 then some "1970-01-01T00:00:00.000Z" else none
  isDate := fun text => text = "1970-01-01T00:00:00.000Z"
  isDate_isoString := by
    intro time text htext
    split at htext
    · rw [← Option.some.inj htext]
      rfl
    · cases htext
  sha256 := fun body =>
    match body with
    | .text text => digestOf text
    | _ => digestOf ""
  isDigest_sha256 := by
    intro body
    cases body <;> exact isDigest_digestOf _
  sha256Text := digestOf
  isDigest_sha256Text := isDigest_digestOf
  jsonBody := .json
  parseJson := fun body =>
    match body with
    | .json value => some value
    | _ => none
  parseJson_jsonBody := fun _ => rfl
  protect := .sealed
  reveal := fun body context =>
    match body with
    | .sealed content other =>
      if other = context then .ok content
      else .error "Unsupported state or unable to authenticate data"
    | _ => .error "Secret is not an encrypted cloud secret envelope."
  reveal_protect := fun _ _ => if_pos rfl

def plainCheckpointOptions : WorkspaceCheckpointOptions where
  secretAdapter := some .envelopeV1
  maxFiles := 10000
  maxBytes := 536870912
  maxFiles_pos := by decide
  maxFiles_safe := by decide
  maxBytes_pos := by decide
  maxBytes_safe := by decide

def plainFile (text : String) : WorkspaceTree PlainBody := .file ⟨.text text, 1, 0o644, 0⟩

/-- A single file, whose name holds a backslash. -/
def backslashTree : WorkspaceTree PlainBody :=
  .directory [(FileName.spelt "a\\b" (by decide +kernel), plainFile "hello")]

/-- The tree stands at `/srv/w`, and nothing else is found. -/
def workspaceAt (tree : WorkspaceTree PlainBody) (htree : tree.Distinct) :
    FileSystem PlainBody where
  lstat := fun path => if path = ["srv", "w"] then some tree else none
  distinct := by
    intro path found hfound
    split at hfound
    · exact Option.some.inj hfound ▸ htree
    · cases hfound

def workspaceSave : SaveSessionCheckpointInput where
  tenantId := "t"
  sessionId := "s"
  checkpointId := some "c"
  roots := [{ rootId := "workspace", kind := .workspace, path := ["srv", "w"] }]

theorem backslashTree_distinct : backslashTree.Distinct := by
  simp only [backslashTree, plainFile, FileTree.Distinct, FileTree.DistinctEntries]
  decide +kernel

theorem CheckpointPlatform.saveSessionCheckpoint_root {Body : Type}
    (platform : CheckpointPlatform Body) (options : WorkspaceCheckpointOptions)
    {files : FileSystem Body} {input : SaveSessionCheckpointInput} {randomUUID : String}
    {dateNow : Instant} (objects : ObjectStore Body) {header : CheckpointHeader}
    {root : WorkspaceCheckpointRoot} {collected : List (CollectedFile Body)}
    {totals : CheckpointTotals}
    (hprepared : platform.prepareSave options input randomUUID dateNow = .ok header)
    (hroots : header.roots = [root])
    (hcollected : platform.collectRootFiles options files root ⟨0, 0⟩ = .ok (collected, totals)) :
    ∃ manifest after, platform.saveSessionCheckpoint options files input randomUUID dateNow
      objects = (.ok manifest, after) := by
  have hfiles (entries : List WorkspaceCheckpointEntry) (objects : ObjectStore Body) :
      ∃ all after, platform.saveFiles header.ids root collected entries objects =
        (.ok all, after) := by
    clear hcollected
    induction collected generalizing entries objects with
    | nil => exact ⟨entries, objects, rfl⟩
    | cons file _ ih =>
      have hkey : platform.checkpointFileObjectKey header.ids root.rootId file.relativePath = _ :=
        platform.objectKey_eq (.file _ _ _)
      rw [saveFiles, hkey]
      exact ih _ _
  obtain ⟨_, _, hfiles⟩ := hfiles [] objects
  simp only [saveSessionCheckpoint, hprepared, hroots, saveRoots, hcollected, hfiles]
  exact ⟨_, _, rfl⟩

def workspaceRoot : WorkspaceCheckpointRoot :=
  .normalized { rootId := "workspace", kind := .workspace, path := ["srv", "w"] }

theorem workspaceSave_prepared :
    ∃ manifestKey latestKey, plainCheckpointPlatform.prepareSave plainCheckpointOptions
        workspaceSave "" 0 =
      .ok ⟨⟨"t", "s", "c"⟩, "1970-01-01T00:00:00.000Z", manifestKey, latestKey,
        [workspaceRoot]⟩ := by
  obtain ⟨manifestKey, hmanifest⟩ : ∃ key,
      plainCheckpointPlatform.sessionCheckpointManifestKey ⟨"t", "s", "c"⟩ = .ok key :=
    ⟨_, plainCheckpointPlatform.objectKey_eq (.manifest _)⟩
  obtain ⟨latestKey, hlatest⟩ : ∃ key,
      plainCheckpointPlatform.sessionCheckpointLatestKey "t" "s" = .ok key :=
    ⟨_, plainCheckpointPlatform.objectKey_eq (.latest _ _)⟩
  refine ⟨manifestKey, latestKey, ?_⟩
  unfold CheckpointPlatform.prepareSave
  rw [show assertCloudId workspaceSave.tenantId "tenantId" = .ok "t" by decide +kernel, ok_bind,
    show assertCloudId workspaceSave.sessionId "sessionId" = .ok "s" by decide +kernel, ok_bind,
    show assertCloudId (textOr workspaceSave.checkpointId "") "checkpointId" = .ok "c" by
      decide +kernel, ok_bind, refuseIf_of_not (by decide), ok_bind]
  dsimp only
  rw [hmanifest, hlatest, show normalizeRoots workspaceSave.roots =
    .ok ([workspaceRoot]) by decide +kernel]
  rfl

theorem backslashTree_saved :
    ∃ manifest after,
      plainCheckpointPlatform.saveSessionCheckpoint plainCheckpointOptions
        (workspaceAt backslashTree backslashTree_distinct) workspaceSave "" 0 OrderedMap.empty =
          (.ok manifest, after) := by
  obtain ⟨_, _, hprepared⟩ := workspaceSave_prepared
  obtain ⟨⟨_, _⟩, hfound⟩ := isOk_iff.mp (show
    (plainCheckpointPlatform.collectRootFiles plainCheckpointOptions
      (workspaceAt backslashTree backslashTree_distinct) workspaceRoot ⟨0, 0⟩).isOk = true by
        decide +kernel)
  exact plainCheckpointPlatform.saveSessionCheckpoint_root _ _ hprepared rfl hfound

/-- A file whose name holds a backslash is saved, but not restored under its name. -/
theorem backslash_lost :
    ∃ manifest after,
      plainCheckpointPlatform.saveSessionCheckpoint plainCheckpointOptions
        (workspaceAt backslashTree backslashTree_distinct) workspaceSave "" 0 OrderedMap.empty =
          (.ok manifest, after) ∧
        ¬plainCheckpointPlatform.RoundTrips plainCheckpointOptions
          (workspaceAt backslashTree backslashTree_distinct) workspaceSave.roots manifest
          after := by
  obtain ⟨manifest, after, hsaved⟩ := backslashTree_saved
  refine ⟨manifest, after, hsaved, fun htrips => ?_⟩
  have hrestorable := CheckpointPlatform.restorable_of_roundTrips
    (CheckpointPlatform.saveSessionCheckpoint_eq_ok _ _ hsaved) htrips
  obtain ⟨path, hpath, hplain⟩ := hrestorable.names _ (List.mem_singleton_self _)
    ([FileName.spelt "a\\b" (by decide +kernel)], ⟨.text "hello", 1, 0o644, 0⟩)
    (List.mem_singleton_self _)
  have hname : ["a\\b"].map String.toUTF8 = path.map String.toUTF8 := hpath
  obtain rfl := List.map_injective_iff.mpr (fun _ _ => String.toByteArray_inj.mp) hname
  exact hplain _ (List.mem_singleton_self _) (by decide +kernel)

end OpenCowork.ControlPlane
