import OpenCowork.ControlPlane.Workspaces.CheckpointStore

/-! # What a save leaves

The files that a visit of a directory comes across, what a save collects of them, and the
entries and objects that it leaves when it goes through.
-/

namespace OpenCowork.ControlPlane

open Foundation

namespace CheckpointPlatform

section Visits

variable {Body : Type} (platform : CheckpointPlatform Body)
  {children : List (FileName × List (Visited Body))} {tree : WorkspaceTree Body}
  {path : List String} {source : SourceFile Body}

theorem visitEntries_eq (entries : List (FileName × WorkspaceTree Body)) :
    platform.visitEntries entries = entries.map fun entry => (entry.1, platform.visit entry.2) := by
  induction entries with
  | nil => rfl
  | cons _ _ ih => rw [visitEntries, ih, List.map_cons]

theorem mem_visitNames (hmem : .file path source ∈ platform.visitNames children) :
    ∃ name seen rest, (name, seen) ∈ children ∧ ∃ text : String, name.bytes = text.toUTF8 ∧
      path = text :: rest ∧ .file rest source ∈ seen := by
  unfold visitNames at hmem
  obtain ⟨text, _, hmem⟩ := List.mem_flatMap.mp hmem
  cases hchild : children.find? fun child => child.1.bytes = text.toUTF8 with
  | none =>
    rw [hchild] at hmem
    exact absurd (List.mem_singleton.mp hmem) (by simp)
  | some child =>
    rw [hchild] at hmem
    obtain ⟨seen, hseen, hunder⟩ := List.mem_map.mp hmem
    have hname := List.find?_some hchild
    cases seen with
    | missing => simp [Visited.under] at hunder
    | file rest =>
      obtain ⟨rfl, rfl⟩ := hunder
      exact ⟨child.1, child.2, rest, List.mem_of_find?_eq_some hchild, text,
        of_decide_eq_true hname, rfl, hseen⟩

theorem files_of_visit (hmem : .file path source ∈ platform.visit tree) :
    ∃ names, (names, source) ∈ tree.files ∧
      names.map FileName.bytes = path.map String.toUTF8 := by
  induction tree using FileTree.treeInduction generalizing path with
  | file =>
    rw [visit] at hmem
    obtain ⟨rfl, rfl⟩ := Visited.file.inj (List.mem_singleton.mp hmem)
    exact ⟨[], by simp [FileTree.files], rfl⟩
  | link | special => simp [visit] at hmem
  | directory _ ih =>
    rw [visit, visitEntries_eq] at hmem
    obtain ⟨name, _, _, hchild, _, hname, rfl, hseen⟩ := platform.mem_visitNames hmem
    obtain ⟨⟨name, child⟩, hentry, heq⟩ := List.mem_map.mp hchild
    obtain ⟨rfl, rfl⟩ := Prod.mk.inj heq
    obtain ⟨names, hfile, hnames⟩ := ih name child hentry hseen
    refine ⟨name :: names, ?_, ?_⟩
    · rw [FileTree.files, FileTree.mem_filesOfEntries]
      exact ⟨name, child, names, hentry, rfl, hfile⟩
    · rw [List.map_cons, List.map_cons, hname, hnames]

theorem visitNames_of_mem
    (hdistinct : ∀ child ∈ children, ∀ other ∈ children, child.1.bytes = other.1.bytes →
      child = other) {name : FileName} {seen : List (Visited Body)}
    (hchild : (name, seen) ∈ children) {text : String} (hname : name.bytes = text.toUTF8)
    (hseen : .file path source ∈ seen) :
    .file (text :: path) source ∈ platform.visitNames children := by
  unfold visitNames
  refine List.mem_flatMap.mpr ⟨text, ?_, ?_⟩
  · rw [List.mem_insertionSort, List.mem_map]
    exact ⟨_, hchild, by rw [hname, platform.decodeUtf8_toUTF8]⟩
  · cases hfound : children.find? fun child => child.1.bytes = text.toUTF8 with
    | none =>
      have hnone := List.find?_eq_none.mp hfound _ hchild
      exact absurd hname (by simpa using hnone)
    | some child =>
      have hname' := List.find?_some hfound
      have hbytes : child.1.bytes = text.toUTF8 := of_decide_eq_true hname'
      obtain rfl := hdistinct _ hchild _ (List.mem_of_find?_eq_some hfound)
        (hname.trans hbytes.symm)
      exact List.mem_map.mpr ⟨_, hseen, rfl⟩

theorem visit_of_files (hdistinct : tree.Distinct) {names : List FileName}
    (hfile : (names, source) ∈ tree.files)
    (hpath : names.map FileName.bytes = path.map String.toUTF8) :
    .file path source ∈ platform.visit tree := by
  induction tree using FileTree.treeInduction generalizing names path with
  | file =>
    rw [FileTree.files] at hfile
    obtain ⟨rfl, rfl⟩ := Prod.mk.inj (List.mem_singleton.mp hfile)
    rw [List.map_nil, eq_comm, List.map_eq_nil_iff] at hpath
    rw [hpath, visit]
    exact List.mem_singleton_self _
  | link | special => exact absurd hfile List.not_mem_nil
  | directory _ ih =>
    rw [FileTree.files, FileTree.mem_filesOfEntries] at hfile
    obtain ⟨name, child, _, hentry, rfl, hfile⟩ := hfile
    rw [FileTree.Distinct] at hdistinct
    cases path with
    | nil => simp at hpath
    | cons =>
      rw [List.map_cons, List.map_cons] at hpath
      obtain ⟨hname, hrest⟩ := List.cons.inj hpath
      have hseen := ih name child hentry (FileTree.distinct_of_mem hdistinct.2 hentry) hfile hrest
      rw [visit, visitEntries_eq]
      refine platform.visitNames_of_mem ?_ (List.mem_map.mpr ⟨_, hentry, rfl⟩) hname hseen
      intro _ hone _ hother hbytes
      obtain ⟨_, hleft, rfl⟩ := List.mem_map.mp hone
      obtain ⟨_, hright, rfl⟩ := List.mem_map.mp hother
      rw [List.inj_on_of_nodup_map hdistinct.1 hleft hright (FileName.bytes_injective hbytes)]

end Visits

section Collecting

variable {Body : Type} (platform : CheckpointPlatform Body) (options : WorkspaceCheckpointOptions)
  {found : List (CollectedFile Body)} {before after : CheckpointTotals}

def collectedFile (path : List String) (source : SourceFile Body) : CollectedFile Body where
  relativePath := Text.slashed (Text.joinPath path)
  size := platform.byteLength source.body
  mode := some (source.mode &&& 0o777)
  updatedAt := platform.isoString source.mtime
  body := source.body

def collectedOf : Visited Body → Option (CollectedFile Body)
  | .file path source => some (platform.collectedFile path source)
  | .missing _ => none

/-- Everything that was visited is there, under a canonical path and with a date, and keeps
within the limits. -/
structure Collects (visits : List (Visited Body)) (before after : CheckpointTotals) : Prop where
  canonical : ∀ path source, .file path source ∈ visits →
    normalizeRelativePath (platform.collectedFile path source).relativePath =
      .ok (platform.collectedFile path source).relativePath
  dated : ∀ path source, .file path source ∈ visits →
    ∃ text, platform.isoString source.mtime = some text
  files : after.files = before.files + (visits.filterMap platform.collectedOf).length
  bytes : after.bytes = before.bytes +
    ((visits.filterMap platform.collectedOf).map CollectedFile.size).sum
  within : before.files ≤ options.maxFiles → before.bytes ≤ options.maxBytes →
    after.files ≤ options.maxFiles ∧ after.bytes ≤ options.maxBytes

theorem collectVisited_eq_ok {rootPath : List String} {visits : List (Visited Body)}
    {files : List (CollectedFile Body)} {totalBytes : Nat}
    (h : platform.collectVisited options rootPath visits files totalBytes before =
      .ok (found, after)) :
    found = files ++ visits.filterMap platform.collectedOf ∧
      platform.Collects options visits before after := by
  induction visits generalizing files totalBytes before with
  | nil =>
    cases h
    exact ⟨(List.append_nil _).symm, by simp, by simp, rfl, rfl, fun h h' => ⟨h, h'⟩⟩
  | cons seen rest ih =>
    cases seen with
    | missing => cases h
    | file path source =>
      obtain ⟨_, _, h⟩ := bind_eq_ok h
      obtain ⟨relativePath, hpath, h⟩ := bind_eq_ok h
      obtain ⟨_, _, h⟩ := bind_eq_ok h
      obtain ⟨_, _, h⟩ := bind_eq_ok h
      obtain ⟨_, hfiles, h⟩ := bind_eq_ok h
      obtain ⟨_, hbytes, h⟩ := bind_eq_ok h
      obtain ⟨updatedAt, hdate, h⟩ := bind_eq_ok h
      obtain ⟨hrelative, _, hcanonical⟩ := normalizeRelativePath_eq_ok hpath
      rw [Text.slashed_slashed] at hrelative
      rw [hrelative] at hcanonical
      replace hdate := orThrow_eq_ok hdate
      rw [refuseIf_eq_ok, Nat.not_lt] at hfiles hbytes
      obtain ⟨hfound, hrest⟩ := ih h
      have hcollected : platform.collectedOf (.file path source) = some {
          relativePath, size := platform.byteLength source.body
          mode := some (source.mode &&& 0o777), updatedAt := some updatedAt
          body := source.body } := by
        rw [collectedOf, collectedFile, hrelative, hdate]
      have hcons := List.filterMap_cons_some hcollected (l := rest)
      refine ⟨by rw [hfound, hcons, List.append_assoc]; rfl, ?_, ?_, ?_, ?_, ?_⟩
      · intro other file hmem
        rcases List.mem_cons.mp hmem with heq | hmem
        · cases heq
          exact hcanonical
        · exact hrest.canonical other file hmem
      · intro other file hmem
        rcases List.mem_cons.mp hmem with heq | hmem
        · cases heq
          exact ⟨updatedAt, hdate⟩
        · exact hrest.dated other file hmem
      · rw [hrest.files, hcons, List.length_cons]
        exact (Nat.add_right_comm _ _ _).symm
      · rw [hrest.bytes, hcons, List.map_cons, List.sum_cons]
        exact Nat.add_assoc _ _ _
      · exact fun _ _ => hrest.within hfiles hbytes

/-- What a save comes across below a root. -/
def rootVisits (files : FileSystem Body) (path : List String) : List (Visited Body) :=
  match files.lstat path with
  | some (.directory entries) => platform.visit (.directory entries)
  | _ => []

theorem collectRootFiles_eq_ok {files : FileSystem Body} {root : WorkspaceCheckpointRoot}
    (h : platform.collectRootFiles options files root before = .ok (found, after)) :
    found = (platform.rootVisits files root.path).filterMap platform.collectedOf ∧
      platform.Collects options (platform.rootVisits files root.path) before after ∧
      ∀ tree, files.lstat root.path = some tree →
        platform.rootVisits files root.path = platform.visit tree := by
  unfold collectRootFiles at h
  unfold rootVisits
  cases hplace : files.lstat root.path with
  | none =>
    simp only [hplace] at h
    split at h
    · cases h
    · cases h
      exact ⟨rfl, ⟨by simp, by simp, rfl, rfl, fun h h' => ⟨h, h'⟩⟩, by simp⟩
  | some tree =>
    simp only [hplace] at h
    cases tree with
    | file | link | special => cases h
    | directory =>
      obtain ⟨hfound, hcollects⟩ := platform.collectVisited_eq_ok options h
      refine ⟨hfound.trans (List.nil_append _), hcollects, ?_⟩
      rintro _ ⟨⟩
      rfl

end Collecting

section Saving

variable {Body : Type} (platform : CheckpointPlatform Body) (options : WorkspaceCheckpointOptions)
  (ids : CheckpointIds) (files : FileSystem Body) (root : WorkspaceCheckpointRoot)
  (roots : List WorkspaceCheckpointRoot) (file : CollectedFile Body)
  {entries found : List WorkspaceCheckpointEntry} {objects after : ObjectStore Body}

def fileKey (rootId relativePath : String) : String :=
  (platform.checkpointFileObjectKey ids rootId relativePath).toOption.getD ""

def savedEntry : WorkspaceCheckpointEntry :=
  platform.checkpointEntry ids root file (platform.fileKey ids root.rootId file.relativePath)

def savedObject : String × Body :=
  (platform.fileKey ids root.rootId file.relativePath, platform.storedBody ids root.rootId file)

theorem saveFiles_eq_ok {ids : CheckpointIds} {root : WorkspaceCheckpointRoot}
    {files : List (CollectedFile Body)}
    (h : platform.saveFiles ids root files entries objects = (.ok found, after)) :
    found = entries ++ files.map (platform.savedEntry ids root) ∧
      after = objects.setAll (files.map (platform.savedObject ids root)) ∧
      ∀ file ∈ files, platform.checkpointFileObjectKey ids root.rootId file.relativePath =
        .ok (platform.fileKey ids root.rootId file.relativePath) := by
  induction files generalizing entries objects with
  | nil =>
    cases h
    exact ⟨(List.append_nil _).symm, rfl, fun _ hmem => absurd hmem List.not_mem_nil⟩
  | cons file _ ih =>
    rw [saveFiles] at h
    cases hkey : platform.checkpointFileObjectKey ids root.rootId file.relativePath with
    | error =>
      rw [hkey] at h
      cases h
    | ok objectKey =>
      simp only [hkey] at h
      have hfile : platform.fileKey ids root.rootId file.relativePath = objectKey := by
        rw [fileKey, hkey]
        rfl
      obtain ⟨hfound, hafter, hkeys⟩ := ih h
      refine ⟨?_, ?_, ?_⟩
      · rw [hfound, List.append_assoc, List.map_cons, savedEntry, hfile]
        rfl
      · rw [hafter, List.map_cons, OrderedMap.setAll_cons, savedObject, hfile]
      · intro other hmem
        rcases List.mem_cons.mp hmem with rfl | hmem
        · rw [hkey, hfile]
        · exact hkeys other hmem

def savedFiles :
    List (WorkspaceCheckpointRoot × CollectedFile Body) :=
  roots.flatMap fun root =>
    ((platform.rootVisits files root.path).filterMap platform.collectedOf).map (root, ·)

def savedEntries : List WorkspaceCheckpointEntry :=
  (platform.savedFiles files roots).map fun saved => platform.savedEntry ids saved.1 saved.2

def savedObjects : List (String × Body) :=
  (platform.savedFiles files roots).map fun saved => platform.savedObject ids saved.1 saved.2

structure RootSaved (ids : CheckpointIds) (files : FileSystem Body)
    (root : WorkspaceCheckpointRoot) : Prop where
  place : ∀ tree, files.lstat root.path = some tree →
    platform.rootVisits files root.path = platform.visit tree
  canonical : ∀ path source, .file path source ∈ platform.rootVisits files root.path →
    normalizeRelativePath (platform.collectedFile path source).relativePath =
      .ok (platform.collectedFile path source).relativePath
  dated : ∀ path source, .file path source ∈ platform.rootVisits files root.path →
    ∃ text, platform.isoString source.mtime = some text
  keyed : ∀ path source, .file path source ∈ platform.rootVisits files root.path →
    platform.checkpointFileObjectKey ids root.rootId
      (platform.collectedFile path source).relativePath =
        .ok (platform.fileKey ids root.rootId
          (platform.collectedFile path source).relativePath)

theorem saveRoots_eq_ok {ids : CheckpointIds} {files : FileSystem Body}
    {roots : List WorkspaceCheckpointRoot} {totals : CheckpointTotals}
    (hcount : totals.files ≤ options.maxFiles) (hbytes : totals.bytes ≤ options.maxBytes)
    (h : platform.saveRoots options ids files roots totals entries objects =
      (.ok found, after)) :
    found = entries ++ platform.savedEntries ids files roots ∧
      after = objects.setAll (platform.savedObjects ids files roots) ∧
      (∀ root ∈ roots, platform.RootSaved ids files root) ∧
      totals.files + (platform.savedFiles files roots).length ≤ options.maxFiles ∧
      totals.bytes + ((platform.savedFiles files roots).map fun saved => saved.2.size).sum ≤
        options.maxBytes := by
  induction roots generalizing totals entries objects with
  | nil =>
    cases h
    exact ⟨(List.append_nil _).symm, rfl, fun _ hmem => absurd hmem List.not_mem_nil, hcount,
      hbytes⟩
  | cons root rest ih =>
    rw [saveRoots] at h
    cases hcollected : platform.collectRootFiles options files root totals with
    | error =>
      rw [hcollected] at h
      cases h
    | ok answer =>
      obtain ⟨_, _⟩ := answer
      simp only [hcollected] at h
      obtain ⟨rfl, hcollects, hplace⟩ := platform.collectRootFiles_eq_ok options hcollected
      cases hsaved : platform.saveFiles ids root
          ((platform.rootVisits files root.path).filterMap platform.collectedOf) entries
          objects with
      | mk outcome stored =>
        cases outcome with
        | error =>
          rw [hsaved] at h
          cases h
        | ok =>
          simp only [hsaved] at h
          obtain ⟨rfl, rfl, hkeys⟩ := platform.saveFiles_eq_ok hsaved
          obtain ⟨hfiles, hsize⟩ := hcollects.within hcount hbytes
          obtain ⟨rfl, rfl, hroots, _, _⟩ := ih hfiles hsize h
          have hsplit : platform.savedFiles files (root :: rest) =
              ((platform.rootVisits files root.path).filterMap
                platform.collectedOf).map (root, ·) ++ platform.savedFiles files rest :=
            List.flatMap_cons
          refine ⟨?_, ?_, ?_, ?_, ?_⟩
          · rw [savedEntries, savedEntries, hsplit, List.map_append, List.map_map,
              List.append_assoc]
            rfl
          · rw [savedObjects, savedObjects, hsplit, List.map_append, List.map_map,
              OrderedMap.setAll_append]
            rfl
          · intro other hmem
            rcases List.mem_cons.mp hmem with rfl | hmem
            · refine ⟨hplace, hcollects.canonical, hcollects.dated, ?_⟩
              intro _ _ hvisited
              exact hkeys _ (List.mem_filterMap.mpr ⟨_, hvisited, rfl⟩)
            · exact hroots other hmem
          · rw [hsplit, List.length_append, List.length_map]
            have hgrown := hcollects.files
            omega
          · rw [hsplit, List.map_append, List.sum_append, List.map_map]
            have hgrown := hcollects.bytes
            change totals.bytes + ((((platform.rootVisits files root.path).filterMap
              platform.collectedOf).map CollectedFile.size).sum + _) ≤ _
            omega

end Saving

end CheckpointPlatform

section Roots

open WorkspaceCheckpointRoot

variable {roots found : List WorkspaceCheckpointRoot}

theorem normalizeEach_eq_ok (h : normalizeEach roots = .ok found) :
    found = roots.map normalized ∧ ∀ root ∈ roots, '\x00' ∉ root.rootId.toList ∧
      ∀ label, assertCloudId root.rootId label = .ok root.rootId := by
  induction roots generalizing found with
  | nil =>
    cases h
    exact ⟨rfl, fun _ hmem => absurd hmem List.not_mem_nil⟩
  | cons _ _ ih =>
    obtain ⟨_, hfirst, h⟩ := bind_eq_ok h
    obtain ⟨_, hothers, h⟩ := bind_eq_ok h
    obtain rfl := Except.ok.inj h
    obtain ⟨_, hid, hfirst⟩ := bind_eq_ok hfirst
    obtain ⟨rfl, hchecked⟩ := assertCloudId_eq_ok hid
    obtain rfl := Except.ok.inj hfirst
    obtain ⟨rfl, hrest⟩ := ih hothers
    refine ⟨rfl, ?_⟩
    intro other hmem
    rcases List.mem_cons.mp hmem with rfl | hmem
    · exact hchecked
    · exact hrest other hmem

theorem refuseDuplicates_eq_ok {rootIds : List String}
    {paths : List (List String)} (hids : rootIds.Nodup) (hpaths : paths.Nodup)
    (h : refuseDuplicates rootIds paths roots = .ok ()) :
    (rootIds ++ roots.map WorkspaceCheckpointRoot.rootId).Nodup ∧
      (paths ++ roots.map WorkspaceCheckpointRoot.path).Nodup := by
  induction roots generalizing rootIds paths with
  | nil => exact ⟨by simpa using hids, by simpa using hpaths⟩
  | cons _ _ ih =>
    obtain ⟨_, hid, h⟩ := bind_eq_ok h
    obtain ⟨_, hpath, h⟩ := bind_eq_ok h
    obtain ⟨_, _, h⟩ := bind_eq_ok h
    rw [refuseIf_eq_ok] at hid hpath
    rw [List.map_cons, List.map_cons, List.append_cons, List.append_cons paths]
    apply ih ?_ ?_ h
    · exact List.concat_eq_append ▸ hids.concat hid
    · exact List.concat_eq_append ▸ hpaths.concat hpath

structure RootsTaken (roots : List WorkspaceCheckpointRoot) : Prop where
  count : roots.length ≤ maxCheckpointRoots
  ids : ∀ root ∈ roots, '\x00' ∉ root.rootId.toList ∧
    ∀ label, assertCloudId root.rootId label = .ok root.rootId
  distinct : (roots.map WorkspaceCheckpointRoot.rootId).Nodup
  places : (roots.map WorkspaceCheckpointRoot.path).Nodup

theorem normalizeRoots_eq_ok (h : normalizeRoots roots = .ok found) :
    found = roots.map normalized ∧ RootsTaken roots := by
  obtain ⟨_, hcount, h⟩ := bind_eq_ok h
  obtain ⟨_, heach, h⟩ := bind_eq_ok h
  obtain ⟨_, hdistinct, h⟩ := bind_eq_ok h
  obtain ⟨_, _, h⟩ := bind_eq_ok h
  obtain rfl := Except.ok.inj h
  obtain ⟨rfl, hids⟩ := normalizeEach_eq_ok heach
  obtain ⟨hrootIds, hpaths⟩ := refuseDuplicates_eq_ok List.nodup_nil List.nodup_nil hdistinct
  rw [List.nil_append, List.map_map] at hrootIds hpaths
  exact ⟨rfl, Nat.not_lt.mp (refuseIf_eq_ok.mp hcount), hids, hrootIds, hpaths⟩

end Roots

namespace CheckpointPlatform

section Headers

variable {Body : Type} (platform : CheckpointPlatform Body) (options : WorkspaceCheckpointOptions)
  {input : SaveSessionCheckpointInput} {randomUUID : String} {dateNow : Instant}

def saveHeader (input : SaveSessionCheckpointInput) (randomUUID : String) (dateNow : Instant) :
    CheckpointHeader :=
  let ids : CheckpointIds :=
    ⟨input.tenantId, input.sessionId, textOr input.checkpointId randomUUID⟩
  { ids
    createdAt := (platform.isoString (input.now.getD dateNow)).getD ""
    manifestKey := (platform.sessionCheckpointManifestKey ids).toOption.getD ""
    latestKey := (platform.sessionCheckpointLatestKey ids.tenantId ids.sessionId).toOption.getD ""
    roots := input.roots.map WorkspaceCheckpointRoot.normalized }

/-- What is settled of a save before it touches a file. -/
structure Prepared (header : CheckpointHeader) (roots : List WorkspaceCheckpointRoot) :
    Prop where
  tenantId : ∀ label, assertCloudId header.ids.tenantId label = .ok header.ids.tenantId
  sessionId : ∀ label, assertCloudId header.ids.sessionId label = .ok header.ids.sessionId
  checkpointId : ∀ label, assertCloudId header.ids.checkpointId label =
    .ok header.ids.checkpointId
  adapter : options.secretAdapter = some .envelopeV1
  createdAt : platform.isDate header.createdAt = true
  manifestKey : platform.sessionCheckpointManifestKey header.ids = .ok header.manifestKey
  latestKey : platform.sessionCheckpointLatestKey header.ids.tenantId header.ids.sessionId =
    .ok header.latestKey
  roots : normalizeRoots roots = .ok header.roots

theorem prepareSave_eq_ok {header : CheckpointHeader}
    (h : platform.prepareSave options input randomUUID dateNow = .ok header) :
    header = platform.saveHeader input randomUUID dateNow ∧
      platform.Prepared options header input.roots := by
  obtain ⟨_, htenant, h⟩ := bind_eq_ok h
  obtain ⟨_, hsession, h⟩ := bind_eq_ok h
  obtain ⟨_, hcheckpoint, h⟩ := bind_eq_ok h
  obtain ⟨_, hadapter, h⟩ := bind_eq_ok h
  obtain ⟨_, hcreated, h⟩ := bind_eq_ok h
  obtain ⟨_, hmanifest, h⟩ := bind_eq_ok h
  obtain ⟨_, hlatest, h⟩ := bind_eq_ok h
  obtain ⟨_, hroots, h⟩ := bind_eq_ok h
  obtain rfl := Except.ok.inj h
  obtain ⟨rfl, _, htenant⟩ := assertCloudId_eq_ok htenant
  obtain ⟨rfl, _, hsession⟩ := assertCloudId_eq_ok hsession
  obtain ⟨rfl, _, hcheckpoint⟩ := assertCloudId_eq_ok hcheckpoint
  rw [refuseIf_eq_ok, not_not] at hadapter
  replace hcreated := orThrow_eq_ok hcreated
  obtain ⟨rfl, _⟩ := normalizeRoots_eq_ok hroots
  constructor
  · rw [saveHeader, hcreated, hmanifest, hlatest]
    rfl
  · exact ⟨htenant, hsession, hcheckpoint, hadapter, platform.isDate_isoString _ _ hcreated,
      hmanifest, hlatest, hroots⟩

/-- What a save leaves when it goes through. -/
structure CheckpointSaved (files : FileSystem Body) (input : SaveSessionCheckpointInput)
    (header : CheckpointHeader) (objects : ObjectStore Body)
    (manifest : WorkspaceCheckpointManifest) (after : ObjectStore Body) : Prop where
  prepared : platform.Prepared options header input.roots
  manifest_eq : manifest = checkpointManifest header input.checkpointVersion
    (platform.savedEntries header.ids files header.roots)
  objects : after = ((objects.setAll (platform.savedObjects header.ids files header.roots)).set
    header.manifestKey (platform.jsonBody manifest.toJson)).set header.latestKey
      (platform.jsonBody manifest.toJson)
  roots : ∀ root ∈ header.roots, platform.RootSaved header.ids files root
  count : (platform.savedFiles files header.roots).length ≤ options.maxFiles
  bytes : ((platform.savedFiles files header.roots).map fun saved => saved.2.size).sum ≤
    options.maxBytes

theorem saveSessionCheckpoint_eq_ok {files : FileSystem Body}
    {objects after : ObjectStore Body} {manifest : WorkspaceCheckpointManifest}
    (h : platform.saveSessionCheckpoint options files input randomUUID dateNow objects =
      (.ok manifest, after)) :
    platform.CheckpointSaved options files input
      (platform.saveHeader input randomUUID dateNow) objects manifest after := by
  unfold saveSessionCheckpoint at h
  cases hprepare : platform.prepareSave options input randomUUID dateNow with
  | error =>
    rw [hprepare] at h
    cases h
  | ok header =>
    obtain ⟨rfl, hprepared⟩ := platform.prepareSave_eq_ok options hprepare
    simp only [hprepare] at h
    generalize platform.saveHeader input randomUUID dateNow = header at h hprepared
    cases hsaved : platform.saveRoots options header.ids files header.roots ⟨0, 0⟩ []
        objects with
    | mk outcome stored =>
      cases outcome with
      | error =>
        rw [hsaved] at h
        cases h
      | ok =>
        simp only [hsaved] at h
        obtain ⟨hmanifest, rfl⟩ := Prod.mk.inj h
        obtain rfl := Except.ok.inj hmanifest
        obtain ⟨rfl, rfl, hroots, hcount, hbytes⟩ :=
          platform.saveRoots_eq_ok options (Nat.zero_le _) (Nat.zero_le _) hsaved
        rw [Nat.zero_add] at hcount hbytes
        exact ⟨hprepared, rfl, rfl, hroots, hcount, hbytes⟩

/-! ### Saves that go through -/

end Headers

end CheckpointPlatform

end OpenCowork.ControlPlane
