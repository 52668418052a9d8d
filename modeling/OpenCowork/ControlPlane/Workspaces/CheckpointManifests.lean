import Mathlib.Data.Rat.Cast.Defs
import OpenCowork.ControlPlane.Workspaces.Checkpoints

/-! # Checkpoint manifests

A manifest is read back field by field and then compared with the request it is read for.
A manifest that meets the checks of both is read back as it was written.
-/

namespace OpenCowork.ControlPlane

open Foundation
open Json (findField)

variable (value : Option Json) (label : String) (maximum : Nat)

inductive SecretAdapterMode where
  | envelopeV1
  | plaintext
  | unavailable
  deriving DecidableEq

/-- The options of a checkpoint store; the limits are positive safe integers. -/
structure WorkspaceCheckpointOptions where
  secretAdapter : Option SecretAdapterMode
  (maxFiles maxBytes : Nat)
  maxFiles_pos : 1 ≤ maxFiles
  maxFiles_safe : maxFiles ≤ maxSafeInteger
  maxBytes_pos : 1 ≤ maxBytes
  maxBytes_safe : maxBytes ≤ maxSafeInteger

def maxManifestBytes : Nat := 32 * 1024 * 1024

def maxCheckpointRoots : Nat := 256

/-! ## Reading a manifest -/

def manifestRecord (value : Json) (label : String) : Except String (List (String × Json)) :=
  match value with
  | .obj fields => .ok fields
  | _ => .error (label ++ " is invalid.")

def manifestArray (message : String) : Except String (List Json) :=
  match value with
  | some (.arr items) => .ok items
  | _ => .error message

def manifestString : Except String String :=
  match value with
  | some (.str text) => .ok text
  | _ => .error (label ++ " is invalid.")

def manifestBoolean : Except String Bool :=
  match value with
  | some (.bool flag) => .ok flag
  | _ => .error (label ++ " is invalid.")

/-- A number that counts without rounding and is at most the given one. -/
def isCount (n : ℚ) : Prop := n.den = 1 ∧ 0 ≤ n.num ∧ n.num ≤ maxSafeInteger ∧ n.num ≤ maximum

instance (maximum : Nat) (n : ℚ) : Decidable (isCount maximum n) :=
  inferInstanceAs (Decidable (_ ∧ _))

def manifestInteger :
    Except String Nat :=
  match value with
  | some (.num n) => if isCount maximum n then .ok n.num.toNat else .error (label ++ " is invalid.")
  | _ => .error (label ++ " is invalid.")

def manifestNullable {α : Type} (value : Option Json) (check : Except String α) :
    Except String (Option α) :=
  match value with
  | some .null => .ok none
  | _ => do return some (← check)

def manifestKind :
    Except String WorkspaceCheckpointRootKind :=
  match value with
  | some (.str text) => orThrow (WorkspaceCheckpointRootKind.ofText text) (label ++ " is invalid.")
  | _ => .error (label ++ " is invalid.")

def parseManifestRoot (index : Nat) (rootIds : List String) (value : Json) :
    Except String WorkspaceCheckpointManifestRoot := do
  let label := "Checkpoint manifest root " ++ index.repr
  let root ← manifestRecord value label
  let rootId ← manifestString (findField "rootId" root) (label ++ " rootId")
  let rootId ← assertCloudId rootId "checkpoint rootId"
  refuseIf (rootId ∈ rootIds) ("Checkpoint manifest rootId is duplicated: " ++ rootId)
  let kind ← manifestKind (findField "kind" root) (label ++ " kind")
  let required ← manifestBoolean (findField "required" root) (label ++ " required")
  let secretBearing ← manifestBoolean (findField "secretBearing" root)
    (label ++ " secretBearing")
  return ⟨rootId, kind, required, secretBearing⟩

def parseManifestRoots : Nat → List String → List Json →
    Except String (List WorkspaceCheckpointManifestRoot)
  | _, _, [] => .ok []
  | index, rootIds, value :: rest => do
      let root ← parseManifestRoot index rootIds value
      let roots ← parseManifestRoots (index + 1) (rootIds ++ [root.rootId]) rest
      return root :: roots

namespace CheckpointPlatform

variable {Body : Type} (platform : CheckpointPlatform Body)

def manifestNullableDate (value : Option Json) (label : String) :
    Except String (Option String) :=
  manifestNullable value do
    let text ← manifestString value label
    refuseIf (platform.isDate text = false) (label ++ " is invalid.")
    return text

def parseManifestEntry (roots : List WorkspaceCheckpointManifestRoot) (index : Nat)
    (entryPaths objectKeys : List String) (value : Json) :
    Except String WorkspaceCheckpointEntry := do
  let label := "Checkpoint manifest entry " ++ index.repr
  let entry ← manifestRecord value label
  let rootId ← manifestString (findField "rootId" entry) (label ++ " rootId")
  let rootId ← assertCloudId rootId "checkpoint entry rootId"
  let root ← orThrow (roots.find? fun root => root.rootId = rootId)
    ("Checkpoint manifest entry references unknown root " ++ rootId ++ ".")
  let kind ← manifestKind (findField "kind" entry) (label ++ " kind")
  refuseIf (kind ≠ root.kind)
    ("Checkpoint manifest entry kind does not match root " ++ rootId ++ ".")
  let relativePathValue ← manifestString (findField "relativePath" entry)
    (label ++ " relativePath")
  let relativePath ← normalizeRelativePath relativePathValue
  refuseIf (relativePath ≠ relativePathValue)
    ("Checkpoint manifest entry path is not canonical: " ++ relativePathValue)
  refuseIf (key rootId relativePath ∈ entryPaths)
    ("Checkpoint manifest entry path is duplicated: " ++ rootId ++ "/" ++ relativePath)
  let objectKey ← manifestString (findField "objectKey" entry) (label ++ " objectKey")
  let objectKey ← assertSafeObjectKey objectKey
  refuseIf (objectKey ∈ objectKeys)
    ("Checkpoint manifest object key is duplicated: " ++ objectKey)
  let digest ← manifestString (findField "sha256" entry) (label ++ " sha256")
  refuseIf (isDigest digest = false) (label ++ " sha256 is invalid.")
  let modeValue := findField "mode" entry
  let mode ← manifestNullable modeValue (manifestInteger modeValue (label ++ " mode") 0o777)
  let size ← manifestInteger (findField "size" entry) (label ++ " size") maxSafeInteger
  let storedSize ← manifestInteger (findField "storedSize" entry) (label ++ " storedSize")
    maxSafeInteger
  let secretBearing ← manifestBoolean (findField "secretBearing" entry)
    (label ++ " secretBearing")
  let encrypted ← manifestBoolean (findField "encrypted" entry) (label ++ " encrypted")
  let updatedAt ← platform.manifestNullableDate (findField "updatedAt" entry)
    (label ++ " updatedAt")
  return {
    rootId, kind, relativePath, objectKey, size, storedSize, sha256 := digest, mode,
    secretBearing, encrypted, updatedAt }

def parseManifestEntries (roots : List WorkspaceCheckpointManifestRoot) : Nat → List String →
    List String → List Json → Except String (List WorkspaceCheckpointEntry)
  | _, _, _, [] => .ok []
  | index, entryPaths, objectKeys, value :: rest => do
      let entry ← platform.parseManifestEntry roots index entryPaths objectKeys value
      let entries ← parseManifestEntries roots (index + 1)
        (entryPaths ++ [key entry.rootId entry.relativePath])
        (objectKeys ++ [entry.objectKey]) rest
      return entry :: entries

def parseManifest (body : Body) (maxFiles : Nat) :
    Except String WorkspaceCheckpointManifest := do
  refuseIf (maxManifestBytes < platform.byteLength body)
    "Checkpoint manifest exceeds the configured size limit."
  let parsed ← orThrow (platform.parseJson body) "Checkpoint manifest is not valid JSON."
  let raw ← manifestRecord parsed "Checkpoint manifest"
  refuseIf (findField "version" raw ≠ some (naturalJson 1))
    "Unsupported checkpoint manifest version."
  let rawRoots ← manifestArray (findField "roots" raw)
    "Checkpoint manifest roots are invalid."
  let rawEntries ← manifestArray (findField "entries" raw)
    "Checkpoint manifest entries are invalid."
  refuseIf (maxCheckpointRoots < rawRoots.length) "Checkpoint manifest has too many roots."
  refuseIf (maxFiles < rawEntries.length) "Checkpoint file count exceeds the configured limit."
  let tenantId ← manifestString (findField "tenantId" raw) "Checkpoint manifest tenantId"
  let tenantId ← assertCloudId tenantId "checkpoint tenantId"
  let sessionId ← manifestString (findField "sessionId" raw) "Checkpoint manifest sessionId"
  let sessionId ← assertCloudId sessionId "checkpoint sessionId"
  let checkpointId ← manifestString (findField "checkpointId" raw)
    "Checkpoint manifest checkpointId"
  let checkpointId ← assertCloudId checkpointId "checkpoint checkpointId"
  let versionValue := findField "checkpointVersion" raw
  let checkpointVersion ← manifestNullable versionValue
    (manifestInteger versionValue "Checkpoint manifest checkpointVersion" maxSafeInteger)
  let createdAt ← platform.manifestNullableDate (findField "createdAt" raw)
    "Checkpoint manifest createdAt"
  let createdAt ← orThrow createdAt "Checkpoint manifest createdAt is invalid."
  let manifestKey ← manifestString (findField "manifestKey" raw)
    "Checkpoint manifest manifestKey"
  let manifestKey ← assertSafeObjectKey manifestKey
  let latestKey ← manifestString (findField "latestKey" raw) "Checkpoint manifest latestKey"
  let latestKey ← assertSafeObjectKey latestKey
  let roots ← parseManifestRoots 0 [] rawRoots
  let entries ← platform.parseManifestEntries roots 0 [] [] rawEntries
  return {
    tenantId, sessionId, checkpointId,
    checkpointVersion := checkpointVersion.map Nat.cast,
    createdAt, manifestKey, latestKey, roots, entries }

/-! ## Comparing a manifest with the request -/

def validateObjectKey (ids : CheckpointIds) (entry : WorkspaceCheckpointEntry)
    (expected : String) : Except String Unit :=
  if entry.objectKey = expected then .ok ()
  else do
    let legacy ← platform.legacyCheckpointFileObjectKey ids entry.rootId entry.relativePath
    refuseIf (entry.objectKey ≠ legacy)
      ("Checkpoint object key does not match its manifest entry: " ++ entry.objectKey)

def validateEntries (ids : CheckpointIds) (maxBytes : Nat) : Nat →
    List WorkspaceCheckpointEntry → Except String Unit
  | _, [] => .ok ()
  | totalBytes, entry :: rest => do
      refuseIf (maxSafeInteger < totalBytes + entry.size ∨ maxBytes < totalBytes + entry.size)
        "Checkpoint byte size exceeds the configured limit."
      let expected ← platform.checkpointFileObjectKey ids entry.rootId entry.relativePath
      platform.validateObjectKey ids entry expected
      validateEntries ids maxBytes (totalBytes + entry.size) rest

def validateManifestForRequest (manifest : WorkspaceCheckpointManifest)
    (tenantId sessionId : String) (options : WorkspaceCheckpointOptions) :
    Except String Unit := do
  refuseIf (manifest.tenantId ≠ tenantId ∨ manifest.sessionId ≠ sessionId)
    "Checkpoint manifest ownership does not match the restore request."
  let ids : CheckpointIds := ⟨tenantId, sessionId, manifest.checkpointId⟩
  let currentKey ← platform.sessionCheckpointManifestKey ids
  let legacyKey ← platform.legacySessionCheckpointManifestKey ids
  refuseIf (manifest.manifestKey ≠ currentKey ∧ manifest.manifestKey ≠ legacyKey)
    "Checkpoint manifest key does not match its ownership metadata."
  let currentLatest ← platform.sessionCheckpointLatestKey tenantId sessionId
  let legacyLatest ← platform.legacySessionCheckpointLatestKey tenantId sessionId
  refuseIf (manifest.latestKey ≠ currentLatest ∧ manifest.latestKey ≠ legacyLatest)
    "Checkpoint latest key does not match its ownership metadata."
  refuseIf (options.maxFiles < manifest.entries.length)
    "Checkpoint file count exceeds the configured limit."
  platform.validateEntries ids options.maxBytes 0 manifest.entries

end CheckpointPlatform

/-! ## Reading back what was written -/

theorem isCount_natural {maximum n : Nat} (hsafe : n ≤ maxSafeInteger) (hmaximum : n ≤ maximum) :
    isCount maximum (n : ℚ) := by
  refine ⟨Rat.den_natCast n, ?_, ?_, ?_⟩
  · rw [Rat.num_natCast]
    exact Int.natCast_nonneg n
  · rw [Rat.num_natCast]
    exact Int.ofNat_le.mpr hsafe
  · rw [Rat.num_natCast]
    exact Int.ofNat_le.mpr hmaximum

@[simp] theorem manifestRecord_obj (fields : List (String × Json)) (label : String) :
    manifestRecord (.obj fields) label = .ok fields := rfl

@[simp] theorem manifestArray_arr (items : List Json) (message : String) :
    manifestArray (some (.arr items)) message = .ok items := rfl

@[simp] theorem manifestString_str (text label : String) :
    manifestString (some (.str text)) label = .ok text := rfl

@[simp] theorem manifestBoolean_bool (flag : Bool) (label : String) :
    manifestBoolean (some (.bool flag)) label = .ok flag := rfl

@[simp] theorem manifestKind_text (kind : WorkspaceCheckpointRootKind) (label : String) :
    manifestKind (some (.str kind.text)) label = .ok kind := by
  rw [manifestKind, WorkspaceCheckpointRootKind.ofText_text, orThrow_some]

theorem manifestInteger_natural {n maximum : Nat} (hsafe : n ≤ maxSafeInteger)
    (hmaximum : n ≤ maximum) (label : String) :
    manifestInteger (some (naturalJson n)) label maximum = .ok n := by
  rw [naturalJson, manifestInteger, if_pos (isCount_natural hsafe hmaximum), Rat.num_natCast,
    Int.toNat_natCast]

theorem manifestNullable_integer {value : Option Nat} {maximum : Nat}
    (hsafe : maximum ≤ maxSafeInteger) (hvalue : ∀ n ∈ value, n ≤ maximum) (label : String) :
    manifestNullable (some (nullableJson naturalJson value))
      (manifestInteger (some (nullableJson naturalJson value)) label maximum) = .ok value := by
  cases value with
  | none => rfl
  | some n =>
    have hn := hvalue n rfl
    rw [nullableJson, manifestInteger_natural (hn.trans hsafe) hn]
    rfl

theorem CheckpointPlatform.manifestNullableDate_text {Body : Type}
    (platform : CheckpointPlatform Body) (value : Option String)
    (hvalue : ∀ text ∈ value, platform.isDate text = true) (label : String) :
    platform.manifestNullableDate (some (nullableJson .str value)) label = .ok value := by
  cases value with
  | none => rfl
  | some text =>
    unfold CheckpointPlatform.manifestNullableDate nullableJson manifestNullable
    rw [manifestString_str, ok_bind, refuseIf_of_not (by rw [hvalue text rfl]; decide)]
    rfl

section Entries

variable {Body : Type} (platform : CheckpointPlatform Body)

structure WorkspaceCheckpointEntry.Valid (roots : List WorkspaceCheckpointManifestRoot)
    (entry : WorkspaceCheckpointEntry) : Prop where
  rootId : assertCloudId entry.rootId "checkpoint entry rootId" = .ok entry.rootId
  root : ∃ root, roots.find? (fun root => root.rootId = entry.rootId) = some root ∧
    root.kind = entry.kind
  relativePath : normalizeRelativePath entry.relativePath = .ok entry.relativePath
  objectKey : assertSafeObjectKey entry.objectKey = .ok entry.objectKey
  sha256 : isDigest entry.sha256 = true
  mode : ∀ mode ∈ entry.mode, mode ≤ 0o777
  size : entry.size ≤ maxSafeInteger
  storedSize : entry.storedSize ≤ maxSafeInteger
  updatedAt : ∀ text ∈ entry.updatedAt, platform.isDate text = true

variable {platform} {roots : List WorkspaceCheckpointManifestRoot}
variable {index : Nat} {entryPaths objectKeys : List String}
  {entries : List WorkspaceCheckpointEntry} {entry : WorkspaceCheckpointEntry}

theorem parseManifestEntry_toJson (hvalid : entry.Valid platform roots) (index : Nat)
    {entryPaths objectKeys : List String} (hpath : key entry.rootId entry.relativePath ∉ entryPaths)
    (hkey : entry.objectKey ∉ objectKeys) :
    platform.parseManifestEntry roots index entryPaths objectKeys entry.toJson = .ok entry := by
  obtain ⟨root, hroot, hkind⟩ := hvalid.root
  simp [CheckpointPlatform.parseManifestEntry, WorkspaceCheckpointEntry.toJson, findField,
    hvalid.rootId, hroot, hkind, hvalid.relativePath, refuseIf_of_not hpath,
    refuseIf_of_not hkey, hvalid.objectKey, hvalid.sha256,
    manifestNullable_integer (by decide) hvalid.mode,
    manifestInteger_natural hvalid.size hvalid.size,
    manifestInteger_natural hvalid.storedSize hvalid.storedSize,
    platform.manifestNullableDate_text _ hvalid.updatedAt]

theorem parseManifestEntries_toJson (hvalid : ∀ entry ∈ entries, entry.Valid platform roots)
    (index : Nat) (entryPaths objectKeys : List String)
    (hpaths : (entryPaths ++ entries.map fun entry => key entry.rootId entry.relativePath).Nodup)
    (hkeys : (objectKeys ++ entries.map WorkspaceCheckpointEntry.objectKey).Nodup) :
    platform.parseManifestEntries roots index entryPaths objectKeys
      (entries.map WorkspaceCheckpointEntry.toJson) = .ok entries := by
  induction entries generalizing index entryPaths objectKeys with
  | nil => rfl
  | cons entry _ ih =>
    have hpath := List.disjoint_of_nodup_append hpaths
    have hkey := List.disjoint_of_nodup_append hkeys
    have hentry := parseManifestEntry_toJson (hvalid entry (.head _)) index
      (fun hmem => hpath hmem (.head _)) fun hmem => hkey hmem (.head _)
    rw [List.map_cons, List.append_cons] at hpaths hkeys
    have hrest := ih (fun other hmem => hvalid other (.tail _ hmem)) (index + 1) _ _ hpaths hkeys
    rw [List.map_cons, CheckpointPlatform.parseManifestEntries, hentry, ok_bind, hrest]
    rfl

theorem parseManifestEntry_eq_ok {found : WorkspaceCheckpointEntry}
    (h : platform.parseManifestEntry roots index entryPaths objectKeys entry.toJson =
      .ok found) : found.objectKey = entry.objectKey ∧ entry.objectKey ∉ objectKeys := by
  unfold CheckpointPlatform.parseManifestEntry at h
  obtain ⟨fields, hfields, h⟩ := bind_eq_ok h
  obtain rfl := Except.ok.inj hfields
  -- the root of the entry
  iterate 5 obtain ⟨_, _, h⟩ := bind_eq_ok h
  -- its path
  iterate 4 obtain ⟨_, _, h⟩ := bind_eq_ok h
  -- its object key
  obtain ⟨text, htext, h⟩ := bind_eq_ok h
  obtain ⟨objectKey, hkey, h⟩ := bind_eq_ok h
  obtain ⟨_, hnew, h⟩ := bind_eq_ok h
  obtain rfl : entry.objectKey = text := by simpa [findField] using htext
  obtain rfl := assertSafeObjectKey_eq_ok hkey
  rw [refuseIf_eq_ok] at hnew
  -- the other fields
  iterate 8 obtain ⟨_, _, h⟩ := bind_eq_ok h
  refine ⟨?_, hnew⟩
  rw [← Except.ok.inj h]

theorem parseManifestEntries_eq_ok (hkeys : objectKeys.Nodup)
    {found : List WorkspaceCheckpointEntry}
    (h : platform.parseManifestEntries roots index entryPaths objectKeys
      (entries.map WorkspaceCheckpointEntry.toJson) = .ok found) :
    (objectKeys ++ entries.map WorkspaceCheckpointEntry.objectKey).Nodup := by
  induction entries generalizing index entryPaths objectKeys found with
  | nil => simpa using hkeys
  | cons _ _ ih =>
    rw [List.map_cons, CheckpointPlatform.parseManifestEntries] at h
    obtain ⟨_, hread, h⟩ := bind_eq_ok h
    obtain ⟨_, hothers, _⟩ := bind_eq_ok h
    obtain ⟨hsame, hnew⟩ := parseManifestEntry_eq_ok hread
    rw [hsame] at hothers
    rw [List.map_cons, List.append_cons]
    apply ih ?_ hothers
    exact List.concat_eq_append ▸ hkeys.concat hnew

end Entries

theorem parseManifestRoot_toJson {root : WorkspaceCheckpointManifestRoot}
    (hid : assertCloudId root.rootId "checkpoint rootId" = .ok root.rootId) (index : Nat)
    {rootIds : List String} (hnew : root.rootId ∉ rootIds) :
    parseManifestRoot index rootIds root.toJson = .ok root := by
  simp [parseManifestRoot, WorkspaceCheckpointManifestRoot.toJson, findField, hid,
    refuseIf_of_not hnew]

theorem parseManifestRoots_toJson {roots : List WorkspaceCheckpointManifestRoot}
    (hids : ∀ root ∈ roots, assertCloudId root.rootId "checkpoint rootId" = .ok root.rootId)
    (index : Nat) (rootIds : List String)
    (hdistinct : (rootIds ++ roots.map WorkspaceCheckpointManifestRoot.rootId).Nodup) :
    parseManifestRoots index rootIds (roots.map WorkspaceCheckpointManifestRoot.toJson) =
      .ok roots := by
  induction roots generalizing index rootIds with
  | nil => rfl
  | cons root _ ih =>
    have hnew := List.disjoint_of_nodup_append hdistinct
    have hroot := parseManifestRoot_toJson (hids root (.head _)) index
      fun hmem => hnew hmem (.head _)
    rw [List.map_cons, List.append_cons] at hdistinct
    have hrest := ih (fun other hmem => hids other (.tail _ hmem)) (index + 1) _ hdistinct
    rw [List.map_cons, parseManifestRoots, hroot, ok_bind, hrest]
    rfl

section Manifests

variable {Body : Type} (platform : CheckpointPlatform Body)

/-- A manifest that passes each check made of it while it is read, for a store that takes
the given number of files. -/
structure WorkspaceCheckpointManifest.Valid (maxFiles : Nat)
    (manifest : WorkspaceCheckpointManifest) : Prop where
  tenantId : assertCloudId manifest.tenantId "checkpoint tenantId" = .ok manifest.tenantId
  sessionId : assertCloudId manifest.sessionId "checkpoint sessionId" = .ok manifest.sessionId
  checkpointId : assertCloudId manifest.checkpointId "checkpoint checkpointId" =
    .ok manifest.checkpointId
  checkpointVersion : ∀ version ∈ manifest.checkpointVersion, isCount maxSafeInteger version
  createdAt : platform.isDate manifest.createdAt = true
  manifestKey : assertSafeObjectKey manifest.manifestKey = .ok manifest.manifestKey
  latestKey : assertSafeObjectKey manifest.latestKey = .ok manifest.latestKey
  rootCount : manifest.roots.length ≤ maxCheckpointRoots
  rootIds : ∀ root ∈ manifest.roots, assertCloudId root.rootId "checkpoint rootId" = .ok root.rootId
  rootsDistinct : (manifest.roots.map WorkspaceCheckpointManifestRoot.rootId).Nodup
  entryCount : manifest.entries.length ≤ maxFiles
  entries : ∀ entry ∈ manifest.entries, entry.Valid platform manifest.roots
  pathsDistinct : (manifest.entries.map fun entry => key entry.rootId entry.relativePath).Nodup
  keysDistinct : (manifest.entries.map WorkspaceCheckpointEntry.objectKey).Nodup

variable {platform}
variable {value : Option ℚ} {maxFiles : Nat} {options : WorkspaceCheckpointOptions}
variable {manifest : WorkspaceCheckpointManifest} {tenantId sessionId : String}

theorem manifestNullable_version
    (hvalue : ∀ version ∈ value, isCount maxSafeInteger version) (label : String) :
    ∃ version, manifestNullable (some (nullableJson .num value))
        (manifestInteger (some (nullableJson .num value)) label maxSafeInteger) = .ok version ∧
      version.map Nat.cast = value := by
  cases value with
  | none => exact ⟨none, rfl, rfl⟩
  | some version =>
    have hcount := hvalue version rfl
    refine ⟨some version.num.toNat, ?_, ?_⟩
    · change (do return some (← manifestInteger (some (.num version)) label maxSafeInteger)) = _
      rw [manifestInteger, if_pos hcount]
      rfl
    · obtain ⟨hden, hnum, _⟩ := hcount
      rw [Option.map_some, Option.some_inj, ← Int.cast_natCast, Int.toNat_of_nonneg hnum]
      exact Rat.coe_int_num_of_den_eq_one hden

theorem parseManifest_jsonBody (hvalid : manifest.Valid platform maxFiles)
    (hfits : platform.byteLength (platform.jsonBody manifest.toJson) ≤ maxManifestBytes) :
    platform.parseManifest (platform.jsonBody manifest.toJson) maxFiles = .ok manifest := by
  obtain ⟨_, hversion, hcast⟩ := manifestNullable_version hvalid.checkpointVersion
    "Checkpoint manifest checkpointVersion"
  have hcreated := platform.manifestNullableDate_text (some manifest.createdAt)
    (fun _ htext => Option.some.inj htext ▸ hvalid.createdAt) "Checkpoint manifest createdAt"
  have hroots := parseManifestRoots_toJson hvalid.rootIds 0 [] hvalid.rootsDistinct
  have hentries := parseManifestEntries_toJson hvalid.entries 0 [] [] hvalid.pathsDistinct
    hvalid.keysDistinct
  unfold CheckpointPlatform.parseManifest
  rw [refuseIf_of_not (Nat.not_lt.mpr hfits), platform.parseJson_jsonBody]
  rw [nullableJson] at hcreated
  simp [WorkspaceCheckpointManifest.toJson, findField, hvalid.tenantId, hvalid.sessionId,
    hvalid.checkpointId, hversion, hcast, hcreated, hvalid.manifestKey, hvalid.latestKey, hroots,
    hentries, refuseIf_of_not (Nat.not_lt.mpr hvalid.rootCount),
    refuseIf_of_not (Nat.not_lt.mpr hvalid.entryCount)]

theorem manifestNullable_version_eq_ok {label : String} {found : Option Nat}
    (h : manifestNullable (some (nullableJson .num value))
      (manifestInteger (some (nullableJson .num value)) label maxSafeInteger) = .ok found) :
    ∀ version ∈ value, isCount maxSafeInteger version := by
  rintro version rfl
  obtain ⟨number, hnumber, _⟩ := bind_eq_ok h
  by_contra hcount
  change (if isCount maxSafeInteger version then Except.ok version.num.toNat
    else .error (label ++ " is invalid.")) = .ok number at hnumber
  rw [if_neg hcount] at hnumber
  cases hnumber

theorem parseManifest_eq_ok {manifest found : WorkspaceCheckpointManifest}
    (h : platform.parseManifest (platform.jsonBody manifest.toJson) maxFiles = .ok found) :
    platform.byteLength (platform.jsonBody manifest.toJson) ≤ maxManifestBytes ∧
      (∀ version ∈ manifest.checkpointVersion, isCount maxSafeInteger version) ∧
      (manifest.entries.map WorkspaceCheckpointEntry.objectKey).Nodup := by
  unfold CheckpointPlatform.parseManifest at h
  obtain ⟨_, hfits, h⟩ := bind_eq_ok h
  obtain ⟨_, hparsed, h⟩ := bind_eq_ok h
  rw [platform.parseJson_jsonBody, orThrow_some] at hparsed
  obtain rfl := Except.ok.inj hparsed
  obtain ⟨_, hraw, h⟩ := bind_eq_ok h
  obtain rfl := Except.ok.inj hraw
  obtain ⟨_, _, h⟩ := bind_eq_ok h
  obtain ⟨_, _, h⟩ := bind_eq_ok h
  obtain ⟨rawEntries, hentries, h⟩ := bind_eq_ok h
  obtain rfl : manifest.entries.map WorkspaceCheckpointEntry.toJson = rawEntries := by
    simpa [findField] using hentries
  obtain ⟨_, _, h⟩ := bind_eq_ok h
  obtain ⟨_, _, h⟩ := bind_eq_ok h
  -- the three ids
  iterate 6 obtain ⟨_, _, h⟩ := bind_eq_ok h
  obtain ⟨version, hversion, h⟩ := bind_eq_ok h
  -- the date and the two keys
  iterate 6 obtain ⟨_, _, h⟩ := bind_eq_ok h
  obtain ⟨_, _, h⟩ := bind_eq_ok h
  obtain ⟨_, hread, _⟩ := bind_eq_ok h
  have hcounts : manifestNullable (some (nullableJson .num manifest.checkpointVersion))
      (manifestInteger (some (nullableJson .num manifest.checkpointVersion))
        "Checkpoint manifest checkpointVersion" maxSafeInteger) = .ok version := by
    simpa [findField] using hversion
  exact ⟨Nat.not_lt.mp (refuseIf_eq_ok.mp hfits), manifestNullable_version_eq_ok hcounts,
    parseManifestEntries_eq_ok List.nodup_nil hread⟩

theorem validateEntries_of_current {ids : CheckpointIds} {maxBytes : Nat}
    (hsafe : maxBytes ≤ maxSafeInteger) {entries : List WorkspaceCheckpointEntry}
    (hkeys : ∀ entry ∈ entries, platform.checkpointFileObjectKey ids entry.rootId
      entry.relativePath = .ok entry.objectKey) {totalBytes : Nat}
    (hbytes : totalBytes + (entries.map WorkspaceCheckpointEntry.size).sum ≤ maxBytes) :
    platform.validateEntries ids maxBytes totalBytes entries = .ok () := by
  induction entries generalizing totalBytes with
  | nil => rfl
  | cons entry _ ih =>
    rw [List.map_cons, List.sum_cons, ← Nat.add_assoc] at hbytes
    have hrest := ih (fun other hmem => hkeys other (.tail _ hmem)) hbytes
    have hwithin : ¬(maxSafeInteger < totalBytes + entry.size ∨
        maxBytes < totalBytes + entry.size) := by omega
    rw [CheckpointPlatform.validateEntries, refuseIf_of_not hwithin, ok_bind,
      hkeys entry (.head _), ok_bind, CheckpointPlatform.validateObjectKey,
      if_pos rfl, ok_bind, hrest]

theorem validateManifestForRequest_of_current
    (htenant : manifest.tenantId = tenantId) (hsession : manifest.sessionId = sessionId)
    (hmanifestKey : platform.sessionCheckpointManifestKey
      ⟨tenantId, sessionId, manifest.checkpointId⟩ = .ok manifest.manifestKey)
    (hlatestKey : platform.sessionCheckpointLatestKey tenantId sessionId =
      .ok manifest.latestKey)
    (hlegacyKey : (platform.legacySessionCheckpointManifestKey
      ⟨tenantId, sessionId, manifest.checkpointId⟩).isOk = true)
    (hlegacyLatest : (platform.legacySessionCheckpointLatestKey tenantId sessionId).isOk = true)
    (hcount : manifest.entries.length ≤ options.maxFiles)
    (hkeys : ∀ entry ∈ manifest.entries, platform.checkpointFileObjectKey
      ⟨tenantId, sessionId, manifest.checkpointId⟩ entry.rootId entry.relativePath =
        .ok entry.objectKey)
    (hbytes : (manifest.entries.map WorkspaceCheckpointEntry.size).sum ≤ options.maxBytes) :
    platform.validateManifestForRequest manifest tenantId sessionId options = .ok () := by
  obtain ⟨_, hlegacyKey⟩ := isOk_iff.mp hlegacyKey
  obtain ⟨_, hlegacyLatest⟩ := isOk_iff.mp hlegacyLatest
  have hentries := validateEntries_of_current options.maxBytes_safe hkeys
    (by rw [Nat.zero_add]; exact hbytes)
  unfold CheckpointPlatform.validateManifestForRequest
  simp [htenant, hsession, hmanifestKey, hlatestKey, hlegacyKey, hlegacyLatest, hentries,
    refuseIf_of_not (Nat.not_lt.mpr hcount)]

theorem validateManifestForRequest_eq_ok
    (h : platform.validateManifestForRequest manifest tenantId sessionId options = .ok ()) :
    (platform.legacySessionCheckpointManifestKey
        ⟨tenantId, sessionId, manifest.checkpointId⟩).isOk = true ∧
      (platform.legacySessionCheckpointLatestKey tenantId sessionId).isOk = true := by
  unfold CheckpointPlatform.validateManifestForRequest at h
  obtain ⟨_, _, h⟩ := bind_eq_ok h
  obtain ⟨_, _, h⟩ := bind_eq_ok h
  obtain ⟨legacyKey, hlegacyKey, h⟩ := bind_eq_ok h
  obtain ⟨_, _, h⟩ := bind_eq_ok h
  obtain ⟨_, _, h⟩ := bind_eq_ok h
  obtain ⟨legacyLatest, hlegacyLatest, h⟩ := bind_eq_ok h
  exact ⟨isOk_iff.mpr ⟨legacyKey, hlegacyKey⟩, isOk_iff.mpr ⟨legacyLatest, hlegacyLatest⟩⟩

end Manifests

end OpenCowork.ControlPlane
