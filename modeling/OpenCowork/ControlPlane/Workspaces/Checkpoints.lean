import Mathlib.Data.List.DropRight
import OpenCowork.ControlPlane.Records
import OpenCowork.Foundation.Checks
import OpenCowork.Foundation.PathText

/-! # Workspace checkpoints

The manifest of a checkpoint and what it is made of, what the checkpoint store relies on
in its platform, and the object keys under which it files a checkpoint. Keys of the
current layout end in a digest of the id they are made from; the legacy layout files
under the readable part alone, and is still read.
-/

namespace OpenCowork.ControlPlane

open Foundation

def maxSafeInteger : Nat := 9007199254740991

inductive WorkspaceCheckpointRootKind where
  | opencodeConfig
  | opencodeData
  | opencodeState
  | opencodeCache
  | coworkRuntimeContent
  | workspace
  | artifact
  | metadata
  deriving DecidableEq

namespace WorkspaceCheckpointRootKind

def text : WorkspaceCheckpointRootKind → String
  | opencodeConfig => "opencode-config"
  | opencodeData => "opencode-data"
  | opencodeState => "opencode-state"
  | opencodeCache => "opencode-cache"
  | coworkRuntimeContent => "cowork-runtime-content"
  | workspace => "workspace"
  | artifact => "artifact"
  | metadata => "metadata"

/-- `CHECKPOINT_ROOT_KINDS`. -/
def all : List WorkspaceCheckpointRootKind :=
  [opencodeConfig, opencodeData, opencodeState, opencodeCache, coworkRuntimeContent, workspace,
    artifact, metadata]

def ofText (text : String) : Option WorkspaceCheckpointRootKind :=
  all.find? fun kind => kind.text = text

@[simp] theorem ofText_text (kind : WorkspaceCheckpointRootKind) : ofText kind.text =
    some kind := by
  cases kind <;> decide

end WorkspaceCheckpointRootKind

/-- A directory to save or to restore. Its path is given by the names on it, as `resolve`
leaves them. -/
structure WorkspaceCheckpointRoot where
  rootId : String
  kind : WorkspaceCheckpointRootKind
  path : List String
  required : Option Bool := none
  secretBearing : Option Bool := none
  deriving DecidableEq

structure WorkspaceCheckpointEntry where
  rootId : String
  kind : WorkspaceCheckpointRootKind
  (relativePath objectKey : String)
  (size storedSize : Nat)
  sha256 : String
  mode : Option Nat
  (secretBearing encrypted : Bool)
  updatedAt : Option String
  deriving DecidableEq

structure WorkspaceCheckpointManifestRoot where
  rootId : String
  kind : WorkspaceCheckpointRootKind
  (required secretBearing : Bool)
  deriving DecidableEq

structure WorkspaceCheckpointManifest where
  (tenantId sessionId checkpointId : String)
  checkpointVersion : Option ℚ
  (createdAt manifestKey latestKey : String)
  roots : List WorkspaceCheckpointManifestRoot
  entries : List WorkspaceCheckpointEntry
  deriving DecidableEq

/-- A value that may be null. -/
def nullableJson {α : Type} (encode : α → Json) : Option α → Json
  | none => .null
  | some value => encode value

def naturalJson (n : Nat) : Json := .num n

def WorkspaceCheckpointEntry.toJson (entry : WorkspaceCheckpointEntry) : Json :=
  .obj [("rootId", .str entry.rootId), ("kind", .str entry.kind.text),
    ("relativePath", .str entry.relativePath), ("objectKey", .str entry.objectKey),
    ("size", naturalJson entry.size), ("storedSize", naturalJson entry.storedSize),
    ("sha256", .str entry.sha256), ("mode", nullableJson naturalJson entry.mode),
    ("secretBearing", .bool entry.secretBearing), ("encrypted", .bool entry.encrypted),
    ("updatedAt", nullableJson .str entry.updatedAt)]

def WorkspaceCheckpointManifestRoot.toJson (root : WorkspaceCheckpointManifestRoot) : Json :=
  .obj [("rootId", .str root.rootId), ("kind", .str root.kind.text),
    ("required", .bool root.required), ("secretBearing", .bool root.secretBearing)]

def WorkspaceCheckpointManifest.toJson (manifest : WorkspaceCheckpointManifest) : Json :=
  .obj [("version", naturalJson 1), ("tenantId", .str manifest.tenantId),
    ("sessionId", .str manifest.sessionId), ("checkpointId", .str manifest.checkpointId),
    ("checkpointVersion", nullableJson .num manifest.checkpointVersion),
    ("createdAt", .str manifest.createdAt), ("manifestKey", .str manifest.manifestKey),
    ("latestKey", .str manifest.latestKey),
    ("roots", .arr (manifest.roots.map WorkspaceCheckpointManifestRoot.toJson)),
    ("entries", .arr (manifest.entries.map WorkspaceCheckpointEntry.toJson))]

/-- `/^[a-f0-9]{64}$/`. -/
def isDigest (text : String) : Bool :=
  text.length = 64 && text.toList.all fun c => c.isDigit || ('a' ≤ c && c ≤ 'f')

/-- What the checkpoint store relies on: buffers and their lengths, the text that bytes are
read as (what is not UTF-8 is replaced), the collation and the lower case of texts, the ISO
text of a date and the texts that are read as dates, SHA-256, the JSON text of a manifest,
and the secret adapter, which reveals what it protected in the same context. -/
structure CheckpointPlatform (Body : Type) where
  byteLength : Body → Nat
  byteLength_le : ∀ body, byteLength body ≤ maxSafeInteger
  decodeUtf8 : ByteArray → String
  decodeUtf8_toUTF8 : ∀ text : String, decodeUtf8 text.toUTF8 = text
  localeCompare : String → String → Ordering
  toLowerCase : String → String
  isoString : Instant → Option String
  isDate : String → Bool
  isDate_isoString : ∀ time text, isoString time = some text → isDate text = true
  sha256 : Body → String
  isDigest_sha256 : ∀ body, isDigest (sha256 body) = true
  sha256Text : String → String
  isDigest_sha256Text : ∀ text, isDigest (sha256Text text) = true
  jsonBody : Json → Body
  parseJson : Body → Option Json
  parseJson_jsonBody : ∀ manifest : WorkspaceCheckpointManifest,
    parseJson (jsonBody manifest.toJson) = some manifest.toJson
  protect : Body → String → Body
  reveal : Body → String → Except String Body
  reveal_protect : ∀ body context, reveal (protect body context) context = .ok body

/-! ## Checked texts -/

@[irreducible] def assertCloudId (value label : String) : Except String String := do
  refuseIf (Text.isBlank value = true ∨ '\x00' ∈ value.toList ∨
    256 < (Text.codeUnits value).length) (label ++ " is invalid.")
  return value

def maxKeyLength : Nat := 1024

/-- Neither empty nor a step to the directory itself or to the one above. -/
def isPlainSegment (part : String) : Bool := part ≠ "" && part ≠ "." && part ≠ ".."

@[irreducible] def assertSafeObjectKey (key : String) : Except String String := do
  refuseIf (Text.isBlank key = true) "Object key is required."
  refuseIf (maxKeyLength < (Text.codeUnits key).length) "Object key is too large."
  refuseIf ('\x00' ∈ key.toList ∨ '\\' ∈ key.toList ∨ key.toList.head? = some '/')
    "Object key must be a relative POSIX-style key."
  let parts := Text.segments key
  refuseIf (parts.any (fun part => !isPlainSegment part) = true)
    "Object key must not contain empty, dot, or traversal segments."
  return Text.joinPath parts

@[irreducible] def normalizeRelativePath (value : String) : Except String String := do
  let normalized := Text.slashed value
  refuseIf (normalized = "" ∨ '\x00' ∈ normalized.toList ∨ normalized.toList.head? = some '/' ∨
      (Text.segments normalized).any (fun part => !isPlainSegment part) = true)
    ("Checkpoint relative path is invalid: " ++ value)
  return normalized

variable {found value label : String}

theorem assertCloudId_eq_ok (h : assertCloudId value label = .ok found) :
    found = value ∧ '\x00' ∉ value.toList ∧ ∀ other, assertCloudId value other = .ok value := by
  unfold assertCloudId at h
  obtain ⟨_, hchecked, hfound⟩ := bind_eq_ok h
  rw [refuseIf_eq_ok, not_or, not_or] at hchecked
  refine ⟨(Except.ok.inj hfound).symm, hchecked.2.1, fun _ => ?_⟩
  rw [assertCloudId, refuseIf_of_not (by rw [not_or, not_or]; exact hchecked)]
  rfl

theorem assertSafeObjectKey_eq_ok {key : String}
    (h : assertSafeObjectKey key = .ok found) : found = key := by
  unfold assertSafeObjectKey at h
  iterate 4 obtain ⟨_, _, h⟩ := bind_eq_ok h
  rw [← Except.ok.inj h, Text.joinPath_segments]

theorem assertCloudId_ne_empty (h : assertCloudId value label = .ok found) : value ≠ "" := by
  rintro rfl
  unfold assertCloudId at h
  obtain ⟨_, hchecked, _⟩ := bind_eq_ok h
  exact refuseIf_eq_ok.mp hchecked (.inl rfl)

theorem assertSafeObjectKey_ne_empty {key : String}
    (h : assertSafeObjectKey key = .ok found) : key ≠ "" := by
  rintro rfl
  unfold assertSafeObjectKey at h
  obtain ⟨_, hchecked, _⟩ := bind_eq_ok h
  exact refuseIf_eq_ok.mp hchecked rfl

variable (h : normalizeRelativePath value = .ok found)
include h

theorem normalizeRelativePath_ne_empty : found ≠ "" := by
  unfold normalizeRelativePath at h
  obtain ⟨_, hchecked, h⟩ := bind_eq_ok h
  obtain rfl := Except.ok.inj h
  exact fun hempty => refuseIf_eq_ok.mp hchecked (.inl hempty)

theorem normalizeRelativePath_eq_ok :
    found = Text.slashed value ∧ '\x00' ∉ found.toList ∧
      normalizeRelativePath found = .ok found := by
  unfold normalizeRelativePath at h
  obtain ⟨_, hchecked, h⟩ := bind_eq_ok h
  obtain rfl := Except.ok.inj h
  rw [refuseIf_eq_ok] at hchecked
  refine ⟨rfl, fun hnul => hchecked (.inr (.inl hnul)), ?_⟩
  rw [normalizeRelativePath, Text.slashed_slashed, refuseIf_of_not hchecked]
  rfl

omit h

/-! ## Object keys -/

/-- The characters that a readable part keeps. -/
def isSegmentChar (c : Char) : Bool :=
  ('a' ≤ c && c ≤ 'z') || c.isDigit || c = '_' || c = '.' || c = '-'

/-- Each run of characters that are not kept becomes one dash. -/
def collapseRuns : Bool → List Char → List Char
  | _, [] => []
  | inRun, c :: rest =>
    if isSegmentChar c then c :: collapseRuns false rest
    else if inRun then collapseRuns true rest
    else '-' :: collapseRuns true rest

structure CheckpointIds where
  (tenantId sessionId checkpointId : String)

/-- The last name on a path. -/
def basename (relativePath : String) : String := (Text.segments relativePath).getLastD ""

namespace CheckpointPlatform

variable {Body : Type} (platform : CheckpointPlatform Body) (value fallback : String)
  (ids : CheckpointIds) (tenantId sessionId : String) (rootId relativePath : String)

def legacySafeSegment : String :=
  let collapsed := collapseRuns false (platform.toLowerCase (Text.trim value)).toList
  let normalized := (collapsed.dropWhile (· = '-')).rdropWhile (· = '-')
  if normalized.take 96 = [] then fallback else String.ofList (normalized.take 96)

def safeSegment : String :=
  String.ofList ((platform.legacySafeSegment value fallback).toList.take 48) ++ "-" ++
    platform.sha256Text value

def checkpointPrefixWith (segment : String → String → String) (tenantId sessionId : String) :
    Except String String :=
  assertSafeObjectKey (Text.joinPath ["tenants", segment tenantId "tenant", "sessions",
    segment sessionId "session", "checkpoints"])

def checkpointPrefix : String → String → Except String String :=
  checkpointPrefixWith platform.safeSegment

def legacyCheckpointPrefix : String → String → Except String String :=
  checkpointPrefixWith platform.legacySafeSegment

def sessionCheckpointManifestKey : Except String String := do
  let directory ← platform.checkpointPrefix ids.tenantId ids.sessionId
  assertSafeObjectKey (directory ++ "/" ++ platform.safeSegment ids.checkpointId "checkpoint" ++
    "/manifest.json")

def sessionCheckpointLatestKey : Except String String := do
  let directory ← platform.checkpointPrefix tenantId sessionId
  assertSafeObjectKey (directory ++ "/latest.json")

def legacySessionCheckpointManifestKey : Except String String := do
  let directory ← platform.legacyCheckpointPrefix ids.tenantId ids.sessionId
  assertSafeObjectKey (directory ++ "/" ++
    platform.legacySafeSegment ids.checkpointId "checkpoint" ++ "/manifest.json")

def legacySessionCheckpointLatestKey : Except String String := do
  let directory ← platform.legacyCheckpointPrefix tenantId sessionId
  assertSafeObjectKey (directory ++ "/latest.json")

def rootKey (rootId : String) : String := platform.safeSegment rootId "root"

def legacyRootKey (rootId : String) : String := platform.legacySafeSegment rootId "root"

def checkpointFileObjectKey :
    Except String String := do
  let digest := platform.sha256Text (key rootId relativePath)
  let name := platform.safeSegment (basename relativePath) "file"
  let directory ← platform.checkpointPrefix ids.tenantId ids.sessionId
  assertSafeObjectKey (Text.joinPath [directory, platform.safeSegment ids.checkpointId "checkpoint",
    "files", platform.rootKey rootId, digest ++ "-" ++ name])

def legacyCheckpointFileObjectKey :
    Except String String := do
  let digest := String.ofList
    ((platform.sha256Text (key rootId relativePath)).toList.take 24)
  let name := platform.legacySafeSegment (basename relativePath) "file"
  let directory ← platform.legacyCheckpointPrefix ids.tenantId ids.sessionId
  assertSafeObjectKey (Text.joinPath [directory,
    platform.legacySafeSegment ids.checkpointId "checkpoint", "files",
    platform.legacyRootKey rootId, digest ++ "-" ++ name])

/-- What a file is encrypted for. -/
def secretContext : String :=
  String.intercalate "\x00" ["open-cowork-cloud-checkpoint", ids.tenantId, ids.sessionId,
    ids.checkpointId, rootId, relativePath]

end CheckpointPlatform

end OpenCowork.ControlPlane
