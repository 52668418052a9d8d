import OpenCowork.ControlPlane.Workspaces.Checkpoints

/-! # Keys of checkpoints

No key of the current layout is refused, whatever ids and paths it is made from, and two objects
share a key only if their digests do.
-/

namespace OpenCowork.ControlPlane

open Foundation

/-- A part that the check accepts, of characters that are kept. -/
def isKeyPart (part : String) : Bool := part.toList.all isSegmentChar && isPlainSegment part

theorem isKeyPart_iff {part : String} : isKeyPart part = true ↔
    (∀ c ∈ part.toList, isSegmentChar c = true) ∧ isPlainSegment part = true := by
  rw [isKeyPart, Bool.and_eq_true, List.all_eq_true]

theorem toNat_of_isSegmentChar {c : Char} (h : isSegmentChar c = true) :
    45 ≤ c.toNat ∧ c.toNat ≤ 122 := by
  simp only [isSegmentChar, Char.isDigit, Bool.or_eq_true, Bool.and_eq_true, decide_eq_true_eq] at h
  rcases h with (((⟨hlow, hhigh⟩ | ⟨hlow, hhigh⟩) | rfl) | rfl) | rfl
  · exact ⟨Nat.le_trans (by decide) hlow, hhigh⟩
  · exact ⟨Nat.le_trans (by decide) hlow, Nat.le_trans hhigh (by decide)⟩
  all_goals decide

theorem slash_of_isKeyPart {part : String} (h : isKeyPart part = true) : '/' ∉ part.toList :=
  fun hmem => absurd ((isKeyPart_iff.mp h).1 _ hmem) (by decide)

theorem isKeyPart_dashed {first second : String}
    (hfirst : ∀ c ∈ first.toList, isSegmentChar c = true)
    (hsecond : ∀ c ∈ second.toList, isSegmentChar c = true) :
    isKeyPart (first ++ "-" ++ second) = true := by
  have hchars : (first ++ "-" ++ second).toList = first.toList ++ ['-'] ++ second.toList := by
    rw [String.toList_append, String.toList_append]
    rfl
  have hne (text : String) (htext : '-' ∉ text.toList) : first ++ "-" ++ second ≠ text := by
    rintro rfl
    simp [hchars] at htext
  refine isKeyPart_iff.mpr ⟨hchars ▸ List.forall_mem_append.mpr ⟨List.forall_mem_append.mpr
    ⟨hfirst, List.forall_mem_singleton.mpr (by decide)⟩, hsecond⟩, ?_⟩
  simp [isPlainSegment, hne "" (by decide), hne "." (by decide), hne ".." (by decide)]

theorem length_charCodeUnits {chars : List Char} (h : ∀ c ∈ chars, c.toNat ≤ 122) :
    (chars.flatMap Text.charCodeUnits).length = chars.length := by
  induction chars with
  | nil => rfl
  | cons c rest ih =>
    have hc : c.toNat < 0x10000 := Nat.lt_of_le_of_lt (h c (.head _)) (by decide)
    rw [List.flatMap_cons, List.length_append, ih fun c hmem => h c (.tail _ hmem),
      Text.charCodeUnits, if_pos hc, List.length_cons, Nat.add_comm]
    rfl

variable {first other : String} {rest others : List String}
  (hparts : ∀ part ∈ first :: rest, isKeyPart part = true)
include hparts

theorem assertSafeObjectKey_joinPath
    (hlength : (Text.joinPath (first :: rest)).toList.length ≤ maxKeyLength) :
    assertSafeObjectKey (Text.joinPath (first :: rest)) = .ok (Text.joinPath (first :: rest)) := by
  have hkept (c : Char) (hc : c ∈ (Text.joinPath (first :: rest)).toList) :
      c = '/' ∨ isSegmentChar c = true := by
    refine (Text.mem_joinPath hc).imp_right ?_
    rintro ⟨part, hpart, hmem⟩
    exact (isKeyPart_iff.mp (hparts part hpart)).1 c hmem
  have hascii (c : Char) (hc : c ∈ (Text.joinPath (first :: rest)).toList) :
      45 ≤ c.toNat ∧ c.toNat ≤ 122 := by
    rcases hkept c hc with rfl | hsegment
    · decide
    · exact toNat_of_isSegmentChar hsegment
  obtain ⟨c, later, hkey, hc⟩ : ∃ c later,
      (Text.joinPath (first :: rest)).toList = c :: later ∧ isSegmentChar c = true := by
    obtain ⟨hchars, hplain⟩ := isKeyPart_iff.mp (hparts first (.head _))
    rw [Text.toList_joinPath, List.map_cons]
    cases hfirst : first.toList with
    | nil => simp [isPlainSegment, String.toList_eq_nil_iff.mp hfirst] at hplain
    | cons c tail =>
      have hc := hchars c (hfirst ▸ .head _)
      cases rest with
      | nil => exact ⟨c, tail, by simp, hc⟩
      | cons => exact ⟨c, _, by rw [List.map_cons, List.intercalate_cons_cons]; rfl, hc⟩
  unfold assertSafeObjectKey
  rw [refuseIf_of_not, ok_bind, refuseIf_of_not, ok_bind, refuseIf_of_not, ok_bind]
  · dsimp only
    rw [Text.segments_joinPath (List.cons_ne_nil _ _) fun part hpart =>
      slash_of_isKeyPart (hparts part hpart), refuseIf_of_not, ok_bind]
    · rfl
    · rw [List.any_eq_true]
      rintro ⟨part, hpart, hplain⟩
      rw [(isKeyPart_iff.mp (hparts part hpart)).2] at hplain
      exact Bool.false_ne_true hplain
  · rintro (hnul | hbackslash | hslash)
    · exact absurd (hascii _ hnul).1 (by decide)
    · exact (hkept _ hbackslash).elim (absurd · (by decide)) (absurd · (by decide))
    · rw [hkey] at hslash
      exact absurd (Option.some.inj hslash ▸ hc) (by decide)
  · rw [Text.codeUnits, length_charCodeUnits fun c hc => (hascii c hc).2]
    exact Nat.not_lt.mpr hlength
  · rw [Text.isBlank, hkey, List.all_cons, Text.not_isWhiteSpace (hascii c (hkey ▸ .head _))]
    exact Bool.false_ne_true

theorem joinPath_inj (hothers : ∀ part ∈ other :: others, isKeyPart part = true)
    (h : Text.joinPath (first :: rest) = Text.joinPath (other :: others)) :
    first :: rest = other :: others := by
  rw [← Text.segments_joinPath (List.cons_ne_nil _ _) fun part hpart =>
    slash_of_isKeyPart (hparts part hpart), h, Text.segments_joinPath (List.cons_ne_nil _ _)
    fun part hpart => slash_of_isKeyPart (hothers part hpart)]

omit hparts

theorem isSegmentChar_collapseRuns (inRun : Bool) (chars : List Char) :
    ∀ c ∈ collapseRuns inRun chars, isSegmentChar c = true := by
  induction chars generalizing inRun with
  | nil => exact fun _ hmem => absurd hmem List.not_mem_nil
  | cons c rest ih =>
    unfold collapseRuns
    split
    next hkept => exact List.forall_mem_cons.mpr ⟨hkept, ih false⟩
    split
    · exact ih true
    · exact List.forall_mem_cons.mpr ⟨by decide, ih true⟩

/-- What a checkpoint store holds. -/
inductive StoredObject where
  | latest (tenantId sessionId : String)
  | manifest (ids : CheckpointIds)
  | file (ids : CheckpointIds) (rootId relativePath : String)

namespace CheckpointPlatform

variable {Body : Type} (platform : CheckpointPlatform Body) (value : String) {fallback : String}

theorem sha256Text_chars : (platform.sha256Text value).toList.length = 64 ∧
    ∀ c ∈ (platform.sha256Text value).toList, isSegmentChar c = true := by
  have h := platform.isDigest_sha256Text value
  rw [isDigest, Bool.and_eq_true, List.all_eq_true, decide_eq_true_eq] at h
  refine ⟨h.1, fun c hmem => ?_⟩
  have hc := h.2 c hmem
  simp only [isSegmentChar, Bool.or_eq_true, Bool.and_eq_true, decide_eq_true_eq] at hc ⊢
  rcases hc with hdigit | ⟨hlow, hhigh⟩
  · exact .inl (.inl (.inl (.inr hdigit)))
  · exact .inl (.inl (.inl (.inl ⟨hlow, Char.le_trans hhigh (by decide)⟩)))

theorem length_safeSegment_le (value fallback : String) :
    (platform.safeSegment value fallback).toList.length ≤ 113 := by
  have htake := List.length_take_le 48 (platform.legacySafeSegment value fallback).toList
  rw [safeSegment, String.toList_append, String.toList_append, String.toList_ofList,
    List.length_append, List.length_append, (platform.sha256Text_chars value).1]
  exact Nat.add_le_add_right (Nat.add_le_add_right htake 1) 64

theorem isKeyPart_safeSegment (hfallback : isKeyPart fallback = true) :
    isKeyPart (platform.safeSegment value fallback) = true := by
  have hlegacy : ∀ c ∈ (platform.legacySafeSegment value fallback).toList,
      isSegmentChar c = true := by
    unfold legacySafeSegment
    dsimp only
    split
    · exact (isKeyPart_iff.mp hfallback).1
    · intro c hmem
      rw [String.toList_ofList] at hmem
      have hmem := (List.rdropWhile_prefix _ _).subset (List.mem_of_mem_take hmem)
      exact isSegmentChar_collapseRuns _ _ c ((List.dropWhile_suffix _).subset hmem)
  refine isKeyPart_dashed (fun c hmem => ?_) (platform.sha256Text_chars value).2
  rw [String.toList_ofList] at hmem
  exact hlegacy c (List.mem_of_mem_take hmem)

/-- The digest is what tells two parts apart. -/
theorem sha256Text_of_safeSegment_eq {value other : String}
    (h : platform.safeSegment value fallback = platform.safeSegment other fallback) :
    platform.sha256Text value = platform.sha256Text other := by
  have hchars := congrArg String.toList h
  simp only [safeSegment, String.toList_append] at hchars
  refine String.toList_inj.mp (List.append_inj_right' hchars ?_)
  rw [(platform.sha256Text_chars value).1, (platform.sha256Text_chars other).1]

def directoryParts (tenantId sessionId : String) : List String :=
  ["tenants", platform.safeSegment tenantId "tenant", "sessions",
    platform.safeSegment sessionId "session", "checkpoints"]

def objectKey : StoredObject → Except String String
  | .latest tenantId sessionId => platform.sessionCheckpointLatestKey tenantId sessionId
  | .manifest ids => platform.sessionCheckpointManifestKey ids
  | .file ids rootId relativePath => platform.checkpointFileObjectKey ids rootId relativePath

def objectParts : StoredObject → List String
  | .latest tenantId sessionId => platform.directoryParts tenantId sessionId ++ ["latest.json"]
  | .manifest ids => platform.directoryParts ids.tenantId ids.sessionId ++
      [platform.safeSegment ids.checkpointId "checkpoint", "manifest.json"]
  | .file ids rootId relativePath => platform.directoryParts ids.tenantId ids.sessionId ++
      [platform.safeSegment ids.checkpointId "checkpoint", "files", platform.rootKey rootId,
        platform.sha256Text (key rootId relativePath) ++ "-" ++
          platform.safeSegment (basename relativePath) "file"]

/-- The digests that tell an object from the others. -/
def digests : StoredObject → List String
  | .latest tenantId sessionId => [tenantId, sessionId].map platform.sha256Text
  | .manifest ids => [ids.tenantId, ids.sessionId, ids.checkpointId].map platform.sha256Text
  | .file ids rootId relativePath =>
    [ids.tenantId, ids.sessionId, ids.checkpointId, rootId, key rootId relativePath].map
      platform.sha256Text

theorem isKeyPart_objectParts (object : StoredObject) :
    ∀ part ∈ platform.objectParts object, isKeyPart part = true := by
  have hdirectory (tenantId sessionId : String) :
      ∀ part ∈ platform.directoryParts tenantId sessionId, isKeyPart part = true := by
    simp only [directoryParts, List.forall_mem_cons]
    refine ⟨?_, platform.isKeyPart_safeSegment _ ?_, ?_, platform.isKeyPart_safeSegment _ ?_, ?_,
      fun _ hmem => absurd hmem List.not_mem_nil⟩
    all_goals simp [isKeyPart, isPlainSegment, isSegmentChar]
  cases object with
  | latest tenantId sessionId =>
    exact List.forall_mem_append.mpr ⟨hdirectory _ _,
      List.forall_mem_singleton.mpr (by simp [isKeyPart, isPlainSegment, isSegmentChar])⟩
  | manifest ids =>
    refine List.forall_mem_append.mpr ⟨hdirectory _ _, List.forall_mem_cons.mpr
      ⟨platform.isKeyPart_safeSegment _ ?_, List.forall_mem_singleton.mpr ?_⟩⟩
    all_goals simp [isKeyPart, isPlainSegment, isSegmentChar]
  | file ids rootId relativePath =>
    refine List.forall_mem_append.mpr ⟨hdirectory _ _, ?_⟩
    simp only [List.forall_mem_cons]
    refine ⟨platform.isKeyPart_safeSegment _ ?_, ?_, platform.isKeyPart_safeSegment _ ?_,
      isKeyPart_dashed (platform.sha256Text_chars _).2
        (isKeyPart_iff.mp (platform.isKeyPart_safeSegment _ ?_)).1,
      fun _ hmem => absurd hmem List.not_mem_nil⟩
    all_goals simp [isKeyPart, isPlainSegment, isSegmentChar]

theorem length_directory_le (tenantId sessionId : String) :
    (Text.joinPath (platform.directoryParts tenantId sessionId)).toList.length ≤ 256 := by
  have htenant := platform.length_safeSegment_le tenantId "tenant"
  have hsession := platform.length_safeSegment_le sessionId "session"
  have hwords : "tenants".toList.length = 7 ∧ "sessions".toList.length = 8 ∧
    "checkpoints".toList.length = 11 := by simp
  simp only [directoryParts, Text.toList_joinPath, List.map_cons, List.map_nil,
    List.intercalate_cons_cons, List.intercalate_singleton, List.length_append,
    List.length_singleton]
  omega

theorem objectKey_eq_ok (object : StoredObject) {key : String}
    (h : platform.objectKey object = .ok key) : assertSafeObjectKey key = .ok key := by
  cases object
  all_goals
    obtain ⟨_, _, h⟩ := bind_eq_ok h
    obtain rfl := assertSafeObjectKey_eq_ok h
    exact h

/-- No key is refused. -/
theorem objectKey_eq (object : StoredObject) :
    platform.objectKey object = .ok (Text.joinPath (platform.objectParts object)) := by
  have hparts := platform.isKeyPart_objectParts object
  have hwords : "/latest.json".toList.length = 12 ∧ "/manifest.json".toList.length = 14 ∧
      "files".toList.length = 5 ∧ "/".toList.length = 1 ∧ "-".toList.length = 1 := by simp
  have hdirectory (tenantId sessionId : String) : platform.checkpointPrefix tenantId sessionId =
      .ok (Text.joinPath (platform.directoryParts tenantId sessionId)) :=
    assertSafeObjectKey_joinPath
      (fun part hpart => platform.isKeyPart_objectParts (.latest tenantId sessionId) part
        (List.mem_append_left _ hpart))
      (Nat.le_trans (platform.length_directory_le tenantId sessionId) (by decide))
  have hsafe {written : String} (hkey : written = Text.joinPath (platform.objectParts object))
      (hlength : written.toList.length ≤ 1024) :
      assertSafeObjectKey written = .ok (Text.joinPath (platform.objectParts object)) := by
    subst hkey
    cases object <;> exact assertSafeObjectKey_joinPath hparts hlength
  cases object with
  | latest tenantId sessionId =>
    have hprefix := platform.length_directory_le tenantId sessionId
    rw [objectKey, sessionCheckpointLatestKey, hdirectory, ok_bind]
    refine hsafe (String.toList_inj.mp ?_) ?_
    · simp [objectParts, directoryParts, Text.toList_joinPath, List.intercalate]
    · rw [String.toList_append, List.length_append]
      omega
  | manifest ids =>
    have hprefix := platform.length_directory_le ids.tenantId ids.sessionId
    have hcheckpoint := platform.length_safeSegment_le ids.checkpointId "checkpoint"
    rw [objectKey, sessionCheckpointManifestKey, hdirectory, ok_bind]
    refine hsafe (String.toList_inj.mp ?_) ?_
    · simp [objectParts, directoryParts, Text.toList_joinPath, List.intercalate]
    · simp only [String.toList_append, List.length_append]
      omega
  | file ids rootId relativePath =>
    have hprefix := platform.length_directory_le ids.tenantId ids.sessionId
    have hcheckpoint := platform.length_safeSegment_le ids.checkpointId "checkpoint"
    have hroot := platform.length_safeSegment_le rootId "root"
    have hdigest := (platform.sha256Text_chars (key rootId relativePath)).1
    have hname := platform.length_safeSegment_le (basename relativePath) "file"
    rw [objectKey, checkpointFileObjectKey, hdirectory, ok_bind]
    refine hsafe (String.toList_inj.mp ?_) ?_
    · simp [objectParts, directoryParts, Text.toList_joinPath, List.intercalate]
    · simp only [rootKey, Text.toList_joinPath (_ :: _), List.map_cons, List.map_nil,
        List.intercalate_cons_cons, List.intercalate_singleton, String.toList_append,
        List.length_append, List.length_singleton]
      omega

variable {platform} in
theorem objectParts_inj {first second : StoredObject}
    (h : platform.objectKey first = platform.objectKey second) :
    platform.objectParts first = platform.objectParts second := by
  rw [objectKey_eq, objectKey_eq, Except.ok.injEq] at h
  have hfirst := platform.isKeyPart_objectParts first
  have hsecond := platform.isKeyPart_objectParts second
  cases first <;> cases second <;> exact joinPath_inj hfirst hsecond h

theorem checkpointFileObjectKey_ne {ids : CheckpointIds} {rootId relativePath fileKey : String}
    (hfile : platform.checkpointFileObjectKey ids rootId relativePath = .ok fileKey) :
    platform.sessionCheckpointManifestKey ids ≠ .ok fileKey ∧
      platform.sessionCheckpointLatestKey ids.tenantId ids.sessionId ≠ .ok fileKey := by
  have hlength (object : StoredObject) (hkey : platform.objectKey object = .ok fileKey) :
      (platform.objectParts object).length = 9 := by
    have hsame : platform.objectKey object = platform.objectKey (.file ids rootId relativePath) :=
      hkey.trans hfile.symm
    rw [objectParts_inj hsame]
    rfl
  constructor
  · exact fun hkey => absurd (hlength (.manifest ids) hkey) (by simp [objectParts, directoryParts])
  · exact fun hkey => absurd (hlength (.latest _ _) hkey) (by simp [objectParts, directoryParts])

/-- Whatever the ids, the root and the path are, no key is refused, and two objects stand under
one key only if they are of one kind and their digests agree. -/
theorem objectKeys_apart :
    (∀ object, ∃ key, platform.objectKey object = .ok key) ∧
      ∀ first second, platform.objectKey first = platform.objectKey second →
        platform.digests first = platform.digests second := by
  refine ⟨fun object => ⟨_, platform.objectKey_eq object⟩, fun first second h => ?_⟩
  have hparts := objectParts_inj h
  -- the keys of two kinds have different numbers of parts
  cases first <;> cases second
  all_goals
    simp only [objectParts, directoryParts, List.cons_append, List.nil_append, List.cons.injEq,
      reduceCtorEq, and_false] at hparts
  · obtain ⟨-, htenant, -, hsession, -⟩ := hparts
    simp only [digests, List.map_cons, platform.sha256Text_of_safeSegment_eq htenant,
      platform.sha256Text_of_safeSegment_eq hsession]
  · obtain ⟨-, htenant, -, hsession, -, hcheckpoint, -⟩ := hparts
    simp only [digests, List.map_cons, platform.sha256Text_of_safeSegment_eq htenant,
      platform.sha256Text_of_safeSegment_eq hsession,
      platform.sha256Text_of_safeSegment_eq hcheckpoint]
  · obtain ⟨-, htenant, -, hsession, -, hcheckpoint, -, hroot, hname, -⟩ := hparts
    have hchars := congrArg String.toList hname
    simp only [String.append_assoc, String.toList_append] at hchars
    have hpath := String.toList_inj.mp (List.append_inj_left hchars
      (by rw [(platform.sha256Text_chars _).1, (platform.sha256Text_chars _).1]))
    simp only [digests, List.map_cons, platform.sha256Text_of_safeSegment_eq htenant,
      platform.sha256Text_of_safeSegment_eq hsession,
      platform.sha256Text_of_safeSegment_eq hcheckpoint,
      platform.sha256Text_of_safeSegment_eq hroot, hpath]

end CheckpointPlatform

end OpenCowork.ControlPlane
