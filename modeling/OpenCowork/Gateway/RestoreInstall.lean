import OpenCowork.Gateway.RestoreRecovery

/-! # A restore on its own

What a restore finds and leaves, from a state directory without a journal. None of its
operations sees the stage directories of other restores, and it ends with one generation
installed and without a journal, also when it throws.
-/

namespace OpenCowork.Gateway

open Foundation FileProcess Process
open FileOp (copy existsSync handle put put_right)

variable {Content : Type} (platform : StoragePlatform Content) (request : RestoreRequest Content)

def RestoreRequest.Own (name : String) : Prop :=
  isStorageRestoreStageName name = false ∨ name = request.stageDirName

/-- The operation does not see what stands under other restores' stage directories. -/
def RestoreRequest.Blind (op : FileOp String Content) (tree : StateDir Content) : Prop :=
  Process.Blind handle (FileTree.SameAt request.Own) op tree

/-- The file that the journal is written to before it is put in its place. -/
abbrev RestoreRequest.temporary : String := storageRestoreTemporaryFile request.processId

/-- A state directory without a journal in which the managed names lead to files only. -/
structure ReadyToRestore (tree : StateDir Content) : Prop where
  root : tree.isDirectory = true
  gone : tree.lookup storageRestoreJournalPath = none
  files : ∀ name ∈ restoreManagedFileNames,
    (tree.lookup [name]).any FileTree.isDirectory = false

structure BackupInstalled (tree : StateDir Content) : Prop where
  installed : ∀ name ∈ restoreManagedFileNames, ∀ digest,
    request.expectedSha256 name = some digest → platform.Matches [name] digest tree
  removed : ∀ name ∈ restoreManagedFileNames, request.expectedSha256 name = none →
    tree.lookup [name] = none

/-- The managed files are those of the first directory. -/
def PreviousInstalled (previous tree : StateDir Content) : Prop :=
  ∀ name ∈ restoreManagedFileNames, tree.lookup [name] = previous.lookup [name]

/-- One generation is installed, and no journal is left. -/
structure Restored (previous tree : StateDir Content) : Prop where
  gone : tree.lookup storageRestoreJournalPath = none
  uniform : BackupInstalled platform request tree ∨ PreviousInstalled previous tree

/-- A safety backup leaves the journal and the managed names alone as far as a restore depends
on them, and looks at no stage directories of others. -/
structure RestoreRequest.SafeBackup : Prop where
  blind : ∀ act, request.safetyBackup = some act → ∀ tree, request.Blind (.other act) tree
  ready : ∀ act, request.safetyBackup = some act → ∀ tree, ReadyToRestore tree →
    ReadyToRestore (act tree).2

/-! ## Names -/

section Names

variable {request}
variable {name : String} (h : name ∈ restoreManagedFileNames)
include h

theorem not_isStageName_of_managed : isStorageRestoreStageName name = false := by
  revert name
  decide

theorem managed_ne_journalFile : name ≠ storageRestoreJournalFile := by
  revert name
  decide

omit h in
theorem managed_nodup : restoreManagedFileNames.Nodup := by decide

theorem own_of_managed : request.Own name :=
  .inl (not_isStageName_of_managed h)

omit h

theorem own_journalFile : request.Own storageRestoreJournalFile := .inl (by decide)

theorem own_stage : request.Own request.stageDirName := .inr rfl

theorem temporary_toList : request.temporary.toList =
    storageRestoreJournalFile.toList ++ '.' :: (request.processId.toList ++ ".tmp".toList) := by
  simp [storageRestoreTemporaryFile, String.toList_append]

theorem not_isStageName_temporary : isStorageRestoreStageName request.temporary = false := by
  unfold isStorageRestoreStageName
  rw [temporary_toList]
  rfl

theorem own_temporary : request.Own request.temporary := .inl not_isStageName_temporary

theorem temporary_ne_journalFile : request.temporary ≠ storageRestoreJournalFile := by
  intro h
  have hlength := congrArg (fun name => name.toList.length) h
  simp only [temporary_toList, List.length_append, List.length_cons] at hlength
  omega

theorem managed_ne_temporary (h : name ∈ restoreManagedFileNames) : name ≠ request.temporary := by
  have hheads : ∀ name ∈ restoreManagedFileNames, name.toList.head? ≠ some '.' := by decide
  rintro rfl
  apply hheads _ h
  rw [temporary_toList]
  rfl

theorem managed_ne_stage (hstage : isStorageRestoreStageName request.stageDirName = true)
    (h : name ∈ restoreManagedFileNames) : name ≠ request.stageDirName := by
  rintro rfl
  exact Bool.false_ne_true ((not_isStageName_of_managed h).symm.trans hstage)

end Names

/-! ## Staging -/

/-- The names that staging does not touch. -/
def RestoreRequest.Outside (name : String) : Prop :=
  name ≠ request.stageDirName ∧ name ≠ request.temporary

section Staging

variable {platform request} {start tree after : StateDir Content} {name : String}

/-- What a staged entry says about the file that it is about to replace. -/
structure KeptTarget (request : RestoreRequest Content) (start tree : StateDir Content)
    (entry : StorageRestoreJournalEntry) : Prop where
  expected : entry.expectedSha256 = request.expectedSha256 entry.name
  had : entry.hadTarget = (start.lookup [entry.name]).isSome
  copied : entry.hadTarget = true →
    ∃ data, tree.lookup (request.rollbackDir ++ [entry.name]) = some (.file data) ∧
      start.lookup [entry.name] = some (.file data)

theorem KeptTarget.of_lookup {entry : StorageRestoreJournalEntry}
    (h : KeptTarget request start tree entry)
    (hsame : after.lookup (request.rollbackDir ++ [entry.name]) =
      tree.lookup (request.rollbackDir ++ [entry.name])) :
    KeptTarget request start after entry where
  expected := h.expected
  had := h.had
  copied hhad := by
    rw [hsame]
    exact h.copied hhad

theorem not_outside_stage : ¬request.Outside request.stageDirName := fun h => h.1 rfl

theorem not_outside_temporary : ¬request.Outside request.temporary := fun h => h.2 rfl

variable (hstage : isStorageRestoreStageName request.stageDirName = true)
include hstage

theorem outside_of_managed (h : name ∈ restoreManagedFileNames) : request.Outside name :=
  ⟨managed_ne_stage hstage h, managed_ne_temporary h⟩

theorem outside_journalFile : request.Outside storageRestoreJournalFile :=
  ⟨journalFile_ne_of_stageName hstage, temporary_ne_journalFile.symm⟩

omit hstage

theorem within_own_stage (rest : List String) :
    ∃ name rest', request.stageDirName :: rest = name :: rest' ∧ request.Own name :=
  ⟨_, _, rfl, own_stage⟩

theorem within_own_managed (h : name ∈ restoreManagedFileNames) :
    ∃ name' rest, [name] = name' :: rest ∧ request.Own name' :=
  ⟨_, _, rfl, own_of_managed h⟩

theorem meets_staging (op : FileOp String Content)
    {good : FileOp.Result op → StateDir Content → Prop} (hop : op.Within request.Own)
    (hafter : FileTree.SameAt request.Outside start (handle op tree).2)
    (hgood : ∀ answer after, handle op tree = (.ok answer, after) →
      FileTree.SameAt request.Outside start after → good answer after) :
    Process.Meets handle request.Blind good
      (fun _ after => FileTree.SameAt request.Outside start after) (Process.call op) tree := by
  refine meets_call_cases hop.blind (fun answer after h => ?_) (fun _ after h => ?_)
  · rw [h] at hafter
    exact hgood answer after h hafter
  · rwa [h] at hafter

theorem meets_stageFile (h : FileTree.SameAt request.Outside start tree) (file : String × String) :
    (request.stageFile file).Meets handle request.Blind
      (fun _ after => FileTree.SameAt request.Outside start after)
      (fun _ after => FileTree.SameAt request.Outside start after) tree := by
  unfold RestoreRequest.stageFile
  split
  next data _ =>
    exact meets_staging (.writeFileSync _ data) (within_own_stage _)
      (put_right h not_outside_stage _ (.file data)) fun _ _ _ hafter => hafter
  · exact h

section

variable (hstage : isStorageRestoreStageName request.stageDirName = true)
include hstage

theorem meets_keepTarget (h : FileTree.SameAt request.Outside start tree) {name : String}
    (hname : name ∈ restoreManagedFileNames) :
    (request.keepTarget name).Meets handle request.Blind
      (fun entry after => FileTree.SameAt request.Outside start after ∧ entry.name = name ∧
        KeptTarget request start after entry ∧ ∀ other, other ≠ name →
          after.lookup (request.rollbackDir ++ [other]) =
            tree.lookup (request.rollbackDir ++ [other]))
      (fun _ after => FileTree.SameAt request.Outside start after) tree := by
  have hsame : start.lookup [name] = tree.lookup [name] :=
    h.lookup (outside_of_managed hstage hname) []
  have hop : (existsSync [name] : FileOp String Content).Within request.Own :=
    within_own_managed hname
  refine meets_bind.mpr (meets_call hop.blind rfl ?_)
  cases hfound : (tree.lookup [name]).isSome with
  | false =>
    refine ⟨h, rfl, ⟨rfl, ?_, fun hhad => absurd hhad Bool.false_ne_true⟩, fun _ _ => rfl⟩
    rw [hsame, hfound]
  | true =>
    refine meets_bind.mpr (meets_staging (.copyFileSync _ _)
      ⟨within_own_managed hname, within_own_stage _⟩
      (FileOp.copy_right h not_outside_stage _ _) fun _ _ hcopy hafter => ?_)
    obtain ⟨data, hdata, hcopied⟩ := FileOp.copy_eq_ok hcopy
    refine ⟨hafter, rfl, ⟨rfl, ?_, fun _ => ⟨data, hcopied, hsame.trans hdata⟩⟩, ?_⟩
    · rw [hsame, hfound]
    · intro other hother
      have hframe : (copy tree [name] (request.rollbackDir ++ [name])).2.lookup
          (request.rollbackDir ++ [other]) = tree.lookup (request.rollbackDir ++ [other]) := by
        apply FileOp.lookup_copy
        exact incomparable_cons.mpr (incomparable_cons.mpr (incomparable_of_ne hother.symm _ _))
      rwa [show copy tree [name] (request.rollbackDir ++ [name]) = _ from hcopy] at hframe

theorem meets_keepTargets
    (names : List String) (hnames : ∀ name ∈ names, name ∈ restoreManagedFileNames)
    (hdistinct : names.Nodup) (h : FileTree.SameAt request.Outside start tree) :
    (request.keepTargets names).Meets handle request.Blind
      (fun entries after => FileTree.SameAt request.Outside start after ∧
        entries.map StorageRestoreJournalEntry.name = names ∧
        (∀ entry ∈ entries, KeptTarget request start after entry) ∧ ∀ other, other ∉ names →
          after.lookup (request.rollbackDir ++ [other]) =
            tree.lookup (request.rollbackDir ++ [other]))
      (fun _ after => FileTree.SameAt request.Outside start after) tree := by
  induction names generalizing tree with
  | nil => exact ⟨h, rfl, fun _ hmem => absurd hmem List.not_mem_nil, fun _ _ => rfl⟩
  | cons name _ ih =>
    obtain ⟨hhead, hrest⟩ := List.nodup_cons.mp hdistinct
    refine meets_bind.mpr ((meets_keepTarget hstage h
      (hnames name (.head _))).mono (fun _ _ h => h) ?_ (fun _ _ h => h))
    rintro _ _ ⟨hmiddle, rfl, hkept, hothers⟩
    refine meets_bind.mpr ((ih (fun other hmem =>
      hnames other (.tail _ hmem)) hrest hmiddle).mono (fun _ _ h => h) ?_
      (fun _ _ h => h))
    rintro _ _ ⟨hafter, rfl, hentries, hlater⟩
    refine ⟨hafter, rfl, fun other hmem => ?_, fun other hother => ?_⟩
    · rcases List.mem_cons.mp hmem with rfl | hmem
      · exact hkept.of_lookup (hlater _ hhead)
      · exact hentries other hmem
    · rw [List.mem_cons, not_or] at hother
      rw [hlater other hother.2, hothers other hother.1]

theorem meets_writeStorageRestoreJournal {journal : StorageRestoreJournal}
    (hresolved : platform.resolve journal.stateDir = journal.stateDir)
    (h : FileTree.SameAt request.Outside start tree)
    (hgone : start.lookup storageRestoreJournalPath = none) :
    (writeStorageRestoreJournal platform request.processId journal).Meets handle
      request.Blind
      (fun _ after => FileTree.SameAt (· ∈ restoreManagedFileNames) start after ∧
        HoldsJournal platform journal.stateDir journal after ∧
        ∀ rest, after.lookup (request.stageDirName :: rest) =
          tree.lookup (request.stageDirName :: rest))
      (fun _ after => FileTree.SameAt request.Outside start after) tree := by
  have htemporary : ∃ name rest, [request.temporary] = name :: rest ∧ request.Own name :=
    ⟨_, _, rfl, own_temporary⟩
  have hjournal : ∃ name rest, storageRestoreJournalPath = name :: rest ∧ request.Own name :=
    ⟨_, _, rfl, own_journalFile⟩
  unfold writeStorageRestoreJournal
  cases hvalid : validateStorageRestoreJournal platform (some journal.row) journal.stateDir with
  | error => exact h
  | ok validated =>
    obtain rfl := validateStorageRestoreJournal_row hresolved hvalid
    refine meets_bind.mpr (meets_ok.mpr (meets_bind.mpr (meets_staging
      (.writeFileSync [request.temporary] (platform.stringify validated)) htemporary
      (put_right h not_outside_temporary _ _) fun _ written hput hwritten => ?_)))
    have hfile : written.lookup [request.temporary] =
        some (.file (platform.stringify validated)) := FileOp.lookup_put_self hput
    have hne : request.temporary ≠ request.stageDirName := by
      intro heq
      rw [← heq, not_isStageName_temporary] at hstage
      cases hstage
    have hstaged : ∀ rest, written.lookup (request.stageDirName :: rest) =
        tree.lookup (request.stageDirName :: rest) := by
      intro rest
      have hframe : (put tree [request.temporary]
          (.file (platform.stringify validated))).2.lookup (request.stageDirName :: rest) =
            tree.lookup (request.stageDirName :: rest) :=
        FileOp.lookup_put (incomparable_of_ne hne _ _) _
      rwa [show put tree [request.temporary] _ = _ from hput] at hframe
    have hfree : (written.lookup storageRestoreJournalPath).any FileTree.isDirectory =
        false := by
      rw [storageRestoreJournalPath, ← hwritten.lookup (outside_journalFile hstage) [],
        show start.lookup [storageRestoreJournalFile] = none from hgone]
      rfl
    have hapart : Incomparable [request.temporary] storageRestoreJournalPath :=
      incomparable_of_ne temporary_ne_journalFile _ _
    have hop : (FileOp.renameSync [request.temporary] storageRestoreJournalPath :
        FileOp String Content).Within request.Own := ⟨htemporary, hjournal⟩
    refine meets_call hop.blind (FileOp.move_file hapart hfile
      (FileOp.hasParent_singleton hwritten.rightRoot) hfree) ⟨?_, ?_, fun rest => ?_⟩
    · have hsame : FileTree.SameAt (· ∈ restoreManagedFileNames) start written :=
        ⟨hwritten.leftRoot, hwritten.rightRoot,
          fun name hname => hwritten.child name (outside_of_managed hstage hname)⟩
      refine (hsame.place_right (fun hmem => ?_) [] _).place_right (fun hmem => ?_) [] none
      · exact managed_ne_journalFile hmem rfl
      · exact managed_ne_temporary hmem rfl
    · refine ⟨platform.stringify validated, some validated.row, ?_,
        platform.parse_stringify validated, hvalid⟩
      rw [FileTree.lookup_place_of_incomparable hapart]
      exact FileTree.lookup_place_self (List.cons_ne_nil _ _) _ FileTree.lookup_nil
        hwritten.rightRoot
    · have hother : Incomparable storageRestoreJournalPath (request.stageDirName :: rest) :=
        incomparable_of_ne (journalFile_ne_of_stageName hstage) _ _
      rw [FileTree.lookup_place_of_incomparable (incomparable_of_ne hne _ _),
        FileTree.lookup_place_of_incomparable hother, hstaged rest]

end

/-- What staging leaves when it goes through. -/
structure Staged (platform : StoragePlatform Content) (request : RestoreRequest Content)
    (start after : StateDir Content) (journal : StorageRestoreJournal) : Prop where
  same : FileTree.SameAt (· ∈ restoreManagedFileNames) start after
  holds : HoldsJournal platform (platform.resolve request.targetStateDir) journal after
  stageDirName : journal.stageDirName = request.stageDirName
  names : journal.entries.map StorageRestoreJournalEntry.name = restoreManagedFileNames
  kept : ∀ entry ∈ journal.entries, KeptTarget request start after entry

theorem meets_stage (hstage : isStorageRestoreStageName request.stageDirName = true)
    (hgone : start.lookup storageRestoreJournalPath = none)
    (h : FileTree.SameAt request.Outside start tree) :
    (request.stage platform).Meets handle request.Blind
      (fun _ after => ∃ journal, Staged platform request start after journal)
      (fun _ after => FileTree.SameAt request.Outside start after) tree := by
  refine meets_bind.mpr ((meets_forEach
    (fun _ after => FileTree.SameAt request.Outside start after)
    (fun _ file _ _ _ hafter => meets_stageFile hafter file) h).mono (fun _ _ h => h) ?_
    (fun _ _ h => h))
  rintro - _ hcopied
  refine meets_bind.mpr ((meets_keepTargets hstage restoreManagedFileNames
    (fun _ hmem => hmem) managed_nodup hcopied).mono (fun _ _ h => h) ?_ (fun _ _ h => h))
  rintro _ _ ⟨hkept, hnames, hentries, -⟩
  refine (meets_writeStorageRestoreJournal hstage (platform.resolve_resolve _) hkept hgone).mono
    (fun _ _ h => h) ?_ (fun _ _ h => h)
  rintro - _ ⟨hsame, hholds, hstaged⟩
  exact ⟨_, hsame, hholds, rfl, hnames,
    fun entry hmem => (hentries entry hmem).of_lookup (hstaged _)⟩

end Staging

/-! ## Installing -/

section Installing

variable {platform request} {start tree after : StateDir Content}
  {journal : StorageRestoreJournal}

theorem Staged.managed (h : Staged platform request start tree journal)
    {entry : StorageRestoreJournalEntry} (hmem : entry ∈ journal.entries) :
    entry.name ∈ restoreManagedFileNames := by
  rw [← h.names]
  exact List.mem_map_of_mem hmem

theorem Staged.plain (hstage : isStorageRestoreStageName request.stageDirName = true)
    (h : Staged platform request start tree journal) : journal.Plain := by
  intro _ hmem
  refine ⟨managed_ne_journalFile (h.managed hmem), ?_⟩
  rw [h.stageDirName]
  exact managed_ne_stage hstage (h.managed hmem)

variable (h : Staged platform request start tree journal)
include h

theorem Staged.own {name : String} (hname : journal.Names name) : request.Own name := by
  rcases hname with rfl | rfl | ⟨_, hmem, rfl⟩
  · exact own_journalFile
  · exact .inr h.stageDirName
  · exact own_of_managed (h.managed hmem)

theorem Staged.pending (hstart : ReadyToRestore start) :
    Pending platform (platform.resolve request.targetStateDir) journal tree tree := by
  refine .backward ⟨⟨h.same.rightRoot, fun entry hmem => ?_⟩, h.holds, fun entry hmem hhad => ?_⟩
  · rw [StorageRestoreJournalEntry.target, ← h.same.lookup (h.managed hmem) []]
    exact hstart.files _ (h.managed hmem)
  · obtain ⟨data, hcopied, -⟩ := (h.kept entry hmem).copied hhad
    rw [RestoreRequest.rollbackDir, ← h.stageDirName] at hcopied
    exact ⟨data, hcopied, hcopied⟩

theorem Staged.uniform
    (huniform : AtBackup platform journal after ∨ AtPrevious journal tree after) :
    BackupInstalled platform request after ∨ PreviousInstalled start after := by
  have hentry : ∀ name ∈ restoreManagedFileNames,
      ∃ entry ∈ journal.entries, entry.name = name := by
    intro name hname
    rw [← h.names] at hname
    exact List.mem_map.mp hname
  refine huniform.imp (fun hbackup => ⟨?_, ?_⟩) fun hprevious => ?_
  · intro name hname digest hdigest
    obtain ⟨entry, hmem, rfl⟩ := hentry name hname
    exact (hbackup entry hmem).installed digest ((h.kept entry hmem).expected.trans hdigest)
  · intro name hname hnone
    obtain ⟨entry, hmem, rfl⟩ := hentry name hname
    exact (hbackup entry hmem).removed ((h.kept entry hmem).expected.trans hnone)
  · intro name hname
    obtain ⟨entry, hmem, rfl⟩ := hentry name hname
    have hkept := h.kept entry hmem
    cases hhad : entry.hadTarget with
    | true =>
      obtain ⟨_, hcopied, hstart⟩ := hkept.copied hhad
      rw [RestoreRequest.rollbackDir, ← h.stageDirName] at hcopied
      exact ((hprevious entry hmem).restored hhad).trans (hcopied.trans hstart.symm)
    | false =>
      have hnone : start.lookup [entry.name] = none := by
        rw [← Option.not_isSome_iff_eq_none, ← hkept.had, hhad]
        exact Bool.false_ne_true
      exact ((hprevious entry hmem).removed hhad).trans hnone.symm

omit h

theorem restored_of_outside (hstage : isStorageRestoreStageName request.stageDirName = true)
    (hgone : start.lookup storageRestoreJournalPath = none)
    (h : FileTree.SameAt request.Outside start tree) : Restored platform request start tree where
  gone := (h.lookup (outside_journalFile hstage) []).symm.trans hgone
  uniform := .inr fun _ hname => (h.lookup (outside_of_managed hstage hname) []).symm

theorem Restored.of_lookup (h : Restored platform request start tree)
    (hgone : after.lookup storageRestoreJournalPath = tree.lookup storageRestoreJournalPath)
    (hsame : ∀ name ∈ restoreManagedFileNames, after.lookup [name] = tree.lookup [name]) :
    Restored platform request start after := by
  refine ⟨hgone.trans h.gone,
    h.uniform.imp (fun hbackup => ⟨?_, ?_⟩) fun hprevious name hname => ?_⟩
  · intro name hname digest hdigest
    exact (hbackup.installed name hname digest hdigest).of_lookup (hsame name hname)
  · intro name hname hnone
    exact (hsame name hname).trans (hbackup.removed name hname hnone)
  · exact (hsame name hname).trans (hprevious name hname)

theorem Restored.of_sameAt (h : Restored platform request start tree)
    (hsame : FileTree.SameAt request.Own tree after) : Restored platform request start after :=
  h.of_lookup (hsame.lookup own_journalFile []).symm
    fun _ hname => (hsame.lookup (own_of_managed hname) []).symm

section

variable (hstage : isStorageRestoreStageName request.stageDirName = true)
include hstage

theorem Restored.removeStage (h : Restored platform request start tree) :
    Restored platform request start (tree.place [request.stageDirName] none) :=
  h.of_lookup
    (FileTree.lookup_place_of_incomparable
      (incomparable_of_ne (journalFile_ne_of_stageName hstage).symm _ _) _ _)
    fun _ hname => FileTree.lookup_place_of_incomparable
      (incomparable_of_ne (managed_ne_stage hstage hname).symm _ _) _ _

theorem meets_removeStage
    {bad : String → StateDir Content → Prop} (h : Restored platform request start tree) :
    (rmSyncRecursive [request.stageDirName]).Meets handle request.Blind
      (fun _ after => Restored platform request start after) bad tree := by
  have hop : (FileOp.rmSyncRecursive [request.stageDirName] : FileOp String Content).Within
    request.Own := within_own_stage []
  exact meets_call hop.blind rfl (h.removeStage hstage)

theorem meets_install (h : ReadyToRestore start) :
    (request.install platform).Meets handle request.Blind
      (fun _ after => Restored platform request start after)
      (fun _ after => Restored platform request start after) start := by
  have hsame : FileTree.SameAt request.Outside start start := .refl h.root
  have hrestored : ∀ (_ : String) after, FileTree.SameAt request.Outside start after →
      Restored platform request start after :=
    fun _ _ hafter => restored_of_outside hstage h.gone hafter
  refine meets_bind.mpr (meets_call FileOp.blind_mkdirSync_root
    (FileOp.makeRecursive_root h.root) ?_)
  refine meets_bind.mpr ((meets_staging (.mkdtempSync [request.stageDirName])
    (within_own_stage []) (FileOp.makeNew_right hsame not_outside_stage [])
    fun _ _ _ hmade => ?_).mono (fun _ _ h => h) (fun _ _ h => h) hrestored)
  refine meets_bind.mpr ((meets_staging (.mkdirSync request.newDir)
    (within_own_stage _) (FileOp.makeRecursive_right hmade not_outside_stage _)
    fun _ _ _ hnew => ?_).mono (fun _ _ h => h) (fun _ _ h => h) hrestored)
  refine meets_bind.mpr ((meets_staging (.mkdirSync request.rollbackDir)
    (within_own_stage _) (FileOp.makeRecursive_right hnew not_outside_stage _)
    fun _ _ _ hrollback => ?_).mono (fun _ _ h => h) (fun _ _ h => h) hrestored)
  refine meets_bind.mpr (meets_attempt.mpr
    ((meets_stage hstage h.gone hrollback).mono (fun _ _ h => h) ?_ ?_))
  · rintro - _ ⟨_, hstaged⟩
    refine meets_ensuring.mpr (meets_bind.mpr
      ((meets_recover_pending (hstaged.plain hstage) (hstaged.pending h)).mono
        (fun _ _ hop => (hop.within.mono fun _ => hstaged.own).blind) ?_
        (fun _ _ hfalse => hfalse.elim)))
    intro _ after hsettled
    have hafter : Restored platform request start after :=
      ⟨hsettled.gone, hstaged.uniform hsettled.uniform⟩
    have hnone : (after.lookup storageRestoreJournalPath).isSome = false := by
      rw [hsettled.gone]
      rfl
    have hop : (existsSync storageRestoreJournalPath : FileOp String Content).Within
      request.Own := ⟨_, _, rfl, own_journalFile⟩
    refine meets_bind.mpr (meets_call hop.blind (handle_existsSync hnone) ?_)
    exact meets_removeStage hstage hafter
  · intro thrown after hafter
    exact meets_bind.mpr (meets_removeStage hstage (hrestored thrown after hafter))

theorem meets_backup_install (hbackup : request.SafeBackup) (h : ReadyToRestore start) :
    Process.Meets handle request.Blind
      (fun _ after => Restored platform request
        (request.createSafetyBackup.run handle start).2 after)
      (fun _ after => Restored platform request
        (request.createSafetyBackup.run handle start).2 after)
      (do
        request.createSafetyBackup
        request.install platform) start := by
  unfold RestoreRequest.createSafetyBackup
  split
  next act hact =>
    have hready := hbackup.ready act hact start h
    refine ⟨hbackup.blind act hact start, ?_⟩
    show Process.Meets handle request.Blind
      (fun _ after => Restored platform request (act start).2 after)
      (fun _ after => Restored platform request (act start).2 after)
      (Process.bind (.ended (act start).1) fun _ => request.install platform) (act start).2
    cases (act start).1 with
    | ok => exact meets_install hstage hready
    | error => exact ⟨hready.gone, .inr fun _ _ => rfl⟩
  · exact meets_install hstage h

end

theorem meets_recoverStorageRestore (hroot : start.isDirectory = true)
    (hfiles : ∀ name ∈ restoreManagedFileNames,
      (start.lookup [name]).any FileTree.isDirectory = false) (hplain : journal.Plain)
    (h : Pending platform request.targetStateDir journal start start) :
    (request.recoverStorageRestoreToStateDir platform).Meets handle
      (fun _ tree => (tree.lookup storageRestoreJournalPath).isSome = true)
      (fun _ after => ReadyToRestore after) (fun _ _ => False) start := by
  have hfound := lookup_isSome_of_holds h.holds
  refine meets_bind.mpr (meets_call (by exact hfound) (handle_existsSync hfound)
    (meets_bind.mpr (((meets_recover_pending hplain h).and_invariant
      (FileTree.SameAt (fun name => ¬journal.Names name) start)
      (fun _ _ hop hsame => hop.within.sameAt hsame fun name hname hnot => hnot hname)
      (.refl hroot)).mono (fun _ _ hop => lookup_isSome_of_holds hop.holds) ?_
      (fun _ _ hfalse => hfalse.1))))
  rintro _ _ ⟨hsettled, hsame⟩
  refine ⟨hsettled.takes.root, hsettled.gone, fun name hname => ?_⟩
  by_cases hentry : ∃ entry ∈ journal.entries, name = entry.name
  · obtain ⟨entry, hmem, rfl⟩ := hentry
    exact hsettled.takes.targets entry hmem
  · have houtside : ¬journal.Names name := by
      rintro (rfl | rfl | hmem)
      · exact managed_ne_journalFile hname rfl
      · have hstage := h.holds.valid.stageName
        rw [not_isStageName_of_managed hname] at hstage
        cases hstage
      · exact hentry hmem
    rw [← hsame.lookup houtside []]
    exact hfiles name hname

end Installing

end OpenCowork.Gateway
