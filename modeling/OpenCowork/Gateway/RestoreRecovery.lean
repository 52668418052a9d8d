import OpenCowork.Foundation.Machine
import OpenCowork.Gateway.StorageRestore

/-! # Recovering an interrupted restore

Passes of the recovery that die between two of their operations, and the pass that then runs
to its end. A pass that rolls forward can be resumed anywhere. One that rolls back removes its
copies before the journal that sends the next pass back to them.
-/

namespace OpenCowork.Gateway

open Foundation FileProcess Process FileTree
open FileOp (contents handle remove_file stat)

variable {Content : Type} (platform : StoragePlatform Content) (stateDir : String)
  (journal : StorageRestoreJournal) {entries : List StorageRestoreJournalEntry} {seen : List String}

/-! ## What stands on the disk -/

/-- A file with this digest stands at the path. -/
def StoragePlatform.Matches (path : List String) (expected : String) (tree : StateDir Content) :
    Prop :=
  ∃ data, tree.lookup path = some (.file data) ∧ platform.sha256 data = expected

def HoldsJournal (tree : StateDir Content) : Prop :=
  ∃ data row, tree.lookup storageRestoreJournalPath = some (.file data) ∧
    platform.parse data = .ok row ∧
    validateStorageRestoreJournal platform row stateDir = .ok journal

structure EntryAtBackup (tree : StateDir Content) (entry : StorageRestoreJournalEntry) :
    Prop where
  installed : ∀ expected, entry.expectedSha256 = some expected →
    platform.Matches entry.target expected tree
  removed : entry.expectedSha256 = none → tree.lookup entry.target = none

/-- The entry's target has the previous generation, of which the first directory holds the
copies. -/
structure EntryAtPrevious (start tree : StateDir Content) (entry : StorageRestoreJournalEntry) :
    Prop where
  restored : entry.hadTarget = true →
    tree.lookup entry.target = start.lookup (journal.rollback entry)
  removed : entry.hadTarget = false → tree.lookup entry.target = none

def AtBackup (tree : StateDir Content) : Prop :=
  ∀ entry ∈ journal.entries, EntryAtBackup platform tree entry

def AtPrevious (start tree : StateDir Content) : Prop :=
  ∀ entry ∈ journal.entries, EntryAtPrevious journal start tree entry

def EntryRollsForward (tree : StateDir Content) (entry : StorageRestoreJournalEntry) : Prop :=
  ∀ expected, entry.expectedSha256 = some expected →
    platform.Matches entry.target expected tree ∨
      platform.Matches (journal.staged entry) expected tree

/-- Every entry can be brought to the backup's generation. -/
def RollsForward (tree : StateDir Content) : Prop :=
  ∀ entry ∈ journal.entries, EntryRollsForward platform journal tree entry

/-- The rollback copies that are left are those of the first directory. -/
def SomeCopies (start tree : StateDir Content) : Prop :=
  ∀ entry ∈ journal.entries, entry.hadTarget = true →
    tree.lookup (journal.rollback entry) = none ∨
      ∃ data, tree.lookup (journal.rollback entry) = some (.file data) ∧
        start.lookup (journal.rollback entry) = some (.file data)

/-- The rollback copies are those of the first directory. -/
def HasCopies (start tree : StateDir Content) : Prop :=
  ∀ entry ∈ journal.entries, entry.hadTarget = true →
    ∃ data, tree.lookup (journal.rollback entry) = some (.file data) ∧
      start.lookup (journal.rollback entry) = some (.file data)

/-- No entry is the journal itself or its stage directory. -/
def StorageRestoreJournal.Plain : Prop :=
  ∀ entry ∈ journal.entries,
    entry.name ≠ storageRestoreJournalFile ∧ entry.name ≠ journal.stageDirName

/-- The names that a pass works on: the journal, its stage directory and its targets. -/
def StorageRestoreJournal.Names (name : String) : Prop :=
  name = storageRestoreJournalFile ∨ name = journal.stageDirName ∨
    ∃ entry ∈ journal.entries, name = entry.name

/-- An operation of a pass before it removes anything. -/
structure StorageRestoreJournal.Uses (op : FileOp String Content) : Prop where
  within : op.Within journal.Names
  keeps : ∀ path, op ≠ .rmSyncRecursive path

structure TakesFiles (tree : StateDir Content) : Prop where
  root : tree.isDirectory = true
  targets : ∀ entry ∈ journal.entries,
    (tree.lookup entry.target).any FileTree.isDirectory = false

/-! ## Valid journals -/

structure StorageRestoreJournal.Valid : Prop where
  distinct : (journal.entries.map StorageRestoreJournalEntry.name).Nodup
  stageName : isStorageRestoreStageName journal.stageDirName = true

theorem validateStorageRestoreEntries_distinct {rows : List StorageRestoreJournalEntryRow}
    (h : validateStorageRestoreEntries seen rows = .ok entries) :
    (entries.map StorageRestoreJournalEntry.name).Nodup ∧
      ∀ entry ∈ entries, entry.name ∉ seen := by
  induction rows generalizing seen entries with
  | nil =>
    cases h
    exact ⟨List.nodup_nil, fun _ hmem => absurd hmem List.not_mem_nil⟩
  | cons _ _ ih =>
    obtain ⟨_, hentry, h⟩ := bind_eq_ok h
    obtain ⟨_, hrest, h⟩ := bind_eq_ok h
    cases h
    obtain ⟨hdistinct, hunseen⟩ := ih hrest
    obtain ⟨_, hname, hentry⟩ := bind_eq_ok hentry
    obtain ⟨_, _, hentry⟩ := bind_eq_ok hentry
    obtain ⟨_, _, hentry⟩ := bind_eq_ok hentry
    cases hentry
    rw [refuseIf_eq_ok] at hname
    push Not at hname
    constructor
    · rw [List.map_cons, List.nodup_cons]
      refine ⟨fun hmem => ?_, hdistinct⟩
      obtain ⟨other, hother, heq⟩ := List.mem_map.mp hmem
      apply hunseen other hother
      rw [heq]
      exact .head _
    · intro other hother hseen
      rcases List.mem_cons.mp hother with rfl | hother
      · exact hname.2.2.2 hseen
      · exact hunseen other hother (.tail _ hseen)

variable {platform stateDir journal} in
theorem HoldsJournal.valid {tree : StateDir Content}
    (h : HoldsJournal platform stateDir journal tree) : journal.Valid := by
  obtain ⟨_, _, -, -, hvalid⟩ := h
  obtain ⟨_, _, hvalid⟩ := bind_eq_ok hvalid
  obtain ⟨_, hstage, hvalid⟩ := bind_eq_ok hvalid
  obtain ⟨_, _, hvalid⟩ := bind_eq_ok hvalid
  obtain ⟨_, hentries, hvalid⟩ := bind_eq_ok hvalid
  cases hvalid
  rw [refuseIf_eq_ok, Bool.not_eq_false] at hstage
  exact ⟨(validateStorageRestoreEntries_distinct hentries).1, hstage⟩

theorem validateStorageRestoreEntries_row {validated : List StorageRestoreJournalEntry}
    (h : validateStorageRestoreEntries seen
      (entries.map StorageRestoreJournalEntry.row) = .ok validated) : validated = entries := by
  induction entries generalizing seen validated with
  | nil =>
    cases h
    rfl
  | cons _ _ ih =>
    obtain ⟨_, hfound, h⟩ := bind_eq_ok h
    obtain ⟨_, hrest, h⟩ := bind_eq_ok h
    cases h
    obtain ⟨_, _, hfound⟩ := bind_eq_ok hfound
    obtain ⟨_, _, hfound⟩ := bind_eq_ok hfound
    obtain ⟨_, hhad, hfound⟩ := bind_eq_ok hfound
    cases hfound
    rw [ih hrest, ← Option.some.inj (orThrow_eq_ok hhad)]
    rfl

variable {platform journal} in
theorem validateStorageRestoreJournal_row {expected : String} {validated : StorageRestoreJournal}
    (hresolved : platform.resolve journal.stateDir = journal.stateDir)
    (h : validateStorageRestoreJournal platform (some journal.row) expected = .ok validated) :
    validated = journal := by
  iterate 3 obtain ⟨_, _, h⟩ := bind_eq_ok h
  obtain ⟨_, hentries, h⟩ := bind_eq_ok h
  cases h
  obtain rfl := validateStorageRestoreEntries_row hentries
  cases journal
  rw [StorageRestoreJournal.mk.injEq]
  exact ⟨rfl, hresolved, rfl, rfl, rfl⟩

theorem journalFile_ne_of_stageName {name : String}
    (h : isStorageRestoreStageName name = true) : storageRestoreJournalFile ≠ name := by
  rintro rfl
  exact absurd h (by decide)

/-! ## Steps on one entry -/

section Steps

variable {platform stateDir journal} {before middle after start : StateDir Content}
  {entry : StorageRestoreJournalEntry}
variable {other : StorageRestoreJournalEntry} {done rest : List StorageRestoreJournalEntry}

/-- A change at the target of one entry, or at its staged file. -/
structure LeavesOthers (journal : StorageRestoreJournal) (entry : StorageRestoreJournalEntry)
    (before after : StateDir Content) : Prop where
  root : after.isDirectory = before.isDirectory
  journalFile : after.lookup storageRestoreJournalPath = before.lookup storageRestoreJournalPath
  target : ∀ other : StorageRestoreJournalEntry, other.name ≠ entry.name →
    other.name ≠ journal.stageDirName →
    after.lookup other.target = before.lookup other.target
  staged : ∀ other : StorageRestoreJournalEntry, other.name ≠ entry.name →
    after.lookup (journal.staged other) = before.lookup (journal.staged other)
  rollback : ∀ other : StorageRestoreJournalEntry,
    after.lookup (journal.rollback other) = before.lookup (journal.rollback other)

theorem LeavesOthers.refl : LeavesOthers journal entry before before :=
  ⟨rfl, rfl, fun _ _ _ => rfl, fun _ _ => rfl, fun _ => rfl⟩

theorem LeavesOthers.trans (h : LeavesOthers journal entry before middle)
    (h' : LeavesOthers journal entry middle after) : LeavesOthers journal entry before after where
  root := h'.root.trans h.root
  journalFile := h'.journalFile.trans h.journalFile
  target other hname hstage := (h'.target other hname hstage).trans (h.target other hname hstage)
  staged other hname := (h'.staged other hname).trans (h.staged other hname)
  rollback other := (h'.rollback other).trans (h.rollback other)

theorem leavesOthers_target (hplain : entry.name ≠ storageRestoreJournalFile)
    (hstage : entry.name ≠ journal.stageDirName) (new : Option (StateDir Content)) :
    LeavesOthers journal entry before (before.place entry.target new) where
  root := isDirectory_place _ _
  journalFile := lookup_place_of_incomparable (incomparable_of_ne hplain _ _) _ _
  target _ hname _ := lookup_place_of_incomparable (incomparable_of_ne hname.symm _ _) _ _
  staged _ _ := lookup_place_of_incomparable (incomparable_of_ne hstage _ _) _ _
  rollback _ := lookup_place_of_incomparable (incomparable_of_ne hstage _ _) _ _

theorem leavesOthers_staged (hstage : isStorageRestoreStageName journal.stageDirName = true) :
    LeavesOthers journal entry before (before.place (journal.staged entry) none) where
  root := isDirectory_place _ _
  journalFile := by
    apply lookup_place_of_incomparable
    exact incomparable_of_ne (journalFile_ne_of_stageName hstage).symm _ _
  target _ _ hother := lookup_place_of_incomparable (incomparable_of_ne hother.symm _ _) _ _
  staged _ hname := by
    apply lookup_place_of_incomparable
    exact incomparable_cons.mpr (incomparable_cons.mpr (incomparable_of_ne hname.symm _ _))
  rollback _ := by
    apply lookup_place_of_incomparable
    exact incomparable_cons.mpr (incomparable_of_ne (by decide) _ _)

theorem HoldsJournal.of_lookup (h : HoldsJournal platform stateDir journal before)
    (hsame : after.lookup storageRestoreJournalPath = before.lookup storageRestoreJournalPath) :
    HoldsJournal platform stateDir journal after := by
  obtain ⟨data, row, hfile, hrow⟩ := h
  exact ⟨data, row, hsame.trans hfile, hrow⟩

theorem StoragePlatform.Matches.of_lookup {path : List String} {expected : String}
    (h : platform.Matches path expected before) (hsame : after.lookup path = before.lookup path) :
    platform.Matches path expected after := by
  obtain ⟨data, hfile, hdigest⟩ := h
  exact ⟨data, hsame.trans hfile, hdigest⟩

theorem EntryAtBackup.of_lookup (h : EntryAtBackup platform before entry)
    (hsame : after.lookup entry.target = before.lookup entry.target) :
    EntryAtBackup platform after entry where
  installed expected hexpected := (h.installed expected hexpected).of_lookup hsame
  removed hnone := hsame.trans (h.removed hnone)

theorem EntryAtPrevious.of_lookup (h : EntryAtPrevious journal start before entry)
    (hsame : after.lookup entry.target = before.lookup entry.target) :
    EntryAtPrevious journal start after entry where
  restored hhad := hsame.trans (h.restored hhad)
  removed hhad := hsame.trans (h.removed hhad)

theorem StorageRestoreJournal.Valid.eq_of_name (h : journal.Valid) (hmem : entry ∈ journal.entries)
    (hother : other ∈ journal.entries) (hname : other.name = entry.name) : other = entry :=
  List.inj_on_of_nodup_map h.distinct hother hmem hname

theorem StorageRestoreJournal.Valid.name_ne (h : journal.Valid)
    (hsplit : journal.entries = done ++ entry :: rest) (hmem : other ∈ done) :
    other.name ≠ entry.name := by
  have hdistinct := h.distinct
  rw [hsplit, List.map_append, List.map_cons, List.nodup_append] at hdistinct
  exact hdistinct.2.2 _ (List.mem_map_of_mem hmem) _ (.head _)

theorem TakesFiles.of_leavesOthers (h : TakesFiles journal before) (hvalid : journal.Valid)
    (hplain : journal.Plain) (hmem : entry ∈ journal.entries)
    (hleaves : LeavesOthers journal entry before after)
    (htarget : (after.lookup entry.target).any FileTree.isDirectory = false) :
    TakesFiles journal after where
  root := hleaves.root.trans h.root
  targets other hother := by
    by_cases hname : other.name = entry.name
    · rwa [hvalid.eq_of_name hmem hother hname]
    · rw [hleaves.target other hname (hplain other hother).2]
      exact h.targets other hother

/-- What a pass that rolls forward relies on. -/
structure Forward (platform : StoragePlatform Content) (stateDir : String)
    (journal : StorageRestoreJournal) (tree : StateDir Content) : Prop where
  takes : TakesFiles journal tree
  holds : HoldsJournal platform stateDir journal tree
  rolls : RollsForward platform journal tree

/-- What a pass that rolls back relies on. -/
structure Backward (platform : StoragePlatform Content) (stateDir : String)
    (journal : StorageRestoreJournal) (start tree : StateDir Content) : Prop where
  takes : TakesFiles journal tree
  holds : HoldsJournal platform stateDir journal tree
  copies : HasCopies journal start tree

theorem Forward.of_leavesOthers (h : Forward platform stateDir journal before)
    (hplain : journal.Plain) (hmem : entry ∈ journal.entries)
    (hleaves : LeavesOthers journal entry before after)
    (htarget : (after.lookup entry.target).any FileTree.isDirectory = false)
    (hentry : EntryRollsForward platform journal after entry) :
    Forward platform stateDir journal after where
  takes := h.takes.of_leavesOthers h.holds.valid hplain hmem hleaves htarget
  holds := h.holds.of_lookup hleaves.journalFile
  rolls other hother := by
    by_cases hname : other.name = entry.name
    · rwa [h.holds.valid.eq_of_name hmem hother hname]
    · intro expected hexpected
      rcases h.rolls other hother expected hexpected with hinstalled | hstaged
      · exact .inl (hinstalled.of_lookup (hleaves.target other hname (hplain other hother).2))
      · exact .inr (hstaged.of_lookup (hleaves.staged other hname))

theorem Backward.of_leavesOthers (h : Backward platform stateDir journal start before)
    (hplain : journal.Plain) (hmem : entry ∈ journal.entries)
    (hleaves : LeavesOthers journal entry before after)
    (htarget : (after.lookup entry.target).any FileTree.isDirectory = false) :
    Backward platform stateDir journal start after where
  takes := h.takes.of_leavesOthers h.holds.valid hplain hmem hleaves htarget
  holds := h.holds.of_lookup hleaves.journalFile
  copies other hother hhad := by
    rw [hleaves.rollback other]
    exact h.copies other hother hhad

theorem done_of_leavesOthers {state : StateDir Content → StorageRestoreJournalEntry → Prop}
    (hstate : ∀ other, after.lookup other.target = before.lookup other.target →
      state before other → state after other)
    (hvalid : journal.Valid) (hplain : journal.Plain)
    (hsplit : journal.entries = done ++ entry :: rest)
    (hleaves : LeavesOthers journal entry before after)
    (hdone : ∀ other ∈ done, state before other) (hentry : state after entry) :
    ∀ other ∈ done ++ [entry], state after other := by
  intro other hother
  rcases List.mem_append.mp hother with hother | hother
  · have hstage := (hplain other (hsplit ▸ List.mem_append_left _ hother)).2
    exact hstate other (hleaves.target other (hvalid.name_ne hsplit hother) hstage)
      (hdone other hother)
  · rw [List.mem_singleton.mp hother]
    exact hentry

end Steps

/-! ## Reading -/

section Reading

variable {platform stateDir journal} {each : FileOp String Content → StateDir Content → Prop}
  {bad : String → StateDir Content → Prop} {tree : StateDir Content}
variable {entry : StorageRestoreJournalEntry}

theorem meets_fileMatchesSha256 {path : List String} (heach : each (.readFileSync path) tree)
    (expected : String) :
    (fileMatchesSha256 platform path expected).Meets handle each
      (fun answer after => after = tree ∧
        (answer = true ↔ platform.Matches path expected tree)) bad tree := by
  refine meets_bind.mpr (meets_attempt.mpr ⟨heach, ?_⟩)
  show Process.Meets handle each _ _ (.ended (contents tree path)) tree
  cases hcontents : contents tree path with
  | ok data =>
    have hfile := FileOp.contents_eq_ok.mp hcontents
    refine ⟨rfl, ?_⟩
    rw [beq_iff_eq]
    constructor
    · intro hdigest
      exact ⟨data, hfile, hdigest⟩
    · rintro ⟨_, hother, hdigest⟩
      cases hfile.symm.trans hother
      exact hdigest
  | error =>
    refine ⟨rfl, iff_of_false Bool.false_ne_true ?_⟩
    rintro ⟨_, hfile, -⟩
    cases (FileOp.contents_eq_ok.mpr hfile).symm.trans hcontents

theorem within_target (hmem : entry ∈ journal.entries) :
    ∃ name rest, entry.target = name :: rest ∧ journal.Names name :=
  ⟨_, _, rfl, .inr (.inr ⟨entry, hmem, rfl⟩)⟩

theorem within_stage (rest : List String) :
    ∃ name rest', journal.stageDirName :: rest = name :: rest' ∧ journal.Names name :=
  ⟨_, _, rfl, .inr (.inl rfl)⟩

theorem within_journal :
    ∃ name rest, storageRestoreJournalPath = name :: rest ∧ journal.Names name :=
  ⟨_, _, rfl, .inl rfl⟩

variable (heach : ∀ op, journal.Uses op → each op tree)
include heach

theorem meets_entryCanRollForward (hmem : entry ∈ journal.entries) :
    (entryCanRollForward platform journal entry).Meets handle each
      (fun answer after => after = tree ∧
        (answer = true ↔ EntryRollsForward platform journal tree entry)) bad tree := by
  unfold entryCanRollForward
  split
  next hnone =>
    refine ⟨rfl, iff_of_true rfl fun expected hexpected => ?_⟩
    cases hnone.symm.trans hexpected
  next expected hexpected =>
    have hentry : EntryRollsForward platform journal tree entry ↔
        platform.Matches entry.target expected tree ∨
          platform.Matches (journal.staged entry) expected tree := by
      simp only [EntryRollsForward, hexpected, Option.some.injEq, forall_eq']
    rw [hentry]
    refine meets_bind.mpr ((meets_fileMatchesSha256 (heach _ ⟨within_target hmem, nofun⟩)
      expected).mono (fun _ _ h => h) ?_ (fun _ _ h => h))
    rintro answer after ⟨rfl, hanswer⟩
    cases answer with
    | true => exact ⟨rfl, iff_of_true rfl (.inl (hanswer.mp rfl))⟩
    | false =>
      have hnot := mt hanswer.mpr Bool.false_ne_true
      refine (meets_fileMatchesSha256 (heach _ ⟨within_stage _, nofun⟩) expected).mono
        (fun _ _ h => h) ?_ (fun _ _ h => h)
      rintro _ _ ⟨rfl, hstaged⟩
      exact ⟨rfl, hstaged.trans (or_iff_right hnot).symm⟩

theorem meets_canRollForward :
    (canRollForward platform journal).Meets handle each
      (fun answer after => after = tree ∧ (answer = true ↔ RollsForward platform journal tree))
      bad tree :=
  meets_every fun _ hmem => meets_entryCanRollForward heach hmem

omit heach

theorem meets_readRestoreJournal {α : Type}
    (heach : each (.readFileSync storageRestoreJournalPath) tree)
    {good : α → StateDir Content → Prop} {next : StorageRestoreJournal → StorageProcess Content α}
    (hjournal : HoldsJournal platform stateDir journal tree)
    (hnext : (next journal).Meets handle each good bad tree) :
    Process.Meets handle each good bad
      (do
        let row ← readRestoreJournal platform
        let journal ← .ended (validateStorageRestoreJournal platform row stateDir)
        next journal) tree := by
  obtain ⟨_, _, hfile, hparse, hvalid⟩ := hjournal
  refine meets_bind.mpr (meets_bind.mpr (meets_attempt.mpr
    (meets_call heach
      (congrArg (·, tree) (FileOp.contents_eq_ok.mpr hfile)) ?_)))
  simp only [Except.bind, hparse, meets_pure, hvalid]
  exact hnext

end Reading

/-! ## One pass -/

section Pass

variable {platform stateDir journal} {each : FileOp String Content → StateDir Content → Prop}
  {bad : String → StateDir Content → Prop} {tree start : StateDir Content}
  {entry : StorageRestoreJournalEntry} {done rest : List StorageRestoreJournalEntry}

theorem lookup_target_file (htakes : TakesFiles journal tree) (data : Content) :
    (tree.place entry.target (some (.file data))).lookup entry.target = some (.file data) :=
  lookup_place_self (List.cons_ne_nil _ _) _ lookup_nil htakes.root

theorem meets_rollForwardEntry (hplain : journal.Plain)
    (heach : ∀ op tree, journal.Uses op → Forward platform stateDir journal tree →
      each op tree)
    (hsplit : journal.entries = done ++ entry :: rest) (h : Forward platform stateDir journal tree)
    (hdone : ∀ other ∈ done, EntryAtBackup platform tree other) :
    (rollForwardEntry platform journal entry).Meets handle each
      (fun _ after => Forward platform stateDir journal after ∧
        ∀ other ∈ done ++ [entry], EntryAtBackup platform after other) bad tree := by
  have hmem : entry ∈ journal.entries := by rw [hsplit]; simp
  have hvalid := h.holds.valid
  have hfree := h.takes.targets entry hmem
  obtain ⟨hjournal, hstage⟩ := hplain entry hmem
  unfold rollForwardEntry
  split
  next hnone =>
    have hgone : (tree.place entry.target none).lookup entry.target = none :=
      lookup_place_none (List.cons_ne_nil _ _) tree
    have hleaves : LeavesOthers journal entry tree (tree.place entry.target none) :=
      leavesOthers_target hjournal hstage none
    refine meets_call (heach _ _ ⟨within_target hmem, nofun⟩ h) (remove_file hfree)
      ⟨h.of_leavesOthers hplain hmem hleaves (by rw [hgone]; rfl)
      fun expected hexpected => ?_, ?_⟩
    · cases hnone.symm.trans hexpected
    · refine done_of_leavesOthers (fun _ hsame hat => hat.of_lookup hsame) hvalid hplain hsplit
        hleaves hdone ⟨fun expected hexpected => ?_, fun _ => hgone⟩
      cases hnone.symm.trans hexpected
  next expected hexpected =>
    refine meets_bind.mpr ((meets_fileMatchesSha256
      (heach _ tree ⟨within_target hmem, nofun⟩ h) expected).mono (fun _ _ h => h) ?_
      (fun _ _ h => h))
    rintro answer after ⟨rfl, hanswer⟩
    cases answer with
    | true =>
      -- An earlier pass has put the file there.
      refine ⟨h, done_of_leavesOthers (fun _ hsame hat => hat.of_lookup hsame) hvalid hplain
        hsplit .refl hdone ⟨fun other hother => ?_, fun hnone => ?_⟩⟩
      · cases hexpected.symm.trans hother
        exact hanswer.mp rfl
      · cases hnone.symm.trans hexpected
    | false =>
      refine meets_bind.mpr ((meets_fileMatchesSha256
        (heach _ after ⟨within_stage _, nofun⟩ h) expected).mono (fun _ _ h => h) ?_
        (fun _ _ h => h))
      rintro _ tree ⟨rfl, hstaged⟩
      have hmatches : platform.Matches (journal.staged entry) expected tree :=
        (h.rolls entry hmem expected hexpected).resolve_left
          (mt hanswer.mpr Bool.false_ne_true)
      obtain rfl := hstaged.mpr hmatches
      obtain ⟨data, hfile, hdigest⟩ := hmatches
      have hapart : Incomparable (journal.staged entry) entry.target :=
        incomparable_of_ne hstage.symm _ _
      have hinstalled : ((tree.place entry.target (some (.file data))).place
          (journal.staged entry) none).lookup entry.target = some (.file data) := by
        rw [lookup_place_of_incomparable hapart]
        exact lookup_target_file h.takes data
      have hleaves : LeavesOthers journal entry tree
          ((tree.place entry.target (some (.file data))).place (journal.staged entry) none) :=
        (leavesOthers_target hjournal hstage _).trans (leavesOthers_staged hvalid.stageName)
      have hentry : platform.Matches entry.target expected
          ((tree.place entry.target (some (.file data))).place (journal.staged entry) none) :=
        ⟨data, hinstalled, hdigest⟩
      refine meets_call (heach _ _ ⟨⟨within_stage _, within_target hmem⟩, nofun⟩ h)
        (FileOp.move_file hapart hfile (FileOp.hasParent_singleton h.takes.root) hfree)
        ⟨h.of_leavesOthers hplain hmem hleaves (by rw [hinstalled]; rfl)
          fun other hother => ?_, ?_⟩
      · cases hexpected.symm.trans hother
        exact .inl hentry
      · refine done_of_leavesOthers (fun _ hsame hat => hat.of_lookup hsame) hvalid hplain
          hsplit hleaves hdone ⟨fun _ hother => ?_, fun hnone => ?_⟩
        · cases hexpected.symm.trans hother
          exact hentry
        · cases hnone.symm.trans hexpected

theorem meets_rollBackEntry (hplain : journal.Plain)
    (heach : ∀ op tree, journal.Uses op → Backward platform stateDir journal start tree →
      each op tree)
    (hsplit : journal.entries = done ++ entry :: rest)
    (h : Backward platform stateDir journal start tree)
    (hdone : ∀ other ∈ done, EntryAtPrevious journal start tree other) :
    (rollBackEntry journal entry).Meets handle each
      (fun _ after => Backward platform stateDir journal start after ∧
        ∀ other ∈ done ++ [entry], EntryAtPrevious journal start after other) bad tree := by
  have hmem : entry ∈ journal.entries := by rw [hsplit]; simp
  have hvalid := h.holds.valid
  have hfree := h.takes.targets entry hmem
  obtain ⟨hjournal, hstage⟩ := hplain entry hmem
  unfold rollBackEntry
  split
  next hhad =>
    obtain ⟨data, hfile, hstart⟩ := h.copies entry hmem hhad
    have hfound : handle (.existsSync (journal.rollback entry)) tree =
        (.ok true, tree) := by rw [handle, hfile]; rfl
    refine meets_bind.mpr (meets_call (heach _ _ ⟨within_stage _, nofun⟩ h) hfound ?_)
    have hinstalled : (tree.place entry.target (some (.file data))).lookup entry.target =
        some (.file data) := lookup_target_file h.takes data
    have hleaves : LeavesOthers journal entry tree
        (tree.place entry.target (some (.file data))) :=
      leavesOthers_target hjournal hstage _
    refine meets_call (heach _ _ ⟨⟨within_stage _, within_target hmem⟩, nofun⟩ h)
      (FileOp.copy_file hfile (FileOp.hasParent_singleton h.takes.root) hfree)
      ⟨h.of_leavesOthers hplain hmem hleaves (by rw [hinstalled]; rfl), ?_⟩
    refine done_of_leavesOthers (fun _ hsame hat => hat.of_lookup hsame) hvalid hplain hsplit
      hleaves hdone ⟨fun _ => hinstalled.trans hstart.symm, fun hnot => ?_⟩
    cases hnot.symm.trans hhad
  next hnot =>
    have hgone : (tree.place entry.target none).lookup entry.target = none :=
      lookup_place_none (List.cons_ne_nil _ _) tree
    have hleaves : LeavesOthers journal entry tree (tree.place entry.target none) :=
      leavesOthers_target hjournal hstage none
    refine meets_call (heach _ _ ⟨within_target hmem, nofun⟩ h) (remove_file hfree)
      ⟨h.of_leavesOthers hplain hmem hleaves (by rw [hgone]; rfl), ?_⟩
    exact done_of_leavesOthers (fun _ hsame hat => hat.of_lookup hsame) hvalid hplain hsplit
      hleaves hdone ⟨fun hhad => absurd hhad hnot, fun _ => hgone⟩

/-- No journal stands, and all entries have the same generation. -/
structure Settled (platform : StoragePlatform Content) (journal : StorageRestoreJournal)
    (start tree : StateDir Content) : Prop where
  takes : TakesFiles journal tree
  gone : tree.lookup storageRestoreJournalPath = none
  uniform : AtBackup platform journal tree ∨ AtPrevious journal start tree

theorem HasCopies.some (h : HasCopies journal start tree) : SomeCopies journal start tree :=
  fun entry hmem hhad => .inr (h entry hmem hhad)

theorem AtBackup.rollsForward (h : AtBackup platform journal tree) :
    RollsForward platform journal tree :=
  fun entry hmem expected hexpected => .inl ((h entry hmem).installed expected hexpected)

variable (platform start) in
theorem uniform_of_lookup {after : StateDir Content}
    (hsame : ∀ entry ∈ journal.entries, after.lookup entry.target = tree.lookup entry.target) :
    (AtBackup platform journal tree → AtBackup platform journal after) ∧
      (AtPrevious journal start tree → AtPrevious journal start after) :=
  ⟨fun h entry hmem => (h entry hmem).of_lookup (hsame entry hmem),
    fun h entry hmem => (h entry hmem).of_lookup (hsame entry hmem)⟩

theorem TakesFiles.remove (h : TakesFiles journal tree) {name : String}
    (hname : ∀ entry ∈ journal.entries, entry.name ≠ name) :
    TakesFiles journal (tree.place [name] none) ∧
      ∀ entry ∈ journal.entries,
        (tree.place [name] none).lookup entry.target = tree.lookup entry.target := by
  have hsame : ∀ entry ∈ journal.entries,
      (tree.place [name] none).lookup entry.target = tree.lookup entry.target :=
    fun entry hmem => lookup_place_of_incomparable
      (incomparable_of_ne (hname entry hmem).symm _ _) _ _
  refine ⟨⟨(isDirectory_place _ _).trans h.root, fun entry hmem => ?_⟩, hsame⟩
  rw [hsame entry hmem]
  exact h.targets entry hmem

theorem meets_finishStorageRestoreJournal (hplain : journal.Plain)
    (htakes : TakesFiles journal tree) (hholds : HoldsJournal platform stateDir journal tree)
    (huniform : AtBackup platform journal tree ∨ AtPrevious journal start tree)
    (hfirst : each (.rmSyncRecursive journal.stageDir) tree)
    (hlast : ∀ after, TakesFiles journal after → HoldsJournal platform stateDir journal after →
      (AtBackup platform journal tree → AtBackup platform journal after) →
      SomeCopies journal start after → each (.rmSync storageRestoreJournalPath) after) :
    (finishStorageRestoreJournal journal).Meets handle each
      (fun _ after => Settled platform journal start after) bad tree := by
  obtain ⟨htakes', hsame⟩ := htakes.remove fun entry hmem => (hplain entry hmem).2
  have hholds' : HoldsJournal platform stateDir journal (tree.place journal.stageDir none) := by
    refine hholds.of_lookup (lookup_place_of_incomparable ?_ _ _)
    exact incomparable_of_ne (journalFile_ne_of_stageName hholds.valid.stageName).symm _ _
  obtain ⟨hbackup, hprevious⟩ := uniform_of_lookup platform start hsame
  refine meets_bind.mpr (meets_call hfirst rfl ?_)
  have hplace : ((tree.place journal.stageDir none).lookup storageRestoreJournalPath).any
      FileTree.isDirectory = false := by
    obtain ⟨_, _, hfile, -⟩ := hholds'
    rw [hfile]
    rfl
  have hcopies : SomeCopies journal start (tree.place journal.stageDir none) := by
    intro entry _ _
    have hgone : (tree.place journal.stageDir none).child journal.stageDirName = none := by
      rw [← lookup_singleton]
      exact lookup_place_none (List.cons_ne_nil _ _) tree
    exact .inl (by rw [StorageRestoreJournal.rollback, lookup_cons, hgone]; rfl)
  refine meets_call (hlast _ htakes' hholds' hbackup hcopies) (remove_file hplace) ?_
  obtain ⟨htakes'', hsame'⟩ := htakes'.remove fun entry hmem => (hplain entry hmem).1
  obtain ⟨hbackup', hprevious'⟩ := uniform_of_lookup platform start hsame'
  exact ⟨htakes'', lookup_place_none (List.cons_ne_nil _ _) _,
    huniform.imp (hbackup' ∘ hbackup) (hprevious' ∘ hprevious)⟩

/-- A sweep removes no target. -/
structure Sweeping (platform : StoragePlatform Content) (journal : StorageRestoreJournal)
    (start : StateDir Content) (op : FileOp String Content) (tree : StateDir Content) :
    Prop where
  settled : Settled platform journal start tree
  removes : ∀ path, op = .rmSyncRecursive path → ∃ name, path = [name] ∧
    isStorageRestoreStageName name = true ∧ ∀ entry ∈ journal.entries, entry.name ≠ name

variable (heach : ∀ op tree, Sweeping platform journal start op tree → each op tree)
include heach

theorem meets_sweepStorageRestoreStage (h : Settled platform journal start tree) (name : String) :
    (sweepStorageRestoreStage name).Meets handle each
      (fun _ after => Settled platform journal start after) bad tree := by
  unfold sweepStorageRestoreStage
  split
  next hname =>
    refine meets_bind.mpr (meets_attempt.mpr ⟨heach _ _ ⟨h, nofun⟩, ?_⟩)
    show Process.Meets handle each _ _ (.ended (stat tree [name])) tree
    unfold stat
    split
    next found hfound =>
      cases hdirectory : found.isDirectory with
      | false => exact h
      | true =>
        -- No target is a directory, so the sweep takes none of them.
        have hne : ∀ entry ∈ journal.entries, entry.name ≠ name := by
          rintro entry hmem rfl
          have htarget := h.takes.targets entry hmem
          rw [StorageRestoreJournalEntry.target, hfound] at htarget
          exact Bool.false_ne_true (htarget.symm.trans hdirectory)
        obtain ⟨htakes, hsame⟩ := h.takes.remove hne
        obtain ⟨hbackup, hprevious⟩ := uniform_of_lookup platform start hsame
        refine meets_call (heach _ _ ⟨h, fun _ heq => ⟨name, ?_, hname, hne⟩⟩) rfl
          ⟨htakes, ?_, h.uniform.imp hbackup hprevious⟩
        · exact (FileOp.rmSyncRecursive.inj heq).symm
        rw [lookup_place_of_incomparable]
        · exact h.gone
        · exact incomparable_of_ne (journalFile_ne_of_stageName hname).symm _ _
    · exact h
  · exact h

theorem meets_sweepOrphanedStorageRestoreStages (h : Settled platform journal start tree) :
    sweepOrphanedStorageRestoreStages.Meets handle each
      (fun _ after => Settled platform journal start after) bad tree := by
  refine meets_bind.mpr (meets_call (heach _ _ ⟨h, nofun⟩) rfl ?_)
  rw [lookup_nil]
  have hnames : ∃ names, FileOp.namesIn tree [] = .ok names := by
    have hroot := h.takes.root
    cases tree with
    | directory => exact ⟨_, rfl⟩
    | file | link | special => cases hroot
  obtain ⟨_, hnames⟩ := hnames
  refine meets_bind.mpr (meets_call (heach _ _ ⟨h, nofun⟩) (congrArg (·, tree) hnames) ?_)
  exact meets_forEach (fun _ after => Settled platform journal start after)
    (fun _ name _ _ _ hafter => meets_sweepStorageRestoreStage heach hafter name) h

omit heach

inductive Pending (platform : StoragePlatform Content) (stateDir : String)
    (journal : StorageRestoreJournal) (start tree : StateDir Content) : Prop
  | forward (h : Forward platform stateDir journal tree)
  | backward (h : Backward platform stateDir journal start tree)

variable (h : Pending platform stateDir journal start tree)
include h

theorem Pending.takes : TakesFiles journal tree := by
  cases h with
  | forward h | backward h => exact h.takes

theorem Pending.holds : HoldsJournal platform stateDir journal tree := by
  cases h with
  | forward h | backward h => exact h.holds

omit h

/-- What a pass that meets its next operation leaves to the one after it. -/
inductive Ready (platform : StoragePlatform Content) (stateDir : String)
    (journal : StorageRestoreJournal) (start : StateDir Content) (op : FileOp String Content)
    (tree : StateDir Content) : Prop
  | pending (h : Pending platform stateDir journal start tree)
      (hkeeps : ∀ path, op ≠ .rmSyncRecursive path)
  | finishing
      (hop : op = .rmSyncRecursive journal.stageDir ∨ op = .rmSync storageRestoreJournalPath)
      (h : AtBackup platform journal tree ∨ SomeCopies journal start tree)

structure InPass (platform : StoragePlatform Content) (stateDir : String)
    (journal : StorageRestoreJournal) (start : StateDir Content) (op : FileOp String Content)
    (tree : StateDir Content) : Prop where
  within : op.Within journal.Names
  takes : TakesFiles journal tree
  holds : HoldsJournal platform stateDir journal tree
  ready : Ready platform stateDir journal start op tree

theorem Pending.inPass (h : Pending platform stateDir journal start tree)
    {op : FileOp String Content} (hop : journal.Uses op) :
    InPass platform stateDir journal start op tree :=
  ⟨hop.within, h.takes, h.holds, .pending h hop.keeps⟩

theorem lookup_isSome_of_holds (h : HoldsJournal platform stateDir journal tree) :
    (tree.lookup storageRestoreJournalPath).isSome = true := by
  obtain ⟨_, _, hfile, -⟩ := h
  rw [hfile]
  rfl

theorem handle_existsSync {path : List String} {found : Bool}
    (h : (tree.lookup path).isSome = found) :
    handle (.existsSync path) tree = (.ok found, tree) := by
  rw [handle, h]

theorem meets_recover_pending (hplain : journal.Plain)
    (h : Pending platform stateDir journal start tree) :
    (recoverInterruptedStorageRestore platform stateDir).Meets handle
      (InPass platform stateDir journal start)
      (fun _ after => Settled platform journal start after) (fun _ _ => False) tree := by
  have heach : ∀ op, journal.Uses op → InPass platform stateDir journal start op tree :=
    fun _ => h.inPass
  refine meets_bind.mpr (meets_call (heach _ ⟨within_journal, nofun⟩)
    (handle_existsSync (lookup_isSome_of_holds h.holds)) ?_)
  refine meets_readRestoreJournal (heach _ ⟨within_journal, nofun⟩) h.holds (meets_bind.mpr
    ((meets_canRollForward heach).mono (fun _ _ h => h) ?_ (fun _ _ h => h)))
  rintro answer after ⟨rfl, hanswer⟩
  cases answer with
  | true =>
    refine meets_bind.mpr ((meets_forEach
      (fun done tree => Forward platform stateDir journal tree ∧
        ∀ entry ∈ done, EntryAtBackup platform tree entry)
      (fun done entry _ tree hsplit hdone => meets_rollForwardEntry hplain
        (fun _ _ hop hafter => (Pending.forward hafter).inPass hop) hsplit hdone.1 hdone.2)
      ⟨⟨h.takes, h.holds, hanswer.mp rfl⟩, fun _ hmem => absurd hmem List.not_mem_nil⟩).mono
      (fun _ _ h => h) ?_ (fun _ _ h => h))
    rintro - tree ⟨hrolled, hbackup⟩
    exact meets_bind.mpr ((meets_finishStorageRestoreJournal hplain hrolled.takes
      hrolled.holds (.inl hbackup)
      ⟨within_stage _, hrolled.takes, hrolled.holds, .finishing (.inl rfl) (.inl hbackup)⟩
      (fun _ htakes hholds hkept _ =>
        ⟨within_journal, htakes, hholds, .finishing (.inr rfl) (.inl (hkept hbackup))⟩)).mono
      (fun _ _ h => h) (fun _ _ hafter => hafter) (fun _ _ h => h))
  | false =>
    have hbackward : Backward platform stateDir journal start after := by
      cases h with
      | forward h => exact absurd (hanswer.mpr h.rolls) Bool.false_ne_true
      | backward h => exact h
    refine meets_bind.mpr ((meets_forEach
      (fun done tree => Backward platform stateDir journal start tree ∧
        ∀ entry ∈ done, EntryAtPrevious journal start tree entry)
      (fun _ _ _ tree hsplit hdone => meets_rollBackEntry hplain
        (fun _ _ hop hafter => (Pending.backward hafter).inPass hop) hsplit hdone.1 hdone.2)
      ⟨hbackward, fun _ hmem => absurd hmem List.not_mem_nil⟩).mono (fun _ _ h => h)
      ?_ (fun _ _ h => h))
    rintro - _ ⟨hrolled, hprevious⟩
    -- The copies go here, and only the journal's removal is left.
    exact meets_bind.mpr ((meets_finishStorageRestoreJournal hplain hrolled.takes
      hrolled.holds (.inr hprevious)
      ⟨within_stage _, hrolled.takes, hrolled.holds,
        .finishing (.inl rfl) (.inr hrolled.copies.some)⟩
      (fun _ htakes hholds _ hcopies =>
        ⟨within_journal, htakes, hholds, .finishing (.inr rfl) (.inr hcopies)⟩)).mono
      (fun _ _ h => h) (fun _ _ hafter => hafter) (fun _ _ h => h))

variable (stateDir) in
theorem meets_recover_settled (h : Settled platform journal start tree) :
    (recoverInterruptedStorageRestore platform stateDir).Meets handle
      (Sweeping platform journal start)
      (fun _ after => Settled platform journal start after) (fun _ _ => False) tree := by
  have hnone : (tree.lookup storageRestoreJournalPath).isSome = false := by
    rw [h.gone]
    rfl
  refine meets_bind.mpr (meets_call ⟨h, nofun⟩ (handle_existsSync hnone) ?_)
  exact meets_bind.mpr ((meets_sweepOrphanedStorageRestoreStages
    (fun _ _ hafter => hafter) h).mono (fun _ _ h => h) (fun _ _ hafter => hafter)
    (fun _ _ h => h))

end Pass

/-! ## Passes that die -/

/-- How a pass dies: after so many operations and, where the next one removes a directory, with
these entries of it unlinked. -/
structure RecoveryDeath where
  operations : Nat
  unlinked : List (List String) := []

/-- What is left of a pass that dies, and the state that it leaves. -/
def stoppedPass (tree : StateDir Content) (death : RecoveryDeath) :
    StorageProcess Content StorageRestoreRecoveryResult × StateDir Content :=
  let (rest, tree) := (recoverInterruptedStorageRestore platform stateDir).runFor handle tree
    death.operations
  match rest.nextOp with
  | some (.rmSyncRecursive path) => (rest, tree.unlink (death.unlinked.map (path ++ ·)))
  | _ => (rest, tree)

def recoveryPasses : Machine (StateDir Content) RecoveryDeath Unit where
  step tree death := ((), (stoppedPass platform stateDir tree death).2)

/-- A pass that cannot roll forward any more dies in the removal of the stage directory or right
after it, and a copy that the next pass needs is gone. -/
def Strands (tree : StateDir Content) (death : RecoveryDeath) : Prop :=
  let (rest, after) := stoppedPass platform stateDir tree death
  (rest.nextOp = some (.rmSyncRecursive journal.stageDir) ∨
      rest.nextOp = some (.rmSync storageRestoreJournalPath)) ∧
    ((canRollForward platform journal).run handle after).1 = .ok false ∧
    ∃ entry ∈ journal.entries, entry.hadTarget = true ∧
      after.lookup (journal.rollback entry) = none

section Passes

variable {platform stateDir journal} {start : StateDir Content}
variable {tree after : StateDir Content} {name : String}

theorem run_canRollForward :
    ((canRollForward platform journal).run handle tree).1 = .ok false ↔
      ¬ RollsForward platform journal tree := by
  have hmeets : (canRollForward platform journal).Meets handle (fun _ _ => True)
      (fun answer after => after = tree ∧ (answer = true ↔ RollsForward platform journal tree))
      (fun _ _ => False) tree := meets_canRollForward fun _ _ => trivial
  rcases hmeets.run with ⟨answer, hanswer, -, hrolls⟩ | ⟨_, _, hfalse⟩
  · rw [hanswer, ← hrolls, Bool.not_eq_true, Except.ok.injEq]
  · exact hfalse.elim

/-- What passes may leave to the next. -/
def Recoverable (platform : StoragePlatform Content) (stateDir : String)
    (journal : StorageRestoreJournal) (start tree : StateDir Content) : Prop :=
  Pending platform stateDir journal start tree ∨ Settled platform journal start tree

/-- A pass that has begun to remove its stage directory leaves enough for the next, unless a
copy that this one needs is gone. -/
theorem pending_of_finishing (htakes : TakesFiles journal after)
    (hholds : HoldsJournal platform stateDir journal after)
    (hleft : AtBackup platform journal after ∨ SomeCopies journal start after)
    (hneeded : ¬ (((canRollForward platform journal).run handle after).1 = .ok false ∧
      ∃ entry ∈ journal.entries, entry.hadTarget = true ∧
        after.lookup (journal.rollback entry) = none)) :
    Pending platform stateDir journal start after := by
  by_cases hrolls : RollsForward platform journal after
  · exact .forward ⟨htakes, hholds, hrolls⟩
  · refine .backward ⟨htakes, hholds, fun entry hmem hhad => ?_⟩
    rcases hleft with hbackup | hcopies
    · exact absurd hbackup.rollsForward hrolls
    · refine (hcopies entry hmem hhad).resolve_left fun hgone => ?_
      exact hneeded ⟨run_canRollForward.mpr hrolls, entry, hmem, hhad, hgone⟩

theorem head?_of_mem_map {unlinked : List (List String)} :
    ∀ path ∈ unlinked.map ([name] ++ ·), path.head? = some name := by
  intro path hmem
  obtain ⟨_, -, rfl⟩ := List.mem_map.mp hmem
  rfl

/-- Targets stay as they are when a directory under another name loses entries. -/
theorem TakesFiles.unlink (h : TakesFiles journal tree)
    (hname : ∀ entry ∈ journal.entries, entry.name ≠ name) (unlinked : List (List String)) :
    TakesFiles journal (tree.unlink (unlinked.map ([name] ++ ·))) ∧
      ∀ entry ∈ journal.entries,
        (tree.unlink (unlinked.map ([name] ++ ·))).lookup entry.target =
          tree.lookup entry.target := by
  have hsame : ∀ entry ∈ journal.entries,
      (tree.unlink (unlinked.map ([name] ++ ·))).lookup entry.target =
        tree.lookup entry.target :=
    fun entry hmem => lookup_unlink_of_ne [] head?_of_mem_map (hname entry hmem)
  refine ⟨⟨(isDirectory_unlink head?_of_mem_map).trans h.root, fun entry hmem => ?_⟩, hsame⟩
  rw [hsame entry hmem]
  exact h.targets entry hmem

theorem SomeCopies.unlink (h : SomeCopies journal start tree) {paths : List (List String)}
    (hpaths : ∀ path ∈ paths, path.head? = some name) :
    SomeCopies journal start (tree.unlink paths) := by
  intro entry hmem hhad
  rcases h entry hmem hhad with hgone | ⟨data, hfile, hstart⟩
  · exact .inl ((lookup_unlink_or hpaths (by rw [hgone]; rfl)).elim id fun h => h.trans hgone)
  · exact (lookup_unlink_or hpaths (by rw [hfile]; rfl)).imp id
      fun h => ⟨data, h.trans hfile, hstart⟩

theorem Pending.stopped (hplain : journal.Plain)
    (h : Pending platform stateDir journal start tree) (death : RecoveryDeath)
    (hstrands : ¬ Strands platform stateDir journal tree death) :
    Recoverable platform stateDir journal start
      (stoppedPass platform stateDir tree death).2 := by
  have hmeets := (meets_recover_pending hplain h).runFor death.operations
  unfold Strands stoppedPass at hstrands
  unfold stoppedPass
  generalize (recoverInterruptedStorageRestore platform stateDir).runFor handle tree
    death.operations = stopped at hmeets hstrands
  obtain ⟨process, after⟩ := stopped
  cases process with
  | ended answer =>
    cases answer with
    | ok => exact .inr hmeets
    | error => exact hmeets.elim
  | perform op =>
    obtain ⟨-, htakes, hholds, hready⟩ := hmeets.1
    cases hready with
    | pending hpending hkeeps =>
      cases op with
      | rmSyncRecursive path => exact absurd rfl (hkeeps path)
      | _ => exact .inl hpending
    | finishing hop hleft =>
      rcases hop with rfl | rfl
      · obtain ⟨htakes', hsame⟩ :=
          htakes.unlink (fun entry hmem => (hplain entry hmem).2) death.unlinked
        refine .inl (pending_of_finishing htakes' (hholds.of_lookup ?_) ?_
          fun hneeded => hstrands ⟨.inl rfl, hneeded⟩)
        · exact lookup_unlink_of_ne [] head?_of_mem_map
            (journalFile_ne_of_stageName hholds.valid.stageName)
        · exact hleft.imp (uniform_of_lookup platform start hsame).1
            fun hcopies => hcopies.unlink head?_of_mem_map
      · exact .inl (pending_of_finishing htakes hholds hleft
          fun hneeded => hstrands ⟨.inr rfl, hneeded⟩)

theorem Settled.stopped (h : Settled platform journal start tree) (death : RecoveryDeath) :
    Settled platform journal start (stoppedPass platform stateDir tree death).2 := by
  have hmeets := (meets_recover_settled stateDir h).runFor death.operations
  unfold stoppedPass
  generalize (recoverInterruptedStorageRestore platform stateDir).runFor handle tree
    death.operations = stopped at hmeets
  obtain ⟨process, after⟩ := stopped
  cases process with
  | ended answer =>
    cases answer with
    | ok => exact hmeets
    | error => exact hmeets.elim
  | perform op =>
    obtain ⟨hsettled, hremoves⟩ := hmeets.1
    cases op with
    | rmSyncRecursive path =>
      obtain ⟨name, rfl, hname, hne⟩ := hremoves path rfl
      obtain ⟨htakes, hsame⟩ := hsettled.takes.unlink hne death.unlinked
      obtain ⟨hbackup, hprevious⟩ := uniform_of_lookup platform start hsame
      refine ⟨htakes, ?_, hsettled.uniform.imp hbackup hprevious⟩
      exact (lookup_unlink_of_ne [] head?_of_mem_map
        (journalFile_ne_of_stageName hname)).trans hsettled.gone
    | _ => exact hsettled

theorem Recoverable.run (hplain : journal.Plain)
    (h : Recoverable platform stateDir journal start tree) :
    ∃ result, ((recoverInterruptedStorageRestore platform stateDir).run handle tree).1 =
        .ok result ∧ Settled platform journal start
      ((recoverInterruptedStorageRestore platform stateDir).run handle tree).2 := by
  have hmeets := h.elim (fun h => (meets_recover_pending hplain h).run)
    fun h => (meets_recover_settled stateDir h).run
  rcases hmeets with ⟨result, hanswer, hsettled⟩ | ⟨_, _, hfalse⟩
  · exact ⟨result, hanswer, hsettled⟩
  · exact hfalse.elim

end Passes

/-- A restore that was interrupted: the journal stands with a copy of every file that it
replaces, and the targets are files if they are there at all. -/
structure Interrupted (start : StateDir Content) : Prop where
  takes : TakesFiles journal start
  holds : HoldsJournal platform stateDir journal start
  copies : ∀ entry ∈ journal.entries, entry.hadTarget = true →
    ∃ data, start.lookup (journal.rollback entry) = some (.file data)

/-- After any number of passes that die, none of them with its copies gone and the journal left
to remove, the next pass that runs to its end leaves no journal and one generation. -/
theorem recovery_crash_safe (start : StateDir Content) (hplain : journal.Plain)
    (hstart : Interrupted platform stateDir journal start) (deaths : List RecoveryDeath)
    (hdeaths : ∀ moment ∈ (recoveryPasses platform stateDir).history start deaths,
      ¬ Strands platform stateDir journal moment.before moment.input) :
    ∃ result after,
      (recoverInterruptedStorageRestore platform stateDir).run handle
          ((recoveryPasses platform stateDir).run start deaths) = (.ok result, after) ∧
        after.lookup storageRestoreJournalPath = none ∧
        (AtBackup platform journal after ∨ AtPrevious journal start after) := by
  have hfirst : Recoverable platform stateDir journal start start := by
    refine .inl (.backward ⟨hstart.takes, hstart.holds, fun entry hmem hhad => ?_⟩)
    obtain ⟨data, hfile⟩ := hstart.copies entry hmem hhad
    exact ⟨data, hfile, hfile⟩
  have hrecoverable : Recoverable platform stateDir journal start
      ((recoveryPasses platform stateDir).run start deaths) :=
    (recoveryPasses platform stateDir).history_invariant_of
      (fun moment => ¬ Strands platform stateDir journal moment.before moment.input)
      (fun _ tree => Recoverable platform stateDir journal start tree)
      (fun _ _ death h hstrands => h.elim (fun h => h.stopped hplain death hstrands)
        fun h => .inr (h.stopped death))
      start hfirst deaths hdeaths
  obtain ⟨result, hanswer, hsettled⟩ := hrecoverable.run hplain
  exact ⟨result, _, Prod.ext hanswer rfl, hsettled.gone, hsettled.uniform⟩

def textPlatform : StoragePlatform (StorageRestoreJournal ⊕ String) where
  resolve path := path
  resolve_resolve _ := rfl
  sha256 content :=
    if content = .inr "new" then String.ofList (List.replicate 64 'a')
    else String.ofList (List.replicate 64 'b')
  parse content :=
    match content with
    | .inl journal => .ok (some journal.row)
    | .inr _ => .error "Unexpected token"
  stringify := .inl
  parse_stringify _ := rfl

/-- A database that is replaced, and a file that is not part of the backup. -/
def databaseJournal : StorageRestoreJournal where
  operationId := "restore_1"
  stateDir := "state"
  stageDirName := ".restore-stage-1"
  entries := [
    { name := "gateway.db"
      expectedSha256 := some (String.ofList (List.replicate 64 'a'))
      hadTarget := true },
    { name := "events.json", expectedSha256 := none, hadTarget := false }]
  createdAt := "today"

/-- The staged file of the database is missing. -/
def unstaged : StateDir (StorageRestoreJournal ⊕ String) :=
  .directory [(storageRestoreJournalFile, .file (.inl databaseJournal)),
    ("gateway.db", .file (.inr "old")),
    (".restore-stage-1", .directory [("new", .directory []),
      ("rollback", .directory [("gateway.db", .file (.inr "old"))])])]

theorem unstaged_interrupted : databaseJournal.Plain ∧
    Interrupted textPlatform "state" databaseJournal unstaged := by
  refine ⟨?_, ⟨rfl, ?_⟩, ⟨.inl databaseJournal, some databaseJournal.row, rfl, rfl, ?_⟩, ?_⟩
  · unfold StorageRestoreJournal.Plain
    decide
  · decide
  · decide +kernel
  · intro _ hmem hhad
    rcases List.mem_cons.mp hmem with rfl | hmem
    · exact ⟨.inr "old", rfl⟩
    · cases List.mem_singleton.mp hmem
      cases hhad

/-- A pass that dies while it checks the entries, and one that dies in the removal of the stage
directory before the copies have gone. -/
def earlyDeaths : List RecoveryDeath := [⟨3, []⟩, ⟨7, [["new"]]⟩]

theorem recovery_crash_safe_early :
    ∃ result after,
      (recoverInterruptedStorageRestore textPlatform "state").run handle
          ((recoveryPasses textPlatform "state").run unstaged earlyDeaths) = (.ok result, after) ∧
        after.lookup storageRestoreJournalPath = none ∧
        (AtBackup textPlatform databaseJournal after ∨
          AtPrevious databaseJournal unstaged after) := by
  refine recovery_crash_safe textPlatform "state" databaseJournal unstaged
    unstaged_interrupted.1 unstaged_interrupted.2 earlyDeaths fun moment hmem => ?_
  rcases List.mem_cons.mp hmem with rfl | hmem
  · rintro ⟨hop | hop, -⟩
    · cases hop
    · cases hop
  · obtain rfl := List.mem_singleton.mp hmem
    rintro ⟨-, -, entry, hentry, hhad, hgone⟩
    rcases List.mem_cons.mp hentry with rfl | hentry
    · cases hgone
    · cases List.mem_singleton.mp hentry
      cases hhad

/-- A pass that rolls back dies before it removes the journal: from there on every pass
throws, and leaves everything as it found it. -/
theorem recovery_stranded :
    (databaseJournal.Plain ∧ Interrupted textPlatform "state" databaseJournal unstaged) ∧
      (recoverInterruptedStorageRestore textPlatform "state").run handle
          ((recoveryPasses textPlatform "state").run unstaged [⟨8, []⟩]) =
        (.error "restore rollback copy is missing: gateway.db",
          (recoveryPasses textPlatform "state").run unstaged [⟨8, []⟩]) :=
  ⟨unstaged_interrupted, by rfl⟩

end OpenCowork.Gateway
