import OpenCowork.Gateway.RestoreInstall

/-! # A restore while databases are opened

One restore and any number of opens of the databases of its state directory, which take their
file operations in any order. An open that finds no journal sweeps stage directories, and one
that finds a journal recovers it: the restore gets through when no open lists the directory
while its stage directory stands, and none looks for a journal while there is one.
-/

namespace OpenCowork.Gateway

open Foundation FileProcess Process
open FileOp (handle)

variable {Content : Type} (platform : StoragePlatform Content) (request : RestoreRequest Content)

inductive StorageTurn
  | restore
  | opens (index : Nat)
deriving DecidableEq

/-- The state directory, and what is left of the restore and of each open. -/
structure StorageSystem (Content : Type) where
  tree : StateDir Content
  restore : StorageProcess Content (List String)
  opens : Nat → StorageProcess Content Unit

/-- Whoever has the turn takes its next file operation. -/
def storageSystem : Machine (StorageSystem Content) StorageTurn Unit where
  step system turn :=
    ((), match turn with
      | .restore =>
        { system with
          tree := (system.restore.step handle system.tree).2
          restore := (system.restore.step handle system.tree).1 }
      | .opens index =>
        { system with
          tree := ((system.opens index).step handle system.tree).2
          opens := Function.update system.opens index
            ((system.opens index).step handle system.tree).1 })

/-- A restore and the opens of databases, each with its kind and file. -/
def storageStart (opens : Nat → StorageOpen × String) (start : StateDir Content) :
    StorageSystem Content where
  tree := start
  restore := restoreStorageBackupToStateDir platform request
  opens index := openStorageDb platform request.targetStateDir (opens index).2 (opens index).1

/-- The turn does not let an open list the state directory while the restore's stage directory
stands, or look for a journal while there is one. -/
def KeepsClear (before : StorageSystem Content) : StorageTurn → Prop
  | .restore => True
  | .opens index =>
    ((before.opens index).nextOp = some (.readdirSync []) →
      before.tree.lookup [request.stageDirName] = none) ∧
    ((before.opens index).nextOp = some (.existsSync storageRestoreJournalPath) →
      before.tree.lookup storageRestoreJournalPath = none)

/-- A state directory without a journal, or with one that the recovery gets through. -/
structure RestoreStart (start : StateDir Content) : Prop where
  root : start.isDirectory = true
  files : ∀ name ∈ restoreManagedFileNames,
    (start.lookup [name]).any FileTree.isDirectory = false
  journal : start.lookup storageRestoreJournalPath = none ∨
    ∃ journal : StorageRestoreJournal, journal.Plain ∧
      Pending platform request.targetStateDir journal start start

/-! ## Opens -/

def OpenAnswer : (op : FileOp String Content) → Except String (FileOp.Result op) → Prop
  | .existsSync path, answer => path = storageRestoreJournalPath → answer = .ok false
  | .readdirSync path, answer => path = [] → ∀ names : List String, answer = .ok names →
      request.stageDirName ∉ names
  | _, _ => True

/-- What an open asks for then: it reads, makes sure of the state directory, and removes stage
directories of others. -/
def OpenOp : FileOp String Content → Prop
  | .existsSync _ | .lstatSync _ | .readdirSync _ => True
  | .mkdirSync path => path = []
  | .rmSyncRecursive path => ∃ name, path = [name] ∧ isStorageRestoreStageName name = true ∧
      name ≠ request.stageDirName
  | _ => False

section Opens

variable {platform request}

theorem confined_sweepStorageRestoreStage {name : String} (hname : name ≠ request.stageDirName) :
    (sweepStorageRestoreStage name : StorageProcess Content Unit).Confined (OpenAnswer request)
      (OpenOp request) (fun _ => True) := by
  unfold sweepStorageRestoreStage
  split
  next hstage =>
    have hstat : (lstatSync [name] : StorageProcess Content Bool).Confined (OpenAnswer request)
        (OpenOp request) (fun _ => True) := confined_call trivial fun _ _ => trivial
    refine hstat.attempt.bind fun _ _ => ?_
    split
    · exact confined_call ⟨name, rfl, hstage, hname⟩ fun _ _ => trivial
    · exact trivial
  · exact trivial

theorem confined_sweepOrphanedStorageRestoreStages :
    (sweepOrphanedStorageRestoreStages : StorageProcess Content Unit).Confined
      (OpenAnswer request) (OpenOp request) (fun _ => True) := by
  have hexists : (existsSync [] : StorageProcess Content Bool).Confined (OpenAnswer request)
      (OpenOp request) (fun _ => True) := confined_call trivial fun _ _ => trivial
  have hnames : (readdirSync [] : StorageProcess Content (List String)).Confined
      (OpenAnswer request) (OpenOp request) (fun names => request.stageDirName ∉ names) :=
    confined_call trivial fun names hanswer => hanswer rfl names rfl
  refine hexists.bind fun _ _ => ?_
  split
  · refine hnames.bind fun _ hmem => confined_forEach fun _ hname => ?_
    apply confined_sweepStorageRestoreStage
    rintro rfl
    exact hmem hname
  · exact trivial

theorem confined_existsJournal :
    (existsSync storageRestoreJournalPath : StorageProcess Content Bool).Confined
      (OpenAnswer request) (OpenOp request) (fun found => found = false) :=
  confined_call trivial fun _ hanswer => Except.ok.inj (hanswer rfl)

theorem confined_recoverInterruptedStorageRestore (stateDir : String) :
    (recoverInterruptedStorageRestore platform stateDir).Confined (OpenAnswer request)
      (OpenOp request) (fun _ => True) := by
  refine confined_existsJournal.bind ?_
  rintro _ rfl
  exact confined_sweepOrphanedStorageRestoreStages.bind fun _ _ => trivial

theorem confined_openStorageDb (stateDir dbFile : String) (kind : StorageOpen) :
    (openStorageDb platform stateDir dbFile kind).Confined (OpenAnswer request)
      (OpenOp request) (fun _ => True) := by
  have hmake : (mkdirSync [] : StorageProcess Content Unit).Confined (OpenAnswer request)
      (OpenOp request) (fun _ => True) := confined_call rfl fun _ _ => trivial
  have hrequire : (openStorageDb.requireDb dbFile : StorageProcess Content Unit).Confined
      (OpenAnswer request) (OpenOp request) (fun _ => True) := by
    have hexists : (existsSync [dbFile] : StorageProcess Content Bool).Confined
        (OpenAnswer request) (OpenOp request) (fun _ => True) :=
      confined_call trivial fun _ _ => trivial
    refine hexists.bind fun found _ => ?_
    split
    · exact trivial
    · exact trivial
  cases kind with
  | workDb =>
    refine confined_existsJournal.bind ?_
    rintro found rfl
    exact hmake
  | workDbReadOnly =>
    refine confined_existsJournal.bind ?_
    rintro _ rfl
    exact hrequire
  | leadershipDb readOnly =>
    refine (confined_recoverInterruptedStorageRestore stateDir).bind fun _ _ => ?_
    cases readOnly with
    | true => exact hrequire
    | false => exact hmake

theorem nextOp_openStorageDb (stateDir dbFile : String) (kind : StorageOpen) :
    (openStorageDb platform stateDir dbFile kind).nextOp =
      some (.existsSync storageRestoreJournalPath) := by
  cases kind <;> rfl

theorem openAnswer_of_keepsClear {system : StorageSystem Content} {index : Nat}
    (h : KeepsClear request system (.opens index)) (op : FileOp String Content)
    (hop : (system.opens index).nextOp = some op) :
    OpenAnswer request op (handle op system.tree).1 := by
  cases op with
  | existsSync =>
    rintro rfl
    show Except.ok (system.tree.lookup storageRestoreJournalPath).isSome = _
    rw [h.2 hop]
    rfl
  | readdirSync =>
    rintro rfl _ hnames
    exact FileOp.not_mem_namesIn hnames (h.1 hop)
  | _ => exact trivial

theorem sameAt_of_openOp {op : FileOp String Content} (hop : OpenOp request op)
    {alone tree : StateDir Content} (h : FileTree.SameAt request.Own alone tree) :
    FileTree.SameAt request.Own alone (handle op tree).2 := by
  cases op with
  | existsSync | lstatSync | readdirSync => exact h
  | mkdirSync =>
    obtain rfl := hop
    show FileTree.SameAt request.Own alone (FileOp.makeRecursive tree []).2
    rw [FileOp.makeRecursive_root h.rightRoot]
    exact h
  | rmSyncRecursive =>
    obtain ⟨_, rfl, hstage, hne⟩ := hop
    refine h.place_right (fun hown => ?_) [] none
    rcases hown with hnot | heq
    · exact Bool.false_ne_true (hnot.symm.trans hstage)
    · exact hne heq
  | _ => exact hop.elim

end Opens

/-! ## Among each other -/

/-- What follows the recovery of an older journal. -/
def RestoreRequest.backUpAndInstall : StorageProcess Content (List String) := do
  request.createSafetyBackup
  request.install platform

/-- Either an older journal is still being recovered, and no open has taken a turn, or the
restore goes on as if it were alone. -/
inductive RestorePhase (previous : StateDir Content) (system : StorageSystem Content)
    (left : Nat) : Prop
  | recovering (op : FileOp String Content)
      (next : Except String (FileOp.Result op) → StorageProcess Content Unit)
      (hrestore : system.restore =
        .perform op fun answer => next answer >>= fun _ => request.backUpAndInstall platform)
      (hmeets : (Process.perform op next).Meets handle
        (fun _ tree => (tree.lookup storageRestoreJournalPath).isSome = true)
        (fun _ after => ReadyToRestore after ∧
          (request.createSafetyBackup.run handle after).2 = previous)
        (fun _ _ => False) system.tree)
      (hopens : ∀ index,
        (system.opens index).nextOp = some (.existsSync storageRestoreJournalPath))
      (hleft : system.restore.length handle system.tree ≤ left)
  | undisturbed (h : Process.Undisturbed handle (FileTree.SameAt request.Own)
      (fun _ after => Restored platform request previous after)
      (fun _ after => Restored platform request previous after) system.restore system.tree left)

section Turns

variable {platform request} {previous : StateDir Content} {system : StorageSystem Content}
  {left : Nat} (hstage : isStorageRestoreStageName request.stageDirName = true)
include hstage

theorem restorePhase_of_meets (hbackup : request.SafeBackup) (process : StorageProcess Content Unit)
    (hrestore : system.restore = process >>= fun _ => request.backUpAndInstall platform)
    (hmeets : process.Meets handle
      (fun _ tree => (tree.lookup storageRestoreJournalPath).isSome = true)
      (fun _ after => ReadyToRestore after ∧
        (request.createSafetyBackup.run handle after).2 = previous)
      (fun _ _ => False) system.tree) (hopens : ∀ index,
      (system.opens index).nextOp = some (.existsSync storageRestoreJournalPath))
    (hleft : system.restore.length handle system.tree ≤ left) :
    RestorePhase platform request previous system left := by
  cases process with
  | ended answer =>
    cases answer with
    | error => exact hmeets.elim
    | ok =>
      obtain ⟨hready, rfl⟩ := hmeets
      refine .undisturbed ⟨system.tree, .refl hready.root, ?_, hleft⟩
      rw [hrestore]
      exact meets_backup_install hstage hbackup hready
  | perform op next => exact .recovering op next hrestore hmeets hopens hleft

theorem RestorePhase.restore (hbackup : request.SafeBackup)
    (h : RestorePhase platform request previous system left) :
    RestorePhase platform request previous (storageSystem.step system .restore).2 (left - 1) := by
  cases h with
  | undisturbed h => exact .undisturbed h.step
  | recovering op next hrestore hmeets hopens hleft =>
    rw [hrestore, Process.length] at hleft
    refine restorePhase_of_meets hstage hbackup (next (handle op system.tree).1) ?_ ?_ hopens ?_
    · simp only [storageSystem, hrestore, Process.step]
    · simp only [storageSystem, hrestore, Process.step]
      exact hmeets.2
    · simp only [storageSystem, hrestore, Process.step]
      exact Nat.le_sub_of_add_le hleft

omit hstage

theorem RestorePhase.opens {index : Nat} (h : RestorePhase platform request previous system left)
    (hconfined : (system.opens index).Confined (OpenAnswer request) (OpenOp request)
      (fun _ => True))
    (hclear : KeepsClear request system (.opens index)) :
    RestorePhase platform request previous (storageSystem.step system (.opens index)).2 left ∧
      (storageSystem.step system (.opens index)).2.tree.lookup [request.stageDirName] =
        system.tree.lookup [request.stageDirName] := by
  cases h with
  | recovering _ _ _ hmeets hopens =>
    have hfound : (system.tree.lookup storageRestoreJournalPath).isSome = true := hmeets.1
    rw [hclear.2 (hopens index)] at hfound
    cases hfound
  | undisturbed h =>
    cases hprocess : system.opens index with
    | ended =>
      refine ⟨.undisturbed (h.other fun _ hagree => ?_), ?_⟩
      · simpa only [storageSystem, hprocess, Process.step] using hagree
      · simp only [storageSystem, hprocess, Process.step]
    | perform op =>
      have hop : OpenOp request op := by
        rw [hprocess] at hconfined
        exact hconfined.1
      refine ⟨.undisturbed (h.other fun _ hagree => ?_), ?_⟩
      · simp only [storageSystem, hprocess, Process.step]
        exact sameAt_of_openOp hop hagree
      · simp only [storageSystem, hprocess, Process.step]
        obtain ⟨_, hagree, -⟩ := h
        have hself : FileTree.SameAt request.Own system.tree system.tree := .refl hagree.rightRoot
        exact ((sameAt_of_openOp hop hself).lookup own_stage []).symm

variable (hstage : isStorageRestoreStageName request.stageDirName = true)
include hstage

theorem restorePhase_start (hbackup : request.SafeBackup) {start : StateDir Content}
    (hstart : RestoreStart platform request start) (opens : Nat → StorageOpen × String) :
    RestorePhase platform request ((request.prepare platform).run handle start).2
      (storageStart platform request opens start)
      ((restoreStorageBackupToStateDir platform request).length handle start) := by
  rcases hstart.journal with hgone | ⟨_, hplain, hpending⟩
  · have hready : ReadyToRestore start := ⟨hstart.root, hgone, hstart.files⟩
    have hnone : (start.lookup storageRestoreJournalPath).isSome = false := by
      rw [hgone]
      rfl
    have hop : (FileOp.existsSync storageRestoreJournalPath : FileOp String Content).Within
      request.Own := ⟨_, _, rfl, own_journalFile⟩
    have hskip : (request.recoverStorageRestoreToStateDir platform).run handle start =
        (.ok (), start) := by
      show (Process.bind (.ended (.ok (start.lookup storageRestoreJournalPath).isSome)) _).run
        handle start = _
      rw [hnone]
      rfl
    rw [RestoreRequest.prepare, run_bind hskip]
    refine .undisturbed ⟨start, .refl hstart.root, ?_, le_refl _⟩
    exact meets_bind.mpr (meets_bind.mpr (meets_call hop.blind
      (handle_existsSync hnone) (meets_backup_install hstage hbackup hready)))
  · refine restorePhase_of_meets hstage hbackup
      (request.recoverStorageRestoreToStateDir platform) rfl ?_
      (fun _ => nextOp_openStorageDb _ _ _) le_rfl
    refine (meets_recoverStorageRestore hstart.root hstart.files hplain hpending).and_run.mono
      (fun _ _ hfound => hfound) ?_ (fun _ _ hfalse => hfalse.1)
    rintro ⟨⟩ _ ⟨hready, hrun⟩
    exact ⟨hready, by rw [RestoreRequest.prepare, run_bind hrun]⟩

/-- Where everything stands after some turns. -/
structure InTurns (platform : StoragePlatform Content) (request : RestoreRequest Content)
    (previous : StateDir Content) (needed : Nat)
    (past : List (Moment (StorageSystem Content) StorageTurn Unit))
    (system : StorageSystem Content) : Prop where
  phase : RestorePhase platform request previous system
    (needed - (past.map Moment.input).count .restore)
  opens : ∀ index, (system.opens index).Confined (OpenAnswer request) (OpenOp request)
    (fun _ => True)
  stage : ∀ moment ∈ past, ∀ index, moment.input = .opens index →
    moment.after.tree.lookup [request.stageDirName] =
      moment.before.tree.lookup [request.stageDirName]

theorem InTurns.step {needed : Nat} {past : List (Moment (StorageSystem Content) StorageTurn Unit)}
    (hbackup : request.SafeBackup) (h : InTurns platform request previous needed past system)
    (turn : StorageTurn) (hclear : KeepsClear request system turn) :
    InTurns platform request previous needed (past ++ [storageSystem.moment system turn])
      (storageSystem.step system turn).2 := by
  cases turn with
  | restore =>
    refine ⟨?_, h.opens, fun moment hmem index hinput => ?_⟩
    · have hcount : ((past ++ [storageSystem.moment system .restore]).map
          Moment.input).count .restore = (past.map Moment.input).count .restore + 1 := by
        simp [Machine.moment]
      rw [hcount, ← Nat.sub_sub]
      exact h.phase.restore hstage hbackup
    · rcases List.mem_append.mp hmem with hmem | hmem
      · exact h.stage moment hmem index hinput
      · obtain rfl := List.mem_singleton.mp hmem
        cases hinput
  | opens index =>
    obtain ⟨hphase, hkept⟩ := h.phase.opens (h.opens index) hclear
    refine ⟨?_, fun other => ?_, fun moment hmem other hinput => ?_⟩
    · have hcount : ((past ++ [storageSystem.moment system (.opens index)]).map
          Moment.input).count .restore = (past.map Moment.input).count .restore := by
        simp [Machine.moment]
      rw [hcount]
      exact hphase
    · by_cases hother : other = index
      · subst hother
        simp only [storageSystem, Function.update_self]
        exact (h.opens other).step handle (openAnswer_of_keepsClear hclear)
      · simp only [storageSystem, Function.update_of_ne hother]
        exact h.opens other
    · rcases List.mem_append.mp hmem with hmem | hmem
      · exact h.stage moment hmem other hinput
      · obtain rfl := List.mem_singleton.mp hmem
        exact hkept

end Turns

/-- With turns that keep clear of a restore, no open touches its stage directory, and when the
restore has had as many turns as it needs alone it has ended, with one generation installed and
no journal left. -/
theorem restore_not_swept (opens : Nat → StorageOpen × String) (start : StateDir Content)
    (hstage : isStorageRestoreStageName request.stageDirName = true)
    (hbackup : request.SafeBackup) (hstart : RestoreStart platform request start)
    (turns : List StorageTurn)
    (hturns : ∀ moment ∈ storageSystem.history (storageStart platform request opens start) turns,
      KeepsClear request moment.before moment.input) :
    (∀ moment ∈ storageSystem.history (storageStart platform request opens start) turns,
      ∀ index, moment.input = .opens index →
        moment.after.tree.lookup [request.stageDirName] =
          moment.before.tree.lookup [request.stageDirName]) ∧
      ((restoreStorageBackupToStateDir platform request).length handle start ≤
          turns.count .restore →
        ∃ answer, (storageSystem.run (storageStart platform request opens start) turns).restore =
          .ended answer) ∧
      ∀ answer, (storageSystem.run (storageStart platform request opens start) turns).restore =
          .ended answer →
        Restored platform request ((request.prepare platform).run handle start).2
          (storageSystem.run (storageStart platform request opens start) turns).tree := by
  have h := storageSystem.history_invariant_of
    (fun moment => KeepsClear request moment.before moment.input)
    (InTurns platform request ((request.prepare platform).run handle start).2
      ((restoreStorageBackupToStateDir platform request).length handle start))
    (fun past system turn hpast hclear => hpast.step hstage hbackup turn hclear)
    (storageStart platform request opens start)
    ⟨restorePhase_start hstage hbackup hstart opens,
      fun index => confined_openStorageDb _ _ _, fun _ hmem => absurd hmem List.not_mem_nil⟩
    turns hturns
  have hphase := h.phase
  rw [storageSystem.map_input_history] at hphase
  refine ⟨h.stage, fun hneeded => ?_, fun answer hended => ?_⟩
  · rw [Nat.sub_eq_zero_of_le hneeded] at hphase
    cases hphase with
    | recovering _ _ hrestore _ _ hleft =>
      rw [hrestore] at hleft
      exact absurd hleft (Nat.not_succ_le_zero _)
    | undisturbed h => exact h.exists_ended
  · cases hphase with
    | recovering _ _ hrestore => cases hrestore.symm.trans hended
    | undisturbed h =>
      rw [hended] at h
      obtain ⟨alone, hagree, hgood⟩ := h.ended
      have hrestored : Restored platform request
          ((request.prepare platform).run handle start).2 alone := by
        rcases hgood with ⟨_, _, h⟩ | ⟨_, _, h⟩
        · exact h
        · exact h
      exact hrestored.of_sameAt hagree

def databaseRestore : RestoreRequest (StorageRestoreJournal ⊕ String) where
  targetStateDir := "state"
  files := [("gateway.db", String.ofList (List.replicate 64 'a'))]
  backup name := if name = "gateway.db" then some (.inr "new") else none
  safetyBackup := none
  stageDirName := ".restore-stage-1"
  processId := "1"
  operationId := "1"
  createdAt := "today"

def oldDatabase : StateDir (StorageRestoreJournal ⊕ String) :=
  .directory [("gateway.db", .file (.inr "old"))]

def leadershipOpens (_ : Nat) : StorageOpen × String := (.leadershipDb false, "gateway.db")

theorem databaseRestore_starts :
    isStorageRestoreStageName databaseRestore.stageDirName = true ∧
      databaseRestore.SafeBackup ∧ RestoreStart textPlatform databaseRestore oldDatabase := by
  refine ⟨by decide, ⟨?_, ?_⟩, ⟨rfl, by decide, .inl rfl⟩⟩
  · intro act hact
    cases hact
  · intro act hact
    cases hact

/-- One open lists the directory before the restore begins, a second looks for a journal then and
lists the directory after it, and a third comes after it. -/
def clearTurns : List StorageTurn :=
  List.replicate 3 (.opens 0) ++ [.opens 1] ++ List.replicate 12 .restore ++ [.opens 1] ++
    List.replicate 40 .restore ++ List.replicate 3 (.opens 1) ++ List.replicate 4 (.opens 2)

/-- What `KeepsClear` asks of the next operation of an open. -/
def clearOp (tree : StateDir Content) : Option (FileOp String Content) → Bool
  | some (.readdirSync _) => (tree.lookup [databaseRestore.stageDirName]).isNone
  | some (.existsSync path) =>
    path ≠ storageRestoreJournalPath || (tree.lookup storageRestoreJournalPath).isNone
  | _ => true

def clearTurn (before : StorageSystem Content) : StorageTurn → Bool
  | .restore => true
  | .opens index => clearOp before.tree (before.opens index).nextOp

theorem restore_not_swept_early :
    ((storageSystem.run (storageStart textPlatform databaseRestore leadershipOpens oldDatabase)
        (clearTurns.take 16)).tree.lookup [databaseRestore.stageDirName]).isSome = true ∧
      (∀ moment ∈ storageSystem.history
          (storageStart textPlatform databaseRestore leadershipOpens oldDatabase) clearTurns,
        ∀ index, moment.input = .opens index →
          moment.after.tree.lookup [databaseRestore.stageDirName] =
            moment.before.tree.lookup [databaseRestore.stageDirName]) ∧
      (∃ answer, (storageSystem.run
        (storageStart textPlatform databaseRestore leadershipOpens oldDatabase)
          clearTurns).restore = .ended answer) ∧
      Restored textPlatform databaseRestore
        ((databaseRestore.prepare textPlatform).run handle oldDatabase).2
        (storageSystem.run (storageStart textPlatform databaseRestore leadershipOpens oldDatabase)
          clearTurns).tree := by
  obtain ⟨hstage, hbackup, hstart⟩ := databaseRestore_starts
  have hclear : (storageSystem.history
      (storageStart textPlatform databaseRestore leadershipOpens oldDatabase)
        clearTurns).all fun moment => clearTurn moment.before moment.input := by decide +kernel
  obtain ⟨hswept, hends, hrestored⟩ := restore_not_swept textPlatform databaseRestore
    leadershipOpens oldDatabase hstage hbackup hstart clearTurns fun moment hmem => by
      have hheld := List.all_eq_true.mp hclear moment hmem
      cases hinput : moment.input with
      | restore => trivial
      | opens index =>
        rw [hinput] at hheld
        refine ⟨fun hop => ?_, fun hop => ?_⟩
        · simpa [clearTurn, clearOp, hop] using hheld
        · simpa [clearTurn, clearOp, hop] using hheld
  obtain ⟨answer, hanswer⟩ := hends (by decide +kernel)
  exact ⟨by decide +kernel, hswept, ⟨answer, hanswer⟩, hrestored answer hanswer⟩

/-- An open looks for a journal first, and sweeps when the restore has staged its files. -/
def sweepingTurns : List StorageTurn :=
  [.opens 0, .opens 0] ++ List.replicate 19 .restore ++ [.opens 0, .opens 0, .opens 0] ++
    List.replicate 10 .restore

theorem restore_swept :
    (isStorageRestoreStageName databaseRestore.stageDirName = true ∧
      databaseRestore.SafeBackup ∧ RestoreStart textPlatform databaseRestore oldDatabase) ∧
      ((storageSystem.run (storageStart textPlatform databaseRestore leadershipOpens oldDatabase)
        (sweepingTurns.take 23)).tree.lookup [databaseRestore.stageDirName]).isSome = true ∧
      sweepingTurns[23]? = some (.opens 0) ∧
      ((storageSystem.run (storageStart textPlatform databaseRestore leadershipOpens oldDatabase)
        (sweepingTurns.take 24)).tree.lookup [databaseRestore.stageDirName]).isSome = false ∧
      (storageSystem.run (storageStart textPlatform databaseRestore leadershipOpens oldDatabase)
        sweepingTurns).restore =
          .ended (.error "restore rollback copy is missing: gateway.db") ∧
      ((storageSystem.run (storageStart textPlatform databaseRestore leadershipOpens oldDatabase)
        sweepingTurns).tree.lookup storageRestoreJournalPath).isSome = true :=
  ⟨databaseRestore_starts, by rfl, by rfl, by rfl, by rfl, by rfl⟩

end OpenCowork.Gateway
