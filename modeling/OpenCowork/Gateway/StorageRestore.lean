import OpenCowork.Foundation.Checks
import OpenCowork.Foundation.FileOps

/-! # Restoring a storage backup

A restore stages the files of a backup and copies of the files that it is about to replace,
writes a journal that names them, and then runs the recovery that also runs when a database of
the state directory is opened. Paths are read from the state directory. Syncing and changes of
permissions leave no trace here.
-/

namespace OpenCowork.Gateway

open Foundation FileProcess

structure StorageRestoreJournalEntry where
  name : String
  expectedSha256 : Option String
  hadTarget : Bool
deriving DecidableEq

structure StorageRestoreJournal where
  (operationId stateDir stageDirName : String)
  entries : List StorageRestoreJournalEntry
  createdAt : String
deriving DecidableEq

/-- An entry as it is read: anything may be missing. -/
structure StorageRestoreJournalEntryRow where
  (name expectedSha256 : Option String)
  hadTarget : Option Bool

structure StorageRestoreJournalRow where
  version : Option Nat
  (operationId stateDir stageDirName : Option String)
  entries : Option (List StorageRestoreJournalEntryRow)
  createdAt : Option String

def StorageRestoreJournalEntry.row (entry : StorageRestoreJournalEntry) :
    StorageRestoreJournalEntryRow where
  name := some entry.name
  expectedSha256 := entry.expectedSha256
  hadTarget := some entry.hadTarget

def StorageRestoreJournal.row (journal : StorageRestoreJournal) : StorageRestoreJournalRow where
  version := some 1
  operationId := some journal.operationId
  stateDir := some journal.stateDir
  stageDirName := some journal.stageDirName
  entries := some (journal.entries.map StorageRestoreJournalEntry.row)
  createdAt := some journal.createdAt

/-- What the storage takes from its surroundings: how paths are resolved, the digest of a
file, and journals as texts. -/
structure StoragePlatform (Content : Type) where
  resolve : String → String
  resolve_resolve : ∀ path, resolve (resolve path) = resolve path
  sha256 : Content → String
  parse : Content → Except String (Option StorageRestoreJournalRow)
  stringify : StorageRestoreJournal → Content
  parse_stringify : ∀ journal, parse (stringify journal) = .ok (some journal.row)

inductive StorageRestoreAction
  | rollForward
  | rollBack
deriving DecidableEq

structure StorageRestoreRecoveryResult where
  recovered : Bool
  action : Option StorageRestoreAction
  installed : List (List String)
deriving DecidableEq

/-- A process in the state directory. -/
abbrev StorageProcess (Content α : Type) := FileProcess String Content α

abbrev StateDir (Content : Type) := FileTree String Content

/-! ## The journal -/

def storageRestoreJournalFile : String := ".storage-restore-journal.json"

def storageRestoreJournalPath : List String := [storageRestoreJournalFile]

/-- `[A-Za-z0-9._-]` -/
def isSafeNameChar (c : Char) : Bool := c.isAlphanum || c == '.' || c == '_' || c == '-'

/-- `/^[A-Za-z0-9._-]+$/` -/
def isSafeName (name : String) : Bool := !name.toList.isEmpty && name.toList.all isSafeNameChar

/-- `/^\.restore-stage-[A-Za-z0-9._-]+$/` -/
def isStorageRestoreStageName (name : String) : Bool :=
  let start := ".restore-stage-".toList
  start.isPrefixOf name.toList && isSafeName (String.ofList (name.toList.drop start.length))

/-- `/^[a-f0-9]{64}$/` -/
def isSha256 (digest : String) : Bool :=
  digest.length == 64 && digest.toList.all fun c => c.isDigit || ('a' ≤ c && c ≤ 'f')

def validateStorageRestoreEntry (seen : List String) (entry : StorageRestoreJournalEntryRow) :
    Except String StorageRestoreJournalEntry := do
  let name := entry.name.getD ""
  refuseIf (isSafeName name = false ∨ name = "." ∨ name = ".." ∨ name ∈ seen)
    ("storage restore journal has an unsafe or duplicate target: " ++ name)
  refuseIf (entry.expectedSha256.any (fun digest => !isSha256 digest) = true)
    ("storage restore journal has an invalid digest: " ++ name)
  let hadTarget ← orThrow entry.hadTarget
    ("storage restore journal is missing target history: " ++ name)
  return { name, expectedSha256 := entry.expectedSha256, hadTarget }

def validateStorageRestoreEntries (seen : List String) :
    List StorageRestoreJournalEntryRow → Except String (List StorageRestoreJournalEntry)
  | [] => .ok []
  | row :: rest => do
      let entry ← validateStorageRestoreEntry seen row
      let entries ← validateStorageRestoreEntries (entry.name :: seen) rest
      return entry :: entries

variable {Content : Type} (platform : StoragePlatform Content) (processId : String)
  (journal : StorageRestoreJournal) (entry : StorageRestoreJournalEntry)

def validateStorageRestoreJournal (row : Option StorageRestoreJournalRow)
    (expectedStateDir : String) : Except String StorageRestoreJournal := do
  let stateDir := platform.resolve ((row.bind StorageRestoreJournalRow.stateDir).getD "")
  let stageDirName := (row.bind StorageRestoreJournalRow.stageDirName).getD ""
  refuseIf (row.bind StorageRestoreJournalRow.version ≠ some 1 ∨
      stateDir ≠ platform.resolve expectedStateDir)
    "storage restore journal has an unsupported version or state directory"
  refuseIf (isStorageRestoreStageName stageDirName = false)
    "storage restore journal has an unsafe stage directory"
  let rows := (row.bind StorageRestoreJournalRow.entries).getD []
  refuseIf (rows = []) "storage restore journal has no entries"
  let entries ← validateStorageRestoreEntries [] rows
  return {
    operationId := (row.bind StorageRestoreJournalRow.operationId).getD ""
    stateDir, stageDirName, entries
    createdAt := (row.bind StorageRestoreJournalRow.createdAt).getD "" }

def readRestoreJournal : StorageProcess Content (Option StorageRestoreJournalRow) := do
  let text ← (readFileSync storageRestoreJournalPath).attempt
  match text.bind platform.parse with
  | .ok row => pure row
  | .error thrown => Process.throw ("storage restore journal is unreadable: " ++ thrown)

def storageRestoreTemporaryFile : String := storageRestoreJournalFile ++ "." ++ processId ++ ".tmp"

/-- The journal is written beside its place and then put there. -/
def writeStorageRestoreJournal :
    StorageProcess Content Unit := do
  let validated ← .ended (validateStorageRestoreJournal platform (some journal.row)
    journal.stateDir)
  writeFileSync [storageRestoreTemporaryFile processId] (platform.stringify validated)
  renameSync [storageRestoreTemporaryFile processId] storageRestoreJournalPath

/-! ## Recovery -/

def StorageRestoreJournalEntry.target : List String := [entry.name]

def StorageRestoreJournal.stageDir : List String := [journal.stageDirName]

def StorageRestoreJournal.staged : List String := [journal.stageDirName, "new", entry.name]

def StorageRestoreJournal.rollback : List String := [journal.stageDirName, "rollback", entry.name]

def fileMatchesSha256 (path : List String) (expected : String) : StorageProcess Content Bool := do
  let data ← (readFileSync path).attempt
  match data with
  | .ok data => pure (platform.sha256 data == expected)
  | .error _ => pure false

/-- Whether an entry can still be brought to the generation of the backup. -/
def entryCanRollForward :
    StorageProcess Content Bool :=
  match entry.expectedSha256 with
  | none => pure true
  | some expected => do
      if ← fileMatchesSha256 platform entry.target expected then pure true
      else fileMatchesSha256 platform (journal.staged entry) expected

def canRollForward : StorageProcess Content Bool :=
  Process.every journal.entries (entryCanRollForward platform journal)

def rollForwardEntry :
    StorageProcess Content Unit :=
  match entry.expectedSha256 with
  | none => rmSync entry.target
  | some expected => do
      if ← fileMatchesSha256 platform entry.target expected then pure ()
      else if ← fileMatchesSha256 platform (journal.staged entry) expected then
        renameSync (journal.staged entry) entry.target
      else
        Process.throw ("restore journal staged file is missing or corrupt: " ++ entry.name)

def rollBackEntry :
    StorageProcess Content Unit := do
  if entry.hadTarget then
    if ← existsSync (journal.rollback entry) then
      copyFileSync (journal.rollback entry) entry.target
    else Process.throw ("restore rollback copy is missing: " ++ entry.name)
  else rmSync entry.target

def finishStorageRestoreJournal :
    StorageProcess Content Unit := do
  rmSyncRecursive journal.stageDir
  rmSync storageRestoreJournalPath

/-- One name that was found in the state directory. -/
def sweepStorageRestoreStage (name : String) : StorageProcess Content Unit :=
  if isStorageRestoreStageName name then do
    let stat ← (lstatSync [name]).attempt
    match stat with
    | .ok true => rmSyncRecursive [name]
    | _ => pure ()
  else pure ()

def sweepOrphanedStorageRestoreStages : StorageProcess Content Unit := do
  if ← existsSync [] then
    let names ← readdirSync []
    Process.forEach names sweepStorageRestoreStage
  else pure ()

def StorageRestoreJournal.recovered
    (action : StorageRestoreAction) : StorageRestoreRecoveryResult where
  recovered := true
  action := some action
  installed := journal.entries.map StorageRestoreJournalEntry.target

def recoverInterruptedStorageRestore (stateDir : String) :
    StorageProcess Content StorageRestoreRecoveryResult := do
  if ← existsSync storageRestoreJournalPath then
    let row ← readRestoreJournal platform
    let journal ← .ended (validateStorageRestoreJournal platform row stateDir)
    if ← canRollForward platform journal then
      Process.forEach journal.entries (rollForwardEntry platform journal)
      finishStorageRestoreJournal journal
      pure (journal.recovered .rollForward)
    else
      Process.forEach journal.entries (rollBackEntry journal)
      finishStorageRestoreJournal journal
      pure (journal.recovered .rollBack)
  else
    sweepOrphanedStorageRestoreStages
    pure { recovered := false, action := none, installed := [] }

/-! ## Restoring -/

def sqliteFiles : List String :=
  ["gateway.db", "channel-sync.json.sqlite", "operational-sidecar.sqlite"]

def restoreManagedFileNames : List String :=
  sqliteFiles ++ ["channel-sync.json", "events.json", "sessions.json"] ++
    sqliteFiles.flatMap fun sqlite => [sqlite ++ "-wal", sqlite ++ "-shm"]

/-- A restore of a verified backup: the files that its metadata names with their digests, the
files that are there now, and whether a safety backup comes first. -/
structure RestoreRequest (Content : Type) where
  targetStateDir : String
  files : List (String × String)
  backup : String → Option Content
  safetyBackup : Option (StateDir Content → Except String Unit × StateDir Content)
  (stageDirName processId operationId createdAt : String)

namespace RestoreRequest

variable (request : RestoreRequest Content)

/-- `new Map(…).get(name)` -/
def expectedSha256 (name : String) : Option String :=
  (request.files.reverse.find? fun file => file.1 = name).map Prod.snd

def newDir : List String := [request.stageDirName, "new"]

def rollbackDir : List String := [request.stageDirName, "rollback"]

def recoverStorageRestoreToStateDir : StorageProcess Content Unit := do
  if ← existsSync storageRestoreJournalPath then
    let _ ← recoverInterruptedStorageRestore platform request.targetStateDir
    pure ()
  else pure ()

def createSafetyBackup : StorageProcess Content Unit :=
  match request.safetyBackup with
  | some act => .perform (.other act) .ended
  | none => pure ()

/-- What may change the files before they are staged. -/
def prepare : StorageProcess Content Unit := do
  request.recoverStorageRestoreToStateDir platform
  request.createSafetyBackup

def stageFile (file : String × String) : StorageProcess Content Unit :=
  match request.backup file.1 with
  | some data => writeFileSync (request.newDir ++ [file.1]) data
  | none => Process.throw "ENOENT"

def keepTarget (name : String) : StorageProcess Content StorageRestoreJournalEntry := do
  let hadTarget ← existsSync [name]
  if hadTarget then copyFileSync [name] (request.rollbackDir ++ [name]) else pure ()
  pure { name, expectedSha256 := request.expectedSha256 name, hadTarget }

def keepTargets : List String → StorageProcess Content (List StorageRestoreJournalEntry)
  | [] => pure []
  | name :: rest => do
      let entry ← request.keepTarget name
      let entries ← keepTargets rest
      pure (entry :: entries)

/-- What a restore does in its stage directory, up to the journal. -/
def stage : StorageProcess Content Unit := do
  Process.forEach request.files request.stageFile
  let entries ← request.keepTargets restoreManagedFileNames
  writeStorageRestoreJournal platform request.processId {
    operationId := "restore_" ++ request.operationId
    stateDir := platform.resolve request.targetStateDir
    stageDirName := request.stageDirName
    entries
    createdAt := request.createdAt }

/-- The stage directory goes with the restore unless a journal needs it. -/
def install : StorageProcess Content (List String) := do
  mkdirSync []
  mkdtempSync [request.stageDirName]
  mkdirSync request.newDir
  mkdirSync request.rollbackDir
  let staged ← (request.stage platform).attempt
  match staged with
  | .error thrown =>
    rmSyncRecursive [request.stageDirName]
    Process.throw thrown
  | .ok () =>
    Process.ensuring
      (do
        let _ ← recoverInterruptedStorageRestore platform
          (platform.resolve request.targetStateDir)
        pure (request.files.map Prod.fst))
      (do
        if ← existsSync storageRestoreJournalPath then pure ()
        else rmSyncRecursive [request.stageDirName])

end RestoreRequest

def restoreStorageBackupToStateDir (request : RestoreRequest Content) :
    StorageProcess Content (List String) := do
  request.recoverStorageRestoreToStateDir platform
  request.createSafetyBackup
  request.install platform

/-! ## Opening databases -/

inductive StorageOpen
  | workDb
  | workDbReadOnly
  | leadershipDb (readOnly : Bool)
deriving DecidableEq

def openStorageDb (stateDir dbFile : String) : StorageOpen → StorageProcess Content Unit
  | .workDb => do
      if ← existsSync storageRestoreJournalPath then
        let _ ← recoverInterruptedStorageRestore platform stateDir
        mkdirSync []
      else mkdirSync []
  | .workDbReadOnly => do
      if ← existsSync storageRestoreJournalPath then
        let _ ← recoverInterruptedStorageRestore platform stateDir
        requireDb
      else requireDb
  | .leadershipDb readOnly => do
      let _ ← recoverInterruptedStorageRestore platform stateDir
      if readOnly then
        requireDb
      else mkdirSync []
where
  requireDb : StorageProcess Content Unit := do
    if ← existsSync [dbFile] then pure ()
    else Process.throw ("Gateway state database not found: " ++ dbFile)

end OpenCowork.Gateway
