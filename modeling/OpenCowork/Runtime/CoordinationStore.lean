import OpenCowork.Foundation.Machine
import OpenCowork.Foundation.OrderedMap
import OpenCowork.Runtime.StoreText

/-! # The local coordination store

Projects and their tasks, as the runtime host keeps them in its coordination database: what
the checks of a write accept, the rows they leave and the errors they throw. A value of type
`Option Json` is one whose type the store checks itself, `none` is `undefined`.
-/

namespace OpenCowork.Runtime

open OpenCowork.Foundation

inductive CoordinationProjectStatus where
  | active | paused | completed | archived
deriving DecidableEq, Repr

inductive CoordinationTaskStatus where
  | opened | running | blocked | completed | failed | cancelled
deriving DecidableEq, Repr

inductive CoordinationTaskColumn where
  | backlog | planning | doing | review | done
deriving DecidableEq, Repr

inductive CoordinationTaskPriority where
  | high | med | low
deriving DecidableEq, Repr

def CoordinationProjectStatus.all : List (String × CoordinationProjectStatus) :=
  [("active", .active), ("paused", .paused), ("completed", .completed), ("archived", .archived)]

def CoordinationTaskStatus.all : List (String × CoordinationTaskStatus) :=
  [("open", .opened), ("running", .running), ("blocked", .blocked), ("completed", .completed),
    ("failed", .failed), ("cancelled", .cancelled)]

def CoordinationTaskColumn.all : List (String × CoordinationTaskColumn) :=
  [("backlog", .backlog), ("planning", .planning), ("doing", .doing), ("review", .review),
    ("done", .done)]

def CoordinationTaskPriority.all : List (String × CoordinationTaskPriority) :=
  [("high", .high), ("med", .med), ("low", .low)]

structure CoordinationProject where
  (id workspaceId title objective : String)
  description : Option String
  status : CoordinationProjectStatus
  team : List String
  sourceSessionId : Option String
  (createdAt updatedAt : String)

structure CoordinationArtifactLink where
  artifactId : String
  (title sessionId runId : Option String)

structure CoordinationTask where
  (id workspaceId projectId : String)
  parentTaskId : Option String
  (title spec : String)
  description : Option String
  status : CoordinationTaskStatus
  column : CoordinationTaskColumn
  priority : CoordinationTaskPriority
  (externalRef assigneeAgent assignedRunId assignedSessionId : Option String)
  artifactRefs : List CoordinationArtifactLink
  (createdAt updatedAt : String)

/-- The rows of the two tables, by their primary keys. -/
structure CoordinationDb where
  projects : OrderedMap String CoordinationProject
  tasks : OrderedMap String CoordinationTask

namespace CoordinationDb

def empty : CoordinationDb := ⟨.empty, .empty⟩

def getCoordinationProject (db : CoordinationDb) (projectId : String) :
    Option CoordinationProject := db.projects.get projectId

def getCoordinationTask (db : CoordinationDb) (taskId : String) : Option CoordinationTask :=
  db.tasks.get taskId

end CoordinationDb

/-! ## Checks of the input -/

def maxTitleBytes : Nat := 240
def maxTextBytes : Nat := 32 * 1024
def maxAgentIdBytes : Nat := 256
def maxArtifactRefs : Nat := 100

/-- The check of a value of an enumeration: `undefined` and `null` stand for the fallback. -/
def normalizeOneOf {α : Type} (all : List (String × α)) (label : String) (value : Option Json)
    (fallback : α) : Except String α :=
  match value with
  | none => .ok fallback
  | some .null => .ok fallback
  | some (.str text) => orThrow (all.lookup text) (label ++ " is invalid.")
  | some _ => .error (label ++ " is invalid.")

def normalizeProjectStatus (value : Option Json) (fallback : CoordinationProjectStatus) :
    Except String CoordinationProjectStatus :=
  normalizeOneOf CoordinationProjectStatus.all "Project status" value fallback

def normalizeTaskStatus (value : Option Json) (fallback : CoordinationTaskStatus) :
    Except String CoordinationTaskStatus :=
  normalizeOneOf CoordinationTaskStatus.all "Task status" value fallback

def normalizeTaskColumn (value : Option Json) (fallback : CoordinationTaskColumn) :
    Except String CoordinationTaskColumn :=
  normalizeOneOf CoordinationTaskColumn.all "Task column" value fallback

def normalizeTaskPriority (value : Option Json) (fallback : CoordinationTaskPriority) :
    Except String CoordinationTaskPriority :=
  normalizeOneOf CoordinationTaskPriority.all "Task priority" value fallback

def coordinationTaskColumnForStatus (status : CoordinationTaskStatus)
    (currentColumn : CoordinationTaskColumn) : CoordinationTaskColumn :=
  match status with
  | .running => .doing
  | .completed => .review
  | .opened => if currentColumn = .planning then .planning else .backlog
  | _ => currentColumn

/-- The agents of a team, each once, in the order of their first mention. -/
def addAgents (unique : List String) : List Json → Except String (List String)
  | [] => .ok unique
  | entry :: rest => do
      match ← optionalString (some entry) "Project team agent" maxAgentIdBytes with
      | none => addAgents unique rest
      | some agent => addAgents (if agent ∈ unique then unique else unique ++ [agent]) rest

def normalizeTeam (value : Option Json) : Except String (List String) :=
  match value with
  | none => .ok []
  | some .null => .ok []
  | some (.arr entries) => (addAgents [] entries).map (List.take 100)
  | some _ => .error "Project team must be an array of agent ids."

/-- One artifact link, read at its position. An array is an object without the fields. -/
def artifactLink (index : Nat) (entry : Json) : Except String CoordinationArtifactLink :=
  match entry with
  | .obj _ | .arr _ => do
      let artifactId ← requiredString (entry.field? "artifactId") "Artifact id" 512
      let title ← optionalString (entry.field? "title") "Artifact title" maxTitleBytes
      let sessionId ← optionalString (entry.field? "sessionId") "Artifact session id" 512
      let runId ← optionalString (entry.field? "runId") "Artifact run id" 512
      return { artifactId, title, sessionId, runId }
  | _ => .error ("Task artifact ref " ++ toString (index + 1) ++ " must be an object.")

def artifactLinks (index : Nat) : List Json → Except String (List CoordinationArtifactLink)
  | [] => .ok []
  | entry :: rest => do
      let link ← artifactLink index entry
      let links ← artifactLinks (index + 1) rest
      return link :: links

def normalizeArtifactRefs (value : Option Json) : Except String (List CoordinationArtifactLink) :=
  match value with
  | none => .ok []
  | some .null => .ok []
  | some (.arr entries) => artifactLinks 0 (entries.take maxArtifactRefs)
  | some _ => .error "Task artifact refs must be an array."

/-! ## Writes -/

/-- The time of a write, the id its caller gives and the one that is drawn otherwise. -/
structure CoordinationWriteOptions where
  now : String
  id : Option String
  randomUUID : String

def CoordinationWriteOptions.newId (options : CoordinationWriteOptions) : String :=
  orText options.id options.randomUUID

structure CoordinationProjectInput where
  (title objective description status team sourceSessionId : Option Json)
  workspaceId : Option String

structure CoordinationTaskInput where
  projectId : String
  (parentTaskId title spec description status column priority externalRef : Option Json)
  (assigneeAgent assignedRunId assignedSessionId artifactRefs : Option Json)
  workspaceId : Option String

structure CoordinationTaskUpdateInput where
  (parentTaskId title spec description status column priority externalRef : Option Json)
  (assigneeAgent assignedRunId assignedSessionId artifactRefs : Option Json)

namespace CoordinationDb

def createCoordinationProject (db : CoordinationDb) (input : CoordinationProjectInput)
    (options : CoordinationWriteOptions) : Except String (CoordinationProject × CoordinationDb) :=
    do
  let id := options.newId
  let workspaceId := readWorkspaceId input.workspaceId
  let title ← requiredString input.title "Project title" maxTitleBytes
  let objective ← requiredString input.objective "Project objective" maxTextBytes
  let status ← normalizeProjectStatus input.status .active
  let team ← normalizeTeam input.team
  let description ← optionalString input.description "Project description" maxTextBytes
  let sourceSessionId ← optionalString input.sourceSessionId "Project source session id" 512
  let project : CoordinationProject := {
    id, workspaceId, title, objective, description, status, team, sourceSessionId,
    createdAt := options.now, updatedAt := options.now }
  let projects ← orThrow (db.projects.insertNew id project)
    "UNIQUE constraint failed: coordination_projects.id"
  return (project, { db with projects })

def checkParent (db : CoordinationDb) (parentTaskId : Option String)
    (workspaceId projectId : String) : Except String Unit :=
  match parentTaskId with
  | none => .ok ()
  | some parentId => do
      let parentTask ← orThrow (db.getCoordinationTask parentId)
        "Parent coordination task was not found."
      refuseIf (parentTask.workspaceId ≠ workspaceId ∨ parentTask.projectId ≠ projectId)
        "Parent coordination task must belong to the same project."

def createCoordinationTask (db : CoordinationDb) (input : CoordinationTaskInput)
    (options : CoordinationWriteOptions) : Except String (CoordinationTask × CoordinationDb) := do
  let project ← orThrow (db.getCoordinationProject input.projectId)
    "Coordination project was not found."
  let workspaceId := readWorkspaceId (some (orText input.workspaceId project.workspaceId))
  refuseIf (workspaceId ≠ project.workspaceId) "Task workspace must match its project workspace."
  let parentTaskId ← optionalString input.parentTaskId "Parent task id" 512
  db.checkParent parentTaskId workspaceId project.id
  let status ← normalizeTaskStatus input.status .opened
  let column ← updated input.column (coordinationTaskColumnForStatus status .backlog)
    (normalizeTaskColumn · (coordinationTaskColumnForStatus status .backlog))
  let id := options.newId
  let title ← requiredString input.title "Task title" maxTitleBytes
  let spec ← requiredString input.spec "Task spec" maxTextBytes
  let description ← optionalString input.description "Task description" maxTextBytes
  let priority ← normalizeTaskPriority input.priority .med
  let externalRef ← optionalString input.externalRef "Task external ref" 512
  let assigneeAgent ← optionalString input.assigneeAgent "Task assignee agent" maxAgentIdBytes
  let assignedRunId ← optionalString input.assignedRunId "Assigned run id" 512
  let assignedSessionId ← optionalString input.assignedSessionId "Assigned session id" 512
  let artifactRefs ← normalizeArtifactRefs input.artifactRefs
  let task : CoordinationTask := {
    id, workspaceId, projectId := project.id, parentTaskId, title, spec, description, status,
    column, priority, externalRef, assigneeAgent, assignedRunId, assignedSessionId, artifactRefs,
    createdAt := options.now, updatedAt := options.now }
  let tasks ← orThrow (db.tasks.insertNew id task)
    "UNIQUE constraint failed: coordination_tasks.id"
  return (task, { db with tasks })

def updateCoordinationTask (db : CoordinationDb) (taskId : String)
    (input : CoordinationTaskUpdateInput) (options : CoordinationWriteOptions) :
    Except String (Option CoordinationTask × CoordinationDb) :=
  match db.getCoordinationTask taskId with
  | none => .ok (none, db)
  | some existing => do
      let parentTaskId ← updated input.parentTaskId existing.parentTaskId
        (optionalString · "Parent task id" 512)
      refuseIf (parentTaskId = some taskId) "Task cannot be its own parent."
      db.checkParent parentTaskId existing.workspaceId existing.projectId
      let status ← updated input.status existing.status (normalizeTaskStatus · existing.status)
      let column ← updated input.column
        (if input.status.isNone then existing.column
          else coordinationTaskColumnForStatus status existing.column)
        (normalizeTaskColumn · existing.column)
      let title ← updated input.title existing.title
        (requiredString · "Task title" maxTitleBytes)
      let spec ← updated input.spec existing.spec (requiredString · "Task spec" maxTextBytes)
      let description ← updated input.description existing.description
        (optionalString · "Task description" maxTextBytes)
      let priority ← updated input.priority existing.priority
        (normalizeTaskPriority · existing.priority)
      let externalRef ← updated input.externalRef existing.externalRef
        (optionalString · "Task external ref" 512)
      let assigneeAgent ← updated input.assigneeAgent existing.assigneeAgent
        (optionalString · "Task assignee agent" maxAgentIdBytes)
      let assignedRunId ← updated input.assignedRunId existing.assignedRunId
        (optionalString · "Assigned run id" 512)
      let assignedSessionId ← updated input.assignedSessionId existing.assignedSessionId
        (optionalString · "Assigned session id" 512)
      let artifactRefs ← updated input.artifactRefs existing.artifactRefs normalizeArtifactRefs
      let task : CoordinationTask := {
        existing with
          parentTaskId, title, spec, description, status, column, priority, externalRef,
          assigneeAgent, assignedRunId, assignedSessionId, artifactRefs,
          updatedAt := options.now }
      return (some task, { db with tasks := db.tasks.set taskId task })

end CoordinationDb

/-! ## Calls -/

inductive CoordinationCall where
  | createProject (input : CoordinationProjectInput) (options : CoordinationWriteOptions)
  | createTask (input : CoordinationTaskInput) (options : CoordinationWriteOptions)
  | updateTask (taskId : String) (input : CoordinationTaskUpdateInput)
      (options : CoordinationWriteOptions)

inductive CoordinationAnswer where
  | project (project : CoordinationProject)
  | task (task : Option CoordinationTask)
  | thrown (message : String)

namespace CoordinationDb

variable {db : CoordinationDb} {call : CoordinationCall}

def attempt (db : CoordinationDb) :
    CoordinationCall → Except String (CoordinationAnswer × CoordinationDb)
  | .createProject input options =>
    (db.createCoordinationProject input options).map fun found => (.project found.1, found.2)
  | .createTask input options =>
    (db.createCoordinationTask input options).map fun found => (.task (some found.1), found.2)
  | .updateTask taskId input options =>
    (db.updateCoordinationTask taskId input options).map fun found => (.task found.1, found.2)

/-- A write that throws is rolled back. -/
def perform (db : CoordinationDb) (call : CoordinationCall) : CoordinationAnswer × CoordinationDb :=
  match db.attempt call with
  | .ok answer => answer
  | .error message => (.thrown message, db)

theorem perform_of_ok
    {answer : CoordinationAnswer × CoordinationDb} (h : db.attempt call = .ok answer) :
    db.perform call = answer := by
  rw [perform, h]

theorem perform_of_error {message : String}
    (h : db.attempt call = .error message) : db.perform call = (.thrown message, db) := by
  rw [perform, h]

end CoordinationDb

def coordinationStore : Machine CoordinationDb CoordinationCall CoordinationAnswer where
  step db call := db.perform call

end OpenCowork.Runtime
