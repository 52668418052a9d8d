import OpenCowork.Foundation.JsonText
import OpenCowork.Runtime.PermissionConfig

/-! # The permission inheritance check

Delegated agents must not be more permissive than the agents that delegate to them. The check
gives every agent one action for each sensitive key and compares parents with the agents that
their task rules name.
-/

namespace OpenCowork.Runtime

open OpenCowork.Foundation

structure PermissionInheritanceAgentConfig where
  mode : Option String
  permission : Option PermissionConfig

inductive SensitivePermissionKey where
  | bash | edit | write | apply_patch | codesearch | webfetch | websearch | todowrite
  | external_directory | mcp | task
deriving DecidableEq, Repr

namespace SensitivePermissionKey

def name : SensitivePermissionKey → String
  | bash => "bash"
  | edit => "edit"
  | write => "write"
  | apply_patch => "apply_patch"
  | codesearch => "codesearch"
  | webfetch => "webfetch"
  | websearch => "websearch"
  | todowrite => "todowrite"
  | external_directory => "external_directory"
  | mcp => "mcp__*"
  | task => "task"

/-- `SENSITIVE_KEYS`. -/
def all : List SensitivePermissionKey :=
  [bash, edit, write, apply_patch, codesearch, webfetch, websearch, todowrite,
    external_directory, mcp, task]

theorem mem_all (key : SensitivePermissionKey) : key ∈ all := by
  cases key <;> decide

end SensitivePermissionKey

structure AgentPermissionMatrixEntry where
  agentName : String
  mode : Option String
  sensitive : SensitivePermissionKey → PermissionAction
  taskTargets : JsObject PermissionAction

inductive PermissionInheritanceReason where
  | delegatedAgentMissing | childMorePermissiveThanParent
deriving DecidableEq, Repr

structure PermissionInheritanceIssue where
  (path parentAgent childAgent : String)
  key : SensitivePermissionKey
  (parentAction childAction : PermissionAction)
  reasonCode : PermissionInheritanceReason

/-- `localeCompare`: negative, zero or positive. -/
structure PermissionPlatform where
  localeCompare : String → String → Int

def PermissionAction.name : PermissionAction → String
  | .deny => "deny"
  | .ask => "ask"
  | .allow => "allow"

/-! ## The matrix -/

/-- The highest of some actions, `deny` of none. -/
def maxAction (actions : List PermissionAction) : PermissionAction :=
  actions.foldl (fun current next => if current.rank < next.rank then next else current) .deny

def sensitiveAction (permission : Option PermissionConfig) (key : SensitivePermissionKey) :
    PermissionAction :=
  match permission.bind fun permission => OrderedMap.get permission key.name with
  | none => .deny
  | some (.action action) => action
  | some (.rules rules) => maxAction (rules.ownEntries.map Prod.snd)

namespace PermissionPlatform

variable (platform : PermissionPlatform)

/-- `sort` by the names. -/
def sortByName {α : Type} (name : α → String) (values : List α) : List α :=
  values.insertionSort fun left right => platform.localeCompare (name left) (name right) ≤ 0

def taskTargetActions (permission : Option PermissionConfig) (eligibleChildAgents : List String) :
    JsObject PermissionAction :=
  match permission.bind fun permission => OrderedMap.get permission "task" with
  | none => .empty
  | some (.action .deny) => .empty
  | some (.action action) =>
    OrderedMap.empty.setAll (eligibleChildAgents.map fun childAgent => (childAgent, action))
  | some (.rules value) =>
    let wildcardAction := (OrderedMap.get value "*").getD .deny
    let actions : OrderedMap String PermissionAction :=
      if wildcardAction = .deny then .empty
      else OrderedMap.empty.setAll (eligibleChildAgents.map fun childAgent =>
        (childAgent, (OrderedMap.get value childAgent).getD wildcardAction))
    let actions := actions.setAll (value.ownEntries.filter fun entry => entry.1 ≠ "*")
    OrderedMap.empty.setAll (platform.sortByName Prod.fst actions.entries)

def buildAgentPermissionMatrix (agents : JsObject PermissionInheritanceAgentConfig) :
    List AgentPermissionMatrixEntry :=
  let eligibleChildAgents := platform.sortByName id
    ((agents.ownEntries.filter fun entry => entry.2.mode = some "subagent").map Prod.fst)
  (platform.sortByName Prod.fst agents.ownEntries).map fun entry => {
    agentName := entry.1
    mode := entry.2.mode
    sensitive := sensitiveAction entry.2.permission
    taskTargets := platform.taskTargetActions entry.2.permission
      (eligibleChildAgents.filter (· ≠ entry.1)) }

end PermissionPlatform

/-! ## The revision of a matrix -/

def AgentPermissionMatrixEntry.json (entry : AgentPermissionMatrixEntry) : String :=
  jsonObject (
    [("agentName", jsonText entry.agentName)] ++
    (entry.mode.map fun mode => ("mode", jsonText mode)).toList ++
    [("sensitive", jsonObject (SensitivePermissionKey.all.map fun key =>
        (key.name, jsonText (entry.sensitive key).name))),
      ("taskTargets", jsonObject (entry.taskTargets.ownEntries.map fun target =>
        (target.1, jsonText target.2.name)))])

/-- A digit of a number in base 16, `8` digits from the highest on. -/
def hexDigits (number : Nat) : List Char :=
  (List.range 8).reverse.map fun place => (number / 16 ^ place % 16).digitChar

def permissionInheritanceRevision (matrix : List AgentPermissionMatrixEntry) : String :=
  let source := jsonArray (matrix.map AgentPermissionMatrixEntry.json)
  let hash := (Text.codeUnits source).foldl
    (fun hash unit => Nat.xor hash unit * 16777619 % 2 ^ 32) 2166136261
  "permission-inheritance-v1-" ++ String.ofList (hexDigits hash)

/-! ## The issues -/

def permissionPath (agentName : String) (key : SensitivePermissionKey) : String :=
  "agents[" ++ jsonText agentName ++ "].permission[" ++ jsonText key.name ++ "]"

def delegationPath (parentAgent childAgent : String) : String :=
  "agents[" ++ jsonText parentAgent ++ "].permission.task[" ++ jsonText childAgent ++ "]"

def targetDelegationAction (entry : AgentPermissionMatrixEntry) (childAgent : String) :
    PermissionAction :=
  ((OrderedMap.get entry.taskTargets childAgent).orElse fun _ =>
    OrderedMap.get entry.taskTargets "*").getD .deny

def parentActionAt (parent : AgentPermissionMatrixEntry) (childAgent : String)
    (key : SensitivePermissionKey) : PermissionAction :=
  if key = .task then targetDelegationAction parent childAgent else parent.sensitive key

def keyIssue (parent child : AgentPermissionMatrixEntry) (childAgent : String)
    (key : SensitivePermissionKey) : Option PermissionInheritanceIssue :=
  if (child.sensitive key).rank > (parentActionAt parent childAgent key).rank then
    some {
      path := permissionPath childAgent key
      parentAgent := parent.agentName
      childAgent, key
      parentAction := parentActionAt parent childAgent key
      childAction := child.sensitive key
      reasonCode := .childMorePermissiveThanParent }
  else none

def targetIssues (byName : OrderedMap String AgentPermissionMatrixEntry)
    (parent : AgentPermissionMatrixEntry) (target : String × PermissionAction) :
    List PermissionInheritanceIssue :=
  if target.2 = .deny ∨ target.1 = "*" then []
  else
    match byName.get target.1 with
    | none => [{
        path := delegationPath parent.agentName target.1
        parentAgent := parent.agentName
        childAgent := target.1
        key := .task
        parentAction := target.2
        childAction := .deny
        reasonCode := .delegatedAgentMissing }]
    | some child => SensitivePermissionKey.all.filterMap (keyIssue parent child target.1)

namespace PermissionPlatform

variable (platform : PermissionPlatform)

def findPermissionInheritanceIssuesFromMatrix (matrix : List AgentPermissionMatrixEntry) :
    List PermissionInheritanceIssue :=
  let byName := OrderedMap.empty.setAll (matrix.map fun entry => (entry.agentName, entry))
  matrix.flatMap fun parent =>
    (platform.sortByName Prod.fst parent.taskTargets.ownEntries).flatMap
      (targetIssues byName parent)

structure Validation where
  revision : String
  issues : List PermissionInheritanceIssue

def validatePermissionInheritance (agents : JsObject PermissionInheritanceAgentConfig) :
    Validation :=
  let matrix := platform.buildAgentPermissionMatrix agents
  { revision := permissionInheritanceRevision matrix
    issues := platform.findPermissionInheritanceIssuesFromMatrix matrix }

end PermissionPlatform

end OpenCowork.Runtime
