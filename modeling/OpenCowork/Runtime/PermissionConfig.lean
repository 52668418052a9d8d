import OpenCowork.Foundation.JsObject
import OpenCowork.Foundation.Text
import OpenCowork.Foundation.Wildcard

/-! # Tool permissions

The permission object of an agent: fixed keys, then the patterns of the registry, of the
allowed, the asked and the denied tools, with the native tools capped in between.
-/

namespace OpenCowork.Runtime

open OpenCowork.Foundation

inductive PermissionAction where
  | deny | ask | allow
deriving DecidableEq, Repr

/-- `PERMISSION_ACTION_RANK`. -/
def PermissionAction.rank : PermissionAction → Nat
  | .deny => 0
  | .ask => 1
  | .allow => 2

abbrev PermissionRuleMap := JsObject PermissionAction

inductive PermissionRule where
  | action (action : PermissionAction)
  | rules (rules : PermissionRuleMap)

def PermissionRule.plain : PermissionRule → Option PermissionAction
  | .action held => some held
  | .rules _ => none

abbrev PermissionConfig := JsObject PermissionRule

/-! ## Matching -/

/-- OpenCode's wildcards: `*` for any text, `?` for any one code unit. -/
def toolMatches (pattern toolId : String) : Bool :=
  Wildcard.matchesText 42 63 (Text.codeUnits pattern) (Text.codeUnits toolId)

/-- OpenCode's evaluation: the value of the last key that matches. -/
def evaluatePermission (permission : PermissionConfig) (toolId : String) : Option PermissionRule :=
  JsObject.lastMatch (toolMatches · toolId) permission

def permissionPatternMatches (pattern toolId : String) : Bool :=
  Wildcard.search 42 63
    (((Text.codeUnits toolId).length + 1) * ((Text.codeUnits pattern).length + 1))
    (Text.codeUnits pattern) (Text.codeUnits toolId) none

/-! ## Patterns of MCP tools -/

/-- `text.indexOf('__')`. -/
def indexOfUnderscores : List Char → Option Nat
  | '_' :: '_' :: _ => some 0
  | _ :: rest => (indexOfUnderscores rest).map (· + 1)
  | [] => none

/-- `/^[a-zA-Z0-9][a-zA-Z0-9_-]*$/`. -/
def isServerName : List Char → Bool
  | [] => false
  | first :: rest => first.isAlphanum && rest.all fun c => c.isAlphanum || c = '_' || c = '-'

def toOpenCodeMcpToolPattern (pattern : String) : Option String :=
  if pattern = "" ∨ pattern = "mcp__*" ∨ pattern = "mcp__" then none
  else if Text.startsWith pattern "mcp__" = false then none
  else
    let body := pattern.toList.drop 5
    match indexOfUnderscores body with
    | none => none
    | some sep =>
      let server := body.take sep
      let rest := body.drop (sep + 2)
      if sep = 0 ∨ rest = [] ∨ isServerName server = false then none
      else some (String.ofList server ++ "_" ++ String.ofList rest)

/-- `set.add(value)`. -/
def addOnce (set : List String) (value : String) : List String :=
  if value ∈ set then set else set ++ [value]

def expandMcpToolPermissionPatterns (patterns : List String) : List String :=
  patterns.foldl (fun expanded pattern =>
    if pattern = "" then expanded
    else
      match toOpenCodeMcpToolPattern pattern with
      | none => addOnce expanded pattern
      | some dual => addOnce (addOnce expanded pattern) dual) []

/-! ## The permission object -/

structure PermissionOptions where
  skillRules : Option PermissionRuleMap
  allowAllSkills : Bool
  externalDirectoryRules : Option PermissionRuleMap
  (toolPatternsToDeny allowPatterns askPatterns deniedPatterns : List String)
  question : Option PermissionAction
  task : Option PermissionRule
  (todoWrite web webSearch bash edit : Option PermissionAction)
  requireNativeToolPattern : Bool

/-- The object of `'*': 'deny'` and the entries of the rules. -/
def withDenyDefault (rules : PermissionRuleMap) : PermissionRuleMap :=
  rules.ownEntries.foldl (fun object entry => OrderedMap.set object entry.1 entry.2)
    (OrderedMap.set .empty "*" .deny)

def clampPermissionAction (existing : Option PermissionAction) (maximum : PermissionAction) :
    PermissionAction :=
  match existing with
  | none => maximum
  | some action => if action.rank ≤ maximum.rank then action else maximum

def applyRequested (key : String) (next : PermissionAction) (action : Option PermissionAction)
    (pattern : String) : Option PermissionAction :=
  if permissionPatternMatches pattern key then
    match action with
    | none => some next
    | some held => if next.rank < held.rank then some next else some held
  else action

/-- The action that the patterns ask for a native tool: the lowest of those that match. -/
def requestedNativeAction (key : String) (askPatterns allowPatterns : List String) :
    Option PermissionAction :=
  allowPatterns.foldl (applyRequested key .allow) (askPatterns.foldl (applyRequested key .ask) none)

namespace PermissionOptions

variable (options : PermissionOptions)

def webAccess : PermissionAction := options.web.getD .deny
def webSearchAccess : PermissionAction := options.webSearch.getD options.webAccess
def editAccess : PermissionAction := options.edit.getD .deny

/-- The keys that every permission object starts from, in the order of the object literal. -/
def fixedEntries : List (String × PermissionRule) := [
  ("skill", if options.allowAllSkills then .action .allow
    else .rules (withDenyDefault (options.skillRules.getD .empty))),
  ("mcp__*", .action .deny),
  ("question", .action (options.question.getD .deny)),
  ("task", match options.task with
    | none => .action .deny
    | some (.action action) => .action action
    | some (.rules rules) => .rules (withDenyDefault rules)),
  ("external_directory", match options.externalDirectoryRules with
    | none => .action .deny
    | some rules => .rules (withDenyDefault rules)),
  ("doom_loop", .action .ask),
  ("todowrite", .action (options.todoWrite.getD .deny)),
  ("codesearch", .action options.webAccess),
  ("webfetch", .action options.webAccess),
  ("websearch", .action options.webSearchAccess),
  ("lsp", .action .allow),
  ("bash", .action (options.bash.getD .deny)),
  ("edit", .action options.editAccess),
  ("write", .action options.editAccess),
  ("apply_patch", .action options.editAccess),
  ("read", .action .allow),
  ("grep", .action .allow),
  ("glob", .action .allow),
  ("list", .action .allow)]

def fixedKeys : List String :=
  ["skill", "mcp__*", "question", "task", "external_directory", "doom_loop", "todowrite",
    "codesearch", "webfetch", "websearch", "lsp", "bash", "edit", "write", "apply_patch", "read",
    "grep", "glob", "list"]

theorem map_fst_fixedEntries : options.fixedEntries.map Prod.fst = fixedKeys := rfl

def basePermission : PermissionConfig where
  entries := options.fixedEntries
  nodupKeys := by
    rw [map_fst_fixedEntries]
    decide

def registry : List String := expandMcpToolPermissionPatterns options.toolPatternsToDeny
def allowed : List String := expandMcpToolPermissionPatterns options.allowPatterns
def asked : List String := expandMcpToolPermissionPatterns options.askPatterns
def denied : List String := expandMcpToolPermissionPatterns options.deniedPatterns

/-- The native tools with their app-level maximum, in the order in which they are capped. -/
def nativeMaxima : List (String × PermissionAction) := [
  ("codesearch", options.webAccess),
  ("webfetch", options.webAccess),
  ("websearch", options.webSearchAccess),
  ("bash", options.bash.getD .deny),
  ("edit", options.editAccess),
  ("write", options.editAccess),
  ("apply_patch", options.editAccess)]

/-- What a native tool gets in place of its maximum. -/
def cappedAction (key : String) (maximum : PermissionAction) : PermissionAction :=
  let requested := requestedNativeAction key options.asked options.allowed
  if options.requireNativeToolPattern = true ∧ requested = none then .deny
  else clampPermissionAction requested maximum

/-- `delete` and assign again: the key goes to the end. -/
def setTrailingPermissionRule (permission : PermissionConfig)
    (native : String × PermissionAction) : PermissionConfig :=
  OrderedMap.set (OrderedMap.erase permission native.1) native.1
    (.action (options.cappedAction native.1 native.2))

end PermissionOptions

def buildPermissionConfig (options : PermissionOptions) : PermissionConfig :=
  let permission := options.basePermission
  let permission := permission.setAllTo (.action .deny) options.registry
  let permission := permission.setAllTo (.action .allow) options.allowed
  let permission := permission.setAllTo (.action .ask) options.asked
  let permission := options.nativeMaxima.foldl options.setTrailingPermissionRule permission
  permission.setAllTo (.action .deny) options.denied

end OpenCowork.Runtime
