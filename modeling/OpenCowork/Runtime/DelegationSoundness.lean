import OpenCowork.Runtime.PermissionInheritance

/-! # What the inheritance check promises

OpenCode evaluates a request by the last rule of the agent's permission object that matches
the tool and its target. The check looks at one action for each key instead; here the two are
compared along chains of delegations.
-/

namespace OpenCowork.Runtime

open OpenCowork.Foundation

/-! ## The rules of an agent -/

/-- A rule as OpenCode reads it: the key it stands under, the pattern of its targets. -/
structure PermissionRuleEntry where
  (key pattern : String)
  action : PermissionAction

def PermissionRuleEntry.applies (tool target : String) (rule : PermissionRuleEntry) : Bool :=
  toolMatches rule.key tool && toolMatches rule.pattern target

def PermissionRule.entries (key : String) : PermissionRule → List PermissionRuleEntry
  | .action held => [⟨key, "*", held⟩]
  | .rules byPattern => byPattern.ownEntries.map fun entry => ⟨key, entry.1, entry.2⟩

namespace PermissionInheritanceAgentConfig

variable (agent : PermissionInheritanceAgentConfig)

def rules : List PermissionRuleEntry :=
  (agent.permission.getD .empty).ownEntries.flatMap fun entry => entry.2.entries entry.1

/-- The last rule that matches. -/
def decidingRule (tool target : String) : Option PermissionRuleEntry :=
  (agent.rules.filter (PermissionRuleEntry.applies tool target)).getLast?

/-- The action of a request, `unmatched` where no rule matches. -/
def actionFor (unmatched : PermissionAction) (tool target : String) : PermissionAction :=
  ((agent.decidingRule tool target).map PermissionRuleEntry.action).getD unmatched

end PermissionInheritanceAgentConfig

/-! ## Requests -/

structure ToolRequest where
  key : SensitivePermissionKey
  (tool target : String)

def toolKeys : List SensitivePermissionKey :=
  [.bash, .edit, .write, .apply_patch, .codesearch, .webfetch, .websearch, .todowrite]

/-- The id of an MCP tool, in the spelling of the configuration or in OpenCode's. -/
def IsMcpToolId (toolId : String) : Prop :=
  '*' ∉ toolId.toList ∧ '?' ∉ toolId.toList ∧
    ∃ configured, Text.startsWith configured "mcp__" = true ∧
      (toolId = configured ∨ toOpenCodeMcpToolPattern configured = some toolId)

/-- The requests that a delegation must not widen. -/
inductive ToolRequest.Sensitive : ToolRequest → Prop where
  | tool (key : SensitivePermissionKey) (target : String) (h : key ∈ toolKeys) :
      Sensitive ⟨key, key.name, target⟩
  | mcp (toolId : String) (h : IsMcpToolId toolId) : Sensitive ⟨.mcp, toolId, "*"⟩
  | externalDirectory (path : String) : Sensitive ⟨.external_directory, "external_directory", path⟩

/-! ## Delegations -/

section Delegations

variable (agents : JsObject PermissionInheritanceAgentConfig)

/-- The task rules of the first agent allow the second, or ask for it. -/
def DelegatesTo (parentAgent childAgent : String) : Prop :=
  ∃ parent child rule, OrderedMap.get agents parentAgent = some parent ∧
    OrderedMap.get agents childAgent = some child ∧
    parent.decidingRule "task" childAgent = some rule ∧ rule.action ≠ .deny

/-- A chain of delegations. -/
def CanReach : String → String → Prop := Relation.TransGen (DelegatesTo agents)

/-- The first agent may do at least what the second may. -/
def Covers (unmatched : PermissionAction) (request : ToolRequest)
    (parentAgent childAgent : String) : Prop :=
  ∀ parent child, OrderedMap.get agents parentAgent = some parent →
    OrderedMap.get agents childAgent = some child →
    (child.actionFor unmatched request.tool request.target).rank ≤
      (parent.actionFor unmatched request.tool request.target).rank

variable {agents}
variable {unmatched : PermissionAction} {request : ToolRequest}

theorem Covers.trans {first second third : String} {agent : PermissionInheritanceAgentConfig}
    (hagent : OrderedMap.get agents second = some agent)
    (hfirst : Covers agents unmatched request first second)
    (hsecond : Covers agents unmatched request second third) :
    Covers agents unmatched request first third :=
  fun parent child hparent hchild =>
    (hsecond agent child hagent hchild).trans (hfirst parent agent hparent hagent)

theorem Covers.of_canReach
    (hstep : ∀ parentAgent childAgent, DelegatesTo agents parentAgent childAgent →
      Covers agents unmatched request parentAgent childAgent)
    {parentAgent childAgent : String} (hreach : CanReach agents parentAgent childAgent) :
    Covers agents unmatched request parentAgent childAgent := by
  induction hreach with
  | single hdelegates => exact hstep _ _ hdelegates
  | tail _ hdelegates ih =>
    have hlast := hstep _ _ hdelegates
    obtain ⟨_, _, _, hmiddle, -⟩ := hdelegates
    exact ih.trans hmiddle hlast

end Delegations

/-! ## One action for each key -/

theorem rank_maxAction_foldl (actions : List PermissionAction) (start : PermissionAction) :
    let highest := actions.foldl
      (fun current next => if current.rank < next.rank then next else current) start
    (start.rank ≤ highest.rank ∧ ∀ action ∈ actions, action.rank ≤ highest.rank) ∧
      (highest = start ∨ highest ∈ actions) := by
  induction actions generalizing start with
  | nil => simp
  | cons action _ ih =>
    obtain ⟨⟨hstart, hrest⟩, hfrom⟩ := ih (if start.rank < action.rank then action else start)
    have hboth : start.rank ≤ (if start.rank < action.rank then action else start).rank ∧
        action.rank ≤ (if start.rank < action.rank then action else start).rank := by
      split <;> omega
    refine ⟨⟨hboth.1.trans hstart, ?_⟩, ?_⟩
    · rintro other (_ | ⟨_, hother⟩)
      · exact hboth.2.trans hstart
      · exact hrest other hother
    · rcases hfrom with hfrom | hfrom
      · dsimp only [List.foldl_cons] at hfrom ⊢
        rw [hfrom]
        split
        · exact .inr (.head _)
        · exact .inl rfl
      · exact .inr (.tail _ hfrom)

theorem rank_le_maxAction {actions : List PermissionAction} {action : PermissionAction}
    (h : action ∈ actions) : action.rank ≤ (maxAction actions).rank :=
  (rank_maxAction_foldl actions .deny).1.2 action h

theorem maxAction_mem (actions : List PermissionAction) :
    maxAction actions = .deny ∨ maxAction actions ∈ actions :=
  (rank_maxAction_foldl actions .deny).2

namespace PermissionInheritanceAgentConfig

variable (agent : PermissionInheritanceAgentConfig) {key : SensitivePermissionKey}

theorem mem_rules (rule : PermissionRuleEntry) :
    rule ∈ agent.rules ↔ ∃ permission value, agent.permission = some permission ∧
      OrderedMap.get permission rule.key = some value ∧ rule ∈ value.entries rule.key := by
  have hkey (key : String) (value : PermissionRule) (h : rule ∈ value.entries key) :
      rule.key = key := by
    cases value with
    | action => exact congrArg PermissionRuleEntry.key (List.mem_singleton.mp h)
    | rules =>
      obtain ⟨_, -, rfl⟩ := List.mem_map.mp h
      rfl
  simp only [rules, List.mem_flatMap, JsObject.mem_ownEntries, Prod.exists]
  cases hpermission : agent.permission with
  | none => simp
  | some permission =>
    simp only [Option.getD_some, Option.some_inj]
    constructor
    · rintro ⟨key, value, hget, hmem⟩
      exact ⟨permission, value, rfl, hkey key value hmem ▸ hget, (hkey key value hmem).symm ▸ hmem⟩
    · rintro ⟨_, value, rfl, hget, hmem⟩
      exact ⟨rule.key, value, hget, hmem⟩

theorem rank_le_sensitiveAction {rule : PermissionRuleEntry} (hmem : rule ∈ agent.rules)
    (hkey : rule.key = key.name) :
    rule.action.rank ≤ (sensitiveAction agent.permission key).rank := by
  obtain ⟨_, value, hpermission, hget, hrule⟩ := (agent.mem_rules rule).mp hmem
  rw [hkey] at hget
  rw [sensitiveAction, hpermission, Option.bind_some, hget]
  cases value with
  | action => rw [List.mem_singleton.mp hrule]
  | rules =>
    obtain ⟨_, hentry, heq⟩ := List.mem_map.mp hrule
    rw [← heq]
    exact rank_le_maxAction (List.mem_map_of_mem hentry)

theorem exists_rule_of_sensitiveAction (h : sensitiveAction agent.permission key ≠ .deny) :
    ∃ rule ∈ agent.rules, rule.key = key.name ∧
      rule.action = sensitiveAction agent.permission key := by
  simp only [mem_rules]
  revert h
  rw [sensitiveAction]
  cases hpermission : agent.permission with
  | none => exact fun h => absurd rfl h
  | some permission =>
    rw [Option.bind_some]
    cases hget : OrderedMap.get permission key.name with
    | none => exact fun h => absurd rfl h
    | some value =>
      cases value with
      | action held =>
        exact fun _ => ⟨⟨key.name, "*", held⟩,
          ⟨permission, .action held, rfl, hget, List.mem_singleton.mpr rfl⟩, rfl, rfl⟩
      | rules rules =>
        intro h
        obtain ⟨entry, hentry, haction⟩ := List.mem_map.mp ((maxAction_mem _).resolve_left h)
        exact ⟨⟨key.name, entry.1, entry.2⟩,
          ⟨permission, .rules rules, rfl, hget, List.mem_map_of_mem hentry⟩, rfl, haction⟩

def DecidedUnder (request : ToolRequest) (rule : PermissionRuleEntry) : Prop :=
  agent.decidingRule request.tool request.target = some rule ∧ rule.key = request.key.name

/-- The rule that decides the request stands under its key, and no rule there gives more. -/
def DecidedByHighest (request : ToolRequest) (rule : PermissionRuleEntry) : Prop :=
  agent.DecidedUnder request rule ∧
    ∀ other ∈ agent.rules, other.key = request.key.name → other.action.rank ≤ rule.action.rank

variable {agent} {request : ToolRequest} {rule : PermissionRuleEntry}

theorem mem_rules_of_decidingRule {tool target : String}
    (h : agent.decidingRule tool target = some rule) : rule ∈ agent.rules :=
  (List.mem_filter.mp (List.mem_of_getLast? h)).1

theorem DecidedUnder.actionFor_eq (h : agent.DecidedUnder request rule)
    (unmatched : PermissionAction) :
    agent.actionFor unmatched request.tool request.target = rule.action := by
  rw [actionFor, h.1]
  rfl

theorem DecidedUnder.rank_le (h : agent.DecidedUnder request rule) :
    rule.action.rank ≤ (sensitiveAction agent.permission request.key).rank :=
  agent.rank_le_sensitiveAction (mem_rules_of_decidingRule h.1) h.2

theorem DecidedByHighest.sensitive_le (h : agent.DecidedByHighest request rule) :
    (sensitiveAction agent.permission request.key).rank ≤ rule.action.rank := by
  by_cases hdeny : sensitiveAction agent.permission request.key = .deny
  · rw [hdeny]
    exact Nat.zero_le _
  · obtain ⟨other, hmem, hkey, haction⟩ := agent.exists_rule_of_sensitiveAction hdeny
    rw [← haction]
    exact h.2 other hmem hkey

end PermissionInheritanceAgentConfig

/-! ## What the check follows -/

namespace PermissionInheritanceAgentConfig

variable (agent : PermissionInheritanceAgentConfig)

/-- The action under which the check follows a delegation: the one of the name, else the one of
all agents if the child is a subagent. -/
def followedAction (agentName childAgent : String) (mode : Option String) : PermissionAction :=
  match agent.permission.bind fun permission => OrderedMap.get permission "task" with
  | none => .deny
  | some (.action held) => if mode = some "subagent" ∧ childAgent ≠ agentName then held else .deny
  | some (.rules byPattern) =>
    (OrderedMap.get byPattern childAgent).getD
      (if mode = some "subagent" ∧ childAgent ≠ agentName then
        (OrderedMap.get byPattern "*").getD .deny else .deny)

end PermissionInheritanceAgentConfig

namespace PermissionPlatform

variable (platform : PermissionPlatform) {α : Type}

theorem mem_sortByName (name : α → String) (values : List α) (value : α) :
    value ∈ platform.sortByName name values ↔ value ∈ values :=
  List.mem_insertionSort _

theorem nodup_map_sortByName (name : α → String) {values : List α}
    (h : (values.map name).Nodup) : ((platform.sortByName name values).map name).Nodup :=
  (((List.perm_insertionSort _ values).map name).nodup_iff).mpr h

theorem get_taskTargetActions {agent child : PermissionInheritanceAgentConfig}
    {agentName childAgent : String} {eligible : List String} (hname : childAgent ≠ "*")
    (hdistinct : eligible.Nodup)
    (heligible : childAgent ∈ eligible ↔ child.mode = some "subagent" ∧ childAgent ≠ agentName)
    (h : agent.followedAction agentName childAgent child.mode ≠ .deny) :
    OrderedMap.get (platform.taskTargetActions agent.permission eligible) childAgent =
      some (agent.followedAction agentName childAgent child.mode) := by
  -- an assignment of every eligible agent
  have hall (action : String → PermissionAction) (hmem : childAgent ∈ eligible) :
      OrderedMap.get (OrderedMap.empty.setAll
        (eligible.map fun name => (name, action name))) childAgent = some (action childAgent) := by
    refine OrderedMap.get_setAll_of_mem _ ?_ (List.mem_map_of_mem hmem)
    rw [List.map_map]
    exact (List.map_id' eligible).symm ▸ hdistinct
  revert h
  rw [PermissionInheritanceAgentConfig.followedAction, taskTargetActions]
  cases htask : agent.permission.bind fun permission => OrderedMap.get permission "task" with
  | none => exact fun h => absurd rfl h
  | some rule =>
    cases rule with
    | action held =>
      dsimp only
      intro h
      by_cases hmem : childAgent ∈ eligible
      · rw [if_pos (heligible.mp hmem)] at h ⊢
        cases held with
        | deny => exact absurd rfl h
        | ask => exact hall (fun _ => .ask) hmem
        | allow => exact hall (fun _ => .allow) hmem
      · rw [if_neg (fun hsub => hmem (heligible.mpr hsub))] at h
        exact absurd rfl h
    | rules byPattern =>
      dsimp only
      intro h
      have hkeys : ((byPattern.ownEntries.filter fun entry => entry.1 ≠ "*").map
          Prod.fst).Nodup :=
        (JsObject.nodup_keys_ownEntries byPattern).sublist (List.filter_sublist.map _)
      rw [OrderedMap.get_setAll_eq_some_iff _ (platform.nodup_map_sortByName _
        (OrderedMap.nodupKeys _)), mem_sortByName, ← OrderedMap.get_eq_some_iff,
        OrderedMap.get_setAll_eq_some_iff _ hkeys]
      left
      cases hget : OrderedMap.get byPattern childAgent with
      | some =>
        left
        exact List.mem_filter.mpr ⟨(JsObject.mem_ownEntries _ _).mpr hget, decide_eq_true hname⟩
      | none =>
        right
        rw [hget, Option.getD_none] at h
        by_cases hmem : childAgent ∈ eligible
        · rw [if_pos (heligible.mp hmem)] at h
          rw [Option.getD_none, if_pos (heligible.mp hmem), if_neg h,
            hall (fun name => (OrderedMap.get byPattern name).getD _) hmem, hget]
          refine ⟨fun hkey => ?_, rfl⟩
          obtain ⟨_, hentry, rfl⟩ := List.mem_map.mp hkey
          have := (JsObject.mem_ownEntries _ _).mp (List.mem_filter.mp hentry).1
          rw [hget] at this
          cases this
        · rw [if_neg (fun hsub => hmem (heligible.mpr hsub))] at h
          exact absurd rfl h

/-- Where there is no issue, the check's action of a child that it follows is no higher than the
parent's, at every key but the one of the tasks. -/
theorem sensitive_le_of_no_issues {agents : JsObject PermissionInheritanceAgentConfig}
    (hissues : (platform.validatePermissionInheritance agents).issues = [])
    {parentAgent childAgent : String} {parent child : PermissionInheritanceAgentConfig}
    (hparent : OrderedMap.get agents parentAgent = some parent)
    (hchild : OrderedMap.get agents childAgent = some child) (hname : childAgent ≠ "*")
    (hfollowed : parent.followedAction parentAgent childAgent child.mode ≠ .deny)
    {key : SensitivePermissionKey} (hkey : key ≠ .task) :
    (sensitiveAction child.permission key).rank ≤ (sensitiveAction parent.permission key).rank := by
  have hnames := JsObject.nodup_keys_ownEntries agents
  -- the entries of the two agents in the matrix
  let eligible (agentName : String) : List String :=
    (platform.sortByName id ((agents.ownEntries.filter fun entry =>
      entry.2.mode = some "subagent").map Prod.fst)).filter (· ≠ agentName)
  let entryOf (entry : String × PermissionInheritanceAgentConfig) : AgentPermissionMatrixEntry := {
    agentName := entry.1
    mode := entry.2.mode
    sensitive := sensitiveAction entry.2.permission
    taskTargets := platform.taskTargetActions entry.2.permission (eligible entry.1) }
  have hmatrix : platform.buildAgentPermissionMatrix agents =
      (platform.sortByName Prod.fst agents.ownEntries).map entryOf := rfl
  have hmem (agentName : String) (agent : PermissionInheritanceAgentConfig)
      (hget : OrderedMap.get agents agentName = some agent) :
      (agentName, agent) ∈ platform.sortByName Prod.fst agents.ownEntries :=
    (platform.mem_sortByName _ _ _).mpr ((JsObject.mem_ownEntries _ _).mpr hget)
  have hdistinct : (eligible parentAgent).Nodup := by
    refine List.Nodup.filter _ ?_
    have hsubagents : (((agents.ownEntries.filter fun entry =>
        entry.2.mode = some "subagent").map Prod.fst).map id).Nodup := by
      rw [List.map_id]
      exact hnames.sublist (List.filter_sublist.map _)
    have hsorted := platform.nodup_map_sortByName id hsubagents
    rwa [List.map_id] at hsorted
  have heligible : childAgent ∈ eligible parentAgent ↔
      child.mode = some "subagent" ∧ childAgent ≠ parentAgent := by
    simp only [eligible, List.mem_filter, mem_sortByName, List.mem_map, decide_eq_true_eq,
      JsObject.mem_ownEntries, Prod.exists, exists_and_right, exists_eq_right, hchild,
      Option.some_inj, exists_eq_left']
  have htarget := platform.get_taskTargetActions hname hdistinct heligible hfollowed
  have hfound : OrderedMap.get (OrderedMap.empty.setAll
      ((platform.buildAgentPermissionMatrix agents).map fun entry => (entry.agentName, entry)))
      childAgent = some (entryOf (childAgent, child)) := by
    refine OrderedMap.get_setAll_of_mem _ ?_ ?_
    · rw [hmatrix, List.map_map, List.map_map]
      exact platform.nodup_map_sortByName _ hnames
    · rw [hmatrix, List.map_map]
      exact List.mem_map.mpr ⟨(childAgent, child), hmem _ _ hchild, rfl⟩
  have hnone : targetIssues (OrderedMap.empty.setAll
      ((platform.buildAgentPermissionMatrix agents).map fun entry => (entry.agentName, entry)))
      (entryOf (parentAgent, parent))
      (childAgent, parent.followedAction parentAgent childAgent child.mode) = [] := by
    refine List.flatMap_eq_nil_iff.mp (List.flatMap_eq_nil_iff.mp hissues _ ?_) _ ?_
    · rw [hmatrix]
      exact List.mem_map_of_mem (hmem _ _ hparent)
    · rw [mem_sortByName, JsObject.mem_ownEntries]
      exact htarget
  rw [targetIssues, if_neg (not_or.mpr ⟨hfollowed, hname⟩), hfound] at hnone
  have hkeyIssue := List.filterMap_eq_nil_iff.mp hnone key key.mem_all
  rw [keyIssue, parentActionAt, if_neg hkey, ite_eq_right_iff] at hkeyIssue
  exact not_lt.mp fun h => Option.some_ne_none _ (hkeyIssue h)

end PermissionPlatform

/-! ## Soundness -/

section Soundness

variable (agents : JsObject PermissionInheritanceAgentConfig)

/-- The check does not follow the delegation, or the child's request is not decided under the key
that the check reads, or the parent's is not, or with less than the highest action there. -/
def HiddenFromCheck (request : ToolRequest) (parentAgent childAgent : String) : Prop :=
  ∃ parent child, OrderedMap.get agents parentAgent = some parent ∧
    OrderedMap.get agents childAgent = some child ∧
    (childAgent = "*" ∨ parent.followedAction parentAgent childAgent child.mode = .deny ∨
      (∀ rule, ¬ child.DecidedUnder request rule) ∨
      ∀ rule, ¬ parent.DecidedByHighest request rule)

/-- A delegation, hidden from the check for a request, whose child may do more. -/
structure Overlooked (unmatched : PermissionAction) (request : ToolRequest)
    (parentAgent childAgent : String) : Prop where
  delegates : DelegatesTo agents parentAgent childAgent
  hidden : HiddenFromCheck agents request parentAgent childAgent
  more : ¬ Covers agents unmatched request parentAgent childAgent

variable {agents} {request : ToolRequest}

theorem ToolRequest.Sensitive.key_ne_task (h : request.Sensitive) : request.key ≠ .task := by
  cases h with
  | tool _ _ hkey =>
    rintro rfl
    exact absurd hkey (by decide)
  | mcp | externalDirectory => exact SensitivePermissionKey.noConfusion

theorem covers_of_not_hidden {platform : PermissionPlatform} {unmatched : PermissionAction}
    (hissues : (platform.validatePermissionInheritance agents).issues = [])
    (hsensitive : request.Sensitive) {parentAgent childAgent : String}
    (hhidden : ¬ HiddenFromCheck agents request parentAgent childAgent) :
    Covers agents unmatched request parentAgent childAgent := by
  intro parent child hparent hchild
  have hseen : ¬ (childAgent = "*" ∨
      parent.followedAction parentAgent childAgent child.mode = .deny ∨
      (∀ rule, ¬ child.DecidedUnder request rule) ∨
        ∀ rule, ¬ parent.DecidedByHighest request rule) :=
    fun h => hhidden ⟨parent, child, hparent, hchild, h⟩
  simp only [not_or, not_forall, not_not] at hseen
  obtain ⟨hname, hfollowed, ⟨childRule, hchildRule⟩, parentRule, hparentRule⟩ := hseen
  calc (child.actionFor unmatched request.tool request.target).rank
      = childRule.action.rank := by rw [hchildRule.actionFor_eq]
    _ ≤ (sensitiveAction child.permission request.key).rank := hchildRule.rank_le
    _ ≤ (sensitiveAction parent.permission request.key).rank :=
        platform.sensitive_le_of_no_issues hissues hparent hchild hname hfollowed
          hsensitive.key_ne_task
    _ ≤ parentRule.action.rank := hparentRule.sensitive_le
    _ = (parent.actionFor unmatched request.tool request.target).rank := by
        rw [hparentRule.1.actionFor_eq]

/-- On agents without an issue, no chain of delegations widens a request if and only if no single
delegation does that is hidden from the check. -/
theorem delegation_sound_iff (platform : PermissionPlatform)
    (agents : JsObject PermissionInheritanceAgentConfig) (unmatched : PermissionAction)
    (hissues : (platform.validatePermissionInheritance agents).issues = []) :
    (∀ parentAgent childAgent, CanReach agents parentAgent childAgent →
        ∀ request : ToolRequest, request.Sensitive →
          Covers agents unmatched request parentAgent childAgent) ↔
      ∀ parentAgent childAgent, ∀ request : ToolRequest, request.Sensitive →
        ¬ Overlooked agents unmatched request parentAgent childAgent := by
  constructor
  · intro hsound parentAgent childAgent request hsensitive hoverlooked
    exact hoverlooked.more (hsound parentAgent childAgent (.single hoverlooked.delegates)
      request hsensitive)
  · intro hnone parentAgent childAgent hreach request hsensitive
    refine Covers.of_canReach (fun first second hdelegates => ?_) hreach
    by_cases hhidden : HiddenFromCheck agents request first second
    · by_contra hmore
      exact hnone first second request hsensitive ⟨hdelegates, hhidden, hmore⟩
    · exact covers_of_not_hidden hissues hsensitive hhidden

end Soundness

/-! ## A tool rule behind the wildcard -/

def firstUnits : PermissionPlatform where
  localeCompare left right :=
    ((Text.codeUnits left).headD 0 : Int) - ((Text.codeUnits right).headD 0 : Int)

def objectOf {ν : Type} (entries : List (String × ν)) : JsObject ν :=
    OrderedMap.empty.setAll entries

def builder : PermissionInheritanceAgentConfig where
  mode := some "primary"
  permission := some (objectOf [
    ("mcp__*", .action .deny),
    ("task", .rules (objectOf [("*", .deny), ("reviewer", .allow)]))])

/-- A helper with one MCP server of its own. -/
def reviewer : PermissionInheritanceAgentConfig where
  mode := some "subagent"
  permission := some (objectOf [("mcp__*", .action .deny), ("mcp__github__*", .action .allow)])

def serverBehindWildcard : JsObject PermissionInheritanceAgentConfig :=
  objectOf [("builder", builder), ("reviewer", reviewer)]

/-- The checked agents of the sound kind: the helper may only read what the builder may. -/
def sharedServer : JsObject PermissionInheritanceAgentConfig :=
  objectOf [("builder", { builder with permission := some (objectOf [
      ("mcp__*", .action .allow), ("task", .rules (objectOf [("reviewer", .allow)]))]) }),
    ("reviewer", { reviewer with permission := some (objectOf [("mcp__*", .action .ask)]) })]

theorem delegation_sound_iff_shared :
    (∀ parentAgent childAgent, CanReach sharedServer parentAgent childAgent →
        ∀ request : ToolRequest, request.Sensitive →
          Covers sharedServer .ask request parentAgent childAgent) ↔
      ∀ parentAgent childAgent, ∀ request : ToolRequest, request.Sensitive →
        ¬ Overlooked sharedServer .ask request parentAgent childAgent :=
  delegation_sound_iff firstUnits sharedServer .ask (by decide +kernel)

/-- A tool of the server is denied to the builder and allowed to the helper it delegates to,
and the check reports nothing. -/
theorem delegation_widens :
    (firstUnits.validatePermissionInheritance serverBehindWildcard).issues = [] ∧
      CanReach serverBehindWildcard "builder" "reviewer" ∧
      IsMcpToolId "mcp__github__delete" ∧
      ¬ Covers serverBehindWildcard .ask ⟨.mcp, "mcp__github__delete", "*"⟩
        "builder" "reviewer" := by
  refine ⟨by decide +kernel, ?_, ⟨by decide, by decide, "mcp__github__delete", by decide +kernel,
    .inl rfl⟩, fun h => ?_⟩
  · exact .single ⟨builder, reviewer, ⟨"task", "reviewer", .allow⟩, rfl, rfl, rfl, by decide⟩
  · exact absurd (h builder reviewer rfl rfl) (by decide +kernel)

end OpenCowork.Runtime
