import OpenCowork.Runtime.PermissionConfig

/-! # Precedence among tool permissions

Which key of a permission object decides about a tool. A pattern of a later phase decides only
if it is a new key; one that stands already is given its new action in its old place, behind
which keys of the phases between may match the same tool.
-/

namespace OpenCowork.Runtime

open OpenCowork.Foundation
open OpenCowork.Foundation.JsObject

variable {key toolId pattern : String}

/-! ## Matching -/

theorem mem_codeUnits {unit : Nat} {text : String} (hunit : unit < 0xD800)
    (h : unit ∈ Text.codeUnits text) : ∃ c ∈ text.toList, c.toNat = unit := by
  obtain ⟨c, hc, hmem⟩ := List.mem_flatMap.mp h
  refine ⟨c, hc, ?_⟩
  unfold Text.charCodeUnits at hmem
  split at hmem
  · exact (List.mem_singleton.mp hmem).symm
  · simp only [List.mem_cons, List.not_mem_nil, or_false] at hmem
    omega

theorem toolMatches_of_plain (toolId : String)
    (hplain : ∀ c ∈ key.toList, c.toNat ≠ 42 ∧ c.toNat ≠ 63) :
    toolMatches key toolId = decide (key = toolId) := by
  have hstar : 42 ∉ Text.codeUnits key := by
    intro hmem
    obtain ⟨c, hc, heq⟩ := mem_codeUnits (by omega) hmem
    exact (hplain c hc).1 heq
  have hquestion : 63 ∉ Text.codeUnits key := by
    intro hmem
    obtain ⟨c, hc, heq⟩ := mem_codeUnits (by omega) hmem
    exact (hplain c hc).2 heq
  rw [Bool.eq_iff_iff, toolMatches, Wildcard.matchesText_of_plain hstar hquestion,
    decide_eq_true_iff]
  exact Text.codeUnits_injective.eq_iff

theorem toolMatches_of_index (toolId : String) (key : String) (h : isNamed key = false) :
    toolMatches key toolId = decide (key = toolId) := by
  refine toolMatches_of_plain toolId fun c hc => ?_
  have hdigit := digits_of_index h c hc
  simp only [Char.isDigit, Bool.and_eq_true, decide_eq_true_eq] at hdigit
  have hlow : 48 ≤ c.toNat := hdigit.1
  have hhigh : c.toNat ≤ 57 := hdigit.2
  omega

theorem toolMatches_self_of_plain (hplain : ∀ c ∈ key.toList, c.toNat ≠ 42 ∧ c.toNat ≠ 63)
    (h : toolMatches key toolId = true) : key = toolId := by
  rw [toolMatches_of_plain toolId hplain, decide_eq_true_iff] at h
  exact h

theorem permissionPatternMatches_eq (pattern : String)
    (hplain : ∀ c ∈ toolId.toList, c.toNat ≠ 42 ∧ c.toNat ≠ 63) :
    permissionPatternMatches pattern toolId = toolMatches pattern toolId := by
  refine Wildcard.search_eq (by decide) (fun hmem => ?_) le_rfl
  obtain ⟨c, hc, heq⟩ := mem_codeUnits (by omega) hmem
  exact (hplain c hc).1 heq

theorem mem_addOnce {set : List String} {value other : String} :
    other ∈ addOnce set value ↔ other ∈ set ∨ other = value := by
  unfold addOnce
  split
  next hmem =>
    refine ⟨.inl, ?_⟩
    rintro (h | rfl)
    · exact h
    · exact hmem
  · rw [List.mem_append, List.mem_singleton]

theorem mem_foldl_of_adds {step : List String → String → List String} {items held : List String}
    (hkeeps : ∀ held item, pattern ∈ held → pattern ∈ step held item)
    (hadds : ∀ held, pattern ∈ step held pattern) (h : pattern ∈ held ∨ pattern ∈ items) :
    pattern ∈ items.foldl step held := by
  induction items generalizing held with
  | nil => exact h.resolve_right List.not_mem_nil
  | cons _ _ ih =>
    refine ih ?_
    rw [List.mem_cons] at h
    rcases h with h | rfl | h
    · exact .inl (hkeeps _ _ h)
    · exact .inl (hadds _)
    · exact .inr h

theorem mem_expandMcpToolPermissionPatterns {patterns : List String}
    (hmem : pattern ∈ patterns) (hne : pattern ≠ "") :
    pattern ∈ expandMcpToolPermissionPatterns patterns := by
  refine mem_foldl_of_adds ?_ ?_ (.inr hmem)
  · intro held _ h
    split
    · exact h
    · split
      · exact mem_addOnce.mpr (.inl h)
      · exact mem_addOnce.mpr (.inl (mem_addOnce.mpr (.inl h)))
  · intro held
    rw [if_neg hne]
    split
    · exact mem_addOnce.mpr (.inr rfl)
    · exact mem_addOnce.mpr (.inl (mem_addOnce.mpr (.inr rfl)))

/-! ## Native tools -/

def nativeKeys : List String :=
  ["codesearch", "webfetch", "websearch", "bash", "edit", "write", "apply_patch"]

theorem nativeKeys_plain : ∀ key ∈ nativeKeys, ∀ c ∈ key.toList, c.toNat ≠ 42 ∧ c.toNat ≠ 63 := by
  simp [nativeKeys]

theorem lastNamed_nativeKeys :
    ∀ key ∈ nativeKeys, lastNamed (toolMatches · key) nativeKeys = some key := by
  decide +kernel

theorem lastNamed_nativeKeys_of_not_mem (h : toolId ∉ nativeKeys) :
    lastNamed (toolMatches · toolId) nativeKeys = none := by
  rw [lastNamed_eq_none]
  intro key hkey _
  rw [toolMatches_of_plain toolId (nativeKeys_plain key hkey), decide_eq_false_iff_not]
  rintro rfl
  exact h hkey

theorem clampPermissionAction_le (existing : Option PermissionAction) (maximum : PermissionAction) :
    (clampPermissionAction existing maximum).rank ≤ maximum.rank := by
  unfold clampPermissionAction
  split
  · exact le_refl _
  · split
    next h => exact h
    · exact le_refl _

theorem clampPermissionAction_le_existing (action maximum : PermissionAction) :
    (clampPermissionAction (some action) maximum).rank ≤ action.rank := by
  unfold clampPermissionAction
  dsimp only
  split
  · exact le_refl _
  next h => exact (Nat.lt_of_not_le h).le

theorem applyRequested_le (key : String) (next : PermissionAction) (patterns : List String)
    (action : Option PermissionAction) (bound : Nat)
    (h : (∃ held ∈ action, held.rank ≤ bound) ∨
      next.rank ≤ bound ∧ ∃ pattern ∈ patterns, permissionPatternMatches pattern key = true) :
    ∃ held ∈ patterns.foldl (applyRequested key next) action, held.rank ≤ bound := by
  induction patterns generalizing action with
  | nil =>
    rcases h with h | ⟨-, _, h, -⟩
    · exact h
    · cases h
  | cons _ _ ih =>
    rw [List.foldl_cons]
    apply ih
    unfold applyRequested
    rcases h with ⟨held, hheld, hle⟩ | ⟨hnext, pattern, hmem, hmatch⟩
    · left
      rw [Option.mem_def] at hheld
      subst hheld
      dsimp only
      split
      · split
        next _ => exact ⟨next, rfl, by omega⟩
        · exact ⟨held, rfl, hle⟩
      · exact ⟨held, rfl, hle⟩
    · rcases List.mem_cons.mp hmem with rfl | hmem
      · left
        rw [if_pos hmatch]
        split
        · exact ⟨next, rfl, hnext⟩
        · split
          · exact ⟨next, rfl, hnext⟩
          next held _ => exact ⟨held, rfl, by omega⟩
      · exact .inr ⟨hnext, pattern, hmem, hmatch⟩

theorem requestedNativeAction_le_ask {askPatterns allowPatterns : List String}
    (hmem : pattern ∈ askPatterns) (hmatch : permissionPatternMatches pattern key = true) :
    ∃ held, requestedNativeAction key askPatterns allowPatterns = some held ∧
      held.rank ≤ PermissionAction.ask.rank := by
  obtain ⟨held, hheld, hle⟩ := applyRequested_le key .ask askPatterns none
    PermissionAction.ask.rank (.inr ⟨le_refl _, pattern, hmem, hmatch⟩)
  exact applyRequested_le key .allow allowPatterns _ PermissionAction.ask.rank
    (.inl ⟨held, hheld, hle⟩)

/-! ## The order of the keys -/

namespace PermissionOptions

variable (options : PermissionOptions) (natives : List (String × PermissionAction)) {key : String}
  {toolId : String} (permission : PermissionConfig)

/-- The keys that stand when the asked patterns are written, in their order. -/
def standingBeforeAsk : List String :=
  let withRegistry := fixedKeys ++ newKeys fixedKeys options.registry
  withRegistry ++ newKeys withRegistry options.allowed

/-- The keys that stand when the denied patterns are written, in their order: the native tools
come last. -/
def standing : List String :=
  (options.standingBeforeAsk ++ newKeys options.standingBeforeAsk options.asked).filter
      (· ∉ nativeKeys) ++ nativeKeys

/-- What the phases before the denied patterns give to a key. -/
def writtenRule (key : String) : Option PermissionRule :=
  match options.nativeMaxima.lookup key with
  | some maximum => some (.action (options.cappedAction key maximum))
  | none =>
    if key ∈ options.asked then some (.action .ask)
    else if key ∈ options.allowed then some (.action .allow)
    else if key ∈ options.registry then some (.action .deny)
    else options.basePermission.get key

theorem map_fst_nativeMaxima : options.nativeMaxima.map Prod.fst = nativeKeys := rfl

/-- The object after the asked patterns were written. -/
def askedPermission : PermissionConfig :=
  ((options.basePermission.setAllTo (.action .deny) options.registry).setAllTo (.action .allow)
    options.allowed).setAllTo (.action .ask) options.asked

/-- The object after the native tools were capped. -/
def cappedPermission : PermissionConfig :=
  options.nativeMaxima.foldl options.setTrailingPermissionRule options.askedPermission

theorem keys_askedPermission : options.askedPermission.keys =
    options.standingBeforeAsk ++ newKeys options.standingBeforeAsk options.asked := by
  rw [askedPermission, keys_setAllTo, keys_setAllTo, keys_setAllTo]
  rfl

theorem keys_setTrailing (native : String × PermissionAction) :
    (options.setTrailingPermissionRule permission native).keys =
      permission.keys.filter (· ≠ native.1) ++ [native.1] := by
  rw [setTrailingPermissionRule, keys_set, if_neg, keys_erase]
  rw [keys_erase, List.mem_filter]
  simp

theorem keys_foldl_setTrailing (hnodup : (natives.map Prod.fst).Nodup) :
    (natives.foldl options.setTrailingPermissionRule permission).keys =
      permission.keys.filter (· ∉ natives.map Prod.fst) ++ natives.map Prod.fst := by
  induction natives generalizing permission with
  | nil => simp
  | cons native rest ih =>
    rw [List.map_cons, List.nodup_cons] at hnodup
    rw [List.foldl_cons, ih _ hnodup.2, keys_setTrailing, List.filter_append, List.filter_filter,
      List.map_cons]
    have hkept : [native.1].filter (· ∉ rest.map Prod.fst) = [native.1] := by
      rw [List.filter_cons, if_pos (decide_eq_true hnodup.1), List.filter_nil]
    rw [hkept, List.append_assoc]
    refine congrArg (· ++ _) (List.filter_congr fun _ _ => ?_)
    rw [Bool.eq_iff_iff, Bool.and_eq_true, decide_eq_true_eq, decide_eq_true_eq,
      decide_eq_true_eq, List.mem_cons, not_or]
    exact and_comm

theorem keys_cappedPermission : options.cappedPermission.keys = options.standing := by
  rw [cappedPermission, keys_foldl_setTrailing, keys_askedPermission, map_fst_nativeMaxima]
  · rfl
  · rw [map_fst_nativeMaxima]
    decide

theorem get_foldl_setTrailing (hnodup : (natives.map Prod.fst).Nodup) (key : String) :
    OrderedMap.get (natives.foldl options.setTrailingPermissionRule permission) key =
      match natives.lookup key with
      | some maximum => some (.action (options.cappedAction key maximum))
      | none => OrderedMap.get permission key := by
  induction natives generalizing permission with
  | nil => rfl
  | cons native rest ih =>
    obtain ⟨name, _⟩ := native
    rw [List.map_cons, List.nodup_cons] at hnodup
    rw [List.foldl_cons, ih _ hnodup.2, List.lookup_cons]
    by_cases hkey : key = name
    · subst hkey
      have hrest : rest.lookup key = none := by
        rw [List.lookup_eq_none_iff]
        intro entry hentry
        rw [bne_iff_ne]
        rintro rfl
        exact hnodup.1 (List.mem_map.mpr ⟨entry, hentry, rfl⟩)
      rw [hrest, beq_self_eq_true]
      exact OrderedMap.get_set_self _ _ _
    · rw [beq_eq_false_iff_ne.mpr hkey]
      cases rest.lookup key with
      | some => rfl
      | none =>
        rw [setTrailingPermissionRule, OrderedMap.get_set_of_ne _ _ (Ne.symm hkey),
          OrderedMap.get_erase_of_ne _ (Ne.symm hkey)]

theorem get_cappedPermission (hproto : key ≠ "__proto__") :
    OrderedMap.get options.cappedPermission key = options.writtenRule key := by
  rw [cappedPermission, get_foldl_setTrailing, writtenRule]
  · cases options.nativeMaxima.lookup key with
    | some => rfl
    | none => simp only [askedPermission, get_setAllTo, and_iff_left hproto]
  · rw [map_fst_nativeMaxima]
    decide

theorem keys_buildPermissionConfig : (buildPermissionConfig options).keys =
    options.standing ++ newKeys options.standing options.denied := by
  rw [← options.keys_cappedPermission]
  exact keys_setAllTo _ options.cappedPermission _

theorem get_buildPermissionConfig (hproto : key ≠ "__proto__") :
    OrderedMap.get (buildPermissionConfig options) key =
      if key ∈ options.denied then some (.action .deny) else options.writtenRule key := by
  rw [← options.get_cappedPermission hproto]
  refine (get_setAllTo (.action .deny) options.cappedPermission options.denied key).trans ?_
  simp only [and_iff_left hproto]

theorem ne_proto_of_standing (h : key ∈ options.standing) : key ≠ "__proto__" := by
  rw [standing, List.mem_append, List.mem_filter, standingBeforeAsk] at h
  simp only [List.mem_append, mem_newKeys] at h
  rintro rfl
  have hfixed : "__proto__" ∉ fixedKeys := by decide
  have hnative : "__proto__" ∉ nativeKeys := by decide
  tauto

/-! ## The key that decides -/

/-- A tool that a denied pattern matches and that is not denied: every denied pattern that
matches it stands already (or is an array index, which comes first, or `__proto__`, which is no
key), and the last key that stands and matches it is not denied, neither by the denied patterns
nor before. -/
def DenialLost (toolId : String) : Prop :=
  (∃ pattern ∈ options.deniedPatterns ++ options.denied, toolMatches pattern toolId = true) ∧
  (∀ pattern ∈ options.denied, toolMatches pattern toolId = true → isNamed pattern = true →
    pattern = "__proto__" ∨ pattern ∈ options.standing) ∧
  ((∃ key, lastNamed (toolMatches · toolId) options.standing = some key ∧
      key ∉ options.denied ∧ (options.writtenRule key).bind PermissionRule.plain ≠ some .deny) ∨
    lastNamed (toolMatches · toolId) options.standing = none ∧
      (toolId = "" ∨ toolId = "__proto__"))

/-- A tool that an asked pattern matches and that is plainly allowed: it is no native tool, no
new denied pattern matches it, every asked pattern that matches it stands already (or is an array
index or `__proto__`), and the last key that stands before the asked patterns are written and
matches it is allowed. -/
def AskLost (toolId : String) : Prop :=
  (∃ pattern ∈ options.askPatterns ++ options.asked, toolMatches pattern toolId = true) ∧
  toolId ∉ nativeKeys ∧
  (∀ pattern ∈ options.denied, toolMatches pattern toolId = true → isNamed pattern = true →
    pattern = "__proto__" ∨ pattern ∈ options.standing) ∧
  (∀ pattern ∈ options.asked, toolMatches pattern toolId = true → isNamed pattern = true →
    pattern = "__proto__" ∨ pattern ∈ options.standingBeforeAsk) ∧
  ∃ key, lastNamed (toolMatches · toolId) options.standingBeforeAsk = some key ∧
    key ∉ options.denied ∧ (options.writtenRule key).bind PermissionRule.plain = some .allow

theorem evaluatePermission_eq (toolId : String) :
    evaluatePermission (buildPermissionConfig options) toolId =
      match lastNamed (toolMatches · toolId)
          (options.standing ++ newKeys options.standing options.denied) with
      | some key => OrderedMap.get (buildPermissionConfig options) key
      | none =>
        if isNamed toolId then none
        else OrderedMap.get (buildPermissionConfig options) toolId := by
  unfold evaluatePermission
  rw [← keys_buildPermissionConfig]
  exact lastMatch_eq _ _ toolId (toolMatches_of_index toolId)

theorem evaluatePermission_of_new
    (h : lastNamed (toolMatches · toolId) (newKeys options.standing options.denied) = some key) :
    evaluatePermission (buildPermissionConfig options) toolId = some (.action .deny) := by
  obtain ⟨hmem, -, -⟩ := lastNamed_eq_some h
  obtain ⟨hdenied, hproto, -⟩ := mem_newKeys.mp hmem
  rw [evaluatePermission_eq, lastNamed_append, h]
  dsimp only [Option.or]
  rw [options.get_buildPermissionConfig hproto, if_pos hdenied]

theorem evaluatePermission_of_standing
    (h : lastNamed (toolMatches · toolId) (newKeys options.standing options.denied) = none) :
    evaluatePermission (buildPermissionConfig options) toolId =
      match lastNamed (toolMatches · toolId) options.standing with
      | some key => if key ∈ options.denied then some (.action .deny) else options.writtenRule key
      | none =>
        if isNamed toolId then none
        else OrderedMap.get (buildPermissionConfig options) toolId := by
  rw [evaluatePermission_eq, lastNamed_append, h, Option.none_or]
  cases hlast : lastNamed (toolMatches · toolId) options.standing with
  | none => rfl
  | some =>
    exact options.get_buildPermissionConfig
      (options.ne_proto_of_standing (lastNamed_eq_some hlast).1)

theorem lastNamed_newKeys_eq_none_iff {held given : List String} {test : String → Bool} :
    lastNamed test (newKeys held given) = none ↔
      ∀ pattern ∈ given, test pattern = true → isNamed pattern = true →
        pattern = "__proto__" ∨ pattern ∈ held := by
  rw [lastNamed_eq_none]
  constructor
  · intro h pattern hmem htest hnamed
    by_contra hnew
    rw [not_or] at hnew
    rw [h pattern (mem_newKeys.mpr ⟨hmem, hnew⟩) hnamed] at htest
    cases htest
  · intro h key hkey hnamed
    obtain ⟨hmem, hproto, hheld⟩ := mem_newKeys.mp hkey
    rw [Bool.eq_false_iff]
    intro htest
    exact (h key hmem htest hnamed).elim hproto hheld

theorem mem_expanded_or_empty {patterns : List String} {pattern : String}
    (hmem : pattern ∈ patterns ++ expandMcpToolPermissionPatterns patterns)
    (hmatch : toolMatches pattern toolId = true) :
    pattern ∈ expandMcpToolPermissionPatterns patterns ∨ toolId = "" := by
  rcases List.mem_append.mp hmem with hmem | hmem
  · by_cases hempty : pattern = ""
    · subst hempty
      right
      exact (toolMatches_self_of_plain (by simp) hmatch).symm
    · exact .inl (mem_expandMcpToolPermissionPatterns hmem hempty)
  · exact .inl hmem

theorem cases_of_held {held given : List String} {pattern : String} (hmem : pattern ∈ given)
    (hmatch : toolMatches pattern toolId = true)
    (hheld : ∀ pattern ∈ given, toolMatches pattern toolId = true → isNamed pattern = true →
      pattern = "__proto__" ∨ pattern ∈ held) :
    (isNamed toolId = false ∧ pattern = toolId) ∨ toolId = "__proto__" ∨
      (isNamed pattern = true ∧ pattern ∈ held) := by
  cases hnamed : isNamed pattern with
  | false =>
    rw [toolMatches_of_index toolId pattern hnamed, decide_eq_true_iff] at hmatch
    exact .inl ⟨hmatch ▸ hnamed, hmatch⟩
  | true =>
    rcases hheld pattern hmem hmatch hnamed with rfl | hheld
    · exact .inr (.inl (toolMatches_self_of_plain (by simp) hmatch).symm)
    · exact .inr (.inr ⟨rfl, hheld⟩)

theorem ne_of_index (h : isNamed key = false) : key ≠ "" ∧ key ≠ "__proto__" := by
  constructor
  · rintro rfl
    exact absurd h (by decide)
  · rintro rfl
    exact absurd h (by decide)

def decided (toolId : String) : Option PermissionAction :=
  (evaluatePermission (buildPermissionConfig options) toolId).bind PermissionRule.plain

/-- A tool that a denied pattern matches is denied unless its denial is lost. -/
theorem denied_iff
    (hmatched : ∃ pattern ∈ options.deniedPatterns ++ options.denied,
      toolMatches pattern toolId = true) :
    options.decided toolId = some .deny ↔ ¬ options.DenialLost toolId := by
  rw [decided]
  cases hnew : lastNamed (toolMatches · toolId) (newKeys options.standing options.denied) with
  | some =>
    rw [options.evaluatePermission_of_new hnew]
    refine iff_of_true rfl fun hlost => ?_
    rw [(lastNamed_newKeys_eq_none_iff).mpr hlost.2.1] at hnew
    cases hnew
  | none =>
    have hold := lastNamed_newKeys_eq_none_iff.mp hnew
    rw [options.evaluatePermission_of_standing hnew]
    cases hlast : lastNamed (toolMatches · toolId) options.standing with
    | some key =>
      dsimp only
      split
      next hdenied =>
        refine iff_of_true rfl ?_
        rintro ⟨-, -, ⟨other, hother, hnot, -⟩ | ⟨hnone, -⟩⟩
        · cases hlast.symm.trans hother
          exact hnot hdenied
        · cases hlast.symm.trans hnone
      next hdenied =>
        constructor
        · rintro hdeny ⟨-, -, ⟨other, hother, -, hother'⟩ | ⟨hnone, -⟩⟩
          · cases hlast.symm.trans hother
            exact hother' hdeny
          · cases hlast.symm.trans hnone
        · intro hkept
          by_contra hdeny
          exact hkept ⟨hmatched, hold, .inl ⟨key, hlast, hdenied, hdeny⟩⟩
    | none =>
      dsimp only
      obtain ⟨pattern, hmem, hmatch⟩ := hmatched
      -- what matches is the tool itself, as an array index, or nothing that is a key
      have hcases : (isNamed toolId = false ∧ toolId ∈ options.denied) ∨
          toolId = "" ∨ toolId = "__proto__" := by
        rcases mem_expanded_or_empty hmem hmatch with hdenied | hempty
        · rcases cases_of_held hdenied hmatch hold with
            ⟨hindexed, rfl⟩ | hproto | ⟨hpattern, hstands⟩
          · exact .inl ⟨hindexed, hdenied⟩
          · exact .inr (.inr hproto)
          · rw [lastNamed_eq_none.mp hlast pattern hstands hpattern] at hmatch
            cases hmatch
        · exact .inr (.inl hempty)
      split
      next hnamed =>
        refine iff_of_false (by rintro ⟨⟩) (not_not.mpr ⟨⟨pattern, hmem, hmatch⟩, hold,
          .inr ⟨hlast, ?_⟩⟩)
        rcases hcases with ⟨hindexed, -⟩ | hnone
        · rw [hindexed] at hnamed
          cases hnamed
        · exact hnone
      next hindexed =>
        rw [Bool.not_eq_true] at hindexed
        have hkey := ne_of_index hindexed
        obtain ⟨-, hdenied⟩ := hcases.resolve_right (not_or.mpr hkey)
        rw [options.get_buildPermissionConfig hkey.2, if_pos hdenied]
        refine iff_of_true rfl ?_
        rintro ⟨-, -, ⟨_, hother, -⟩ | ⟨-, hnone⟩⟩
        · cases hlast.symm.trans hother
        · exact not_or.mpr hkey hnone

theorem lookup_nativeMaxima (h : key ∈ nativeKeys) :
    ∃ maximum, (key, maximum) ∈ options.nativeMaxima ∧
      options.nativeMaxima.lookup key = some maximum := by
  simp only [nativeKeys, List.mem_cons, List.not_mem_nil, or_false] at h
  rcases h with rfl | rfl | rfl | rfl | rfl | rfl | rfl <;>
    exact ⟨_, by simp [nativeMaxima], rfl⟩

theorem lookup_nativeMaxima_of_not_mem (h : key ∉ nativeKeys) :
    options.nativeMaxima.lookup key = none := by
  rw [List.lookup_eq_none_iff]
  intro entry hentry
  rw [bne_iff_ne]
  rintro rfl
  exact h (List.mem_map.mpr ⟨entry, hentry, rfl⟩)

theorem decided_native (hkey : key ∈ nativeKeys) {maximum : PermissionAction}
    (hmaximum : options.nativeMaxima.lookup key = some maximum) :
    options.decided key = some .deny ∨
      options.decided key = some (options.cappedAction key maximum) := by
  rw [decided]
  cases hnew : lastNamed (toolMatches · key) (newKeys options.standing options.denied) with
  | some =>
    rw [options.evaluatePermission_of_new hnew]
    exact .inl rfl
  | none =>
    have hlast : lastNamed (toolMatches · key) options.standing = some key := by
      rw [standing, lastNamed_append, lastNamed_nativeKeys key hkey]
      rfl
    rw [options.evaluatePermission_of_standing hnew, hlast]
    dsimp only
    split
    · exact .inl rfl
    · rw [writtenRule, hmaximum]
      exact .inr rfl

theorem native_capped (native : String × PermissionAction)
    (hnative : native ∈ options.nativeMaxima) :
    ∃ action, options.decided native.1 = some action ∧ action.rank ≤ native.2.rank := by
  have hkey : native.1 ∈ nativeKeys := List.mem_map_of_mem hnative
  have hmaximum : options.nativeMaxima.lookup native.1 = some native.2 := by
    simp only [nativeMaxima, List.mem_cons, List.not_mem_nil, or_false] at hnative
    rcases hnative with rfl | rfl | rfl | rfl | rfl | rfl | rfl <;> rfl
  rcases options.decided_native hkey hmaximum with h | h
  · exact ⟨.deny, h, Nat.zero_le _⟩
  · refine ⟨_, h, ?_⟩
    unfold cappedAction
    dsimp only
    split
    · exact Nat.zero_le _
    · exact clampPermissionAction_le _ _

theorem native_asked {pattern : String} (hkey : key ∈ nativeKeys) (hmem : pattern ∈ options.asked)
    (hmatch : toolMatches pattern key = true)
    (maximum : PermissionAction) : options.cappedAction key maximum ≠ .allow := by
  rw [← permissionPatternMatches_eq pattern (nativeKeys_plain key hkey)] at hmatch
  obtain ⟨held, hheld, hle⟩ : ∃ held,
      requestedNativeAction key options.asked options.allowed = some held ∧
        held.rank ≤ PermissionAction.ask.rank := requestedNativeAction_le_ask hmem hmatch
  unfold cappedAction
  rw [hheld, if_neg (by simp)]
  intro hallow
  have hclamp := clampPermissionAction_le_existing held maximum
  rw [hallow] at hclamp
  exact absurd (hclamp.trans hle) (by decide)

theorem lastNamed_standing (h : toolId ∉ nativeKeys) :
    lastNamed (toolMatches · toolId) options.standing =
      (lastNamed (toolMatches · toolId) (newKeys options.standingBeforeAsk options.asked)).or
        (lastNamed (toolMatches · toolId) options.standingBeforeAsk) := by
  rw [standing, lastNamed_append, lastNamed_nativeKeys_of_not_mem h, Option.none_or,
    ← lastNamed_append]
  unfold lastNamed
  rw [List.filter_filter, List.filter_filter, List.filter_filter]
  refine congrArg List.getLast? (List.filter_congr fun key _ => ?_)
  cases hmatch : toolMatches key toolId with
  | false => rfl
  | true =>
    have hkey : key ∉ nativeKeys := by
      intro hkey
      exact h (toolMatches_self_of_plain (nativeKeys_plain key hkey) hmatch ▸ hkey)
    simp [hkey]

theorem writtenRule_of_asked (htool : toolId ∉ nativeKeys) (hmatch : toolMatches key toolId = true)
    (hasked : key ∈ options.asked) : options.writtenRule key = some (.action .ask) := by
  have hkey : key ∉ nativeKeys := by
    intro hkey
    exact htool (toolMatches_self_of_plain (nativeKeys_plain key hkey) hmatch ▸ hkey)
  rw [writtenRule, options.lookup_nativeMaxima_of_not_mem hkey]
  exact if_pos hasked

theorem ne_allow_of_native (hnative : toolId ∈ nativeKeys)
    (hmatched : ∃ pattern ∈ options.askPatterns ++ options.asked,
      toolMatches pattern toolId = true) : options.decided toolId ≠ some .allow := by
  obtain ⟨pattern, hmem, hmatch⟩ := hmatched
  have hasked : pattern ∈ options.asked := by
    rcases mem_expanded_or_empty hmem hmatch with hasked | hempty
    · exact hasked
    · rw [hempty] at hnative
      exact absurd hnative (by decide)
  obtain ⟨maximum, -, hmaximum⟩ := options.lookup_nativeMaxima hnative
  rcases options.decided_native hnative hmaximum with h | h
  · rw [h]
    rintro ⟨⟩
  · rw [h, ne_eq, Option.some.injEq]
    exact options.native_asked hnative hasked hmatch maximum

/-- A tool that an asked pattern matches is not plainly allowed unless its question is lost. -/
theorem asked_iff
    (hmatched : ∃ pattern ∈ options.askPatterns ++ options.asked,
      toolMatches pattern toolId = true) :
    options.decided toolId ≠ some .allow ↔ ¬ options.AskLost toolId := by
  by_cases hnative : toolId ∈ nativeKeys
  · exact iff_of_true (options.ne_allow_of_native hnative hmatched) fun hlost =>
      hlost.2.1 hnative
  rw [decided]
  cases hnew : lastNamed (toolMatches · toolId) (newKeys options.standing options.denied) with
  | some =>
    rw [options.evaluatePermission_of_new hnew]
    refine iff_of_true (by rintro ⟨⟩) fun hlost => ?_
    rw [(lastNamed_newKeys_eq_none_iff).mpr hlost.2.2.1] at hnew
    cases hnew
  | none =>
    have hold := lastNamed_newKeys_eq_none_iff.mp hnew
    rw [options.evaluatePermission_of_standing hnew, options.lastNamed_standing hnative]
    cases hask : lastNamed (toolMatches · toolId)
        (newKeys options.standingBeforeAsk options.asked) with
    | some key =>
      obtain ⟨hmem, -, hmatch⟩ := lastNamed_eq_some hask
      refine iff_of_true ?_ fun hlost => ?_
      · dsimp only [Option.or]
        rw [options.writtenRule_of_asked hnative hmatch (mem_newKeys.mp hmem).1]
        split <;> rintro ⟨⟩
      · rw [(lastNamed_newKeys_eq_none_iff).mpr hlost.2.2.2.1] at hask
        cases hask
    | none =>
      have holdAsk := lastNamed_newKeys_eq_none_iff.mp hask
      rw [Option.none_or]
      cases hlast : lastNamed (toolMatches · toolId) options.standingBeforeAsk with
      | some key =>
        dsimp only
        split
        next hdenied =>
          refine iff_of_true (by rintro ⟨⟩) ?_
          rintro ⟨-, -, -, -, other, hother, hnot, -⟩
          cases hlast.symm.trans hother
          exact hnot hdenied
        next hdenied =>
          refine not_congr ⟨fun hallow => ?_, ?_⟩
          · exact ⟨hmatched, hnative, hold, holdAsk, key, hlast, hdenied, hallow⟩
          · rintro ⟨-, -, -, -, other, hother, -, hallow⟩
            cases hlast.symm.trans hother
            exact hallow
      | none =>
        refine iff_of_true ?_ ?_
        · dsimp only
          split
          · rintro ⟨⟩
          next hindexed =>
            rw [Bool.not_eq_true] at hindexed
            have hkey := ne_of_index hindexed
            obtain ⟨pattern, hmem, hmatch⟩ := hmatched
            have hasked : toolId ∈ options.asked := by
              have hpattern := (mem_expanded_or_empty hmem hmatch).resolve_right hkey.1
              rcases cases_of_held hpattern hmatch holdAsk with
                ⟨-, rfl⟩ | hproto | ⟨hnamed, hstands⟩
              · exact hpattern
              · exact absurd hproto hkey.2
              · rw [lastNamed_eq_none.mp hlast pattern hstands hnamed] at hmatch
                cases hmatch
            have hself : toolMatches toolId toolId = true := by
              rw [toolMatches_of_index toolId toolId hindexed, decide_eq_true_iff]
            rw [options.get_buildPermissionConfig hkey.2,
              options.writtenRule_of_asked hnative hself hasked]
            split <;> rintro ⟨⟩
        · rintro ⟨-, -, -, -, _, hother, -⟩
          cases hlast.symm.trans hother

end PermissionOptions

/-- Every tool that a denied pattern matches is denied, none that an asked pattern matches is
plainly allowed, and no native tool gets more than its maximum, exactly if no tool's denial and
no tool's question is lost. -/
theorem permission_precedence_iff (options : PermissionOptions) :
    ((∀ toolId, (∃ pattern ∈ options.deniedPatterns ++ options.denied,
        toolMatches pattern toolId = true) → options.decided toolId = some .deny) ∧
      (∀ toolId, (∃ pattern ∈ options.askPatterns ++ options.asked,
        toolMatches pattern toolId = true) → options.decided toolId ≠ some .allow) ∧
      (∀ native ∈ options.nativeMaxima, ∃ action,
        options.decided native.1 = some action ∧ action.rank ≤ native.2.rank)) ↔
    (∀ toolId, ¬ options.DenialLost toolId) ∧ ∀ toolId, ¬ options.AskLost toolId := by
  constructor
  · rintro ⟨hdenied, hasked, -⟩
    constructor
    · intro toolId hlost
      exact (options.denied_iff hlost.1).mp (hdenied toolId hlost.1) hlost
    · intro toolId hlost
      exact (options.asked_iff hlost.1).mp (hasked toolId hlost.1) hlost
  · rintro ⟨hdenied, hasked⟩
    refine ⟨fun toolId hmatched => ?_, fun toolId hmatched => ?_, options.native_capped⟩
    · exact (options.denied_iff hmatched).mpr (hdenied toolId)
    · exact (options.asked_iff hmatched).mpr (hasked toolId)

/-- One tool of a server is allowed by name and with the whole server, and denied. -/
def shadowedDenial : PermissionOptions where
  skillRules := none
  allowAllSkills := false
  externalDirectoryRules := none
  toolPatternsToDeny := []
  allowPatterns := ["github_delete", "github_*"]
  askPatterns := []
  deniedPatterns := ["github_delete"]
  question := none
  task := none
  todoWrite := none
  web := none
  webSearch := none
  bash := none
  edit := none
  requireNativeToolPattern := false

/-- The denied tool is allowed: its key keeps its place before that of the server. -/
theorem denied_tool_allowed :
    ¬ ∀ options : PermissionOptions, ∀ toolId, (∃ pattern ∈ options.deniedPatterns,
      toolMatches pattern toolId = true) → options.decided toolId = some .deny := by
  intro h
  have hallow : shadowedDenial.decided "github_delete" = some .allow := by decide +kernel
  have hdeny := h shadowedDenial "github_delete"
    ⟨"github_delete", .head _, by decide +kernel⟩
  rw [hallow] at hdeny
  cases hdeny

end OpenCowork.Runtime
