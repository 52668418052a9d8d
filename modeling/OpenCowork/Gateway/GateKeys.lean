import OpenCowork.Foundation.CheckedText
import OpenCowork.Gateway.ManualGates
import OpenCowork.Gateway.StageMembership

/-! # What gates are asked for, and under which key

A task that waits for a person asks for a gate under a key. The keys of the manual gates of two
tasks, or of two manual gates of one task, are different, since ids are short and plain.
-/

namespace OpenCowork.Foundation.Text

variable {text : String} {units : Nat}

/-- No white space, and nothing outside the basic plane. -/
def isPlain (text : String) : Bool := text.toList.all fun c => 45 ≤ c.toNat && c.toNat ≤ 122

theorem isPlain_iff : isPlain text = true ↔ ∀ c ∈ text.toList, 45 ≤ c.toNat ∧ c.toNat ≤ 122 := by
  simp [isPlain]

theorem isPlain_append (first second : String) :
    isPlain (first ++ second) = (isPlain first && isPlain second) := by
  rw [isPlain, String.toList_append, List.all_append]
  rfl

theorem trim_of_isPlain (h : isPlain text = true) : trim text = text := by
  have hspaces : ∀ c ∈ text.toList, isWhiteSpace c = false :=
    fun c hc => not_isWhiteSpace (isPlain_iff.mp h c hc)
  have hfront : text.toList.dropWhile isWhiteSpace = text.toList := by
    rw [List.dropWhile_eq_self_iff]
    intro hlength
    rw [hspaces _ (List.getElem_mem hlength)]
    exact Bool.false_ne_true
  have hback : text.toList.rdropWhile isWhiteSpace = text.toList := by
    rw [List.rdropWhile_eq_self_iff]
    intro hne
    rw [hspaces _ (List.getLast_mem hne)]
    exact Bool.false_ne_true
  rw [trim, trimChars_eq, hfront, hback, String.ofList_toList]

theorem takeUnits_of_plain {chars : List Char} (h : ∀ c ∈ chars, c.toNat ≤ 122)
    (hlength : chars.length ≤ units) : takeUnits units chars = chars := by
  induction chars generalizing units with
  | nil => rfl
  | cons c _ ih =>
    have hc : (charCodeUnits c).length = 1 := by
      have := h c (.head _)
      rw [charCodeUnits, if_pos (by omega), List.length_singleton]
    rw [List.length_cons] at hlength
    rw [takeUnits, hc, if_pos (by omega), ih (fun c hc => h c (.tail _ hc)) (by omega)]

theorem substringTo_of_isPlain (h : isPlain text = true)
    (hlength : text.toList.length ≤ units) : substringTo units text = text := by
  rw [substringTo, takeUnits_of_plain (fun c hc => (isPlain_iff.mp h c hc).2) hlength,
    String.ofList_toList]

end OpenCowork.Foundation.Text

namespace OpenCowork.Gateway

open Foundation

variable {text : String} {maxLength : Nat} {stage : String}

/-! ## Plain texts are kept as they are -/

theorem normalizeOptionalString_of_isPlain (h : Text.isPlain text = true)
    (hne : text ≠ "") (hlength : text.toList.length ≤ maxLength) :
    normalizeOptionalString (some text) maxLength = some text := by
  rw [normalizeOptionalString, Option.map_some, Text.trim_of_isPlain h, Text.truthy,
    Option.filter_some, if_pos (decide_eq_true hne), Option.map_some,
    Text.substringTo_of_isPlain h hlength]

theorem normalizeRequiredString_of_isPlain (h : Text.isPlain text = true)
    (hne : text ≠ "") {label : String} (hlength : text.toList.length ≤ maxLength) :
    normalizeRequiredString text label maxLength = .ok text := by
  rw [normalizeRequiredString, Text.trim_of_isPlain h, if_neg hne,
    Text.substringTo_of_isPlain h hlength]

/-- Letters, digits, `_` and `-`. -/
def isWordChar (c : Char) : Bool := c.isAlphanum || c == '_' || c == '-'

theorem isWordChar_bounds {c : Char} (hc : isWordChar c = true) :
    45 ≤ c.toNat ∧ c.toNat ≤ 122 ∧ c ≠ ':' := by
  have hval : c.toNat = c.val.toNat := rfl
  have hspelt : isWordChar c = (decide (c.val ≥ 65 ∧ c.val ≤ 90) || (c.val ≥ 97 && c.val ≤ 122) ||
      (c.val ≥ 48 && c.val ≤ 57) || c == '_' || c == '-') := rfl
  have hcolon : c = ':' → c.val.toNat = 58 := fun h => h ▸ rfl
  simp only [hspelt, Bool.or_eq_true, Bool.and_eq_true, decide_eq_true_eq, ge_iff_le,
    UInt32.le_iff_toNat_le, beq_iff_eq] at hc
  rw [hval]
  rcases hc with (((⟨h, h'⟩ | ⟨h, h'⟩) | ⟨h, h'⟩) | rfl) | rfl
  · exact ⟨Nat.le_trans (by decide) h, Nat.le_trans h' (by decide), fun heq => by
      rw [hcolon heq] at h
      exact absurd h (by decide)⟩
  · exact ⟨Nat.le_trans (by decide) h, h', fun heq => by
      rw [hcolon heq] at h
      exact absurd h (by decide)⟩
  · exact ⟨Nat.le_trans (by decide) h, Nat.le_trans h' (by decide), fun heq => by
      rw [hcolon heq] at h'
      exact absurd h' (by decide)⟩
  · decide
  · decide

theorem isPlain_of_words (h : ∀ c ∈ text.toList, isWordChar c = true) :
    Text.isPlain text = true := by
  rw [Text.isPlain_iff]
  intro c hc
  obtain ⟨hlow, hhigh, -⟩ := isWordChar_bounds (h c hc)
  exact ⟨hlow, hhigh⟩

theorem isStage_iff : isStage stage = true ↔
    (∀ c ∈ stage.toList, isWordChar c = true) ∧ 1 ≤ stage.toList.length ∧
      stage.toList.length ≤ 64 := by
  rw [isStage, Bool.and_eq_true, Bool.and_eq_true, List.all_eq_true, decide_eq_true_eq,
    decide_eq_true_eq, and_assoc]
  rfl

theorem normalizeOptionalStage_of_isStage (h : isStage stage = true)
    (label : String) : normalizeOptionalStage (some stage) label = .ok (some stage) := by
  obtain ⟨hwords, -, hlength⟩ := isStage_iff.mp h
  have hrequired : normalizeRequiredString stage label 64 = .ok stage :=
    normalizeRequiredString_of_isPlain (isPlain_of_words hwords) (isStage_ne_empty h) hlength
  have hstage : normalizeStage stage label = .ok stage := by
    rw [normalizeStage, hrequired]
    simp [refuseIf, h, bind, Except.bind, pure, Except.pure]
  rw [normalizeOptionalStage, isStage_truthy h]
  dsimp only
  rw [hstage]
  rfl

/-! ## Ids -/

/-- The form of `crypto.randomUUID()`, as far as keys rest on it: no more than 36 letters, digits
and dashes. -/
structure IsUUID (text : String) : Prop where
  words : ∀ c ∈ text.toList, isWordChar c = true
  length : text.toList.length ≤ 36

/-- The ids of a state are plain and short. -/
def WorkPlatform.DrawsUUIDs (platform : WorkPlatform) (drawn : Nat) : Prop :=
  ∀ n < drawn, IsUUID (platform.randomUUID n)

section Ids

variable {platform : WorkPlatform} {drawn : Nat} {id id' : String}
  (huuids : platform.DrawsUUIDs drawn) (hid : platform.Drawn "task_" drawn id)
include huuids hid

theorem drawn_words : (∀ c ∈ id.toList, isWordChar c = true) ∧ id ≠ "" ∧ id.toList.length ≤ 41 := by
  obtain ⟨n, hn, rfl⟩ := hid
  have huuid := huuids n hn
  rw [String.toList_append]
  refine ⟨fun c hc => ?_, ?_, ?_⟩
  · rcases List.mem_append.mp hc with hc | hc
    · have hhead : "task_".toList.all isWordChar = true := by decide
      exact List.all_eq_true.mp hhead c hc
    · exact huuid.words c hc
  · intro hempty
    have hlist := congrArg String.toList hempty
    rw [String.toList_append] at hlist
    exact absurd (List.append_eq_nil_iff.mp hlist).1 (by decide)
  · have := huuid.length
    rw [List.length_append]
    simp
    omega

theorem normalizeOptionalString_drawn : normalizeOptionalString (some id) 120 = some id := by
  obtain ⟨hwords, hne, _⟩ := drawn_words huuids hid
  exact normalizeOptionalString_of_isPlain (isPlain_of_words hwords) hne (by omega)

theorem manualGateKey_drawn (manualGate : ManualGate) :
    manualGateKey id manualGate = some ("manual:" ++ id ++ ":" ++ manualGate.text) := by
  obtain ⟨hwords, -, _⟩ := drawn_words huuids hid
  have hgate : Text.isPlain manualGate.text = true ∧ manualGate.text.toList.length ≤ 20 := by
    cases manualGate <;> decide
  apply normalizeOptionalString_of_isPlain
  · rw [Text.isPlain_append, Text.isPlain_append, Text.isPlain_append, isPlain_of_words hwords,
      hgate.1]
    decide
  · intro hempty
    have hlist := congrArg String.toList hempty
    simp at hlist
  · simp only [String.toList_append, List.length_append]
    have : "manual:".toList.length = 7 := by decide
    have : ":".toList.length = 1 := by decide
    omega

theorem manualGateKey_injective (hid' : platform.Drawn "task_" drawn id')
    {manualGate manualGate' : ManualGate}
    (h : manualGateKey id manualGate = manualGateKey id' manualGate') :
    id = id' ∧ manualGate = manualGate' := by
  rw [manualGateKey_drawn huuids hid, manualGateKey_drawn huuids hid'] at h
  have hcolon : ∀ {id}, platform.Drawn "task_" drawn id → ':' ∉ id.toList := by
    intro id hid hmem
    exact (isWordChar_bounds ((drawn_words huuids hid).1 _ hmem)).2.2 rfl
  have hlist := congrArg String.toList (Option.some.inj h)
  simp only [String.toList_append, List.append_assoc] at hlist
  have hparts : id.toList = id'.toList ∧ manualGate.text.toList = manualGate'.text.toList :=
    Text.append_separator_inj (hcolon hid) (hcolon hid') (List.append_cancel_left hlist)
  refine ⟨String.toList_inj.mp hparts.1, ?_⟩
  have htext : manualGate.text = manualGate'.text := String.toList_inj.mp hparts.2
  cases manualGate <;> cases manualGate' <;> first | rfl | exact absurd htext (by decide)

end Ids

end OpenCowork.Gateway
