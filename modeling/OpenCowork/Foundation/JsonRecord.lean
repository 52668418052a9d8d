import OpenCowork.Foundation.CheckedText
import OpenCowork.Foundation.Json

/-! # Records in JSON

Reading the fields of a record that may be anything, and writing records whose optional
fields are left out. What was written is read back.
-/

namespace OpenCowork.Foundation

/-- A property of an object: missing, there without a value, or there with one. -/
inductive Own (α : Type*) where
  | absent
  | undefined
  | value (content : α)
  deriving DecidableEq

namespace Own

variable {α : Type*}

def toOption : Own α → Option α
  | value content => some content
  | _ => none

/-- A property that is always there. -/
def ofOption : Option α → Own α
  | some content => value content
  | none => undefined

def map {β : Type*} (change : α → β) : Own α → Own β
  | absent => absent
  | undefined => undefined
  | value content => value (change content)

/-- Copying an object through its text drops what has no value. -/
def clone : Own α → Own α
  | undefined => absent
  | own => own

/-- The property after `{ ...entry, ...incoming }`. -/
def spread (entry incoming : Own α) : Own α :=
  match incoming with
  | absent => entry
  | own => own

@[simp] theorem toOption_ofOption (content : Option α) : (ofOption content).toOption = content := by
  cases content <;> rfl

@[simp] theorem toOption_clone (own : Own α) : own.clone.toOption = own.toOption := by
  cases own <;> rfl

theorem clone_clone (own : Own α) : own.clone.clone = own.clone := by
  cases own <;> rfl

theorem clone_ofOption_toOption (own : Own α) : (ofOption own.toOption).clone = own.clone := by
  cases own <;> rfl

@[simp] theorem spread_ofOption (entry : Own α) (content : Option α) :
    entry.spread (ofOption content) = ofOption content := by
  cases content <;> rfl

@[simp] theorem spread_absent (entry : Own α) : entry.spread absent = entry := rfl

end Own

namespace Json

def presentEntries (entries : List (String × Option Json)) : List (String × Json) :=
  entries.filterMap fun entry => entry.2.map fun value => (entry.1, value)

/-- An object of the entries that are there. -/
def record (entries : List (String × Option Json)) : Json := .obj (presentEntries entries)

def findEntry (key : String) : List (String × Option Json) → Option Json
  | [] => none
  | (other, value) :: rest =>
    if other = key then value.or (findEntry key rest) else findEntry key rest

theorem findField_presentEntries (key : String) (entries : List (String × Option Json)) :
    findField key (presentEntries entries) = findEntry key entries := by
  induction entries with
  | nil => rfl
  | cons entry _ ih =>
    obtain ⟨_, value⟩ := entry
    rw [findEntry, ← ih]
    cases value with
    | none => simp [presentEntries]
    | some => simp [presentEntries, findField]

/-- The fields of a record; anything but an object has none. -/
def asRecord : Option Json → List (String × Json)
  | some (.obj fields) => fields
  | _ => []

@[simp] theorem asRecord_obj (fields : List (String × Json)) :
    asRecord (some (.obj fields)) = fields := rfl

@[simp] theorem findField_record (key : String) (entries : List (String × Option Json)) :
    findField key (asRecord (some (record entries))) = findEntry key entries :=
  findField_presentEntries key entries

@[simp] theorem field?_record (key : String) (entries : List (String × Option Json)) :
    (record entries).field? key = findEntry key entries :=
  findField_presentEntries key entries

/-- Text that is more than white space. -/
def readText : Option Json → Option NonBlank
  | some (.str text) => NonBlank.check text
  | _ => none

def readTrimmed : Option Json → Option Trimmed
  | some (.str text) => Trimmed.check text
  | _ => none

/-- Any text, also white space. -/
def readRaw : Option Json → Option String
  | some (.str text) => some text
  | _ => none

def readNumber : Option Json → Option ℚ
  | some (.num value) => some value
  | _ => none

def readBool : Option Json → Option Bool
  | some (.bool value) => some value
  | _ => none

def readArray : Option Json → Option (List Json)
  | some (.arr items) => some items
  | _ => none

def readItems {α : Type*} (read : Json → Option α) (value : Option Json) : List α :=
  ((readArray value).getD []).filterMap read

def readOneOf {α : Type*} (all : List α) (name : α → String) : Option Json → Option α
  | some (.str text) => all.find? fun value => decide (name value = text)
  | _ => none

/-- Text that may be empty. -/
def text (value : Option NonBlank) : Json := .str ((value.map Subtype.val).getD "")

def nullable {α : Type*} (encode : α → Json) (value : Option α) : Json :=
  (value.map encode).getD .null

def checked {p : String → Prop} (text : Subtype p) : Json := .str text.val

def trimmed (value : Option Trimmed) : Json := nullable checked value

theorem readText_eq (text : String) : readText (some (.str text)) = NonBlank.check text := rfl

@[simp] theorem readText_str (text : NonBlank) : readText (some (.str text.val)) = some text :=
  NonBlank.check_val text

@[simp] theorem readText_text (value : Option NonBlank) : readText (some (text value)) = value := by
  cases value with
  | none => rfl
  | some found => exact NonBlank.check_val found

@[simp] theorem readText_none : readText none = none := rfl

@[simp] theorem readTrimmed_none : readTrimmed none = none := rfl

@[simp] theorem readTrimmed_trimmed (value : Option Trimmed) :
    readTrimmed (some (trimmed value)) = value := by
  cases value with
  | none => rfl
  | some found => exact Trimmed.check_val found

@[simp] theorem readTrimmed_map_checked (value : Option Trimmed) :
    readTrimmed (value.map checked) = value := by
  cases value with
  | none => rfl
  | some found => exact Trimmed.check_val found

@[simp] theorem readNumber_num (value : ℚ) : readNumber (some (.num value)) = some value := rfl

@[simp] theorem readNumber_map_num (value : Option ℚ) : readNumber (value.map .num) = value := by
  cases value <;> rfl

@[simp] theorem readNumber_none : readNumber none = none := rfl

@[simp] theorem readBool_bool (value : Bool) : readBool (some (.bool value)) = some value := rfl

@[simp] theorem readArray_arr (items : List Json) : readArray (some (.arr items)) = some items :=
    rfl

@[simp] theorem readArray_map_arr (items : Option (List Json)) :
    readArray (items.map .arr) = items := by
  cases items <;> rfl

variable {α : Type*}

theorem readItems_encoded_map_iff {β : Type*} (read : Json → Option α) (encode : α → Json)
    (view : α → β) (items : List α) :
    (readItems read (some (.arr (items.map encode)))).map view = items.map view ↔
      ∀ item ∈ items, (read (encode item)).map view = some (view item) := by
  change ((items.map encode).filterMap read).map view = _ ↔ _
  rw [List.filterMap_map]
  induction items with
  | nil => simp
  | cons item rest ih =>
    rw [List.forall_mem_cons, ← ih]
    cases hread : read (encode item) with
    | none =>
      -- an item that is dropped leaves too few
      have hlength := List.length_filterMap_le (read ∘ encode) rest
      have hshort : ((item :: rest).filterMap (read ∘ encode)).map view ≠
          (item :: rest).map view := by
        intro h
        have hsame := congrArg List.length h
        rw [List.filterMap_cons_none (by exact hread), List.length_map, List.length_map,
          List.length_cons] at hsame
        omega
      exact iff_of_false hshort fun h => absurd h.1 (by simp)
    | some =>
      rw [List.filterMap_cons_some (by exact hread), List.map_cons, List.map_cons,
        List.cons.injEq, Option.map_some, Option.some.injEq]

theorem readItems_encoded_iff (read : Json → Option α) (encode : α → Json) (items : List α) :
    readItems read (some (.arr (items.map encode))) = items ↔
      ∀ item ∈ items, read (encode item) = some item := by
  simpa using readItems_encoded_map_iff read encode id items

theorem readItems_encoded {read : Json → Option α} {encode : α → Json}
    (hread : ∀ item, read (encode item) = some item) (items : List α) :
    readItems read (some (.arr (items.map encode))) = items :=
  (readItems_encoded_iff read encode items).mpr fun item _ => hread item

@[simp] theorem readItems_none (read : Json → Option α) : readItems read none = [] :=
    rfl

end Json

end OpenCowork.Foundation
