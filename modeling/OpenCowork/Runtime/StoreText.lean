import OpenCowork.Foundation.Checks
import OpenCowork.Foundation.Json
import OpenCowork.Foundation.Text

/-! # Texts that a store reads

The checks that the local stores make of the texts they are given. A value of type
`Option Json` is one whose type the store checks itself, `none` is `undefined`.
-/

namespace OpenCowork.Runtime

open OpenCowork.Foundation

variable (value : Option Json) (label : String) (maxBytes : Nat)

/-- `value || fallback` of a text that may be missing. -/
def orText (value : Option String) (fallback : String) : String :=
  match value with
  | some text => if text = "" then fallback else text
  | none => fallback

def localWorkspaceId : String := "local"

def readWorkspaceId (value : Option String) : String :=
  orText (value.map Text.trim) localWorkspaceId

def optionalString :
    Except String (Option String) :=
  match value with
  | none => .ok none
  | some .null => .ok none
  | some (.str text) =>
    if Text.trim text = "" then .ok none
    else if (Text.trim text).utf8ByteSize > maxBytes then .error (label ++ " is too large.")
    else .ok (some (Text.trim text))
  | some _ => .error (label ++ " must be a string.")

def requiredString :
    Except String String := do
  let text ← optionalString value label maxBytes
  orThrow text (label ++ " is required.")

/-- A field that stays as it is when it is `undefined`. -/
def updated {α : Type} (value : Option Json) (existing : α)
    (check : Option Json → Except String α) : Except String α :=
  match value with
  | none => .ok existing
  | some given => check (some given)

end OpenCowork.Runtime
