import Mathlib.Data.List.DropRight
import OpenCowork.Foundation.Text

/-! # Checked text

Text that passed a check when it was read: text that is more than white space, and text
that was trimmed. Checking it again changes nothing.
-/

namespace OpenCowork.Foundation

namespace Text

variable (chars : List Char) (text : String)

theorem trimChars_eq :
    trimChars chars = (chars.dropWhile isWhiteSpace).rdropWhile isWhiteSpace := rfl

theorem trimChars_eq_nil_iff : trimChars chars = [] ↔ ∀ c ∈ chars, isWhiteSpace c = true := by
  rw [trimChars_eq, List.rdropWhile_eq_nil_iff, ← List.dropWhile_eq_nil_iff,
    ← List.dropWhile_eq_nil_iff, List.dropWhile_idempotent]

theorem trimChars_trimChars : trimChars (trimChars chars) = trimChars chars := by
  rw [trimChars_eq, trimChars_eq]
  generalize hfront : chars.dropWhile isWhiteSpace = front
  -- what is left in front starts with no white space, and so does every prefix of it
  have hkept : (front.rdropWhile isWhiteSpace).dropWhile isWhiteSpace =
      front.rdropWhile isWhiteSpace := by
    have hself : front.dropWhile isWhiteSpace = front := by
      rw [← hfront, List.dropWhile_idempotent]
    rw [List.dropWhile_eq_self_iff] at hself ⊢
    intro hlength
    have hprefix := List.rdropWhile_prefix isWhiteSpace front
    rw [List.IsPrefix.getElem hprefix hlength]
    exact hself (hlength.trans_le hprefix.length_le)
  rw [hkept, List.rdropWhile_idempotent]

theorem trim_trim : trim (trim text) = trim text := by
  rw [trim, trim, String.toList_ofList, trimChars_trimChars]

theorem isBlank_iff_trim : isBlank text = true ↔ trim text = "" := by
  rw [isBlank, List.all_eq_true, ← trimChars_eq_nil_iff, trim, ← String.ofList_nil,
    String.ofList_inj]

theorem isBlank_trim : isBlank (trim text) = isBlank text := by
  rw [Bool.eq_iff_iff, isBlank_iff_trim, isBlank_iff_trim, trim_trim]

theorem isBlank_of_mem {text : String} {c : Char} (hmem : c ∈ text.toList)
    (hc : isWhiteSpace c = false) : isBlank text = false := by
  rw [isBlank, List.all_eq_false]
  exact ⟨c, hmem, by rw [hc]; exact Bool.false_ne_true⟩

/-- The characters that `encodeURIComponent` leaves alone. -/
def isUnreserved (c : Char) : Bool :=
  ('a' ≤ c && c ≤ 'z') || ('A' ≤ c && c ≤ 'Z') || ('0' ≤ c && c ≤ '9') ||
    c ∈ ['-', '_', '.', '!', '~', '*', '\'', '(', ')']

def hexDigit (n : Nat) : Char := if n < 10 then Char.ofNat (48 + n) else Char.ofNat (55 + n)

def escapeByte (byte : UInt8) : List Char :=
  ['%', hexDigit (byte.toNat / 16), hexDigit (byte.toNat % 16)]

/-- Each character that is not left alone becomes its escaped bytes. -/
def encodeURIComponent : String :=
  String.ofList (text.toList.flatMap fun c =>
    if isUnreserved c then [c] else (String.utf8EncodeChar c).flatMap escapeByte)

end Text

/-- Text that is more than white space. -/
abbrev NonBlank := { text : String // Text.isBlank text = false }

/-- Trimmed text that is not empty. -/
abbrev Trimmed := { text : String // Text.trim text = text ∧ Text.isBlank text = false }

namespace NonBlank

/-- The check `text.trim() ? text : null`. -/
def check (text : String) : Option NonBlank :=
  if h : Text.isBlank text = false then some ⟨text, h⟩ else none

@[simp] theorem check_val (text : NonBlank) : check text.val = some text := dif_pos text.property

theorem check_eq_none {text : String} (hblank : Text.isBlank text = true) : check text = none :=
  dif_neg (by rw [hblank]; exact Bool.noConfusion)

end NonBlank

namespace Trimmed

/-- The check `text.trim() ? text.trim() : null`. -/
def check (text : String) : Option Trimmed :=
  if h : Text.isBlank text = false then
    some ⟨Text.trim text, Text.trim_trim text, (Text.isBlank_trim text).trans h⟩
  else none

@[simp] theorem check_val (text : Trimmed) : check text.val = some text := by
  rw [check, dif_pos text.property.2]
  exact congrArg some (Subtype.ext text.property.1)

theorem check_eq_some_iff {text : String} (found : Trimmed) :
    check text = some found ↔ Text.isBlank text = false ∧ Text.trim text = found.val := by
  unfold check
  split
  next h => simp [h, Subtype.ext_iff]
  next h => simp [h]

end Trimmed

end OpenCowork.Foundation
