import Mathlib.Algebra.Ring.Nat
import OpenCowork.Foundation.Text

/-! # Paths as text

The names that a directory can hold, and the texts that spell out a path: the names on
it joined by slashes.
-/

namespace OpenCowork.Foundation

/-- Bytes are compared one by one, whatever else is imported. -/
instance byteArrayDecidableEq : DecidableEq ByteArray := fun left right =>
  decidable_of_iff (left.data = right.data) ⟨ByteArray.ext, fun h => h ▸ rfl⟩

/-- A legal file name: bytes without slash and NUL, apart from the names of the directory
itself and of the one above it. -/
structure FileName where
  bytes : ByteArray
  nonempty : bytes ≠ "".toUTF8
  noSlash : 0x2F ∉ bytes.data.toList
  noNul : 0x00 ∉ bytes.data.toList
  ne_dot : bytes ≠ ".".toUTF8
  ne_dotDot : bytes ≠ "..".toUTF8
  deriving DecidableEq

def FileName.spelt (text : String) (hlegal : text.toUTF8 ≠ "".toUTF8 ∧
    0x2F ∉ text.toUTF8.data.toList ∧ 0x00 ∉ text.toUTF8.data.toList ∧
    text.toUTF8 ≠ ".".toUTF8 ∧ text.toUTF8 ≠ "..".toUTF8) : FileName :=
  ⟨text.toUTF8, hlegal.1, hlegal.2.1, hlegal.2.2.1, hlegal.2.2.2.1, hlegal.2.2.2.2⟩

theorem FileName.bytes_injective {left right : FileName} (h : left.bytes = right.bytes) :
    left = right := by
  cases left
  cases right
  cases h
  rfl

theorem FileName.slash_not_mem {name : FileName} {text : String}
    (hname : name.bytes = text.toUTF8) : '/' ∉ text.toList := by
  intro hmem
  obtain ⟨before, after, htext⟩ := List.append_of_mem hmem
  have hsplit : text = String.ofList before ++ "/" ++ String.ofList after := by
    apply String.toList_inj.mp
    simp [htext]
  apply name.noSlash
  rw [hname, hsplit, String.toUTF8_eq_toByteArray, String.toByteArray_append,
    String.toByteArray_append, ByteArray.data_append, ByteArray.data_append, Array.toList_append,
    Array.toList_append]
  exact List.mem_append_left _ (List.mem_append_right _ (by decide))

namespace Text

variable (text : String) {parts : List String} {c : Char}

/-- `text.split('/')`. -/
def segments : List String := (text.toList.splitOn '/').map String.ofList

/-- `parts.join('/')`. -/
def joinPath (parts : List String) : String := String.intercalate "/" parts

theorem toList_joinPath (parts : List String) :
    (joinPath parts).toList = ['/'].intercalate (parts.map String.toList) :=
  String.toList_intercalate

/-- `text.replace(/\\/g, '/')`. -/
def slashed : String := String.ofList (text.toList.map fun c => if c = '\\' then '/' else c)

theorem joinPath_segments : joinPath (segments text) = text := by
  have hparts : (segments text).map String.toList = text.toList.splitOn '/' := by
    rw [segments, List.map_map, List.map_congr_left (g := id), List.map_id]
    exact fun _ _ => String.toList_ofList
  apply String.toList_inj.mp
  rw [toList_joinPath, hparts, List.intercalate_splitOn]

theorem segments_joinPath (hparts : parts ≠ [])
    (hslash : ∀ part ∈ parts, '/' ∉ part.toList) : segments (joinPath parts) = parts := by
  rw [segments, toList_joinPath, List.splitOn_intercalate, List.map_map,
    List.map_congr_left (g := id), List.map_id]
  · exact fun part _ => String.ofList_toList
  · intro _ hmem
    obtain ⟨part, hpart, rfl⟩ := List.mem_map.mp hmem
    exact hslash part hpart
  · rw [Ne, List.map_eq_nil_iff]
    exact hparts

theorem mem_of_mem_segments {text part : String} (hpart : part ∈ segments text)
    (hc : c ∈ part.toList) : c ∈ text.toList := by
  rw [← joinPath_segments text, toList_joinPath]
  generalize hparts : (segments text).map String.toList = parts
  have hmem : part.toList ∈ parts := hparts ▸ List.mem_map_of_mem hpart
  clear hparts
  induction parts with
  | nil => exact absurd hmem List.not_mem_nil
  | cons _ rest ih =>
    cases rest with
    | nil =>
      rw [List.mem_singleton.mp hmem] at hc
      simpa using hc
    | cons =>
      rw [List.intercalate_cons_cons]
      rcases List.mem_cons.mp hmem with heq | hmem
      · rw [heq] at hc
        exact List.mem_append_left _ (List.mem_append_left _ hc)
      · exact List.mem_append_right _ (ih hmem)

theorem backslash_not_mem_slashed : '\\' ∉ (slashed text).toList := by
  rw [slashed, String.toList_ofList, List.mem_map]
  rintro ⟨_, _, hc⟩
  split at hc
  · exact absurd hc (by decide)
  next hne => exact hne hc

theorem slashed_of_not_mem {text : String} (hbackslash : '\\' ∉ text.toList) :
    slashed text = text := by
  rw [slashed, List.map_congr_left (g := id), List.map_id, String.ofList_toList]
  intro _ hc
  apply if_neg
  rintro rfl
  exact hbackslash hc

theorem slashed_slashed : slashed (slashed text) = slashed text :=
  slashed_of_not_mem (backslash_not_mem_slashed text)

theorem mem_intercalate {α : Type*} {separator item : α} {parts : List (List α)}
    (h : item ∈ [separator].intercalate parts) :
    item = separator ∨ ∃ part ∈ parts, item ∈ part := by
  induction parts with
  | nil => exact absurd h List.not_mem_nil
  | cons first rest ih =>
    cases rest with
    | nil => exact .inr ⟨first, .head _, by simpa using h⟩
    | cons =>
      rw [List.intercalate_cons_cons, List.mem_append, List.mem_append] at h
      rcases h with (hfirst | hseparator) | hrest
      · exact .inr ⟨first, .head _, hfirst⟩
      · exact .inl (List.mem_singleton.mp hseparator)
      · rcases ih hrest with hseparator | ⟨part, hpart, hitem⟩
        · exact .inl hseparator
        · exact .inr ⟨part, .tail _ hpart, hitem⟩

theorem mem_joinPath (hc : c ∈ (joinPath parts).toList) :
    c = '/' ∨ ∃ part ∈ parts, c ∈ part.toList := by
  rw [toList_joinPath] at hc
  rcases mem_intercalate hc with hslash | ⟨_, hchars, hc⟩
  · exact .inl hslash
  · obtain ⟨part, hpart, rfl⟩ := List.mem_map.mp hchars
    exact .inr ⟨part, hpart, hc⟩

theorem backslash_not_mem_joinPath
    (hparts : ∀ part ∈ parts, '\\' ∉ part.toList) : '\\' ∉ (joinPath parts).toList := by
  intro hmem
  rcases mem_joinPath hmem with hslash | ⟨part, hpart, hmem⟩
  · exact absurd hslash (by decide)
  · exact hparts part hpart hmem

end Text

end OpenCowork.Foundation
