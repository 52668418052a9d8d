import OpenCowork.Foundation.JsonRecord

/-! # Inline attachments of cloud tool calls

A tool call carries inline files as data URLs. What may be kept of them is decided by a
normalization that bounds their number and size and drops repetitions; normalizing what was
kept changes nothing.
-/

namespace OpenCowork.Projection

open Foundation

variable {chars : List Char} {budget : Nat}

def RUNTIME_EVENT_MAX_COLLECTION_ENTRIES : Nat := 256

def CLOUD_TOOL_ATTACHMENT_MAX_DATA_URL_BYTES : Nat := 8 * 1024 * 1024 / 2

def CLOUD_TOOL_ATTACHMENT_MAX_FILENAME_BYTES : Nat := 128

structure MessageAttachment where
  (mime url : String)
  filename : Option String
  deriving DecidableEq

def MessageAttachment.encode (attachment : MessageAttachment) : Json :=
  Json.record
    [("mime", some (.str attachment.mime)), ("url", some (.str attachment.url)),
      ("filename", attachment.filename.map .str)]

/-! ## Text of ASCII letters -/

/-- Lower case, as far as letters of ASCII come out: of the other characters only the
Kelvin sign becomes one of them. -/
def lowerCase (c : Char) : Char := if c = '\u212A' then 'k' else c.toLower

theorem toLower_toLower (c : Char) : c.toLower.toLower = c.toLower := by
  unfold Char.toLower
  split
  next h =>
    rw [dif_neg]
    rintro ⟨-, hle⟩
    have hlow := h.1
    have hhigh := h.2
    simp only [ge_iff_le, UInt32.le_iff_toNat_le] at hlow hhigh hle
    have hshift : ('a'.val - 'A'.val).toNat = 32 := by decide
    have hA : ('A'.val).toNat = 65 := by decide
    have hZ : ('Z'.val).toNat = 90 := by decide
    have hsum : (c.val + ('a'.val - 'A'.val)).toNat = c.val.toNat + 32 := by
      rw [UInt32.toNat_add, hshift]
      omega
    omega
  · rfl

theorem lowerCase_lowerCase (c : Char) : lowerCase (lowerCase c) = lowerCase c := by
  unfold lowerCase
  by_cases hkelvin : c = '\u212A'
  · rw [if_pos hkelvin]
    decide
  · rw [if_neg hkelvin]
    split
    next h =>
      -- no other character has the Kelvin sign as its lower case
      exfalso
      unfold Char.toLower at h
      split at h
      next hrange =>
        have hval := congrArg (fun c : Char => c.val.toNat) h
        have hlow := hrange.1
        have hhigh := hrange.2
        simp only [ge_iff_le, UInt32.le_iff_toNat_le] at hlow hhigh
        have hshift : ('a'.val - 'A'.val).toNat = 32 := by decide
        have hZ : ('Z'.val).toNat = 90 := by decide
        have hK : ('\u212A'.val).toNat = 8490 := by decide
        simp only [UInt32.toNat_add, hshift, hK] at hval
        omega
      · exact hkelvin h
    · exact toLower_toLower c

def toLowerCase (text : String) : String := String.ofList (text.toList.map lowerCase)

theorem toLowerCase_toLowerCase (text : String) :
    toLowerCase (toLowerCase text) = toLowerCase text := by
  rw [toLowerCase, toLowerCase, String.toList_ofList, List.map_map]
  refine congrArg String.ofList (List.map_congr_left fun c _ => lowerCase_lowerCase c)

/-! ## Data URLs -/

def isLetterOrDigit (c : Char) : Bool :=
  ('a' ≤ c && c ≤ 'z') || ('A' ≤ c && c ≤ 'Z') || ('0' ≤ c && c ≤ '9')

def isTypeCharacter (c : Char) : Bool := isLetterOrDigit c || c == '.' || c == '+' || c == '-'

def isBase64Character (c : Char) : Bool := isLetterOrDigit c || c == '+' || c == '/'

def dropPrefixIgnoringCase : List Char → List Char → Option (List Char)
  | [], text => some text
  | _ :: _, [] => none
  | c :: rest, d :: text =>
    if lowerCase d = c ∧ d ≠ '\u212A' then dropPrefixIgnoringCase rest text else none

/-- One half of a media type: a letter or digit, then at most `bound` further characters. -/
def takeType (bound : Nat) (text : List Char) : Option (List Char × List Char) :=
  match text.span isTypeCharacter with
  | (first :: more, rest) =>
    if isLetterOrDigit first ∧ more.length ≤ bound then some (first :: more, rest) else none
  | _ => none

def matchDataUrl (url : List Char) : Option (List Char × List Char) := do
  let afterScheme ← dropPrefixIgnoringCase "data:".toList url
  let (type, afterType) ← takeType 63 afterScheme
  let afterSlash ← dropPrefixIgnoringCase ['/'] afterType
  let (subtype, afterSubtype) ← takeType 127 afterSlash
  let content ← dropPrefixIgnoringCase ";base64,".toList afterSubtype
  let padding := content.dropWhile isBase64Character
  if padding.length ≤ 2 ∧ padding.all (· == '=') then
    some (type ++ '/' :: subtype, content)
  else none

/-! ## File names -/

def lastCodeUnits (bound : Nat) : List Char → List Char
  | [] => []
  | c :: rest =>
    if (List.flatMap Text.charCodeUnits (c :: rest)).length ≤ bound then c :: rest
    else lastCodeUnits bound rest

def isSeparator (c : Char) : Bool := c == '/' || c == '\\'

def isControl (c : Char) : Bool := c.toNat ≤ 0x1F || (0x7F ≤ c.toNat && c.toNat ≤ 0x9F)

def takeBytes : Nat → List Char → List Char
  | _, [] => []
  | budget, c :: rest =>
    if isControl c then takeBytes budget rest
    else if budget < c.utf8Size then []
    else c :: takeBytes (budget - c.utf8Size) rest

def cloudToolAttachmentFilename (value : String) : Option String :=
  let tail := lastCodeUnits 4096 value.toList
  let basename := tail.rtakeWhile fun c => !isSeparator c
  let normalized := Text.trimChars (takeBytes CLOUD_TOOL_ATTACHMENT_MAX_FILENAME_BYTES basename)
  if normalized = [] ∨ normalized = ['.'] ∨ normalized = ['.', '.'] then none
  else some (String.ofList normalized)

/-! ## Attachments -/

def cloudToolAttachment (value : Json) : Option MessageAttachment := do
  let record := Json.asRecord (some value)
  let mime ← Json.readText (Json.findField "mime" record)
  let url ← (Json.readText (Json.findField "url" record)).or
    (Json.readText (Json.findField "uri" record))
  if CLOUD_TOOL_ATTACHMENT_MAX_DATA_URL_BYTES < (Text.codeUnits url.val).length then none
  else
    let (type, content) ← matchDataUrl url.val.toList
    if type.map lowerCase ≠ mime.val.toList.map lowerCase ∨ content = [] ∨
        content.length % 4 ≠ 0 then none
    else
      let rawFilename := (Json.readText (Json.findField "filename" record)).or
        (Json.readText (Json.findField "name" record))
      some
        { mime := toLowerCase mime.val
          url := url.val
          filename := rawFilename.bind fun name => cloudToolAttachmentFilename name.val }

/-- What tells attachments apart. -/
def MessageAttachment.key (attachment : MessageAttachment) : String :=
  attachment.url ++ "\x00" ++ attachment.mime ++ "\x00" ++ attachment.filename.getD ""

/-- The candidates in order: repetitions are passed over, and the first one that takes up
too much ends the list. -/
def collectAttachments : List String → Nat → List Json → List MessageAttachment
  | _, _, [] => []
  | seen, totalBytes, candidate :: rest =>
    match cloudToolAttachment candidate with
    | none => collectAttachments seen totalBytes rest
    | some attachment =>
      if attachment.key ∈ seen then collectAttachments seen totalBytes rest
      else if CLOUD_TOOL_ATTACHMENT_MAX_DATA_URL_BYTES <
          totalBytes + (Text.codeUnits attachment.url).length then []
      else
        attachment :: collectAttachments (attachment.key :: seen)
          (totalBytes + (Text.codeUnits attachment.url).length) rest

def normalizeCloudToolAttachments (value : Option Json) : List MessageAttachment :=
  collectAttachments [] 0
    (((Json.readArray value).getD []).take RUNTIME_EVENT_MAX_COLLECTION_ENTRIES)

/-! ## Normalizing twice -/

theorem mem_takeBytes {c : Char}
    (hmem : c ∈ takeBytes budget chars) : c ∈ chars ∧ isControl c = false := by
  induction chars generalizing budget with
  | nil => exact absurd hmem List.not_mem_nil
  | cons d _ ih =>
    rw [takeBytes] at hmem
    split at hmem
    · exact (ih hmem).imp_left (List.mem_cons_of_mem d)
    next hcontrol =>
      split at hmem
      · exact absurd hmem List.not_mem_nil
      · rcases List.mem_cons.mp hmem with rfl | hrest
        · exact ⟨.head _, by simpa using hcontrol⟩
        · exact (ih hrest).imp_left (List.mem_cons_of_mem d)

def byteCount : List Char → Nat
  | [] => 0
  | c :: rest => c.utf8Size + byteCount rest

theorem byteCount_takeBytes (budget : Nat) (chars : List Char) :
    byteCount (takeBytes budget chars) ≤ budget := by
  induction chars generalizing budget with
  | nil => exact Nat.zero_le _
  | cons c _ ih =>
    rw [takeBytes]
    split
    · exact ih budget
    · split
      · exact Nat.zero_le _
      next _ =>
        have hrest := ih (budget - c.utf8Size)
        rw [byteCount]
        omega

theorem takeBytes_eq_self (hfits : byteCount chars ≤ budget)
    (hplain : ∀ c ∈ chars, isControl c = false) : takeBytes budget chars = chars := by
  induction chars generalizing budget with
  | nil => rfl
  | cons _ _ ih =>
    obtain ⟨hc, hrest⟩ := List.forall_mem_cons.mp hplain
    rw [byteCount] at hfits
    rw [takeBytes, hc, if_neg Bool.false_ne_true, if_neg (by omega), ih (by omega) hrest]

theorem byteCount_le_of_sublist {some all : List Char} (hsublist : some.Sublist all) :
    byteCount some ≤ byteCount all := by
  induction hsublist with
  | slnil => exact le_rfl
  | cons =>
    rw [byteCount]
    omega
  | cons_cons =>
    rw [byteCount, byteCount]
    omega

theorem codeUnits_length_le (chars : List Char) :
    (chars.flatMap Text.charCodeUnits).length ≤ byteCount chars := by
  induction chars with
  | nil => exact Nat.zero_le _
  | cons c =>
    have hc : (Text.charCodeUnits c).length ≤ c.utf8Size := by
      unfold Text.charCodeUnits
      split
      · exact c.utf8Size_pos
      next hbig =>
        have hfour : c.utf8Size = 4 := by
          have hval : ¬ c.val.toNat < 0x10000 := hbig
          unfold Char.utf8Size
          simp only [UInt32.le_iff_toNat_le, UInt32.toNat_ofNatLT]
          rw [if_neg (by omega), if_neg (by omega), if_neg (by omega)]
        rw [hfour]
        simp
    rw [List.flatMap_cons, List.length_append, byteCount]
    omega

theorem lastCodeUnits_eq_self {bound : Nat}
    (hfits : (chars.flatMap Text.charCodeUnits).length ≤ bound) :
    lastCodeUnits bound chars = chars := by
  cases chars with
  | nil => rfl
  | cons => exact if_pos hfits

theorem trimChars_sublist (chars : List Char) : (Text.trimChars chars).Sublist chars :=
  (List.rdropWhile_prefix _ _).sublist.trans (List.dropWhile_suffix _).sublist

theorem cloudToolAttachmentFilename_again {value filename : String}
    (hname : cloudToolAttachmentFilename value = some filename) :
    Text.isBlank filename = false ∧ cloudToolAttachmentFilename filename = some filename := by
  unfold cloudToolAttachmentFilename at hname
  dsimp only at hname
  generalize hbase : ((lastCodeUnits 4096 value.toList).rtakeWhile fun c => !isSeparator c) =
    basename at hname
  generalize hnormalized :
    Text.trimChars (takeBytes CLOUD_TOOL_ATTACHMENT_MAX_FILENAME_BYTES basename) = normalized
    at hname
  split at hname
  · simp at hname
  next hgood =>
  obtain rfl := Option.some.inj hname
  have hsublist : normalized.Sublist
      (takeBytes CLOUD_TOOL_ATTACHMENT_MAX_FILENAME_BYTES basename) :=
    hnormalized ▸ trimChars_sublist _
  have htrimmed : Text.trimChars normalized = normalized := by
    rw [← hnormalized, Text.trimChars_trimChars]
  have hplain : ∀ c ∈ normalized, isControl c = false :=
    fun c hc => (mem_takeBytes (hsublist.subset hc)).2
  have hbasename : ∀ c ∈ normalized, (!isSeparator c) = true := by
    intro c hc
    have hmem := (mem_takeBytes (hsublist.subset hc)).1
    rw [← hbase] at hmem
    have hkept := List.mem_rtakeWhile_imp hmem
    exact hkept
  have hbytes : byteCount normalized ≤ CLOUD_TOOL_ATTACHMENT_MAX_FILENAME_BYTES :=
    (byteCount_le_of_sublist hsublist).trans (byteCount_takeBytes _ _)
  constructor
  · rw [Bool.eq_false_iff]
    intro hblank
    rw [Text.isBlank, String.toList_ofList, List.all_eq_true, ← Text.trimChars_eq_nil_iff,
      htrimmed] at hblank
    exact hgood (.inl hblank)
  · unfold cloudToolAttachmentFilename
    have hunits : (normalized.flatMap Text.charCodeUnits).length ≤ 4096 :=
      (codeUnits_length_le normalized).trans (hbytes.trans (by decide))
    have hsame : (normalized.rtakeWhile fun c => !isSeparator c) = normalized :=
      List.rtakeWhile_eq_self_iff.mpr hbasename
    dsimp only
    rw [String.toList_ofList, lastCodeUnits_eq_self hunits, hsame,
      takeBytes_eq_self hbytes hplain, htrimmed, if_neg hgood]

theorem mem_of_matchDataUrl {url type content : List Char}
    (hmatch : matchDataUrl url = some (type, content)) : '/' ∈ type := by
  simp only [matchDataUrl, Option.bind_eq_bind, Option.bind_eq_some_iff] at hmatch
  obtain ⟨_, _, ⟨_, _⟩, _, _, _, ⟨_, _⟩, _, _, _, hlast⟩ := hmatch
  split at hlast
  · obtain ⟨rfl, -⟩ := Prod.mk.inj (Option.some.inj hlast)
    exact List.mem_append_right _ (.head _)
  · simp at hlast

theorem cloudToolAttachment_again {value : Json} {attachment : MessageAttachment}
    (hattachment : cloudToolAttachment value = some attachment) :
    cloudToolAttachment attachment.encode = some attachment := by
  unfold cloudToolAttachment at hattachment
  simp only [Option.bind_eq_bind, Option.bind_eq_some_iff] at hattachment
  obtain ⟨mime, -, _, -, hurl⟩ := hattachment
  split at hurl
  · simp at hurl
  next hsize =>
  simp only [Option.bind_eq_some_iff] at hurl
  obtain ⟨⟨_, _⟩, hmatch, hkept⟩ := hurl
  split at hkept
  · simp at hkept
  next hgood =>
  obtain rfl := Option.some.inj hkept
  rw [not_or, not_or, not_not, not_not] at hgood
  obtain ⟨htype, hcontent, hlength⟩ := hgood
  have hmime : Text.isBlank (toLowerCase mime.val) = false := by
    refine Text.isBlank_of_mem (c := '/') ?_ (by decide)
    rw [toLowerCase, String.toList_ofList, ← htype]
    exact List.mem_map_of_mem (mem_of_matchDataUrl hmatch)
  have hlower : (toLowerCase mime.val).toList.map lowerCase = mime.val.toList.map lowerCase := by
    rw [toLowerCase, String.toList_ofList, List.map_map]
    exact List.map_congr_left fun c _ => lowerCase_lowerCase c
  -- the name that was found is found again, and no name stays none
  generalize hfound : Option.bind _ (fun name : NonBlank => cloudToolAttachmentFilename name.val) =
    filename
  have hfilename : ((Json.readText (filename.map .str)).bind
      fun name => cloudToolAttachmentFilename name.val) = filename := by
    cases filename with
    | none => rfl
    | some name =>
      obtain ⟨_, -, hraw⟩ := Option.bind_eq_some_iff.mp hfound
      obtain ⟨hblank, hagain⟩ := cloudToolAttachmentFilename_again hraw
      rw [Option.map_some, Json.readText_str ⟨name, hblank⟩]
      exact hagain
  unfold cloudToolAttachment
  simp only [MessageAttachment.encode, Json.findField_record, Json.findEntry, String.reduceEq,
    if_true, if_false, Option.some_or, Option.or_none,
    Json.readText_str ⟨toLowerCase mime.val, hmime⟩, Json.readText_str, Json.readText_none]
  simp only [Option.bind_eq_bind, Option.bind_some, if_neg hsize, hmatch, hlower, hfilename,
    toLowerCase_toLowerCase]
  rw [if_neg]
  rw [not_or, not_or, not_not, not_not]
  exact ⟨htype, hcontent, hlength⟩

def Collected : List String → Nat → List MessageAttachment → Prop
  | _, _, [] => True
  | seen, totalBytes, attachment :: rest =>
    cloudToolAttachment attachment.encode = some attachment ∧ attachment.key ∉ seen ∧
      totalBytes + (Text.codeUnits attachment.url).length ≤
        CLOUD_TOOL_ATTACHMENT_MAX_DATA_URL_BYTES ∧
      Collected (attachment.key :: seen)
        (totalBytes + (Text.codeUnits attachment.url).length) rest

theorem collectAttachments_collected (seen : List String) (totalBytes : Nat)
    (candidates : List Json) :
    Collected seen totalBytes (collectAttachments seen totalBytes candidates) := by
  induction candidates generalizing seen totalBytes with
  | nil => trivial
  | cons _ _ ih =>
    rw [collectAttachments]
    split
    · exact ih seen totalBytes
    next hattachment =>
      split
      · exact ih seen totalBytes
      next hnew =>
        split
        · trivial
        next hfits =>
          exact ⟨cloudToolAttachment_again hattachment, hnew, Nat.le_of_not_lt hfits, ih _ _⟩

theorem Collected.collect {seen : List String} {totalBytes : Nat}
    {attachments : List MessageAttachment} (hcollected : Collected seen totalBytes attachments) :
    collectAttachments seen totalBytes (attachments.map MessageAttachment.encode) =
      attachments := by
  induction attachments generalizing seen totalBytes with
  | nil => rfl
  | cons _ _ ih =>
    obtain ⟨hagain, hnew, hfits, hrest⟩ := hcollected
    rw [List.map_cons, collectAttachments, hagain]
    dsimp only
    rw [if_neg hnew, if_neg (Nat.not_lt_of_le hfits), ih hrest]

theorem collectAttachments_length (seen : List String) (totalBytes : Nat) (candidates : List Json) :
    (collectAttachments seen totalBytes candidates).length ≤ candidates.length := by
  induction candidates generalizing seen totalBytes with
  | nil => exact Nat.zero_le _
  | cons _ _ ih =>
    rw [collectAttachments, List.length_cons]
    split
    · exact (ih _ _).trans (Nat.le_succ _)
    · split
      · exact (ih _ _).trans (Nat.le_succ _)
      · split
        · exact Nat.zero_le _
        · exact Nat.succ_le_succ (ih _ _)

theorem normalizeCloudToolAttachments_again (value : Option Json) :
    normalizeCloudToolAttachments (some (.arr
      ((normalizeCloudToolAttachments value).map MessageAttachment.encode))) =
        normalizeCloudToolAttachments value := by
  generalize hkept : normalizeCloudToolAttachments value = kept
  unfold normalizeCloudToolAttachments at hkept ⊢
  have hlength : kept.length ≤ RUNTIME_EVENT_MAX_COLLECTION_ENTRIES := by
    rw [← hkept]
    exact (collectAttachments_length _ _ _).trans (List.length_take_le _ _)
  rw [Json.readArray_arr, Option.getD_some, List.take_of_length_le (by simpa using hlength)]
  exact (hkept ▸ collectAttachments_collected [] 0 _).collect

/-- Attachments as a tool call carries them: at least one, and normalized. -/
structure ToolAttachments where
  items : List MessageAttachment
  nonempty : items ≠ []
  normalized : normalizeCloudToolAttachments
    (some (.arr (items.map MessageAttachment.encode))) = items
  deriving DecidableEq

namespace ToolAttachments

def encode (attachments : ToolAttachments) : Json :=
  .arr (attachments.items.map MessageAttachment.encode)

/-- The normalized attachments, where there are any. -/
def read (value : Option Json) : Option ToolAttachments :=
  if h : normalizeCloudToolAttachments value = [] then none
  else
    some
      { items := normalizeCloudToolAttachments value
        nonempty := h
        normalized := normalizeCloudToolAttachments_again value }

@[simp] theorem read_none : read none = none := rfl

@[simp] theorem read_encode (attachments : ToolAttachments) :
    read (some attachments.encode) = some attachments := by
  obtain ⟨_, hnonempty, hnormalized⟩ := attachments
  unfold read encode
  rw [dif_neg (by rw [hnormalized]; exact hnonempty)]
  congr

@[simp] theorem read_map_encode (attachments : Option ToolAttachments) :
    read (attachments.map encode) = attachments := by
  cases attachments with
  | none => rfl
  | some found => exact read_encode found

end ToolAttachments

end OpenCowork.Projection
