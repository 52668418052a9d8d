import OpenCowork.ControlPlane.Neighbours

/-! # Channel inputs

The checks that the channel domains make of the texts, records and dates they are
given, and what those domains ask of the platform.
-/

namespace OpenCowork.ControlPlane

open Foundation

variable (value : String)

def channelTextMaxLength : Nat := 256

def channelMetadataMaxBytes : Nat := 16384

/-- Behaviour of the platform that the channel domains rely on: what the stores rely
on, the ISO text of an instant, the length of a value's JSON text in bytes, and the
hash behind generated ids. -/
structure ChannelPlatform extends Environment where
  isoString : Instant → String
  jsonByteLength : Json → Nat
  stableId : String → List String → String

def truthyText (value : Option String) : Option String :=
  value.filter fun text => decide (text ≠ "")

/-- Required text is trimmed and bounded. -/
def normalizeText (maxLength : Nat) (label : String) :
    Except StoreError String :=
  if Text.isBlank value then .error (.error (label ++ " is required."))
  else if maxLength < (Text.codeUnits (Text.trim value)).length then
    .error (.error (label ++ " exceeds " ++ maxLength.repr ++ " characters."))
  else .ok (Text.trim value)

/-- Text that may be absent; the empty text counts as absent. -/
def normalizeNullableText (value : Option String) (maxLength : Nat) (label : String) :
    Except StoreError (Option String) :=
  match value with
  | none => .ok none
  | some text =>
    if text = "" then .ok none
    else
      match normalizeText text maxLength label with
      | .error thrown => .error thrown
      | .ok normalized => .ok (some normalized)

/-- `/^[a-z][a-z0-9_-]{1,63}$/` with a dash in it. -/
def isCustomProviderId : Bool :=
  match value.toList with
  | [] => false
  | first :: rest =>
    first.isLower && decide (1 ≤ rest.length) && decide (rest.length ≤ 63) &&
      rest.all (fun c => c.isLower || c.isDigit || c == '_' || c == '-') && rest.contains '-'

def isChannelProviderId : Bool :=
  ["telegram", "slack", "email", "discord", "whatsapp", "signal", "webhook", "cli"].contains
    value || isCustomProviderId value

def normalizeChannelProviderId : Except StoreError String :=
  match normalizeText value 64 "Channel provider" with
  | .error thrown => .error thrown
  | .ok provider =>
    if isChannelProviderId provider then .ok provider
    else .error (.error ("Unsupported channel provider " ++ provider ++ "."))

/-- A record within the size limit; anything but an object counts as an empty one. -/
def ChannelPlatform.normalizeRecord (platform : ChannelPlatform) (value : Json)
    (label : String) : Except StoreError Json :=
  let record := match value with
    | .obj fields => .obj fields
    | _ => Json.emptyObject
  if channelMetadataMaxBytes < platform.jsonByteLength record then
    .error (.error (label ++ " exceeds " ++ channelMetadataMaxBytes.repr ++ " bytes."))
  else .ok record

/-- The number of milliseconds that a date can be away from the epoch. -/
def maxTimeValue : ℚ := 8640000000000000

/-- `new Date(time).toISOString()`: fractions are cut off, and a time out of range throws. -/
def dateOf (time : ℚ) : Except StoreError Instant :=
  if time < -maxTimeValue ∨ maxTimeValue < time then .error (.error "Invalid time value")
  else .ok (if 0 ≤ time then time.floor else time.ceil)

/-- Code-point order, decimal instants, and ids that spell out their parts. -/
def plainPlatform : ChannelPlatform where
  toEnvironment := plainEnvironment
  isoString := fun instant => toString instant
  jsonByteLength := fun _ => 0
  stableId := fun kind parts => kind ++ "_" ++ String.intercalate "\x00" parts

end OpenCowork.ControlPlane
