import OpenCowork.Foundation.Json
import OpenCowork.Foundation.Text

/-! # Project sources

The project a cloud session works on, as it is read from a session's projection, and the
summary of it that listings show.
-/

namespace OpenCowork.ControlPlane

open Foundation

inductive CloudProjectSource where
  | git (repositoryUrl : String) (ref subdirectory credentialRef : Option String)
  | snapshot (snapshotId objectKey : String) (fileCount byteCount : ℚ) (title : Option String)
  deriving DecidableEq

inductive CloudProjectSourceSummary where
  | git (repositoryUrl : String) (ref subdirectory : Option String)
  | snapshot (snapshotId : String) (title : Option String)
  deriving DecidableEq

namespace CloudProjectSource

def readString : Option Json → Option String
  | some (.str text) => if Text.trim text = "" then none else some (Text.trim text)
  | _ => none

def readNumber : Option Json → ℚ
  | some (.num value) => if 0 ≤ value then value else 0
  | _ => 0

/-- A value that is no object has no fields. -/
def normalizeCloudProjectSource (value : Json) : Option CloudProjectSource :=
  match value.field? "kind" with
  | some (.str "git") =>
    (readString (value.field? "repositoryUrl")).map fun repositoryUrl =>
      .git repositoryUrl (readString (value.field? "ref"))
        (readString (value.field? "subdirectory")) (readString (value.field? "credentialRef"))
  | some (.str "snapshot") =>
    match readString (value.field? "snapshotId"), readString (value.field? "objectKey") with
    | some snapshotId, some objectKey =>
      some (.snapshot snapshotId objectKey (readNumber (value.field? "fileCount"))
        (readNumber (value.field? "byteCount")) (readString (value.field? "title")))
    | _, _ => none
  | _ => none

def isLetter (c : Char) : Bool := ('a' ≤ c && c ≤ 'z') || ('A' ≤ c && c ≤ 'Z')

def isSchemeCharacter (c : Char) : Bool :=
  isLetter c || c.isDigit || c == '+' || c == '.' || c == '-'

def withoutUserInfo (address : List Char) : List Char :=
  match address.span isSchemeCharacter with
  | (first :: scheme, ':' :: '/' :: '/' :: authority) =>
    if isLetter first then
      match authority.span fun c => c != '/' && c != '@' with
      | (_ :: _, '@' :: host) => first :: scheme ++ ':' :: '/' :: '/' :: host
      | _ => address
    else address
  | _ => address

/-- The address without query, fragment and credentials; one that is nothing else is kept
whole. -/
def cloudSafeGitRepositoryUrl (value : String) : String :=
  let stripped := Text.trimChars (value.toList.takeWhile fun c => c != '?' && c != '#')
  String.ofList (withoutUserInfo (if stripped = [] then Text.trimChars value.toList else stripped))

def summarizeCloudProjectSource : CloudProjectSource → CloudProjectSourceSummary
  | .git repositoryUrl ref subdirectory _ =>
    .git (cloudSafeGitRepositoryUrl repositoryUrl) ref subdirectory
  | .snapshot snapshotId _ _ _ title => .snapshot snapshotId title

end CloudProjectSource

end OpenCowork.ControlPlane
