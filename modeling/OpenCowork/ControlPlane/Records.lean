import Mathlib.Data.List.Sort
import OpenCowork.Foundation.Json
import OpenCowork.Foundation.OrderedMap
import OpenCowork.Foundation.Text

/-! # Control-plane records and shared store helpers

The session, lease and command records of the control plane, the errors its
stores throw, and the pure helpers every store domain shares. Instants are whole
milliseconds; a record's timestamp is the instant its text denotes.
-/

namespace OpenCowork.ControlPlane

open Foundation

/-- Milliseconds since the epoch. -/
abbrev Instant := Int

inductive SessionStatus where
  | idle | running | closed | errored
  deriving DecidableEq, Repr

inductive CommandKind where
  | prompt | abort | permissionRespond | questionReply | questionReject
  deriving DecidableEq, Repr

inductive CommandStatus where
  | pending | running | acked | failed
  deriving DecidableEq, Repr

inductive WorkReaperAction where
  | retried | failed | released
  deriving DecidableEq, Repr

inductive StoreError where
  | error (message : String)
  | quotaExceeded (message policyCode : String) (retryAfterMs limit used : ℚ) (resetAt : Instant)
  deriving DecidableEq

structure SessionRecord where
  (tenantId userId sessionId opencodeSessionId profileName : String)
  status : SessionStatus
  title : Option String
  (createdAt updatedAt : Instant)
  deriving DecidableEq

structure SessionEventRecord where
  (tenantId sessionId eventId : String)
  sequence : Nat
  type : String
  payload : Json
  createdAt : Instant
  deriving DecidableEq

structure SessionProjectionRecord where
  (tenantId sessionId : String)
  sequence : Nat
  view : Json
  updatedAt : Instant
  deriving DecidableEq

structure WorkerLeaseRecord where
  (tenantId sessionId leasedBy leaseToken : String)
  leaseExpiresAt : Instant
  checkpointVersion : Nat
  deriving DecidableEq, Repr

structure SessionCommandRecord where
  (commandId tenantId userId sessionId : String)
  kind : CommandKind
  payload : Json
  targetLeaseToken : Option String
  createdSequence : Nat
  createdAt : Instant
  status : CommandStatus
  (claimedBy claimedLeaseToken : Option String)
  attemptCount : Nat
  availableAt : Option Instant
  (lastErrorCode lastErrorSummary : Option String)
  ackedAt : Option Instant
  error : Option String
  deriving DecidableEq

structure ReapedSessionLeaseRecord where
  (tenantId sessionId leaseToken leasedBy : String)
  action : WorkReaperAction
  (retriedCommandIds failedCommandIds : List String)
  reapedAt : Instant
  deriving DecidableEq

/-- Everything the in-memory store keeps for one session. -/
structure SessionState where
  record : SessionRecord
  (nextEventSequence nextCommandSequence nextLeaseAttempt : Nat)
  lease : Option WorkerLeaseRecord
  events : List SessionEventRecord
  projection : Option SessionProjectionRecord
  commands : List SessionCommandRecord
  deriving DecidableEq

/-- Behaviour of the platform that the stores rely on: the collation of
`localeCompare`, and the scrubbing and truncation that operational text goes
through before it is stored. -/
structure Environment where
  localeCompare : String → String → Ordering
  scrubOperationalText : String → Nat → String

/-- The parts of a composite map key, joined by NUL. -/
def key (first second : String) : String := first ++ "\x00" ++ second

theorem key_inj {first first' second second' : String}
    (hfirst : '\x00' ∉ first.toList) (hfirst' : '\x00' ∉ first'.toList)
    (h : key first second = key first' second') : first = first' ∧ second = second' := by
  have hchars : first.toList ++ '\x00' :: second.toList =
      first'.toList ++ '\x00' :: second'.toList := by
    simpa [key] using congrArg String.toList h
  obtain ⟨hleft, hright⟩ := Text.append_separator_inj hfirst hfirst' hchars
  exact ⟨String.toList_inj.mp hleft, String.toList_inj.mp hright⟩

namespace Environment

variable (env : Environment)

def fieldBefore (left right : String × Json) : Prop := env.localeCompare left.1 right.1 ≠ .gt

instance : DecidableRel env.fieldBefore := fun left right =>
  inferInstanceAs (Decidable (env.localeCompare left.1 right.1 ≠ .gt))

mutual

/-- The value whose JSON text `stableJson` produces: fields sorted at every level. -/
def stableJson : Json → Json
  | .arr items => .arr (stableJsonItems items)
  | .obj fields => .obj ((stableJsonFields fields).insertionSort env.fieldBefore)
  | value => value

def stableJsonItems : List Json → List Json
  | [] => []
  | item :: rest => stableJson item :: stableJsonItems rest

def stableJsonFields : List (String × Json) → List (String × Json)
  | [] => []
  | (field, entry) :: rest => (field, stableJson entry) :: stableJsonFields rest

end

def redactOperationalText (value : String) (maxLength : Nat) (label : String) :
    Except StoreError String :=
  if Text.isBlank value then .error (.error (label ++ " is required."))
  else .ok (env.scrubOperationalText value maxLength)

end Environment

end OpenCowork.ControlPlane
