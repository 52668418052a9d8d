import OpenCowork.Foundation.Checks
import OpenCowork.Foundation.Lease
import Mathlib.Data.Int.Order.Basic

/-! # Daemon leadership

Several daemons may run on one database. One of them holds the writer lease, which is a row of the
database; each keeps a snapshot of what it last saw of that row and answers from it. The daemons
all use the default scope, so there is one row.
-/

namespace OpenCowork.Gateway

open Foundation

inductive DaemonLeadershipMode
  | writer
  | standby
  | noLeader
  | unavailable
  deriving DecidableEq

structure DaemonLeadershipRow where
  (leaderId daemonId fencingToken : String)
  (leaseStartedAt leaseExpiresAt updatedAt : Int)
  takeoverCount : Nat
  deriving DecidableEq

structure DaemonLeadershipSnapshot where
  mode : DaemonLeadershipMode
  canWrite : Bool
  (daemonId instanceId : String)
  leaderId : Option String := none
  fencingToken : Option String := none
  leaseStartedAt : Option Int := none
  leaseExpiresAt : Option Int := none
  leaseAgeMs : Option Int := none
  leaseRemainingMs : Option Int := none
  stale : Bool
  takeoverCount : Nat
  updatedAt : Option Int := none
  remediation : String
  deriving DecidableEq

/-- What a transaction is fenced with. Its clock is that of the daemon. -/
structure WorkDbLeadershipEpoch where
  (leaderId fencingToken : String)
  leaseExpiresAt : Int
  deriving DecidableEq

/-- The fingerprint of a text, and an error text without private parts. -/
structure LeadershipPlatform where
  (fingerprint safeError : String → String)

def newFencingToken (platform : LeadershipPlatform) (instanceId : String) (term : Nat)
    (drawn : String) : String :=
  "fence_" ++ toString term ++ "_" ++ platform.fingerprint (instanceId ++ ":" ++ drawn)

/-- A controller without its last snapshot. -/
structure SqliteDaemonLeadership where
  (daemonId instanceId : String)
  leaseMs : Int

def defaultLeaseMs : Int := 90000

def minLeaseMs : Int := 10000

def createDaemonLeadership (daemonId instanceId : String) (leaseMs : Option Int) :
    SqliteDaemonLeadership where
  daemonId := daemonId
  instanceId := instanceId
  leaseMs := max minLeaseMs (match leaseMs with
    | none => defaultLeaseMs
    | some given => if given = 0 then defaultLeaseMs else given)

namespace SqliteDaemonLeadership

variable (platform : LeadershipPlatform) (leadership : SqliteDaemonLeadership)

def noLeaderSnapshot : DaemonLeadershipSnapshot where
  mode := .noLeader
  canWrite := false
  daemonId := leadership.daemonId
  instanceId := leadership.instanceId
  stale := true
  takeoverCount := 0
  remediation := "No local writer lease exists. Start or restart Gateway so this daemon can " ++
    "acquire leadership."

def unavailableSnapshot (error : String) : DaemonLeadershipSnapshot where
  mode := .unavailable
  canWrite := false
  daemonId := leadership.daemonId
  instanceId := leadership.instanceId
  stale := true
  takeoverCount := 0
  remediation := "Leadership state is unavailable: " ++ platform.safeError error ++ "."

/-- `ownerMode` is `writer` for a row of this instance and `standby` for another's. -/
def snapshotFromRow (row : DaemonLeadershipRow) (ownerMode : DaemonLeadershipMode) (now : Int) :
    DaemonLeadershipSnapshot :=
  let stale : Bool := row.leaseExpiresAt ≤ now
  let ownsFreshLease : Bool := ownerMode = .writer && !stale
  { mode := if ownsFreshLease then .writer else .standby
    canWrite := ownsFreshLease
    daemonId := leadership.daemonId
    instanceId := leadership.instanceId
    leaderId := some row.leaderId
    fencingToken := some row.fencingToken
    leaseStartedAt := some row.leaseStartedAt
    leaseExpiresAt := some row.leaseExpiresAt
    leaseAgeMs := some (max 0 (now - row.leaseStartedAt))
    leaseRemainingMs := some (max 0 (row.leaseExpiresAt - now))
    stale := stale
    takeoverCount := row.takeoverCount
    updatedAt := some row.updatedAt
    remediation :=
      if ownsFreshLease then "No action required."
      else if stale then
        "Leader lease is stale; run `opencode-gateway status` or restart Gateway to let the " ++
          "local writer recover leadership."
      else
        "Another Gateway daemon owns the local writer lease. Stop the duplicate daemon or wait " ++
          "for its lease to expire before takeover." }

def termRow (token : String) (nowMs : Int) (takeoverCount : Nat) : DaemonLeadershipRow where
  leaderId := leadership.instanceId
  daemonId := leadership.daemonId
  fencingToken := token
  leaseStartedAt := nowMs
  leaseExpiresAt := nowMs + leadership.leaseMs
  updatedAt := nowMs
  takeoverCount := takeoverCount

/-- What the transaction of `acquireOrRenew` leaves for the snapshot: the row, whose it is, and
the fencing token of a term it has begun. -/
structure Acquired where
  row : DaemonLeadershipRow
  ownerMode : DaemonLeadershipMode
  begun : Option String := none

/-- The transaction of `acquireOrRenew`, with the row it leaves. The clock was read before it. -/
def acquireTransaction (takeoverStale : Bool) (nowMs : Int) (drawn : String)
    (row : Option DaemonLeadershipRow) : Except String (Acquired × Option DaemonLeadershipRow) :=
  match row with
  | none =>
    let token := newFencingToken platform leadership.instanceId 1 drawn
    let inserted := leadership.termRow token nowMs 0
    .ok ({ row := inserted, ownerMode := .writer, begun := some token }, some inserted)
  | some row =>
    let stale : Bool := row.leaseExpiresAt ≤ nowMs
    if row.leaderId = leadership.instanceId ∧ !stale then do
      let renewed := { row with
        leaseExpiresAt := nowMs + leadership.leaseMs, updatedAt := nowMs }
      -- the condition of the UPDATE
      refuseIf (¬ (row.leaderId = leadership.instanceId ∧ nowMs < row.leaseExpiresAt))
        "leadership renewal lost its fencing epoch"
      .ok ({ row := renewed, ownerMode := .writer }, some renewed)
    else if stale && takeoverStale then do
      let takeoverCount := row.takeoverCount + 1
      let token := newFencingToken platform leadership.instanceId (takeoverCount + 1) drawn
      let taken := leadership.termRow token nowMs takeoverCount
      refuseIf (¬ row.leaseExpiresAt ≤ nowMs)
        "stale leadership takeover lost its compare-and-set race"
      .ok ({ row := taken, ownerMode := .writer, begun := some token }, some taken)
    else
      .ok ({ row := row, ownerMode := .standby }, some row)

/-- The transaction of `release`: the row is deleted where it has this leader and token. -/
def releaseTransaction (lastSnapshot : DaemonLeadershipSnapshot)
    (row : Option DaemonLeadershipRow) : Option DaemonLeadershipRow :=
  row.filter fun row => !(row.leaderId = leadership.instanceId &&
    row.fencingToken = lastSnapshot.fencingToken.getD "")

/-- How `readStatus` reads a row. -/
def rowMode (row : DaemonLeadershipRow) : DaemonLeadershipMode :=
  if row.leaderId = leadership.instanceId then .writer else .standby

/-- The epoch that `captureEpoch` makes of the snapshot it takes. -/
def captureEpoch (snapshot : DaemonLeadershipSnapshot) : Option WorkDbLeadershipEpoch :=
  match snapshot.leaderId, snapshot.fencingToken, snapshot.leaseExpiresAt with
  | some leaderId, some fencingToken, some leaseExpiresAt =>
    if snapshot.mode = .writer ∧ snapshot.canWrite ∧ leaderId = leadership.instanceId ∧
        fencingToken ≠ "" then some { leaderId, fencingToken, leaseExpiresAt }
    else none
  | _, _, _ => none

end SqliteDaemonLeadership

/-- The answer of `canWrite` from the last snapshot. -/
def DaemonLeadershipSnapshot.answersCanWrite (snapshot : DaemonLeadershipSnapshot) (now : Int) :
    Bool :=
  snapshot.mode = .writer && snapshot.canWrite && match snapshot.leaseExpiresAt with
    | none => false
    | some expiresAt => now < expiresAt

/-! ## The row as a lease -/

def DaemonLeadershipRow.lease (row : DaemonLeadershipRow) : Lease String String Int where
  owner := row.leaderId
  token := row.fencingToken
  expires := row.leaseExpiresAt

def DaemonLeadershipSnapshot.lease (snapshot : DaemonLeadershipSnapshot) :
    Lease String String Int where
  owner := snapshot.leaderId.getD ""
  token := snapshot.fencingToken.getD ""
  expires := snapshot.leaseExpiresAt.getD 0

namespace SqliteDaemonLeadership

variable {platform : LeadershipPlatform} {leadership : SqliteDaemonLeadership}

theorem acquireTransaction_move {takeoverStale : Bool} {nowMs : Int} {drawn : String}
    {row next : Option DaemonLeadershipRow} {acquired : Acquired}
    (h : leadership.acquireTransaction platform takeoverStale nowMs drawn row =
      .ok (acquired, next)) :
    Lease.Move leadership.instanceId nowMs (row.map DaemonLeadershipRow.lease)
        acquired.begun.toList (next.map DaemonLeadershipRow.lease) ∧
      next = some acquired.row ∧
      (acquired.ownerMode = .writer → acquired.row.leaderId = leadership.instanceId) := by
  unfold acquireTransaction at h
  cases row with
  | none =>
    cases h
    exact ⟨.claim (leadership.termRow _ nowMs 0).lease rfl, rfl, fun _ => rfl⟩
  | some row =>
    simp only at h
    split at h
    next howned =>
      obtain ⟨_, -, h⟩ := bind_eq_ok h
      cases h
      exact ⟨.renew row.lease _ howned.1, rfl, fun _ => howned.1⟩
    · split at h
      · obtain ⟨_, hstale, h⟩ := bind_eq_ok h
        cases h
        have hexpired : row.leaseExpiresAt ≤ nowMs := by simpa using hstale
        exact ⟨.takeOver row.lease (leadership.termRow _ nowMs _).lease hexpired rfl, rfl,
          fun _ => rfl⟩
      · cases h
        exact ⟨.stay _, rfl, fun hwriter => by cases hwriter⟩

theorem releaseTransaction_move (lastSnapshot : DaemonLeadershipSnapshot) (now : Int)
    (row : Option DaemonLeadershipRow) :
    Lease.Move leadership.instanceId now (row.map DaemonLeadershipRow.lease) []
      ((leadership.releaseTransaction lastSnapshot row).map DaemonLeadershipRow.lease) := by
  cases row with
  | none => exact .stay _
  | some row =>
    unfold releaseTransaction
    by_cases hown : row.leaderId = leadership.instanceId ∧
        row.fencingToken = lastSnapshot.fencingToken.getD ""
    · rw [Option.filter_some_neg (by simpa using hown)]
      exact .resign row.lease hown.1
    · rw [Option.filter_some_pos (by simpa [imp_iff_not_or] using hown)]
      exact .stay _

theorem snapshotFromRow_answers {row : DaemonLeadershipRow} {ownerMode : DaemonLeadershipMode}
    {now later : Int}
    (h : (leadership.snapshotFromRow row ownerMode now).answersCanWrite later = true) :
    ownerMode = .writer ∧ later < row.leaseExpiresAt := by
  simp only [DaemonLeadershipSnapshot.answersCanWrite, snapshotFromRow, Bool.and_eq_true,
    decide_eq_true_eq] at h
  exact ⟨h.1.2.1, h.2⟩

end SqliteDaemonLeadership

end OpenCowork.Gateway
