import OpenCowork.Foundation.Machine
import OpenCowork.Gateway.WorkDbFence

/-! # Daemons on one database

The operations of a daemon's leadership take their steps one after the other, and between any two
of them come steps of other daemons, the work transactions of all daemons, and time.
-/

namespace OpenCowork.Gateway

open Foundation

inductive LeadershipCall
  | acquireOrRenew (takeoverStale : Bool)
  | status
  | captureEpoch
  | release

/-- Where a daemon stands in an operation. -/
inductive LeadershipActivity
  | idle
  /-- The clock is read, and the transaction comes next. -/
  | acquiring (takeoverStale : Bool) (nowMs : Int)
  | releasing
  /-- `readStatus`, for an epoch or not. -/
  | reading (captures : Bool)
  /-- The row is known, and the snapshot comes next, which reads the clock. -/
  | showing (row : DaemonLeadershipRow) (ownerMode : DaemonLeadershipMode) (captures : Bool)
  deriving DecidableEq

/-- What an operation does first. -/
def LeadershipCall.activity (now : Int) : LeadershipCall → LeadershipActivity
  | .acquireOrRenew takeoverStale => .acquiring takeoverStale now
  | .status => .reading false
  | .captureEpoch => .reading true
  | .release => .releasing

structure Daemon where
  lastSnapshot : DaemonLeadershipSnapshot
  activity : LeadershipActivity := .idle
  fence : WorkDbTransactionFence := {}
  /-- The epochs that were handed out. -/
  captured : List WorkDbLeadershipEpoch := []

/-- The daemons by their instance ids, their database and their clock. -/
structure LeadershipState (Write : Type) where
  clock : Int
  db : WorkDatabase Write
  daemons : String → Daemon
  /-- The fencing tokens drawn so far. -/
  drawn : List String

inductive LeadershipInput (Write : Type)
  | wait (elapsed : Nat)
  | call (instanceId : String) (operation : LeadershipCall)
  /-- The next step of the operation, with what it draws if it draws a token. -/
  | proceed (instanceId random : String) (failure : Option String)
  | work (instanceId : String) (sources : FenceSources) (call : WorkDbCall Write) (elapsed : Nat)
      (failure : Option String)

inductive LeadershipOutput (Write : Type)
  | quiet
  /-- A term was begun under a fencing token. -/
  | begun (token : String)
  | work (answer : WorkDbAnswer Write)

def LeadershipOutput.ofBegun {Write : Type} : Option String → LeadershipOutput Write
  | some token => .begun token
  | none => .quiet

/-- What the daemons were created with. -/
structure LeadershipSettings where
  platform : LeadershipPlatform
  daemonId : String → String
  leaseMs : String → Option Int

def LeadershipSettings.leadership (settings : LeadershipSettings) (instanceId : String) :
    SqliteDaemonLeadership :=
  createDaemonLeadership (settings.daemonId instanceId) instanceId (settings.leaseMs instanceId)

variable {Write : Type} (settings : LeadershipSettings)

namespace LeadershipState

variable (instanceId : String) (state : LeadershipState Write)

def setDaemon (daemon : Daemon) (state : LeadershipState Write) :
    LeadershipState Write :=
  { state with daemons := Function.update state.daemons instanceId daemon }

def setLeadership (row : Option DaemonLeadershipRow) (state : LeadershipState Write) :
    LeadershipState Write :=
  { state with db := { state.db with leadership := row } }

def setActivity (activity : LeadershipActivity)
    (state : LeadershipState Write) : LeadershipState Write :=
  state.setDaemon instanceId { state.daemons instanceId with activity }

def call (operation : LeadershipCall) (state : LeadershipState Write) :
    LeadershipState Write :=
  if (state.daemons instanceId).activity = .idle then
    state.setActivity instanceId (operation.activity state.clock)
  else state

/-- The operation ends with a snapshot. -/
def conclude (snapshot : DaemonLeadershipSnapshot)
    (state : LeadershipState Write) : LeadershipState Write :=
  state.setDaemon instanceId
    { state.daemons instanceId with lastSnapshot := snapshot, activity := .idle }

/-- The transaction of `acquireOrRenew`, which does not begin while another one is open. -/
def acquire (takeoverStale : Bool) (nowMs : Int) (random : String)
    (failure : Option String) (state : LeadershipState Write) :
    LeadershipOutput Write × LeadershipState Write :=
  let leadership := settings.leadership instanceId
  let unavailable := leadership.unavailableSnapshot settings.platform
  if state.db.transaction.isSome then
    (.quiet, state.conclude instanceId (unavailable "database is locked"))
  else
    match leadership.acquireTransaction settings.platform takeoverStale nowMs random
        state.db.leadership with
    | .error error => (.quiet, state.conclude instanceId (unavailable error))
    | .ok (acquired, row) =>
      let state := { state with drawn := acquired.begun.toList ++ state.drawn }
      match failure with
      | some error => (.quiet, state.conclude instanceId (unavailable error))
      | none =>
        (.ofBegun acquired.begun, (state.setLeadership row).setActivity instanceId
          (.showing acquired.row acquired.ownerMode false))

def release (failure : Option String) (state : LeadershipState Write) :
    LeadershipState Write :=
  let released := if state.db.transaction.isSome || failure.isSome then state
    else state.setLeadership ((settings.leadership instanceId).releaseTransaction
      (state.daemons instanceId).lastSnapshot state.db.leadership)
  released.setActivity instanceId (.reading false)

/-- `readStatus` reads the row; a transaction does not keep it from that. -/
def readRow (captures : Bool) (failure : Option String)
    (state : LeadershipState Write) : LeadershipState Write :=
  let leadership := settings.leadership instanceId
  match failure, state.db.leadership with
  | some error, _ =>
    state.conclude instanceId (leadership.unavailableSnapshot settings.platform error)
  | none, none => state.conclude instanceId leadership.noLeaderSnapshot
  | none, some row => state.setActivity instanceId (.showing row (leadership.rowMode row) captures)

def showRow (row : DaemonLeadershipRow) (ownerMode : DaemonLeadershipMode)
    (captures : Bool) (state : LeadershipState Write) : LeadershipState Write :=
  let leadership := settings.leadership instanceId
  let snapshot := leadership.snapshotFromRow row ownerMode state.clock
  let daemon := state.daemons instanceId
  let captured := if captures then (leadership.captureEpoch snapshot).toList else []
  state.setDaemon instanceId { daemon with
    lastSnapshot := snapshot, activity := .idle, captured := captured ++ daemon.captured }

def proceed (instanceId random : String) (failure : Option String)
    (state : LeadershipState Write) : LeadershipOutput Write × LeadershipState Write :=
  match (state.daemons instanceId).activity with
  | .idle => (.quiet, state)
  | .acquiring takeoverStale nowMs =>
    state.acquire settings instanceId takeoverStale nowMs random failure
  | .releasing => (.quiet, state.release settings instanceId failure)
  | .reading captures => (.quiet, state.readRow settings instanceId captures failure)
  | .showing row ownerMode captures =>
    (.quiet, state.showRow settings instanceId row ownerMode captures)

/-- A call on the work connection of a daemon. Its sources hold epochs that the daemon was
handed; any others are no such call. -/
def work (sources : FenceSources) (call : WorkDbCall Write) (elapsed : Nat)
    (failure : Option String) (state : LeadershipState Write) :
    LeadershipOutput Write × LeadershipState Write :=
  let daemon := state.daemons instanceId
  let epochs := sources.scopedEpoch.toList ++ sources.provider.join.toList
  let later := state.clock + elapsed
  if epochs.all fun epoch => epoch ∈ daemon.captured then
    let performed := call.perform sources instanceId state.clock later failure state.db
      daemon.fence
    (.work performed.1, { state with clock := later, db := performed.2.1 }.setDaemon instanceId
      { daemon with fence := performed.2.2 })
  else (.quiet, state)

/-- The answer of a daemon asked in this state. In the middle of an operation none is asked. -/
def canWrite : Bool :=
  (state.daemons instanceId).activity = .idle &&
    (state.daemons instanceId).lastSnapshot.answersCanWrite state.clock

end LeadershipState

def leadershipMachine :
    Machine (LeadershipState Write) (LeadershipInput Write) (LeadershipOutput Write) where
  step state
    | .wait elapsed => (.quiet, { state with clock := state.clock + elapsed })
    | .call instanceId operation => (.quiet, state.call instanceId operation)
    | .proceed instanceId random failure => state.proceed settings instanceId random failure
    | .work instanceId sources call elapsed failure =>
      state.work instanceId sources call elapsed failure

def leadershipStart (clock : Int) (row : Option DaemonLeadershipRow) (work : List Write) :
    LeadershipState Write where
  clock := clock
  db := { leadership := row, work }
  daemons := fun instanceId =>
    { lastSnapshot := (settings.leadership instanceId).noLeaderSnapshot }
  drawn := (row.map DaemonLeadershipRow.fencingToken).toList

end OpenCowork.Gateway
