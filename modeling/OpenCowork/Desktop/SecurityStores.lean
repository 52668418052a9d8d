import OpenCowork.Desktop.WebhookSecurity
import OpenCowork.Foundation.Machine

/-! # The stores as the server calls them

Requests are counted for each source, failed authorizations for each scope. The
in-memory store opens a scope's window of failures when the scope is first looked
at, the database when the first failure is recorded.
-/

namespace OpenCowork.Desktop

open Foundation

namespace InMemory

variable (source : String) (scope : String) (nowMs : Nat) (store : Store)

structure Store where
  rateBySource : OrderedMap String WebhookRateRecord
  authFailureByScope : OrderedMap String WebhookAuthFailureRecord
  signatures : SignatureState

def Store.empty : Store := ⟨OrderedMap.empty, OrderedMap.empty, .empty⟩

def pruneRateRecords (nowMs authWindowMs : Nat) (store : Store) : Store :=
  { store with
    rateBySource := store.rateBySource.filter fun _ record =>
      !decide (nowMs - record.windowStartedAt > webhookRequestWindowMs)
    authFailureByScope := store.authFailureByScope.filter fun _ record =>
      !decide (nowMs - record.authWindowStartedAt > authWindowMs ∧ record.blockedUntil ≤ nowMs) }

def rateRecordForSource : WebhookRateRecord := (store.rateBySource.get source).getD ⟨nowMs, 0⟩

def authFailureRecordForScope :
    WebhookAuthFailureRecord :=
  (store.authFailureByScope.get scope).getD ⟨nowMs, 0, 0⟩

def claimRequest (nowMs windowMs limit : Nat) (store : Store) : Bool × Store :=
  let store := pruneRateRecords nowMs windowMs store
  let record := rateRecordForSource source nowMs store
  let record := if nowMs - record.windowStartedAt > windowMs then ⟨nowMs, 0⟩ else record
  let record := { record with count := record.count + 1 }
  (decide (record.count ≤ limit),
    { store with rateBySource := store.rateBySource.set source record })

/-- A scope that is only looked at gets a record of its own. -/
def checkAuthBackoff : Bool × Store :=
  let store := pruneRateRecords nowMs webhookAuthFailureWindowMs store
  let record := authFailureRecordForScope scope nowMs store
  (decide (record.blockedUntil ≤ nowMs),
    { store with authFailureByScope := store.authFailureByScope.set scope record })

def recordAuthFailure (nowMs windowMs limit backoffMs : Nat) (store : Store) :
    WebhookAuthFailureRecord × Store :=
  let record := authFailureRecordForScope scope nowMs store
  let record := if nowMs - record.authWindowStartedAt > windowMs then
      { record with authWindowStartedAt := nowMs, authFailureCount := 0 }
    else record
  let record := { record with authFailureCount := record.authFailureCount + 1 }
  let record := if record.authFailureCount ≥ limit then
      { record with blockedUntil := max record.blockedUntil (nowMs + backoffMs) }
    else record
  (record, { store with authFailureByScope := store.authFailureByScope.set scope record })

end InMemory

namespace Sqlite

/-- A row of `workflow_webhook_auth_failures`. -/
structure AuthFailureRow where
  source : String
  record : WebhookAuthFailureRecord
  deriving DecidableEq

structure Store where
  rateLimits : OrderedMap String WebhookRateRecord
  authFailures : OrderedMap String AuthFailureRow
  signatures : SignatureState

def Store.empty : Store := ⟨OrderedMap.empty, OrderedMap.empty, .empty⟩

/-- `value || 'unknown'`. -/
def orUnknown (value : String) : String := if value = "" then "unknown" else value

def claimRequest (source : String) (nowMs windowMs limit : Nat) (store : Store) : Bool × Store :=
  let source := orUnknown source
  let rateLimits := store.rateLimits.filter fun _ record =>
    !decide (nowMs - record.windowStartedAt > windowMs)
  let next : WebhookRateRecord := match rateLimits.get source with
    | none => ⟨nowMs, 1⟩
    | some record =>
      if nowMs - record.windowStartedAt > windowMs then ⟨nowMs, 1⟩
      else ⟨record.windowStartedAt, record.count + 1⟩
  (decide (next.count ≤ limit), { store with rateLimits := rateLimits.set source next })

def checkAuthBackoff (scope : String) (nowMs : Nat) (store : Store) : Bool × Store :=
  match store.authFailures.get (orUnknown scope) with
  | none => (true, store)
  | some row => (decide (row.record.blockedUntil ≤ nowMs), store)

def recordAuthFailure (scope source : String) (nowMs windowMs limit backoffMs : Nat)
    (store : Store) : WebhookAuthFailureRecord × Store :=
  let scope := orUnknown scope
  let authFailures := store.authFailures.filter fun _ row =>
    !decide (row.record.blockedUntil ≤ nowMs ∧
      nowMs - row.record.authWindowStartedAt > windowMs)
  let current := ((authFailures.get scope).map AuthFailureRow.record).getD ⟨0, 0, 0⟩
  let expired := authFailures.get scope = none ∨ nowMs - current.authWindowStartedAt > windowMs
  let nextWindowStartedAt := if expired then nowMs else current.authWindowStartedAt
  let nextCount := (if expired then 0 else current.authFailureCount) + 1
  let nextBlockedUntil := if nextCount ≥ limit then max current.blockedUntil (nowMs + backoffMs)
    else current.blockedUntil
  let record : WebhookAuthFailureRecord := ⟨nextWindowStartedAt, nextCount, nextBlockedUntil⟩
  (record, { store with
    authFailures := authFailures.set scope ⟨orUnknown source, record⟩ })

end Sqlite

/-- A call with the arguments the server passes; the rest are its constants. -/
inductive SecurityCall where
  | claimRequest (nowMs : Nat) (source : String)
  | checkAuthBackoff (nowMs : Nat) (scope : String)
  | recordAuthFailure (nowMs : Nat) (scope source : String)
  | claimSignature (nowMs : Nat) (key : String)
  | accept (claim : Nat)
  | release (claim : Nat)

inductive SecurityAnswer where
  | allowed (yes : Bool)
  | failures (record : WebhookAuthFailureRecord)
  | claimed (yes : Bool)
  | settled
  deriving DecidableEq

def inMemoryStore : Machine InMemory.Store SecurityCall SecurityAnswer where
  step store call := match call with
    | .claimRequest nowMs source =>
      let (yes, store) := InMemory.claimRequest source nowMs webhookRequestWindowMs
        webhookRequestLimit store
      (.allowed yes, store)
    | .checkAuthBackoff nowMs scope =>
      let (yes, store) := InMemory.checkAuthBackoff scope nowMs store
      (.allowed yes, store)
    | .recordAuthFailure nowMs scope _ =>
      let (record, store) := InMemory.recordAuthFailure scope nowMs webhookAuthFailureWindowMs
        webhookAuthFailureLimit webhookAuthBackoffMs store
      (.failures record, store)
    | .claimSignature nowMs key =>
      let (yes, signatures) := store.signatures.claimSignature InMemory.signatures key nowMs
        webhookSignatureReplayWindowMs webhookSignatureReplayCacheLimit
      (.claimed yes, { store with signatures })
    | .accept claim =>
      (.settled, { store with signatures := store.signatures.accept InMemory.signatures claim })
    | .release claim =>
      (.settled, { store with signatures := store.signatures.release InMemory.signatures claim })

def sqliteStore (webhookSecurityKeyHash : String → String) :
    Machine Sqlite.Store SecurityCall SecurityAnswer where
  step store call := match call with
    | .claimRequest nowMs source =>
      let (yes, store) := Sqlite.claimRequest source nowMs webhookRequestWindowMs
        webhookRequestLimit store
      (.allowed yes, store)
    | .checkAuthBackoff nowMs scope =>
      let (yes, store) := Sqlite.checkAuthBackoff scope nowMs store
      (.allowed yes, store)
    | .recordAuthFailure nowMs scope source =>
      let (record, store) := Sqlite.recordAuthFailure scope source nowMs
        webhookAuthFailureWindowMs webhookAuthFailureLimit webhookAuthBackoffMs store
      (.failures record, store)
    | .claimSignature nowMs key =>
      let (yes, signatures) := store.signatures.claimSignature
        (Sqlite.signatures webhookSecurityKeyHash) key nowMs webhookSignatureReplayWindowMs
        webhookSignatureReplayCacheLimit
      (.claimed yes, { store with signatures })
    | .accept claim =>
      (.settled, { store with
        signatures := store.signatures.accept (Sqlite.signatures webhookSecurityKeyHash) claim })
    | .release claim =>
      (.settled, { store with
        signatures := store.signatures.release (Sqlite.signatures webhookSecurityKeyHash) claim })

end OpenCowork.Desktop
