import Mathlib.Data.List.Sort
import OpenCowork.Foundation.OrderedMap

/-! # The two webhook security stores

The webhook server counts requests, remembers failed authorizations and remembers
the signatures it has seen, in memory or in the workflow database. Instants are
readings of the server's clock in milliseconds; they are natural numbers, which
`normalizeMs` leaves as they are.
-/

namespace OpenCowork.Desktop

open Foundation

def webhookRequestWindowMs : Nat := 60 * 1000
def webhookRequestLimit : Nat := 120
def webhookAuthFailureWindowMs : Nat := 60 * 1000
def webhookAuthFailureLimit : Nat := 5
def webhookAuthBackoffMs : Nat := 60 * 1000
def webhookSignatureReplayWindowMs : Nat := 5 * 60 * 1000
def webhookSignatureReplayCacheLimit : Nat := 512

structure WebhookRateRecord where
  (windowStartedAt count : Nat)
  deriving DecidableEq

structure WebhookAuthFailureRecord where
  (authWindowStartedAt authFailureCount blockedUntil : Nat)
  deriving DecidableEq

inductive SignatureStatus where
  | pending | accepted
  deriving DecidableEq

structure SeenWebhookSignature where
  seenAt : Nat
  status : SignatureStatus
  deriving DecidableEq

/-- The signatures a store remembers, in the order in which they entered. -/
abbrev SeenSignatures := OrderedMap String SeenWebhookSignature

structure SignatureStore where
  /-- Under which key a signature is kept. -/
  storedKey : String → String
  /-- Forgets what has expired, then what exceeds the limit. -/
  prune (nowMs windowMs cacheLimit : Nat) (seen : SeenSignatures) : SeenSignatures
  accept (key : String) (claimedAt : Nat) (seen : SeenSignatures) : SeenSignatures

def unexpired (nowMs windowMs : Nat) (seen : SeenSignatures) : SeenSignatures :=
  seen.filter fun _ signature => !decide (nowMs - signature.seenAt > windowMs)

namespace InMemory

/-- `while (size > cacheLimit)` without the oldest entry. -/
def dropOldest (cacheLimit : Nat) :
    List (String × SeenWebhookSignature) → List (String × SeenWebhookSignature)
  | [] => []
  | oldest :: rest =>
    if rest.length + 1 > cacheLimit then dropOldest cacheLimit rest else oldest :: rest

theorem dropOldest_sublist (cacheLimit : Nat) (entries : List (String × SeenWebhookSignature)) :
    (dropOldest cacheLimit entries).Sublist entries := by
  induction entries with
  | nil => exact .slnil
  | cons oldest _ ih =>
    rw [dropOldest]
    split
    · exact ih.cons oldest
    · exact .refl _

def pruneSeenSignatures (nowMs windowMs cacheLimit : Nat) (seen : SeenSignatures) :
    SeenSignatures where
  entries := dropOldest cacheLimit (unexpired nowMs windowMs seen).entries
  nodupKeys := ((dropOldest_sublist cacheLimit _).map Prod.fst).nodup
    (unexpired nowMs windowMs seen).nodupKeys

/-- `accept` enters the signature afresh, whatever is there by then. -/
def acceptSignature (key : String) (claimedAt : Nat) (seen : SeenSignatures) : SeenSignatures :=
  seen.set key ⟨claimedAt, .accepted⟩

def signatures : SignatureStore where
  storedKey key := key
  prune := pruneSeenSignatures
  accept := acceptSignature

end InMemory

namespace Sqlite

/-- The rows without the `overflow` that were seen first. -/
def pruneWorkflowWebhookSignatures (nowMs windowMs cacheLimit : Nat) (seen : SeenSignatures) :
    SeenSignatures :=
  let kept := unexpired nowMs windowMs seen
  let overflow := kept.entries.length - cacheLimit
  let oldest := (kept.entries.insertionSort fun first second =>
    first.2.seenAt ≤ second.2.seenAt).take overflow
  kept.filter fun keyHash _ => !decide (keyHash ∈ oldest.map Prod.fst)

/-- Where `status` is `pending`, it becomes `accepted`. -/
def acceptSignature (keyHash : String) (seen : SeenSignatures) : SeenSignatures :=
  match seen.get keyHash with
  | some ⟨seenAt, .pending⟩ => seen.set keyHash ⟨seenAt, .accepted⟩
  | _ => seen

/-- Rows go under the SHA-256 digest of the key. -/
def signatures (webhookSecurityKeyHash : String → String) : SignatureStore where
  storedKey := webhookSecurityKeyHash
  prune := pruneWorkflowWebhookSignatures
  accept key _ := acceptSignature (webhookSecurityKeyHash key)

end Sqlite

variable (store : SignatureStore)

/-- `claimSignature`, with whether a claim is handed out. -/
def SignatureStore.claimSignature (key : String) (nowMs windowMs cacheLimit : Nat)
    (seen : SeenSignatures) : Bool × SeenSignatures :=
  let seen := store.prune nowMs windowMs cacheLimit seen
  if (seen.get (store.storedKey key)).isSome then (false, seen)
  else (true, seen.set (store.storedKey key) ⟨nowMs, .pending⟩)

/-- `release` removes the record under the claim's key while it is pending. -/
def SignatureStore.release (key : String) (seen : SeenSignatures) : SeenSignatures :=
  match seen.get (store.storedKey key) with
  | some ⟨_, .pending⟩ => seen.erase (store.storedKey key)
  | _ => seen

inductive ClaimState where
  | active | accepted | released
  deriving DecidableEq

/-- A claim that has been handed out: its callbacks act once. -/
structure WorkflowWebhookReplayClaim where
  key : String
  claimedAt : Nat
  state : ClaimState
  deriving DecidableEq

/-- The signatures a store remembers and the claims it has handed out, oldest first. -/
structure SignatureState where
  seen : SeenSignatures
  claims : List WorkflowWebhookReplayClaim

namespace SignatureState

def empty : SignatureState := ⟨OrderedMap.empty, []⟩

variable (state : SignatureState)

def claimSignature (key : String) (nowMs windowMs cacheLimit : Nat) : Bool × SignatureState :=
  match store.claimSignature key nowMs windowMs cacheLimit state.seen with
  | (true, seen) => (true, ⟨seen, state.claims ++ [⟨key, nowMs, .active⟩]⟩)
  | (false, seen) => (false, { state with seen })

variable {state} in
theorem claimSignature_of_free {key : String} {nowMs windowMs cacheLimit : Nat}
    (hfree : (store.prune nowMs windowMs cacheLimit state.seen).get (store.storedKey key) = none) :
    state.claimSignature store key nowMs windowMs cacheLimit = (true,
      ⟨(store.prune nowMs windowMs cacheLimit state.seen).set (store.storedKey key)
        ⟨nowMs, .pending⟩, state.claims ++ [⟨key, nowMs, .active⟩]⟩) := by
  unfold claimSignature SignatureStore.claimSignature
  dsimp only
  rw [hfree]
  rfl

variable {state} in
theorem claimSignature_of_seen {key : String} {nowMs windowMs cacheLimit : Nat}
    {signature : SeenWebhookSignature}
    (hseen : (store.prune nowMs windowMs cacheLimit state.seen).get (store.storedKey key) =
      some signature) :
    state.claimSignature store key nowMs windowMs cacheLimit =
      (false, ⟨store.prune nowMs windowMs cacheLimit state.seen, state.claims⟩) := by
  unfold claimSignature SignatureStore.claimSignature
  dsimp only
  rw [hseen]
  rfl

def settle (claim : Nat) (outcome : ClaimState) : List WorkflowWebhookReplayClaim :=
  state.claims.modify claim fun entry => { entry with state := outcome }

/-- The `accept` of one claim. -/
def accept (claim : Nat) : SignatureState :=
  match state.claims[claim]? with
  | some ⟨key, claimedAt, .active⟩ =>
    ⟨store.accept key claimedAt state.seen, state.settle claim .accepted⟩
  | _ => state

/-- The `release` of one claim. -/
def release (claim : Nat) : SignatureState :=
  match state.claims[claim]? with
  | some ⟨key, _, .active⟩ => ⟨store.release key state.seen, state.settle claim .released⟩
  | _ => state

end SignatureState

end OpenCowork.Desktop
