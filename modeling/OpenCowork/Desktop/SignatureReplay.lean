import OpenCowork.Desktop.WebhookSecurity
import OpenCowork.Foundation.Machine

/-! # A signature triggers a workflow once

A delivery is verified against the server's clock, on either side of it, and then
claims its signature; the record of a claim is kept for a window counted from the
time of sight, in a bounded cache. As long as no delivery verifies after the record
of an earlier claim may have gone, a signature is claimed again only after its
claim was released.
-/

namespace OpenCowork.Desktop

open Foundation OrderedMap

/-- The parts of the host language and its crypto library that the server uses. -/
structure WebhookCrypto where
  /-- `Date.parse`. -/
  parseDate : String → Option Int
  /-- The hexadecimal HMAC-SHA-256 of a text under a key. -/
  hmacSha256 : String → String → String
  /-- The hexadecimal SHA-256 digest of a text. -/
  sha256 : String → String

inductive WorkflowWebhookAuth where
  | secret (secret : String)
  | signature (timestamp signature rawBody : String)
  deriving DecidableEq

variable (crypto : WebhookCrypto)

def signWorkflowWebhookPayload (secret rawBody timestamp : String) : String :=
  "sha256=" ++ crypto.hmacSha256 secret (timestamp ++ "." ++ rawBody)

def verifyWorkflowWebhookAuth (auth : WorkflowWebhookAuth) (secret : String) (nowMs : Nat) :
    Bool :=
  if secret = "" then false
  else match auth with
    | .secret given => given = secret
    | .signature timestamp signature rawBody =>
      match crypto.parseDate timestamp with
      | none => false
      | some timestampMs =>
        if (nowMs - timestampMs : Int).natAbs > 5 * 60 * 1000 then false
        else signature = signWorkflowWebhookPayload crypto secret rawBody timestamp

def workflowScopeKey (workflowId : String) : String :=
  let id := if workflowId = "" then "unknown-workflow" else workflowId
  String.ofList ((crypto.sha256 id).toList.take 16)

def signatureReplayKey (workflowId timestamp signature : String) : String :=
  workflowScopeKey crypto workflowId ++ ":" ++ timestamp ++ ":" ++ signature

/-- A claim of a bearer secret is not guarded: both its callbacks do nothing. -/
inductive DeliveryAnswer where
  | unauthorized | unguarded | replayed | claimed | settled
  deriving DecidableEq

def claimWorkflowWebhookSignatureOnce (store : SignatureStore) (auth : WorkflowWebhookAuth)
    (workflowId : String) (nowMs : Nat) (state : SignatureState) :
    DeliveryAnswer × SignatureState :=
  match auth with
  | .secret _ => (.unguarded, state)
  | .signature timestamp signature _ =>
    match state.claimSignature store (signatureReplayKey crypto workflowId timestamp signature)
        nowMs webhookSignatureReplayWindowMs webhookSignatureReplayCacheLimit with
    | (true, state) => (.claimed, state)
    | (false, state) => (.replayed, state)

inductive WebhookInput where
  /-- A request for a workflow whose secret is `secret` at that time. -/
  | deliver (nowMs : Nat) (workflowId secret : String) (auth : WorkflowWebhookAuth)
  | accept (claim : Nat)
  | release (claim : Nat)

/-- The server's clock, where an input reads it. -/
def WebhookInput.time : WebhookInput → Option Nat
  | deliver nowMs _ _ _ => some nowMs
  | _ => none

def answerWebhook (store : SignatureStore) (state : SignatureState) (input : WebhookInput) :
    DeliveryAnswer × SignatureState :=
  match input with
  | .deliver nowMs workflowId secret auth =>
    if verifyWorkflowWebhookAuth crypto auth secret nowMs then
      claimWorkflowWebhookSignatureOnce crypto store auth workflowId nowMs state
    else (.unauthorized, state)
  | .accept claim => (.settled, state.accept store claim)
  | .release claim => (.settled, state.release store claim)

def webhookServer (store : SignatureStore) :
    Machine SignatureState WebhookInput DeliveryAnswer where
  step := answerWebhook crypto store

/-- A delivery that verifies when the record of an earlier claim may be gone: its
signature was claimed longer ago than the window and not released, or more
signatures are remembered than the cache may hold. -/
def outlastsRecord (store : SignatureStore) (state : SignatureState) : WebhookInput → Bool
  | .deliver nowMs workflowId secret (.signature timestamp signature rawBody) =>
    let key := signatureReplayKey crypto workflowId timestamp signature
    verifyWorkflowWebhookAuth crypto (.signature timestamp signature rawBody) secret nowMs &&
      ((state.claims.any fun claim => store.storedKey claim.key = store.storedKey key &&
          claim.state ≠ .released && claim.claimedAt + webhookSignatureReplayWindowMs < nowMs) ||
        decide (webhookSignatureReplayCacheLimit <
          (unexpired nowMs webhookSignatureReplayWindowMs state.seen).entries.length))
  | _ => false

structure SignatureStore.Sound (store : SignatureStore) : Prop where
  prune : ∀ nowMs windowMs cacheLimit seen,
    (unexpired nowMs windowMs seen).entries.length ≤ cacheLimit →
    store.prune nowMs windowMs cacheLimit seen = unexpired nowMs windowMs seen
  accept_of_ne : ∀ key claimedAt seen other, store.storedKey key ≠ other →
    (store.accept key claimedAt seen).get other = seen.get other
  accept : ∀ key claimedAt status seen,
    seen.get (store.storedKey key) = some ⟨claimedAt, status⟩ →
    ∃ later, (store.accept key claimedAt seen).get (store.storedKey key) =
      some ⟨claimedAt, later⟩

theorem InMemory.signatures_sound : InMemory.signatures.Sound where
  prune := by
    intro nowMs windowMs cacheLimit seen hlength
    apply ext_entries
    change InMemory.dropOldest cacheLimit (unexpired nowMs windowMs seen).entries = _
    cases hentries : (unexpired nowMs windowMs seen).entries with
    | nil => rfl
    | cons =>
      rw [hentries, List.length_cons] at hlength
      rw [InMemory.dropOldest, if_neg (by omega)]
  accept_of_ne := by
    intro key claimedAt seen _ hne
    exact get_set_of_ne _ _ hne
  accept := by
    intro key claimedAt _ seen _
    exact ⟨.accepted, get_set_self _ _ _⟩

theorem Sqlite.signatures_sound (hash : String → String) : (Sqlite.signatures hash).Sound where
  prune := by
    intro nowMs windowMs _ seen hlength
    apply ext_entries
    change ((unexpired nowMs windowMs seen).filter _).entries = _
    rw [Nat.sub_eq_zero_of_le hlength, List.take_zero]
    exact List.filter_eq_self.mpr (by simp)
  accept_of_ne := by
    intro key claimedAt seen other hne
    change (Sqlite.acceptSignature (hash key) seen).get other = _
    unfold Sqlite.acceptSignature
    split
    · exact get_set_of_ne _ _ hne
    · rfl
  accept := by
    intro key claimedAt status seen hseen
    change ∃ later, (Sqlite.acceptSignature (hash key) seen).get (hash key) = _
    change seen.get (hash key) = _ at hseen
    unfold Sqlite.acceptSignature
    rw [hseen]
    cases status with
    | pending => exact ⟨.accepted, get_set_self _ _ _⟩
    | accepted => exact ⟨.accepted, hseen⟩

/-- Of the claims under one key only the latest has not been released, and its record
is there until it expires. -/
structure Remembers (store : SignatureStore) (clock : Nat) (state : SignatureState) : Prop where
  single : ∀ (first second : Nat) (earlier later : WorkflowWebhookReplayClaim),
    state.claims[first]? = some earlier → state.claims[second]? = some later → first < second →
    store.storedKey earlier.key = store.storedKey later.key → earlier.state = .released
  kept : ∀ (index : Nat) (claim : WorkflowWebhookReplayClaim),
    state.claims[index]? = some claim → claim.state ≠ .released →
    (∃ status, state.seen.get (store.storedKey claim.key) = some ⟨claim.claimedAt, status⟩) ∨
      claim.claimedAt + webhookSignatureReplayWindowMs < clock

variable {crypto} {store : SignatureStore}
variable {clock : Nat} {state : SignatureState}
variable {claim index : Nat} {other : String} {nowMs : Nat}

theorem remembers_empty (clock : Nat) : Remembers store clock SignatureState.empty where
  single := by
    intro _ _ _ _ h
    cases h
  kept := by
    intro _ _ h
    cases h

variable (h : Remembers store clock state)
include h

theorem Remembers.later {later : Nat} (hclock : clock ≤ later) : Remembers store later state := by
  refine ⟨h.single, ?_⟩
  intro index claim hclaim hopen
  rcases h.kept index claim hclaim hopen with hseen | _
  · exact .inl hseen
  · exact .inr (by omega)

theorem Remembers.unique {first second : Nat} {earlier later : WorkflowWebhookReplayClaim}
    (hfirst : state.claims[first]? = some earlier) (hsecond : state.claims[second]? = some later)
    (hkey : store.storedKey earlier.key = store.storedKey later.key)
    (hearlier : earlier.state ≠ .released) (hlater : later.state ≠ .released) : first = second := by
  rcases Nat.lt_trichotomy first second with hlt | heq | hlt
  · exact absurd (h.single first second earlier later hfirst hsecond hlt hkey) hearlier
  · exact heq
  · exact absurd (h.single second first later earlier hsecond hfirst hlt hkey.symm) hlater

omit h in
theorem getElem?_settle {outcome : ClaimState} :
    (state.settle claim outcome)[index]? = if claim = index then
      (state.claims[index]?).map fun entry => { entry with state := outcome }
      else state.claims[index]? := by
  unfold SignatureState.settle
  rw [List.getElem?_modify]
  split
  · rfl
  · simp

/-- Settling a claim that is active keeps the claims in order, as long as every claim
that is still open keeps its record. -/
theorem Remembers.settle {entry : WorkflowWebhookReplayClaim}
    (hclaim : state.claims[claim]? = some entry) (hactive : entry.state = .active)
    (outcome : ClaimState) (seen : SeenSignatures)
    (hother : ∀ other, other ≠ store.storedKey entry.key → seen.get other = state.seen.get other)
    (hself : outcome ≠ .released → ∀ status,
      state.seen.get (store.storedKey entry.key) = some ⟨entry.claimedAt, status⟩ →
      ∃ later, seen.get (store.storedKey entry.key) = some ⟨entry.claimedAt, later⟩) :
    Remembers store clock ⟨seen, state.settle claim outcome⟩ := by
  have hactiveOpen : entry.state ≠ .released := by
    rw [hactive]
    decide
  -- every claim afterwards is one from before, the settled one in its new state
  have hback : ∀ index later, (state.settle claim outcome)[index]? = some later →
      ∃ old, state.claims[index]? = some old ∧ later.key = old.key ∧
        later.claimedAt = old.claimedAt ∧ (claim = index ∧ later.state = outcome ∨
          claim ≠ index ∧ later.state = old.state) := by
    intro index later hlater
    rw [getElem?_settle] at hlater
    split at hlater
    next hindex =>
      obtain ⟨old, hold, rfl⟩ := Option.map_eq_some_iff.mp hlater
      exact ⟨old, hold, rfl, rfl, .inl ⟨hindex, rfl⟩⟩
    next hindex => exact ⟨later, hlater, rfl, rfl, .inr ⟨hindex, rfl⟩⟩
  constructor
  · intro first second earlier later hfirst hsecond hlt hkey
    obtain ⟨old, hold, hkeyOld, -, hstate⟩ := hback first earlier hfirst
    obtain ⟨old', hold', hkeyOld', -, -⟩ := hback second later hsecond
    rw [hkeyOld, hkeyOld'] at hkey
    have hreleased := h.single first second old old' hold hold' hlt hkey
    rcases hstate with ⟨rfl, -⟩ | ⟨-, hstate⟩
    · cases hclaim.symm.trans hold
      exact absurd hreleased hactiveOpen
    · exact hstate.trans hreleased
  · intro index later hlater hopen
    obtain ⟨old, hold, hkey, htime, hstate⟩ := hback index later hlater
    rw [hkey, htime]
    rcases hstate with ⟨rfl, hstate⟩ | ⟨hne, hstate⟩
    · cases hclaim.symm.trans hold
      rcases h.kept claim entry hclaim hactiveOpen with ⟨status, hseen⟩ | hexpired
      · exact .inl (hself (hstate ▸ hopen) status hseen)
      · exact .inr hexpired
    · have hopenOld : old.state ≠ .released := hstate ▸ hopen
      rcases h.kept index old hold hopenOld with ⟨status, hseen⟩ | hexpired
      · refine .inl ⟨status, ?_⟩
        rw [hother]
        · exact hseen
        · intro hkeys
          exact hne (h.unique hclaim hold hkeys.symm hactiveOpen hopenOld)
      · exact .inr hexpired

omit h in
theorem Remembers.accept (hstore : store.Sound) (h : Remembers store clock state)
    (claim : Nat) : Remembers store clock (state.accept store claim) := by
  unfold SignatureState.accept
  split
  next key claimedAt hclaim =>
    refine h.settle hclaim rfl .accepted _ ?_ ?_
    · intro other hne
      exact hstore.accept_of_ne key claimedAt state.seen other hne.symm
    · intro _ status hseen
      exact hstore.accept key claimedAt status state.seen hseen
  next => exact h

omit h in
theorem release_get_of_ne (key : String) (seen : SeenSignatures)
    (hne : other ≠ store.storedKey key) : (store.release key seen).get other = seen.get other := by
  unfold SignatureStore.release
  split
  · exact get_erase_of_ne _ hne.symm
  · rfl

theorem Remembers.release (claim : Nat) : Remembers store clock (state.release store claim) := by
  unfold SignatureState.release
  split
  next key _ hclaim =>
    refine h.settle hclaim rfl .released _ ?_ ?_
    · intro _ hne
      exact release_get_of_ne key state.seen hne
    · intro hopen
      exact absurd rfl hopen
  next => exact h

omit h

theorem get_unexpired {windowMs : Nat} {seen : SeenSignatures} {key : String}
    {signature : SeenWebhookSignature} :
    (unexpired nowMs windowMs seen).get key = some signature ↔
      seen.get key = some signature ∧ nowMs ≤ signature.seenAt + windowMs := by
  rw [unexpired, get_filter_eq_some_iff]
  simp only [Bool.not_eq_true', decide_eq_false_iff_not]
  exact and_congr_right fun _ => by omega

theorem getElem?_append_last {α : Type} {items : List α} {last item : α}
    (h : (items ++ [last])[index]? = some item) :
    items[index]? = some item ∨ index = items.length ∧ item = last := by
  rcases Nat.lt_trichotomy index items.length with hlt | heq | _
  · rw [List.getElem?_append_left hlt] at h
    exact .inl h
  · subst heq
    rw [List.getElem?_concat_length] at h
    exact .inr ⟨rfl, (Option.some.inj h).symm⟩
  · rw [List.getElem?_eq_none (by simp; omega)] at h
    cases h

theorem Remembers.claimSignature (hstore : store.Sound) (h : Remembers store clock state)
    (key : String) (hclock : clock ≤ nowMs)
    (hage : ∀ claim ∈ state.claims, store.storedKey claim.key = store.storedKey key →
      claim.state ≠ .released → nowMs ≤ claim.claimedAt + webhookSignatureReplayWindowMs)
    (hload : (unexpired nowMs webhookSignatureReplayWindowMs state.seen).entries.length ≤
      webhookSignatureReplayCacheLimit) :
    Remembers store nowMs (state.claimSignature store key nowMs webhookSignatureReplayWindowMs
      webhookSignatureReplayCacheLimit).2 := by
  -- pruning takes nothing but what has expired by now
  have hpruned : Remembers store nowMs ⟨store.prune nowMs webhookSignatureReplayWindowMs
      webhookSignatureReplayCacheLimit state.seen, state.claims⟩ := by
    refine ⟨h.single, ?_⟩
    intro index claim hclaim hopen
    rw [hstore.prune _ _ _ _ hload]
    by_cases hexpired : claim.claimedAt + webhookSignatureReplayWindowMs < nowMs
    · exact .inr hexpired
    · rcases h.kept index claim hclaim hopen with ⟨status, hseen⟩ | hold
      · exact .inl ⟨status, get_unexpired.mpr ⟨hseen, by simp only; omega⟩⟩
      · exact absurd (lt_of_lt_of_le hold hclock) hexpired
  unfold SignatureState.claimSignature SignatureStore.claimSignature
  dsimp only
  split
  next _ heq =>
    split at heq
    next => cases heq
    next hfree =>
      cases heq
      -- a claim that has not been released would still have its record
      have hreleased : ∀ (index : Nat) (claim : WorkflowWebhookReplayClaim),
          state.claims[index]? = some claim → store.storedKey claim.key = store.storedKey key →
          claim.state = .released := by
        intro index claim hclaim hkey
        by_contra hopen
        rcases hpruned.kept index claim hclaim hopen with ⟨_, hseen⟩ | _
        · rw [hkey] at hseen
          rw [hseen] at hfree
          exact hfree rfl
        · have := hage claim (List.mem_of_getElem? hclaim) hkey hopen
          omega
      constructor
      · intro first second earlier later hfirst hsecond hlt hkey
        rcases getElem?_append_last hfirst with hfirst | ⟨rfl, rfl⟩
        · rcases getElem?_append_last hsecond with hsecond | ⟨rfl, rfl⟩
          · exact h.single first second earlier later hfirst hsecond hlt hkey
          · exact hreleased first earlier hfirst hkey
        · have hbound := (List.getElem?_eq_some_iff.mp hsecond).1
          rw [List.length_append, List.length_singleton] at hbound
          omega
      · intro index claim hclaim hopen
        rcases getElem?_append_last hclaim with hclaim | ⟨rfl, rfl⟩
        · have hne : store.storedKey key ≠ store.storedKey claim.key := fun heq =>
            hopen (hreleased index claim hclaim heq.symm)
          dsimp only
          rw [get_set_of_ne _ _ hne]
          exact hpruned.kept index claim hclaim hopen
        · exact .inl ⟨.pending, get_set_self _ _ _⟩
  next heq =>
    split at heq
    next =>
      cases heq
      exact hpruned
    next => cases heq

theorem Remembers.answer (hstore : store.Sound) (h : Remembers store clock state)
    (input : WebhookInput) (hclock : ∀ time ∈ input.time, clock ≤ time)
    (hquiet : outlastsRecord crypto store state input = false) :
    Remembers store (input.time.getD clock) (answerWebhook crypto store state input).2 := by
  cases input with
  | accept claim => exact h.accept hstore claim
  | release claim => exact h.release claim
  | deliver nowMs workflowId secret auth =>
    have hnow : clock ≤ nowMs := hclock nowMs rfl
    rw [answerWebhook, WebhookInput.time, Option.getD_some]
    split
    next hverified =>
      cases auth with
      | secret => exact h.later hnow
      | signature timestamp signature =>
        rw [outlastsRecord, hverified, Bool.true_and, Bool.or_eq_false_iff,
          decide_eq_false_iff_not, Nat.not_lt] at hquiet
        have hclaimed := h.claimSignature hstore
          (signatureReplayKey crypto workflowId timestamp signature) hnow ?_ hquiet.2
        · unfold claimWorkflowWebhookSignatureOnce
          dsimp only
          split
          next _ heq => rwa [heq] at hclaimed
          next heq => rwa [heq] at hclaimed
        · intro claim hmem hkey hopen
          have hage := List.any_eq_false.mp hquiet.1 claim hmem
          simpa [hkey, hopen] using hage
    next => exact h.later hnow

/-- The server remembers every claim that may still be seen. -/
theorem run_remembers (hstore : store.Sound) (inputs : List WebhookInput) (clock : Nat)
    (state : SignatureState) (h : Remembers store clock state)
    (hclock : (clock :: inputs.filterMap WebhookInput.time).Pairwise (· ≤ ·))
    (hquiet : ∀ moment ∈ (webhookServer crypto store).history state inputs,
      outlastsRecord crypto store moment.before moment.input = false) :
    ∃ later, Remembers store later ((webhookServer crypto store).run state inputs) := by
  induction inputs generalizing clock state with
  | nil => exact ⟨clock, h⟩
  | cons input _ ih =>
    have hnow : ∀ time ∈ input.time, clock ≤ time := by
      intro time htime
      rw [List.filterMap_cons_some htime] at hclock
      exact (List.pairwise_cons.mp hclock).1 time (.head _)
    refine ih (input.time.getD clock) _ (h.answer hstore input hnow (hquiet _ (.head _)))
      ?_ (fun moment hmem => hquiet moment (.tail _ hmem))
    cases htime : input.time with
    | none => rwa [List.filterMap_cons_none htime] at hclock
    | some =>
      rw [List.filterMap_cons_some htime] at hclock
      exact (List.pairwise_cons.mp hclock).2

/-- The two stores the server runs with. -/
inductive SignatureStoreKind where
  | inMemory | sqlite

def SignatureStoreKind.signatures (crypto : WebhookCrypto) : SignatureStoreKind → SignatureStore
  | inMemory => InMemory.signatures
  | sqlite => Sqlite.signatures crypto.sha256

theorem SignatureStoreKind.signatures_sound (kind : SignatureStoreKind) :
    (kind.signatures crypto).Sound := by
  cases kind with
  | inMemory => exact InMemory.signatures_sound
  | sqlite => exact Sqlite.signatures_sound crypto.sha256

theorem release_ne (h : (state.release store claim).seen.get other ≠ state.seen.get other) :
    ∃ entry, state.claims[claim]? = some entry ∧ entry.state = .active ∧
      other = store.storedKey entry.key := by
  unfold SignatureState.release at h
  split at h
  next key _ hclaim =>
    refine ⟨_, hclaim, rfl, ?_⟩
    by_contra hne
    exact h (release_get_of_ne key state.seen hne)
  next => exact absurd rfl h

/-- As long as no delivery outlasts a record, a signature is claimed again only after
its earlier claim was released, and a release removes no record but that of its own
claim, the latest under its key. -/
theorem signature_claimed_once (crypto : WebhookCrypto) (kind : SignatureStoreKind)
    (inputs : List WebhookInput) (hclock : (inputs.filterMap WebhookInput.time).Pairwise (· ≤ ·))
    (hquiet : ∀ moment ∈ (webhookServer crypto (kind.signatures crypto)).history .empty inputs,
      outlastsRecord crypto (kind.signatures crypto) moment.before moment.input = false) :
    (∀ (first second : Nat) (earlier later : WorkflowWebhookReplayClaim),
      ((webhookServer crypto (kind.signatures crypto)).run .empty inputs).claims[first]? =
        some earlier →
      ((webhookServer crypto (kind.signatures crypto)).run .empty inputs).claims[second]? =
        some later →
      first < second → earlier.key = later.key → earlier.state = .released) ∧
    ∀ moment ∈ (webhookServer crypto (kind.signatures crypto)).history .empty inputs, ∀ claim,
      moment.input = .release claim → ∀ other,
      moment.after.seen.get other ≠ moment.before.seen.get other →
      ∃ entry, moment.before.claims[claim]? = some entry ∧
        other = (kind.signatures crypto).storedKey entry.key ∧
        ∀ (index : Nat) (later : WorkflowWebhookReplayClaim),
          moment.before.claims[index]? = some later →
          (kind.signatures crypto).storedKey later.key =
            (kind.signatures crypto).storedKey entry.key →
          index ≤ claim := by
  have hsorted : (0 :: inputs.filterMap WebhookInput.time).Pairwise (· ≤ ·) :=
    List.pairwise_cons.mpr ⟨fun time _ => Nat.zero_le time, hclock⟩
  constructor
  · obtain ⟨clock, h⟩ := run_remembers kind.signatures_sound inputs 0 .empty (remembers_empty 0)
      hsorted hquiet
    intro first second earlier later hfirst hsecond hlt hkey
    exact h.single first second earlier later hfirst hsecond hlt (congrArg _ hkey)
  · intro moment hmem claim hinput other hchanged
    obtain ⟨first, _, _, rfl, rfl⟩ :=
      (webhookServer crypto (kind.signatures crypto)).exists_prefix_of_mem_history _ _ _ hmem
    rw [List.filterMap_append, ← List.cons_append] at hsorted
    rw [Machine.history_append] at hquiet
    obtain ⟨_, h⟩ := run_remembers kind.signatures_sound first 0 .empty (remembers_empty 0)
      (List.pairwise_append.mp hsorted).1
      (fun moment hmem => hquiet moment (List.mem_append_left _ hmem))
    cases hinput
    obtain ⟨entry, hentry, hactive, hother⟩ := release_ne hchanged
    refine ⟨entry, hentry, hother, ?_⟩
    intro index later hlater hkey
    by_contra hlt
    have hreleased := h.single claim index entry later hentry hlater (Nat.not_le.mp hlt) hkey.symm
    rw [hactive] at hreleased
    cases hreleased

/-- A crypto library that leaves texts readable, with the one timestamp `"T"` that is
301 seconds into the epoch. -/
def readableCrypto : WebhookCrypto where
  parseDate text := if text = "T" then some 301000 else none
  hmacSha256 secret text := secret ++ ":" ++ text
  sha256 text := text

/-- A delivery that is signed for the timestamp `"T"`. -/
def signedDelivery (nowMs : Nat) : WebhookInput :=
  .deliver nowMs "w" "s" (.signature "T" "sha256=s:T.body" "body")

/-- A claim that is released, and the next one under the same key, which is accepted. -/
theorem signature_claimed_once_retried :
    let inputs : List WebhookInput := [signedDelivery 301000, .release 0, signedDelivery 302000,
      .accept 1, signedDelivery 303000]
    let state := (webhookServer readableCrypto (SignatureStoreKind.signatures readableCrypto
      .sqlite)).run .empty inputs
    state.claims.map (·.state) = [.released, .accepted] ∧
      ∀ (first second : Nat) (earlier later : WorkflowWebhookReplayClaim),
        state.claims[first]? = some earlier → state.claims[second]? = some later →
        first < second → earlier.key = later.key → earlier.state = .released :=
  ⟨by decide +kernel, (signature_claimed_once readableCrypto .sqlite _ (by decide +kernel)
    (by decide +kernel)).1⟩

/-- A timestamp five minutes ahead verifies for ten minutes; its record lasts for five,
in either store. -/
theorem signature_claimed_twice :
    ¬ ∃ kind : SignatureStoreKind, ∀ inputs : List WebhookInput,
      (inputs.filterMap WebhookInput.time).Pairwise (· ≤ ·) →
      ∀ (first second : Nat) (earlier later : WorkflowWebhookReplayClaim),
        ((webhookServer readableCrypto (kind.signatures readableCrypto)).run .empty
          inputs).claims[first]? = some earlier →
        ((webhookServer readableCrypto (kind.signatures readableCrypto)).run .empty
          inputs).claims[second]? = some later →
        first < second → earlier.key = later.key → earlier.state = .released := by
  rintro ⟨kind, h⟩
  have hrun : ((webhookServer readableCrypto (kind.signatures readableCrypto)).run .empty
      [signedDelivery 1000, .accept 0, signedDelivery 301001]).claims =
        [⟨"w:T:sha256=s:T.body", 1000, .accepted⟩, ⟨"w:T:sha256=s:T.body", 301001, .active⟩] := by
    cases kind <;> decide +kernel
  have hreleased := h [signedDelivery 1000, .accept 0, signedDelivery 301001] (by decide) 0 1
    ⟨"w:T:sha256=s:T.body", 1000, .accepted⟩ ⟨"w:T:sha256=s:T.body", 301001, .active⟩
    (by rw [hrun]; rfl) (by rw [hrun]; rfl) Nat.zero_lt_one rfl
  cases hreleased

end OpenCowork.Desktop
