import OpenCowork.Gateway.DaemonLeadership

/-! # The transaction fence of the work database

Every connection to the work database checks the leadership row when a transaction begins, before
every mutation and when the transaction commits. All transactions are immediate, and SQLite lets
one of them run at a time.
-/

namespace OpenCowork.Gateway

open Foundation

/-- The open write transaction: the connection that holds it, what its BEGIN was fenced with, and
its writes. -/
structure WorkTransaction (Write : Type) where
  holder : String
  begunUnder : Option WorkDbLeadershipEpoch
  writes : List Write

structure WorkDatabase (Write : Type) where
  leadership : Option DaemonLeadershipRow
  work : List Write
  transaction : Option (WorkTransaction Write) := none

inductive WorkDbAnswer (Write : Type)
  | threw (error : String)
  | done
  | committed (transaction : WorkTransaction Write)

variable {Write : Type} (db : WorkDatabase Write) (fence : WorkDbTransactionFence)
  (sources : FenceSources) (epoch : WorkDbLeadershipEpoch) (now : Int)

/-! ## What SQLite does -/

namespace WorkDatabase

def rawBegin (holder : String) (epoch : Option WorkDbLeadershipEpoch) (db : WorkDatabase Write) :
    Except String (WorkDatabase Write) :=
  match db.transaction with
  | none => .ok { db with transaction := some { holder, begunUnder := epoch, writes := [] } }
  | some transaction => .error (if transaction.holder = holder then
      "cannot start a transaction within a transaction" else "database is locked")

def rawCommit (holder : String) (failure : Option String) (db : WorkDatabase Write) :
    Except String (WorkTransaction Write × WorkDatabase Write) := do
  let transaction ← orThrow (db.transaction.filter fun open' => open'.holder = holder)
    "cannot commit - no transaction is active"
  match failure with
  | some error => .error error
  | none => .ok (transaction,
      { db with work := db.work ++ transaction.writes, transaction := none })

def rawRollback (holder : String) (db : WorkDatabase Write) : Except String (WorkDatabase Write) :=
  if db.transaction.any fun open' => open'.holder = holder then
    .ok { db with transaction := none }
  else .error "cannot rollback - no transaction is active"

/-- `try { rawExec('ROLLBACK') } catch {}`. -/
def tryRollback (holder : String) (db : WorkDatabase Write) : WorkDatabase Write :=
  match db.rawRollback holder with
  | .ok next => next
  | .error _ => db

/-- A mutation: in the transaction of the connection, or else a transaction of its own. -/
def rawMutate (holder : String) (write : Write) (db : WorkDatabase Write) :
    WorkDbAnswer Write × WorkDatabase Write :=
  match db.transaction with
  | none => (.committed { holder, begunUnder := none, writes := [write] },
      { db with work := db.work ++ [write] })
  | some transaction =>
    let extended := { transaction with writes := transaction.writes ++ [write] }
    if transaction.holder = holder then (.done, { db with transaction := some extended })
    else (.threw "database is locked", db)

end WorkDatabase

/-! ## The fence -/

/-- The variables that the wrapped methods of a connection share. -/
structure WorkDbTransactionFence where
  transactionOpen : Bool := false
  transactionEpoch : Option WorkDbLeadershipEpoch := none
  transactionFenceActive : Bool := false

/-- The epoch of the surrounding scope, and what the configured provider answers. -/
structure FenceSources where
  scopedEpoch : Option WorkDbLeadershipEpoch := none
  provider : Option (Option WorkDbLeadershipEpoch) := none

structure WorkDbLeadershipFence where
  required : Bool
  epoch : Option WorkDbLeadershipEpoch

def inspectWorkDbLeadershipFence : WorkDbLeadershipFence where
  required := sources.scopedEpoch.isSome || sources.provider.isSome
  epoch := sources.scopedEpoch.or sources.provider.join

def resolveWorkDbLeadershipFence :
    Except String WorkDbLeadershipFence := do
  let fence := inspectWorkDbLeadershipFence sources
  refuseIf (fence.required ∧ fence.epoch = none)
    "Gateway write refused because this daemon does not own the writer lease"
  .ok fence

def assertWorkDbLeadershipEpoch : Except String Unit :=
  refuseIf (¬ db.leadership.any fun row => row.leaderId = epoch.leaderId &&
      row.fencingToken = epoch.fencingToken && now < row.leaseExpiresAt)
    "Scheduler transaction refused because its daemon leadership epoch is stale"

def execBegin (holder : String) (now : Int) (db : WorkDatabase Write)
    (fence : WorkDbTransactionFence) :
    WorkDbAnswer Write × WorkDatabase Write × WorkDbTransactionFence :=
  match resolveWorkDbLeadershipFence sources with
  | .error error => (.threw error, db, fence)
  | .ok resolved =>
    match db.rawBegin holder resolved.epoch with
    | .error error => (.threw error, db, fence)
    | .ok begun =>
      let opened : WorkDbTransactionFence := {
        transactionOpen := true
        transactionEpoch := resolved.epoch
        transactionFenceActive := resolved.required }
      match resolved.epoch with
      | none => (.done, begun, opened)
      | some epoch =>
        match assertWorkDbLeadershipEpoch begun epoch now with
        | .ok _ => (.done, begun, opened)
        | .error error => (.threw error, begun.tryRollback holder, {})

def WorkDbTransactionFence.activeEpoch :
    Option WorkDbLeadershipEpoch :=
  if fence.transactionFenceActive then fence.transactionEpoch else none

def execCommit (holder : String) (now : Int) (failure : Option String) (db : WorkDatabase Write)
    (fence : WorkDbTransactionFence) :
    WorkDbAnswer Write × WorkDatabase Write × WorkDbTransactionFence :=
  let asserted := match fence.activeEpoch with
    | some epoch => assertWorkDbLeadershipEpoch db epoch now
    | none => .ok ()
  match asserted >>= fun _ => db.rawCommit holder failure with
  | .ok (transaction, committed) => (.committed transaction, committed, {})
  | .error error => (.threw error, db.tryRollback holder, {})

def execRollback (holder : String) (db : WorkDatabase Write) (fence : WorkDbTransactionFence) :
    WorkDbAnswer Write × WorkDatabase Write × WorkDbTransactionFence :=
  match db.rawRollback holder with
  | .ok next => (.done, next, {})
  | .error error => (.threw error, db, fence)

/-- A single mutation outside a transaction, in one of its own. The clock is read before and after
the mutation. -/
def runInOwnTransaction (holder : String) (write : Write)
    (now later : Int) (failure : Option String) (db : WorkDatabase Write) :
    WorkDbAnswer Write × WorkDatabase Write :=
  match db.rawBegin holder (some epoch) with
  | .error error => (.threw error, db)
  | .ok begun =>
    let mutated := (begun.rawMutate holder write).2
    match (do
      assertWorkDbLeadershipEpoch begun epoch now
      assertWorkDbLeadershipEpoch mutated epoch later
      mutated.rawCommit holder failure) with
    | .ok (transaction, committed) => (.committed transaction, committed)
    | .error error => (.threw error, mutated.tryRollback holder)

def runFencedWorkDbMutation (holder : String) (write : Write)
    (now later : Int) (failure : Option String) (db : WorkDatabase Write)
    (fence : WorkDbTransactionFence) : WorkDbAnswer Write × WorkDatabase Write :=
  if fence.transactionOpen then
    let asserted := match fence.activeEpoch with
      | some epoch => assertWorkDbLeadershipEpoch db epoch now
      | none => do
          let resolved ← resolveWorkDbLeadershipFence sources
          match resolved.epoch with
          | some epoch => assertWorkDbLeadershipEpoch db epoch now
          | none => .ok ()
    match asserted with
    | .error error => (.threw error, db)
    | .ok _ => db.rawMutate holder write
  else
    match resolveWorkDbLeadershipFence sources with
    | .error error => (.threw error, db)
    | .ok resolved =>
      match resolved.epoch with
      | some epoch => runInOwnTransaction epoch holder write now later failure db
      -- without an epoch no fence is required
      | none => db.rawMutate holder write

/-- A text given to `exec`, as the fence tells texts apart. -/
inductive WorkSql (Write : Type)
  | begin
  | commit
  | rollback
  | mutating (write : Write)
  | reading

/-- A prepared statement is wrapped when it is compiled; one from the cache is the wrapped one. -/
inductive WorkDbCall (Write : Type)
  | exec (sql : WorkSql Write)
  | run (write : Write)

/-- A call on a connection of the daemon `holder`. -/
def WorkDbCall.perform (holder : String) (now later : Int)
    (failure : Option String) (db : WorkDatabase Write) (fence : WorkDbTransactionFence) :
    WorkDbCall Write → WorkDbAnswer Write × WorkDatabase Write × WorkDbTransactionFence
  | .exec .begin => execBegin sources holder later db fence
  | .exec .commit => execCommit holder later failure db fence
  | .exec .rollback => execRollback holder db fence
  | .exec .reading => (.done, db, fence)
  | .exec (.mutating write) | .run write =>
    let (answer, next) := runFencedWorkDbMutation sources holder write now later failure db fence
    (answer, next, fence)

/-! ## What a call does to the database -/

/-- The leadership row carries the leader and the token of the epoch, and has not expired. -/
def WorkDatabase.Carries :
    Prop :=
  ∃ row, db.leadership = some row ∧ row.leaderId = epoch.leaderId ∧
    row.fencingToken = epoch.fencingToken ∧ now < row.leaseExpiresAt

theorem assertWorkDbLeadershipEpoch_eq_ok {db : WorkDatabase Write}
    {epoch : WorkDbLeadershipEpoch} {now : Int} {answer : Unit} :
    assertWorkDbLeadershipEpoch db epoch now = .ok answer ↔ db.Carries epoch now := by
  unfold assertWorkDbLeadershipEpoch WorkDatabase.Carries
  rw [refuseIf_eq_ok, not_not]
  cases db.leadership with
  | none => simp
  | some => simp [and_assoc]

/-- Whoever holds a transaction that was begun under an epoch is held to this epoch. -/
def WorkDbTransactionFence.Guards (holder : String)
    (db : WorkDatabase Write) : Prop :=
  ∀ transaction, db.transaction = some transaction → transaction.holder = holder →
    ∀ epoch, transaction.begunUnder = some epoch → fence.activeEpoch = some epoch

theorem WorkDbTransactionFence.guards_of_none (holder : String)
    {db : WorkDatabase Write} (h : db.transaction = none) : fence.Guards holder db := by
  intro _ htransaction
  rw [h] at htransaction
  cases htransaction

theorem required_of_epoch {sources : FenceSources} {resolved : WorkDbLeadershipFence}
    {epoch : WorkDbLeadershipEpoch} (h : resolveWorkDbLeadershipFence sources = .ok resolved)
    (hepoch : resolved.epoch = some epoch) : resolved.required = true := by
  obtain ⟨_, -, h⟩ := bind_eq_ok h
  cases h
  unfold inspectWorkDbLeadershipFence at hepoch ⊢
  obtain ⟨scopedEpoch, provider⟩ := sources
  cases scopedEpoch <;> cases provider <;> simp_all

/-- What the call of a connection leaves. -/
structure CallEffect (holder : String) (later : Int) (db : WorkDatabase Write)
    (fence : WorkDbTransactionFence) (answer : WorkDbAnswer Write) (next : WorkDatabase Write)
    (nextFence : WorkDbTransactionFence) : Prop where
  leadership : next.leadership = db.leadership
  /-- Only commits change the durable work. -/
  work : next.work = db.work ∨
    ∃ transaction, answer = .committed transaction ∧ next.work = db.work ++ transaction.writes
  /-- The transactions of other connections stay. -/
  transaction : next.transaction = db.transaction ∨
    ∀ transaction, next.transaction = some transaction → transaction.holder = holder
  guards : fence.Guards holder db → nextFence.Guards holder next
  commits : fence.Guards holder db → ∀ transaction epoch, answer = .committed transaction →
    transaction.begunUnder = some epoch → db.Carries epoch later

theorem CallEffect.unchanged (holder : String) (later : Int) (db : WorkDatabase Write)
    (fence : WorkDbTransactionFence) {answer : WorkDbAnswer Write}
    (hanswer : ∀ transaction, answer ≠ .committed transaction) :
    CallEffect holder later db fence answer db fence where
  leadership := rfl
  work := .inl rfl
  transaction := .inl rfl
  guards := id
  commits := fun _ transaction _ hcommitted => absurd hcommitted (hanswer transaction)

namespace WorkDatabase

theorem rawBegin_eq_ok {holder : String} {epoch : Option WorkDbLeadershipEpoch}
    {db begun : WorkDatabase Write} (h : db.rawBegin holder epoch = .ok begun) :
    db.transaction = none ∧
      begun = { db with transaction := some { holder, begunUnder := epoch, writes := [] } } := by
  unfold rawBegin at h
  split at h
  next hnone => exact ⟨hnone, (Except.ok.inj h).symm⟩
  · cases h

theorem rawCommit_eq_ok {holder : String} {failure : Option String}
    {db committed : WorkDatabase Write} {transaction : WorkTransaction Write}
    (h : db.rawCommit holder failure = .ok (transaction, committed)) :
    db.transaction = some transaction ∧ transaction.holder = holder ∧
      committed = { db with work := db.work ++ transaction.writes, transaction := none } := by
  obtain ⟨_, hfound, h⟩ := bind_eq_ok h
  have hheld := Option.filter_eq_some_iff.mp (orThrow_eq_ok hfound)
  cases failure with
  | some => cases h
  | none =>
    cases h
    exact ⟨hheld.1, of_decide_eq_true hheld.2, rfl⟩

variable (holder : String)
include holder

theorem tryRollback_cases (db : WorkDatabase Write) :
    (∃ transaction, db.transaction = some transaction ∧ transaction.holder = holder ∧
      db.tryRollback holder = { db with transaction := none }) ∨
    ((∀ transaction, db.transaction = some transaction → transaction.holder ≠ holder) ∧
      db.tryRollback holder = db) := by
  unfold tryRollback rawRollback
  cases htransaction : db.transaction with
  | none => exact .inr ⟨nofun, by simp⟩
  | some transaction =>
    by_cases hholder : transaction.holder = holder
    · exact .inl ⟨transaction, rfl, hholder, by simp [hholder]⟩
    · refine .inr ⟨fun _ hother => ?_, by simp [hholder]⟩
      cases hother
      exact hholder

theorem tryRollback_leadership (db : WorkDatabase Write) :
    (db.tryRollback holder).leadership = db.leadership := by
  obtain ⟨_, -, -, h⟩ | ⟨-, h⟩ := db.tryRollback_cases holder <;> rw [h]

theorem tryRollback_work (db : WorkDatabase Write) : (db.tryRollback holder).work = db.work := by
  obtain ⟨_, -, -, h⟩ | ⟨-, h⟩ := db.tryRollback_cases holder <;> rw [h]

theorem tryRollback_transaction (db : WorkDatabase Write) :
    (db.tryRollback holder).transaction = none ∨
      ((db.tryRollback holder).transaction = db.transaction ∧
        ∀ transaction, db.transaction = some transaction → transaction.holder ≠ holder) := by
  obtain ⟨_, -, -, h⟩ | ⟨hother, h⟩ := db.tryRollback_cases holder
  · exact .inl (by rw [h])
  · exact .inr ⟨by rw [h], hother⟩

end WorkDatabase

variable (holder : String)
include holder

variable (later : Int)
include later

theorem CallEffect.rolledBack {db began : WorkDatabase Write}
    (fence nextFence : WorkDbTransactionFence) (error : String)
    (hleadership : began.leadership = db.leadership) (hwork : began.work = db.work)
    (htransaction : began.transaction = db.transaction ∨
      ∀ transaction, began.transaction = some transaction → transaction.holder = holder) :
    CallEffect holder later db fence (.threw error) (began.tryRollback holder) nextFence where
  leadership := (began.tryRollback_leadership holder).trans hleadership
  work := .inl ((began.tryRollback_work holder).trans hwork)
  transaction := by
    obtain hnone | ⟨hsame, -⟩ := began.tryRollback_transaction holder
    · exact .inr fun transaction h => by rw [hnone] at h; cases h
    · rwa [hsame]
  guards := by
    intro _ transaction h hholder
    obtain hnone | ⟨hsame, hother⟩ := began.tryRollback_transaction holder
    · rw [hnone] at h
      cases h
    · exact absurd hholder (hother transaction (hsame ▸ h))
  commits := fun _ _ _ h => by cases h

theorem rawMutate_effect (write : Write) (db : WorkDatabase Write)
    (fence : WorkDbTransactionFence) :
    CallEffect holder later db fence (db.rawMutate holder write).1
      (db.rawMutate holder write).2 fence := by
  unfold WorkDatabase.rawMutate
  cases htransaction : db.transaction with
  | none =>
    -- a transaction of its own that nothing fences
    refine ⟨rfl, .inr ⟨_, rfl, rfl⟩, .inl htransaction.symm, fun _ => ?_,
      fun _ transaction epoch h hunder => ?_⟩
    · exact fence.guards_of_none holder rfl
    · cases h
      cases hunder
  | some transaction =>
    by_cases hholder : transaction.holder = holder
    · simp only [if_pos hholder]
      refine ⟨rfl, .inl rfl, .inr fun _ h => ?_, fun hguards _ h _ epoch hunder => ?_,
        nofun⟩
      · cases h
        exact hholder
      · cases h
        exact hguards transaction htransaction hholder epoch hunder
    · simp only [if_neg hholder]
      exact .unchanged holder later db fence nofun

theorem execBegin_effect (db : WorkDatabase Write) (fence : WorkDbTransactionFence) :
    CallEffect holder later db fence (execBegin sources holder later db fence).1
      (execBegin sources holder later db fence).2.1
      (execBegin sources holder later db fence).2.2 := by
  unfold execBegin
  cases hresolved : resolveWorkDbLeadershipFence sources with
  | error => exact .unchanged holder later db fence nofun
  | ok resolved =>
    simp only
    cases hbegin : db.rawBegin holder resolved.epoch with
    | error => exact .unchanged holder later db fence nofun
    | ok =>
      obtain ⟨_, rfl⟩ := WorkDatabase.rawBegin_eq_ok hbegin
      simp only
      cases hepoch : resolved.epoch with
      | none =>
        refine ⟨rfl, .inl rfl, .inr fun other h => ?_, fun _ other h _ _ hunder => ?_, nofun⟩
        · cases h
          rfl
        · cases h
          cases hunder
      | some =>
        simp only
        split
        · refine ⟨rfl, .inl rfl, .inr fun other h => ?_,
            fun _ other h _ _ hunder => ?_, nofun⟩
          · cases h
            rfl
          · cases h
            have hrequired := required_of_epoch hresolved hepoch
            simpa [WorkDbTransactionFence.activeEpoch, hrequired] using hunder
        · refine .rolledBack holder later fence {} _ rfl rfl (.inr fun _ h => ?_)
          cases h
          rfl

theorem execCommit_effect (failure : Option String) (db : WorkDatabase Write)
    (fence : WorkDbTransactionFence) :
    CallEffect holder later db fence (execCommit holder later failure db fence).1
      (execCommit holder later failure db fence).2.1
      (execCommit holder later failure db fence).2.2 := by
  unfold execCommit
  simp only
  split
  next transaction _ hcommit =>
    obtain ⟨_, hasserted, hraw⟩ := bind_eq_ok hcommit
    obtain ⟨htransaction, hholder, rfl⟩ := WorkDatabase.rawCommit_eq_ok hraw
    refine ⟨rfl, .inr ⟨transaction, rfl, rfl⟩, .inr nofun, fun _ => ?_,
      fun hguards _ epoch h hunder => ?_⟩
    · exact WorkDbTransactionFence.guards_of_none {} holder rfl
    · cases h
      rw [hguards transaction htransaction hholder epoch hunder] at hasserted
      exact assertWorkDbLeadershipEpoch_eq_ok.mp hasserted
  · exact .rolledBack holder later fence {} _ rfl rfl (.inl rfl)

theorem execRollback_effect (db : WorkDatabase Write) (fence : WorkDbTransactionFence) :
    CallEffect holder later db fence (execRollback holder db fence).1
      (execRollback holder db fence).2.1 (execRollback holder db fence).2.2 := by
  unfold execRollback WorkDatabase.rawRollback
  by_cases hheld : db.transaction.any fun open' => open'.holder = holder
  · simp only [hheld, if_true]
    refine ⟨rfl, .inl rfl, .inr nofun, fun _ => ?_, nofun⟩
    exact WorkDbTransactionFence.guards_of_none {} holder rfl
  · simp only [hheld]
    exact .unchanged holder later db fence nofun

omit later

theorem runInOwnTransaction_effect (write : Write) (now later : Int) (failure : Option String)
    (db : WorkDatabase Write) (fence : WorkDbTransactionFence) :
    CallEffect holder later db fence
      (runInOwnTransaction epoch holder write now later failure db).1
      (runInOwnTransaction epoch holder write now later failure db).2 fence := by
  unfold runInOwnTransaction
  cases hbegin : db.rawBegin holder (some epoch) with
  | error => exact .unchanged holder later db fence nofun
  | ok =>
    obtain ⟨_, rfl⟩ := WorkDatabase.rawBegin_eq_ok hbegin
    simp only [WorkDatabase.rawMutate, if_true]
    split
    next hcommit =>
      obtain ⟨_, -, hcommit⟩ := bind_eq_ok hcommit
      obtain ⟨_, hasserted, hraw⟩ := bind_eq_ok hcommit
      obtain ⟨htransaction, -, rfl⟩ := WorkDatabase.rawCommit_eq_ok hraw
      cases htransaction
      refine ⟨rfl, .inr ⟨_, rfl, rfl⟩, .inr nofun, fun _ => ?_, fun _ _ _ h hunder => ?_⟩
      · exact fence.guards_of_none holder rfl
      · cases h
        cases hunder
        exact assertWorkDbLeadershipEpoch_eq_ok.mp hasserted
    · refine .rolledBack holder later fence fence _ rfl rfl (.inr fun _ h => ?_)
      cases h
      rfl

theorem runFencedWorkDbMutation_effect (write : Write) (now later : Int) (failure : Option String)
    (db : WorkDatabase Write) (fence : WorkDbTransactionFence) :
    CallEffect holder later db fence
      (runFencedWorkDbMutation sources holder write now later failure db fence).1
      (runFencedWorkDbMutation sources holder write now later failure db fence).2 fence := by
  unfold runFencedWorkDbMutation
  split
  · simp only
    split
    · exact .unchanged holder later db fence nofun
    · exact rawMutate_effect holder later write db fence
  · split
    · exact .unchanged holder later db fence nofun
    · split
      · exact runInOwnTransaction_effect _ holder write now later failure db fence
      · exact rawMutate_effect holder later write db fence

omit holder

theorem WorkDbCall.perform_effect (call : WorkDbCall Write) (sources : FenceSources)
    (holder : String) (now later : Int) (failure : Option String) (db : WorkDatabase Write)
    (fence : WorkDbTransactionFence) :
    CallEffect holder later db fence
      (call.perform sources holder now later failure db fence).1
      (call.perform sources holder now later failure db fence).2.1
      (call.perform sources holder now later failure db fence).2.2 := by
  cases call with
  | exec sql =>
    cases sql with
    | begin => exact execBegin_effect sources holder later db fence
    | commit => exact execCommit_effect holder later failure db fence
    | rollback => exact execRollback_effect holder later db fence
    | mutating write =>
      exact runFencedWorkDbMutation_effect sources holder write now later failure db fence
    | reading => exact .unchanged holder later db fence nofun
  | run write =>
    exact runFencedWorkDbMutation_effect sources holder write now later failure db fence

end OpenCowork.Gateway
