import OpenCowork.Gateway.WriterLeadership

/-! # Exclusive and fenced

What a daemon remembers of the leadership row agrees with that row until its lease is over, since
no other daemon touches the row before. So at most one daemon says that it can write, and what a
transaction finds in the row when it commits is its own epoch.
-/

namespace OpenCowork.Gateway

open Foundation

variable {Write : Type} {settings : LeadershipSettings} {start state : LeadershipState Write}
  {first : List (LeadershipInput Write)}

def LeadershipOutput.terms : LeadershipOutput Write → List String
  | .begun token => [token]
  | _ => []

@[simp] theorem LeadershipOutput.terms_ofBegun (begun : Option String) :
    (.ofBegun begun : LeadershipOutput Write).terms = begun.toList := by
  cases begun <;> rfl

/-! ## Snapshots and the row -/

def LeadershipState.lease (state : LeadershipState Write) : Option (Lease String String Int) :=
  state.db.leadership.map DaemonLeadershipRow.lease

def DaemonLeadershipSnapshot.Backed (instanceId : String)
    (register : Option (Lease String String Int)) (now : Int)
    (snapshot : DaemonLeadershipSnapshot) : Prop :=
  ∀ later, snapshot.answersCanWrite later = true →
    snapshot.lease.owner = instanceId ∧ later < snapshot.lease.expires ∧
      Lease.Backs register now snapshot.lease

/-- What is known in the middle of an operation. -/
def LeadershipActivity.Sound (instanceId : String) (register : Option (Lease String String Int))
    (now : Int) : LeadershipActivity → Prop
  | .acquiring _ nowMs => nowMs ≤ now
  | .showing row ownerMode _ => ownerMode = .writer →
      row.leaderId = instanceId ∧ Lease.Backs register now row.lease
  | _ => True

structure Daemon.Sound (instanceId : String) (register : Option (Lease String String Int))
    (now : Int) (daemon : Daemon) : Prop where
  activity : daemon.activity.Sound instanceId register now
  /-- In the middle of an operation the last snapshot may be outdated. -/
  snapshot : daemon.activity = .idle →
    daemon.lastSnapshot.Backed instanceId register now

namespace Daemon.Sound

variable {instanceId : String} {register next : Option (Lease String String Int)}
  {now : Int} {daemon : Daemon} (h : daemon.Sound instanceId register now)
include h

theorem later {then' : Int} (htime : now ≤ then') : daemon.Sound instanceId register then' := by
  constructor
  · cases hactivity : daemon.activity with
    | acquiring =>
      have hread := h.activity
      rw [hactivity] at hread
      exact le_trans hread htime
    | showing =>
      have hshown := h.activity
      rw [hactivity] at hshown
      exact fun hwriter => ⟨(hshown hwriter).1, (hshown hwriter).2.later htime⟩
    | _ => trivial
  · intro hidle reading hanswer
    obtain ⟨howner, hheld, hbacks⟩ := h.snapshot hidle reading hanswer
    exact ⟨howner, hheld, hbacks.later htime⟩

theorem move {actor : String} {reading : Int} {begun : List String}
    (hmove : Lease.Move actor reading register begun next) (hreading : reading ≤ now)
    (hother : instanceId ≠ actor) : daemon.Sound instanceId next now := by
  constructor
  · cases hactivity : daemon.activity with
    | acquiring =>
      have hread := h.activity
      rwa [hactivity] at hread
    | showing =>
      have hshown := h.activity
      rw [hactivity] at hshown
      intro hwriter
      obtain ⟨howner, hbacks⟩ := hshown hwriter
      refine ⟨howner, hbacks.move hmove hreading ?_⟩
      intro hactor
      exact hother (howner.symm.trans hactor)
    | _ => trivial
  · intro hidle reading' hanswer
    obtain ⟨howner, hheld, hbacks⟩ := h.snapshot hidle reading' hanswer
    refine ⟨howner, hheld, hbacks.move hmove hreading ?_⟩
    intro hactor
    exact hother (howner.symm.trans hactor)

omit h

theorem of_silent (hsilent : ∀ later, daemon.lastSnapshot.answersCanWrite later = false)
    (hidle : daemon.activity = .idle) : daemon.Sound instanceId register now := by
  constructor
  · rw [hidle]
    trivial
  · intro _ later hanswer
    rw [hsilent later] at hanswer
    cases hanswer

end Daemon.Sound

namespace LeadershipState

/-- The invariant of the leadership: every daemon is sound, the token in the row was drawn, and
every transaction is held to the epoch it was begun under. -/
structure Sound (state : LeadershipState Write) : Prop where
  daemons : ∀ instanceId,
    (state.daemons instanceId).Sound instanceId state.lease state.clock
  drawn : ∀ row, state.db.leadership = some row → row.fencingToken ∈ state.drawn
  fences : ∀ instanceId, (state.daemons instanceId).fence.Guards instanceId state.db

@[simp] theorem setDaemon_self (instanceId : String) (daemon : Daemon)
    (state : LeadershipState Write) :
    (state.setDaemon instanceId daemon).daemons instanceId = daemon :=
  Function.update_self ..

theorem setDaemon_of_ne {instanceId other : String} (hne : other ≠ instanceId) (daemon : Daemon)
    (state : LeadershipState Write) :
    (state.setDaemon instanceId daemon).daemons other = state.daemons other :=
  Function.update_of_ne hne ..

/-- What a step of a daemon may leave: a moved row, a new daemon in its own place, more drawn
tokens, and a later time. -/
structure Step (instanceId : String) (state : LeadershipState Write) (begun : List String)
    (next : LeadershipState Write) : Prop where
  clock : state.clock ≤ next.clock
  others : ∀ other, other ≠ instanceId → next.daemons other = state.daemons other
  move : ∃ reading ≤ state.clock, Lease.Move instanceId reading state.lease begun next.lease
  drawn : ∃ added, next.drawn = added ++ state.drawn ∧ ∀ token ∈ begun, token ∈ added
  fences : (∀ other, (state.daemons other).fence.Guards other state.db) →
    ∀ other, (next.daemons other).fence.Guards other next.db

theorem Step.refl (instanceId : String) (state : LeadershipState Write) :
    Step instanceId state [] state where
  clock := le_refl _
  others := fun _ _ => rfl
  move := ⟨state.clock, le_refl _, .stay _⟩
  drawn := ⟨[], rfl, nofun⟩
  fences := id

section

variable {instanceId : String} {state next : LeadershipState Write} {begun : List String}
  (h : Step instanceId state begun next)
include h

theorem Step.setDaemon {daemon : Daemon} (hfence : daemon.fence = (next.daemons instanceId).fence) :
    Step instanceId state begun (next.setDaemon instanceId daemon) where
  clock := h.clock
  others := fun other hne => (setDaemon_of_ne hne daemon next).trans (h.others other hne)
  move := h.move
  drawn := h.drawn
  fences := by
    intro hstate other
    have hnext := h.fences hstate other
    by_cases hother : other = instanceId
    · subst hother
      rw [setDaemon_self, hfence]
      exact hnext
    · rw [setDaemon_of_ne hother]
      exact hnext

theorem Step.conclude (snapshot : DaemonLeadershipSnapshot) :
    Step instanceId state begun (next.conclude instanceId snapshot) :=
  h.setDaemon rfl

theorem Step.setActivity (activity : LeadershipActivity) :
    Step instanceId state begun (next.setActivity instanceId activity) :=
  h.setDaemon rfl

theorem Step.token {row : DaemonLeadershipRow}
    (hrow : next.db.leadership = some row) : row.fencingToken ∈ begun ∨
      ∃ old, state.db.leadership = some old ∧ old.fencingToken = row.fencingToken := by
  obtain ⟨_, -, hmove⟩ := h.move
  have hlease : next.lease = some row.lease := by rw [lease, hrow, Option.map_some]
  obtain hbegun | ⟨-, old, hold, -, htoken⟩ :=
    (Lease.Course.step (.refl state.lease) hmove).token_begun row.lease hlease
  · exact .inl hbegun
  · obtain ⟨oldRow, holdRow, rfl⟩ := Option.map_eq_some_iff.mp hold
    exact .inr ⟨oldRow, holdRow, htoken⟩

theorem Step.sound (hstate : state.Sound)
    (hdaemon : (next.daemons instanceId).Sound instanceId next.lease next.clock) : next.Sound where
  daemons := by
    intro other
    by_cases hother : other = instanceId
    · subst hother
      exact hdaemon
    · obtain ⟨_, hreading, hmove⟩ := h.move
      rw [h.others other hother]
      exact ((hstate.daemons other).move hmove hreading hother).later h.clock
  drawn := by
    intro _ hrow
    obtain ⟨_, hdrawn, hadded⟩ := h.drawn
    rw [hdrawn]
    obtain hbegun | ⟨old, hold, htoken⟩ := h.token hrow
    · exact List.mem_append_left _ (hadded _ hbegun)
    · exact List.mem_append_right _ (htoken ▸ hstate.drawn old hold)
  fences := h.fences hstate.fences

end

/-! ## The operations -/

variable {instanceId : String} {state : LeadershipState Write}

theorem conclude_daemon_sound {snapshot : DaemonLeadershipSnapshot}
    (hsilent : ∀ later, snapshot.answersCanWrite later = false) (next : LeadershipState Write) :
    ((next.conclude instanceId snapshot).daemons instanceId).Sound instanceId
      (next.conclude instanceId snapshot).lease (next.conclude instanceId snapshot).clock := by
  refine .of_silent ?_ ?_
  · rw [conclude, setDaemon_self]
    exact hsilent
  · rw [conclude, setDaemon_self]

theorem setActivity_daemon_sound {activity : LeadershipActivity} (hbusy : activity ≠ .idle)
    {next : LeadershipState Write} (hactivity : activity.Sound instanceId next.lease next.clock) :
    ((next.setActivity instanceId activity).daemons instanceId).Sound instanceId
      (next.setActivity instanceId activity).lease
      (next.setActivity instanceId activity).clock := by
  rw [setActivity, setDaemon_self]
  exact ⟨hactivity, fun hidle => absurd hidle hbusy⟩

theorem call_sound (instanceId : String) (hstate : state.Sound) (operation : LeadershipCall) :
    Step instanceId state [] (state.call instanceId operation) ∧
      (state.call instanceId operation).Sound := by
  unfold call
  split
  · have hstep := (Step.refl instanceId state).setActivity (operation.activity state.clock)
    refine ⟨hstep, hstep.sound hstate (setActivity_daemon_sound ?_ ?_)⟩
    · cases operation <;> nofun
    · cases operation with
      | acquireOrRenew => exact le_refl state.clock
      | _ => trivial
  · exact ⟨.refl instanceId state, hstate⟩

theorem Step.write (row : Option DaemonLeadershipRow) {begun : List String} {reading : Int}
    (hreading : reading ≤ state.clock)
    (hmove : Lease.Move instanceId reading state.lease begun
      (row.map DaemonLeadershipRow.lease)) :
    Step instanceId state begun
      ({ state with drawn := begun ++ state.drawn }.setLeadership row) where
  clock := le_refl _
  others := fun _ _ => rfl
  move := ⟨reading, hreading, hmove⟩
  drawn := ⟨begun, rfl, fun _ htoken => htoken⟩
  fences := id

theorem Step.draw (instanceId : String) (state : LeadershipState Write) (tokens : List String) :
    Step instanceId state [] { state with drawn := tokens ++ state.drawn } where
  clock := le_refl _
  others := fun _ _ => rfl
  move := ⟨state.clock, le_refl _, .stay _⟩
  drawn := ⟨tokens, rfl, nofun⟩
  fences := id

variable (hstate : state.Sound)
include hstate

theorem acquire_sound {takeoverStale : Bool} {nowMs : Int}
    (hactivity : (state.daemons instanceId).activity = .acquiring takeoverStale nowMs)
    (random : String) (failure : Option String) :
    Step instanceId state
        (state.acquire settings instanceId takeoverStale nowMs random failure).1.terms
        (state.acquire settings instanceId takeoverStale nowMs random failure).2 ∧
      (state.acquire settings instanceId takeoverStale nowMs random failure).2.Sound := by
  have hread : nowMs ≤ state.clock := by
    have hsound := (hstate.daemons instanceId).activity
    rwa [hactivity] at hsound
  unfold acquire
  simp only
  split
  · have hstep := (Step.refl instanceId state).conclude
      ((settings.leadership instanceId).unavailableSnapshot settings.platform "database is locked")
    exact ⟨hstep, hstep.sound hstate (conclude_daemon_sound (fun _ => rfl) state)⟩
  · split
    next error _ =>
      have hstep := (Step.refl instanceId state).conclude
        ((settings.leadership instanceId).unavailableSnapshot settings.platform error)
      exact ⟨hstep, hstep.sound hstate (conclude_daemon_sound (fun _ => rfl) state)⟩
    next acquired row hacquired =>
      obtain ⟨hmove, hrow, howner⟩ := SqliteDaemonLeadership.acquireTransaction_move hacquired
      cases failure with
      | some error =>
        have hstep := (Step.draw instanceId state acquired.begun.toList).conclude
          ((settings.leadership instanceId).unavailableSnapshot settings.platform error)
        exact ⟨hstep, hstep.sound hstate (conclude_daemon_sound (fun _ => rfl) _)⟩
      | none =>
        have hwrite : Step instanceId state acquired.begun.toList _ := Step.write row hread hmove
        have hstep := hwrite.setActivity (.showing acquired.row acquired.ownerMode false)
        rw [LeadershipOutput.terms_ofBegun]
        refine ⟨hstep, hstep.sound hstate (setActivity_daemon_sound (by simp) ?_)⟩
        intro hwriter
        refine ⟨howner hwriter, ?_⟩
        subst hrow
        exact Lease.backs_self _ _

theorem release_sound (failure : Option String) :
    Step instanceId state [] (state.release settings instanceId failure) ∧
      (state.release settings instanceId failure).Sound := by
  have hstep : Step instanceId state [] (state.release settings instanceId failure) := by
    unfold release
    simp only
    split
    · exact (Step.refl instanceId state).setActivity _
    · have hwrite : Step instanceId state [] _ := Step.write _ (le_refl state.clock)
        ((settings.leadership instanceId).releaseTransaction_move
          (state.daemons instanceId).lastSnapshot state.clock state.db.leadership)
      exact hwrite.setActivity _
  exact ⟨hstep, hstep.sound hstate (setActivity_daemon_sound (by simp) trivial)⟩

theorem readRow_sound (captures : Bool) (failure : Option String) :
    Step instanceId state [] (state.readRow settings instanceId captures failure) ∧
      (state.readRow settings instanceId captures failure).Sound := by
  unfold readRow
  simp only
  split
  next error =>
    have hstep := (Step.refl instanceId state).conclude
      ((settings.leadership instanceId).unavailableSnapshot settings.platform error)
    exact ⟨hstep, hstep.sound hstate (conclude_daemon_sound (fun _ => rfl) state)⟩
  · have hstep := (Step.refl instanceId state).conclude
      (settings.leadership instanceId).noLeaderSnapshot
    exact ⟨hstep, hstep.sound hstate (conclude_daemon_sound (fun _ => rfl) state)⟩
  next row hrow =>
    have hstep := (Step.refl instanceId state).setActivity
      (.showing row ((settings.leadership instanceId).rowMode row) captures)
    refine ⟨hstep, hstep.sound hstate (setActivity_daemon_sound (by simp) ?_)⟩
    intro hwriter
    constructor
    · unfold SqliteDaemonLeadership.rowMode at hwriter
      split at hwriter
      · assumption
      · cases hwriter
    · rw [lease, hrow]
      exact Lease.backs_self _ _

theorem showRow_sound {row : DaemonLeadershipRow} {ownerMode : DaemonLeadershipMode}
    {captures : Bool}
    (hactivity : (state.daemons instanceId).activity = .showing row ownerMode captures) :
    Step instanceId state [] (state.showRow settings instanceId row ownerMode captures) ∧
      (state.showRow settings instanceId row ownerMode captures).Sound := by
  have hshown := (hstate.daemons instanceId).activity
  rw [hactivity] at hshown
  have hstep : Step instanceId state []
      (state.showRow settings instanceId row ownerMode captures) :=
    (Step.refl instanceId state).setDaemon rfl
  refine ⟨hstep, hstep.sound hstate ?_⟩
  rw [showRow, setDaemon_self]
  refine ⟨trivial, ?_⟩
  intro _ _ hanswer
  -- the snapshot remembers the row it is taken from
  obtain ⟨hwriter, hheld⟩ := SqliteDaemonLeadership.snapshotFromRow_answers hanswer
  exact ⟨(hshown hwriter).1, hheld, (hshown hwriter).2⟩

omit hstate

theorem proceed_sound (settings : LeadershipSettings) (instanceId : String)
    (hstate : state.Sound) (random : String) (failure : Option String) :
    Step instanceId state (state.proceed settings instanceId random failure).1.terms
        (state.proceed settings instanceId random failure).2 ∧
      (state.proceed settings instanceId random failure).2.Sound := by
  unfold proceed
  split
  · exact ⟨.refl instanceId state, hstate⟩
  next hactivity => exact acquire_sound hstate hactivity random failure
  · exact release_sound hstate failure
  next captures _ => exact readRow_sound hstate captures failure
  next hactivity => exact showRow_sound hstate hactivity

theorem proceed_durable (settings : LeadershipSettings) (instanceId random : String)
    (failure : Option String) (state : LeadershipState Write) :
    (state.proceed settings instanceId random failure).2.db.work = state.db.work ∧
      ∀ answer, (state.proceed settings instanceId random failure).1 ≠ .work answer := by
  unfold proceed
  split
  · exact ⟨rfl, nofun⟩
  · unfold acquire
    simp only
    split
    · exact ⟨rfl, nofun⟩
    · split
      · exact ⟨rfl, nofun⟩
      next acquired _ _ =>
        cases failure with
        | some => exact ⟨rfl, nofun⟩
        | none => cases acquired.begun <;> exact ⟨rfl, nofun⟩
  · unfold release
    simp only
    split <;> exact ⟨rfl, nofun⟩
  · unfold readRow
    simp only
    split <;> exact ⟨rfl, nofun⟩
  · exact ⟨rfl, nofun⟩

theorem Step.work (elapsed : Nat) {answer : WorkDbAnswer Write} {db : WorkDatabase Write}
    {fence : WorkDbTransactionFence}
    (heffect : CallEffect instanceId (state.clock + elapsed) state.db
      (state.daemons instanceId).fence answer db fence) :
    Step instanceId state [] ({ state with clock := state.clock + elapsed, db := db }.setDaemon
      instanceId { state.daemons instanceId with fence := fence }) where
  clock := by
    change state.clock ≤ state.clock + elapsed
    omega
  others := fun other hne => setDaemon_of_ne hne _ _
  move := by
    refine ⟨state.clock, le_refl _, ?_⟩
    have hlease : state.lease = (db.leadership.map DaemonLeadershipRow.lease) := by
      rw [heffect.leadership, lease]
    rw [hlease]
    exact .stay _
  drawn := ⟨[], rfl, nofun⟩
  fences := by
    intro hfences other
    by_cases hother : other = instanceId
    · subst hother
      rw [setDaemon_self]
      exact heffect.guards (hfences other)
    · rw [setDaemon_of_ne hother]
      intro transaction htransaction hholder
      obtain hsame | hheld := heffect.transaction
      · exact hfences other transaction (hsame ▸ htransaction) hholder
      · exact absurd (hholder.symm.trans (hheld transaction htransaction)) hother

theorem work_sound (instanceId : String) (hstate : state.Sound) (sources : FenceSources)
    (call : WorkDbCall Write) (elapsed : Nat) (failure : Option String) :
    Step instanceId state (state.work instanceId sources call elapsed failure).1.terms
        (state.work instanceId sources call elapsed failure).2 ∧
      (state.work instanceId sources call elapsed failure).2.Sound := by
  unfold work
  simp only
  split
  · have heffect := call.perform_effect sources instanceId state.clock (state.clock + elapsed)
      failure state.db (state.daemons instanceId).fence
    have hstep := Step.work elapsed heffect
    refine ⟨hstep, hstep.sound hstate ?_⟩
    have hlater := (hstate.daemons instanceId).later (Int.le_add_of_nonneg_right
      (Int.natCast_nonneg elapsed) : state.clock ≤ state.clock + elapsed)
    rw [setDaemon_self, lease, setDaemon, heffect.leadership]
    exact ⟨hlater.activity, hlater.snapshot⟩
  · exact ⟨.refl instanceId state, hstate⟩

theorem Step.wait (instanceId : String) (state : LeadershipState Write) (elapsed : Nat) :
    Step instanceId state [] { state with clock := state.clock + elapsed } where
  clock := Int.le_add_of_nonneg_right (Int.natCast_nonneg elapsed)
  others := fun _ _ => rfl
  move := ⟨state.clock, le_refl _, .stay _⟩
  drawn := ⟨[], rfl, nofun⟩
  fences := id

theorem step_sound (settings : LeadershipSettings) (hstate : state.Sound)
    (input : LeadershipInput Write) :
    (∃ instanceId, Step instanceId state ((leadershipMachine settings).step state input).1.terms
        ((leadershipMachine settings).step state input).2) ∧
      ((leadershipMachine settings).step state input).2.Sound := by
  cases input with
  | wait elapsed =>
    have hstep := Step.wait "" state elapsed
    exact ⟨⟨"", hstep⟩, hstep.sound hstate ((hstate.daemons "").later hstep.clock)⟩
  | call instanceId operation =>
    obtain ⟨hstep, hsound⟩ := call_sound instanceId hstate operation
    exact ⟨⟨instanceId, hstep⟩, hsound⟩
  | proceed instanceId random failure =>
    obtain ⟨hstep, hsound⟩ := proceed_sound settings instanceId hstate random failure
    exact ⟨⟨instanceId, hstep⟩, hsound⟩
  | work instanceId sources call elapsed failure =>
    obtain ⟨hstep, hsound⟩ := work_sound instanceId hstate sources call elapsed failure
    exact ⟨⟨instanceId, hstep⟩, hsound⟩

end LeadershipState

/-! ## Runs -/

def termsBegun
    (history : List (Moment (LeadershipState Write) (LeadershipInput Write)
      (LeadershipOutput Write))) : List String :=
  history.flatMap fun moment => moment.output.terms

theorem leadershipStart_sound (settings : LeadershipSettings) (clock : Int)
    (row : Option DaemonLeadershipRow) (work : List Write) :
    (leadershipStart settings clock row work).Sound where
  daemons := fun _ => .of_silent (fun _ => rfl) rfl
  drawn := by
    intro found hfound
    change row = some found at hfound
    subst hfound
    exact List.mem_singleton_self _
  fences := fun _ => WorkDbTransactionFence.guards_of_none _ _ rfl

structure LeadershipRun (start : LeadershipState Write) (begun : List String)
    (state : LeadershipState Write) : Prop where
  sound : state.Sound
  course : Lease.Course start.lease begun state.lease
  drawn : ∃ added, state.drawn = added ++ start.drawn ∧ ∀ token ∈ begun, token ∈ added

theorem leadershipRun_of_run (settings : LeadershipSettings)
    (hstart : start.Sound) (inputs : List (LeadershipInput Write)) :
    LeadershipRun start (termsBegun ((leadershipMachine settings).history start inputs))
      ((leadershipMachine settings).run start inputs) := by
  refine (leadershipMachine settings).history_invariant
    (fun past state => LeadershipRun start (termsBegun past) state) ?_ start ?_ inputs
  · intro past state input hpast
    obtain ⟨⟨_, hstep⟩, hsound⟩ := LeadershipState.step_sound settings hpast.sound input
    obtain ⟨_, -, hmove⟩ := hstep.move
    obtain ⟨added, hdrawn, hadded⟩ := hpast.drawn
    obtain ⟨more, hmore, hmoreAdded⟩ := hstep.drawn
    have hterms : termsBegun (past ++ [(leadershipMachine settings).moment state input]) =
        termsBegun past ++ ((leadershipMachine settings).step state input).1.terms := by
      simp [termsBegun, Machine.moment]
    rw [hterms]
    refine ⟨hsound, hpast.course.step hmove, more ++ added, ?_, fun token htoken => ?_⟩
    · rw [hmore, hdrawn, List.append_assoc]
    · obtain hold | hnew := List.mem_append.mp htoken
      · exact List.mem_append_right _ (hadded token hold)
      · exact List.mem_append_left _ (hmoreAdded token hnew)
  · exact ⟨hstart, .refl _, [], rfl, nofun⟩

theorem LeadershipState.Sound.canWrite_unique
    (h : state.Sound) {first second : String} (hfirst : state.canWrite first = true)
    (hsecond : state.canWrite second = true) : first = second := by
  unfold LeadershipState.canWrite at hfirst hsecond
  simp only [Bool.and_eq_true, decide_eq_true_eq] at hfirst hsecond
  obtain ⟨hfirstOwner, hfirstHeld, hfirstBacks⟩ :=
    (h.daemons first).snapshot hfirst.1 state.clock hfirst.2
  obtain ⟨hsecondOwner, hsecondHeld, hsecondBacks⟩ :=
    (h.daemons second).snapshot hsecond.1 state.clock hsecond.2
  have howner := hfirstBacks.owner_unique hsecondBacks hfirstHeld hsecondHeld
  exact hfirstOwner.symm.trans (howner.trans hsecondOwner)

theorem LeadershipState.Sound.step_commits (h : state.Sound)
    (settings : LeadershipSettings) (input : LeadershipInput Write)
    {transaction : WorkTransaction Write} {epoch : WorkDbLeadershipEpoch}
    (hcommit : ((leadershipMachine settings).step state input).1 = .work (.committed transaction))
    (hunder : transaction.begunUnder = some epoch) :
    state.db.Carries epoch ((leadershipMachine settings).step state input).2.clock := by
  cases input with
  | wait | call => cases hcommit
  | proceed =>
    exact absurd hcommit ((state.proceed_durable settings _ _ _).2 _)
  | work instanceId sources call elapsed failure =>
    change (state.work instanceId sources call elapsed failure).1 = _ at hcommit
    change state.db.Carries epoch (state.work instanceId sources call elapsed failure).2.clock
    unfold LeadershipState.work at hcommit ⊢
    simp only at hcommit ⊢
    split at hcommit
    next hcaptured =>
      rw [if_pos hcaptured]
      have heffect := call.perform_effect sources instanceId state.clock
        (state.clock + elapsed) failure state.db (state.daemons instanceId).fence
      exact heffect.commits (h.fences instanceId) transaction epoch
        (LeadershipOutput.work.inj hcommit) hunder
    · cases hcommit

theorem step_durable (settings : LeadershipSettings) (state : LeadershipState Write)
    (input : LeadershipInput Write) :
    ((leadershipMachine settings).step state input).2.db.work = state.db.work ∨
      ∃ transaction, ((leadershipMachine settings).step state input).1 =
          .work (.committed transaction) ∧
        ((leadershipMachine settings).step state input).2.db.work =
          state.db.work ++ transaction.writes := by
  cases input with
  | wait => exact .inl rfl
  | call instanceId operation =>
    change (state.call instanceId operation).db.work = _ ∨ _
    unfold LeadershipState.call
    split <;> exact .inl rfl
  | proceed =>
    exact .inl (state.proceed_durable settings _ _ _).1
  | work instanceId sources call elapsed failure =>
    change (state.work instanceId sources call elapsed failure).2.db.work = _ ∨
      ∃ transaction, (state.work instanceId sources call elapsed failure).1 = _ ∧
        (state.work instanceId sources call elapsed failure).2.db.work = _
    unfold LeadershipState.work
    simp only
    split
    · have heffect := call.perform_effect sources instanceId state.clock
        (state.clock + elapsed) failure state.db (state.daemons instanceId).fence
      obtain hsame | ⟨transaction, hanswer, hwork⟩ := heffect.work
      · exact .inl hsame
      · exact .inr ⟨transaction, congrArg LeadershipOutput.work hanswer, hwork⟩
    · exact .inl rfl

structure LeadershipFenced (settings : LeadershipSettings) (start : LeadershipState Write)
    (inputs : List (LeadershipInput Write)) : Prop where
  /-- At any time at most one daemon says that it can write. -/
  exclusive : ∀ first, first <+: inputs → ∀ one other,
    ((leadershipMachine settings).run start first).canWrite one = true →
    ((leadershipMachine settings).run start first).canWrite other = true → one = other
  /-- Where a fencing token is current twice, it is of one leader, and no term was begun in
  between. -/
  oneTerm : ∀ first middle, first ++ middle <+: inputs → ∀ old row,
    ((leadershipMachine settings).run start first).db.leadership = some old →
    ((leadershipMachine settings).run start (first ++ middle)).db.leadership = some row →
    old.fencingToken = row.fencingToken → old.leaderId = row.leaderId ∧
      termsBegun ((leadershipMachine settings).history
        ((leadershipMachine settings).run start first) middle) = []
  /-- Durable work comes from commits only. -/
  durable : ∀ moment ∈ (leadershipMachine settings).history start inputs,
    moment.after.db.work = moment.before.db.work ∨
      ∃ transaction, moment.output = .work (.committed transaction) ∧
        moment.after.db.work = moment.before.db.work ++ transaction.writes
  /-- A transaction that was begun under an epoch commits only while the row carries it. -/
  fenced : ∀ moment ∈ (leadershipMachine settings).history start inputs,
    ∀ transaction epoch, moment.output = .work (.committed transaction) →
      transaction.begunUnder = some epoch → moment.before.db.Carries epoch moment.after.clock
  /-- After another term was begun no transaction commits under the old epoch. -/
  deposed : ∀ first middle input, first ++ middle ++ [input] <+: inputs → ∀ epoch old,
    ((leadershipMachine settings).run start first).db.leadership = some old →
    old.fencingToken = epoch.fencingToken →
    termsBegun ((leadershipMachine settings).history
      ((leadershipMachine settings).run start first) middle) ≠ [] →
    ∀ transaction, transaction.begunUnder = some epoch →
      ((leadershipMachine settings).step
        ((leadershipMachine settings).run start (first ++ middle)) input).1 ≠
          .work (.committed transaction)

theorem drawn_nodup_of_part (hstart : start.Sound)
    {inputs : List (LeadershipInput Write)} (hpart : first <+: inputs)
    (hfresh : ((leadershipMachine settings).run start inputs).drawn.Nodup) :
    ((leadershipMachine settings).run start first).drawn.Nodup := by
  obtain ⟨rest, rfl⟩ := hpart
  have hfirst := (leadershipRun_of_run settings hstart first).sound
  obtain ⟨_, hdrawn, -⟩ := (leadershipRun_of_run settings hfirst rest).drawn
  rw [Machine.run_append, hdrawn] at hfresh
  exact (List.nodup_append.mp hfresh).2.1

/-- One fencing token is one term of one leader. -/
theorem oneTerm_of_run (hstart : start.Sound) {middle : List (LeadershipInput Write)}
    (hfresh : ((leadershipMachine settings).run start (first ++ middle)).drawn.Nodup)
    {old row : DaemonLeadershipRow}
    (hold : ((leadershipMachine settings).run start first).db.leadership = some old)
    (hrow : ((leadershipMachine settings).run start (first ++ middle)).db.leadership = some row)
    (htoken : old.fencingToken = row.fencingToken) : old.leaderId = row.leaderId ∧
      termsBegun ((leadershipMachine settings).history
        ((leadershipMachine settings).run start first) middle) = [] := by
  have hfirst := (leadershipRun_of_run settings hstart first).sound
  have hrun := leadershipRun_of_run settings hfirst middle
  obtain ⟨_, hdrawn, hadded⟩ := hrun.drawn
  rw [Machine.run_append] at hfresh hrow
  have hlease : ((leadershipMachine settings).run ((leadershipMachine settings).run start first)
      middle).lease = some row.lease := by
    rw [LeadershipState.lease, hrow, Option.map_some]
  obtain hbegun | ⟨hnone, found, hfound, howner, -⟩ := hrun.course.token_begun row.lease hlease
  · -- a token of a new term would have been drawn twice
    rw [hdrawn] at hfresh
    have hdrawnBefore := hfirst.drawn old hold
    exact absurd htoken.symm ((List.nodup_append.mp hfresh).2.2 _ (hadded _ hbegun) _ hdrawnBefore)
  · rw [LeadershipState.lease, hold, Option.map_some] at hfound
    cases hfound
    exact ⟨howner, hnone⟩

/-- Provided that fresh tokens are distinct, the writer leadership is exclusive and fenced. -/
theorem writer_leadership_fenced (settings : LeadershipSettings) (clock : Int)
    (row : Option DaemonLeadershipRow) (work : List Write) (inputs : List (LeadershipInput Write))
    (hfresh : ((leadershipMachine settings).run (leadershipStart settings clock row work)
      inputs).drawn.Nodup) :
    LeadershipFenced settings (leadershipStart settings clock row work) inputs := by
  have hstart := leadershipStart_sound settings clock row work
  constructor
  · intro first _ one other hone hother
    exact (leadershipRun_of_run settings hstart first).sound.canWrite_unique hone hother
  · intro first middle hpart old found hold hfound htoken
    exact oneTerm_of_run hstart (drawn_nodup_of_part hstart hpart hfresh) hold hfound htoken
  · intro moment hmem
    obtain ⟨first, input, rest, rfl, rfl⟩ :=
      (leadershipMachine settings).exists_prefix_of_mem_history _ _ moment hmem
    exact step_durable settings _ input
  · intro moment hmem transaction epoch hcommit hunder
    obtain ⟨first, input, _, rfl, rfl⟩ :=
      (leadershipMachine settings).exists_prefix_of_mem_history _ _ moment hmem
    have hsound := (leadershipRun_of_run settings hstart first).sound
    exact hsound.step_commits settings input hcommit hunder
  · intro first middle input hpart epoch old hold htoken hbegun transaction hunder hcommit
    have hsound := (leadershipRun_of_run settings hstart (first ++ middle)).sound
    obtain ⟨_, hfound, -, hcarried, -⟩ := hsound.step_commits settings input hcommit hunder
    have hbefore : first ++ middle <+: inputs := (List.prefix_append _ _).trans hpart
    exact hbegun (oneTerm_of_run hstart (drawn_nodup_of_part hstart hbefore hfresh) hold hfound
      (htoken.trans hcarried.symm)).2

/-- A daemon writes under its epoch, and after its lease is over another one takes over. -/
theorem writer_leadership_fenced_takeover :
    let settings : LeadershipSettings := {
      platform := { fingerprint := id, safeError := id }
      daemonId := id
      leaseMs := fun _ => none }
    let epoch : WorkDbLeadershipEpoch := {
      leaderId := "a", fencingToken := "fence_1_a:r", leaseExpiresAt := 90000 }
    let acquire (instanceId random : String) : List (LeadershipInput String) := [
      .call instanceId (.acquireOrRenew true), .proceed instanceId random none,
      .proceed instanceId "" none]
    let exec (sql : WorkSql String) : LeadershipInput String :=
      .work "a" { scopedEpoch := some epoch } (.exec sql) 1 none
    let inputs := acquire "a" "r" ++ [.call "a" .captureEpoch, .proceed "a" "" none,
      .proceed "a" "" none, exec .begin, exec (.mutating "task"), exec .commit, .wait 90000] ++
      acquire "b" "s" ++ [exec .begin, exec (.mutating "late"), exec .commit]
    let start : LeadershipState String := leadershipStart settings 0 none []
    LeadershipFenced settings start inputs ∧
      ((leadershipMachine settings).run start inputs).db.work = ["task"] ∧
      ((leadershipMachine settings).run start inputs).canWrite "b" = true := by
  refine ⟨writer_leadership_fenced _ 0 none [] _ (by decide +kernel), by decide +kernel,
    by decide +kernel⟩

end OpenCowork.Gateway
