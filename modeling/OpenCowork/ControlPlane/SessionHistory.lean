import OpenCowork.ControlPlane.EventLogs

/-! # What no request takes back

Sessions change with every request, but the commands of a session stay in the order in which they
were queued, a settled one is not touched again, and the log takes new events under new sequences
only.
-/

namespace OpenCowork.ControlPlane

open Foundation

/-- A command later on: it asks for the same, and is the same once it is settled. -/
structure SessionCommandRecord.Becomes (command next : SessionCommandRecord) : Prop where
  request : next.request = command.request
  settled : command.status = .acked ∨ command.status = .failed → next = command

theorem SessionCommandRecord.Becomes.refl (command : SessionCommandRecord) :
    command.Becomes command := ⟨rfl, fun _ => rfl⟩

namespace SessionState

structure Remembers (before after : SessionState) : Prop where
  identity : SameIdentity before after
  commands : ∀ (index : Nat) (command : SessionCommandRecord), before.commands[index]? = some command →
    ∃ next, after.commands[index]? = some next ∧ command.Becomes next
  events : ∀ event ∈ after.events,
    event ∈ before.events ∨ before.nextEventSequence < event.sequence
  logged : before.nextEventSequence ≤ after.nextEventSequence
  queued : before.nextCommandSequence ≤ after.nextCommandSequence
  leased : before.nextLeaseAttempt ≤ after.nextLeaseAttempt

variable {before after : SessionState}

theorem Remembers.refl (session : SessionState) : Remembers session session :=
  ⟨⟨rfl, rfl⟩, fun _ command h => ⟨command, h, .refl command⟩, fun _ => .inl, le_rfl, le_rfl, le_rfl⟩

theorem Remembers.trans {first second third : SessionState} (hfirst : Remembers first second)
    (hsecond : Remembers second third) : Remembers first third where
  identity := ⟨hsecond.identity.1.trans hfirst.identity.1,
    hsecond.identity.2.trans hfirst.identity.2⟩
  commands index command h := by
    obtain ⟨next, hnext, hbecomes⟩ := hfirst.commands index command h
    obtain ⟨last, hlast, hbecomes'⟩ := hsecond.commands index next hnext
    refine ⟨last, hlast, hbecomes'.request.trans hbecomes.request, fun hsettled => ?_⟩
    obtain rfl := hbecomes.settled hsettled
    exact hbecomes'.settled hsettled
  events event hmem := by
    rcases hsecond.events event hmem with hmem | hlater
    · exact hfirst.events event hmem
    · exact .inr (hfirst.logged.trans_lt hlater)
  logged := hfirst.logged.trans hsecond.logged
  queued := hfirst.queued.trans hsecond.queued
  leased := hfirst.leased.trans hsecond.leased

theorem SessionStep.commands_become {sessionKey : String} {now : Instant} {change : SessionChange}
    (hstep : SessionStep sessionKey now change before after) {index : Nat}
    {command : SessionCommandRecord} (h : before.commands[index]? = some command) :
    ∃ next, after.commands[index]? = some next ∧ command.Becomes next := by
  -- only a command that is pending or running is found and changed
  have hfirst {test : SessionCommandRecord → Bool} (update : SessionCommandRecord → _)
      (hbecomes : before.commands.find? test = some command →
        command.Becomes (update command)) :
      ∃ next, (modifyFirst test update before.commands)[index]? = some next ∧
        command.Becomes next := by
    rcases getElem?_modifyFirst h with hsame | ⟨hfound, hupdated⟩
    · exact ⟨command, hsame, .refl command⟩
    · exact ⟨_, hupdated, hbecomes hfound⟩
  have hopen {commandId token : String} (hruns : RunsUnder before commandId token)
      (hfound : before.commands.find? (fun entry => decide (entry.commandId = commandId)) =
        some command) : ¬ (command.status = .acked ∨ command.status = .failed) := by
    obtain ⟨running, hrunning, hstatus, -⟩ := hruns
    obtain rfl := Option.mem_unique hrunning hfound
    simp [hstatus]
  cases hstep with
  | enqueued =>
    exact ⟨command, (List.getElem?_append_left (List.getElem?_eq_some_iff.mp h).1).trans h,
      .refl command⟩
  | handed =>
    refine hfirst _ fun hfound => ⟨rfl, fun hsettled => ?_⟩
    have hclaimable := List.find?_some hfound
    rcases hsettled with hstatus | hstatus <;>
      simp [SessionCommandRecord.claimable, hstatus] at hclaimable
  | settled _ _ _ _ _ _ hruns hupdate | checkpointSettled _ _ _ _ _ _ hruns hupdate =>
    exact hfirst _ fun hfound =>
      ⟨hupdate.request command, fun hsettled => absurd hsettled (hopen hruns hfound)⟩
  | deferred _ _ _ _ _ _ _ _ hruns =>
    exact hfirst _ fun hfound => ⟨rfl, fun hsettled => absurd hsettled (hopen hruns hfound)⟩
  | recovered =>
    refine ⟨_, (List.getElem?_map ..).trans (congrArg (Option.map _) h), ?_⟩
    dsimp only
    split
    next hstranded =>
      rw [SessionCommandRecord.strandedBy, Bool.and_eq_true, beq_iff_eq] at hstranded
      refine ⟨?_, fun hsettled => absurd hsettled (by simp [hstranded.1])⟩
      rw [SessionCommandRecord.recovered]
      split <;> rfl
    · exact .refl command
  | unchanged | claimed | released | renewed | checkpointed => exact ⟨command, h, .refl command⟩

theorem remembers_frame (env : Environment) : Frame env Remembers where
  refl := .refl
  trans := .trans
  step hstep := by
    have hevents : ∀ {sessionKey now change before after},
        SessionStep sessionKey now change before after → after.events = before.events ∧
          after.nextEventSequence = before.nextEventSequence := by
      intro _ _ _ _ _ hstep
      cases hstep <;> exact ⟨rfl, rfl⟩
    refine ⟨(sameIdentity_frame env).step hstep, fun _ _ => SessionStep.commands_become hstep,
      fun event hmem => .inl ((hevents hstep).1 ▸ hmem), (hevents hstep).2.ge, ?_, ?_⟩
    · cases hstep <;> first | exact le_rfl | exact Nat.le_succ _
    · cases hstep <;> first | exact le_rfl | exact Nat.le_succ _
  described session _ _ _ _ := ⟨⟨rfl, rfl⟩, (Remembers.refl session).commands, fun _ => .inl,
    le_rfl, le_rfl, le_rfl⟩
  appended session input now := by
    unfold appendSessionEvent
    split
    · exact .refl session
    dsimp only
    split
    · split <;> exact .refl session
    · refine ⟨⟨rfl, rfl⟩, (Remembers.refl session).commands, fun event hmem => ?_, Nat.le_succ _,
        le_rfl, le_rfl⟩
      rcases List.mem_append.mp hmem with hmem | hmem
      · exact .inl hmem
      · rw [List.mem_singleton.mp hmem]
        exact .inr (Nat.lt_succ_self _)
  projected session input now := by
    unfold writeSessionProjection storeProjection
    split
    · exact .refl session
    split
    · exact .refl session
    split
    · split <;> exact .refl session
    · exact ⟨⟨rfl, rfl⟩, (Remembers.refl session).commands, fun _ => .inl, le_rfl, le_rfl, le_rfl⟩
  pruned session _ := ⟨⟨rfl, rfl⟩, (Remembers.refl session).commands,
    fun _ hmem => .inl (List.mem_of_mem_filter hmem), le_rfl, le_rfl, le_rfl⟩

end SessionState

namespace ControlPlaneStore

variable {σ : Type} (context : StoreContext σ)

theorem run_remembers (store : ControlPlaneStore σ) (requests : List StoreRequest)
    {sessionKey : String} {session : SessionState}
    (hget : store.sessions.get sessionKey = some session) :
    ∃ next, ((machine context).run store requests).sessions.get sessionKey = some next ∧
      session.Remembers next := by
  apply (machine context).run_invariant
    (fun store => ∃ next, store.sessions.get sessionKey = some next ∧ session.Remembers next)
  · rintro store request ⟨next, hnext, hremembers⟩
    obtain ⟨last, hlast, hremembers'⟩ := (store.perform_kept context
      (SessionState.remembers_frame context.env) request).kept sessionKey next hnext
    exact ⟨last, hlast, hremembers.trans hremembers'⟩
  · exact ⟨session, hget, .refl session⟩

/-- Whatever a store is asked, in any order and by any workers: each session stands under the key
of its own ids and is never lost, its user and its ids stay, its commands keep their place and
what they ask for, a settled command stays as it was settled, the projection never goes back, and
no event enters the log under a sequence that was given out before. -/
theorem run_keeps_history (neighbours : σ) (requests : List StoreRequest) :
    let store := (machine context).run (initial neighbours) requests
    SessionsKeyed store.sessions ∧
      ∀ later sessionKey session, store.sessions.get sessionKey = some session →
        ∃ next, ((machine context).run store later).sessions.get sessionKey = some next ∧
          session.Remembers next ∧ session.Grows next := by
  refine ⟨run_keyed context neighbours requests, fun later sessionKey session hget => ?_⟩
  obtain ⟨next, hnext, hremembers⟩ := run_remembers context _ later hget
  obtain ⟨grown, hgrown, hgrows⟩ := (run_grows context _ later).kept sessionKey session hget
  obtain rfl := Option.mem_unique hnext hgrown
  exact ⟨next, hnext, hremembers, hgrows⟩

end ControlPlaneStore

end OpenCowork.ControlPlane
