import OpenCowork.Streams.OrderedWriter

/-! # Order and gaps of an event stream

Whatever order the sources deliver in, the writer moves its cursor by one event or
by one notice. Everything between the client's cursor and the writer's is therefore
accounted for by something the writer did before.
-/

namespace OpenCowork.Streams

open Foundation

variable (log : List Outcome) (outcome : Outcome)

def writtenEvents : List SseEvent :=
  log.filterMap fun outcome =>
    match outcome with
    | .wrote event => some event
    | _ => none

/-- The frames of a log, oldest first. -/
def frames : List SseEvent := log.filterMap Outcome.frame

/-- A sequence that a client knows about: it got the event, or a notice to refresh. -/
def Outcome.Announces : Outcome → Nat → Prop
  | .wrote event, sequence => event.sequence = sequence
  | .required notice, sequence => notice.afterSequence < sequence ∧ sequence ≤ notice.latestSequence
  | .passedOver _, _ => False

/-- A sequence that the writer has dealt with, possibly by passing over an event of a
type that clients do not know. -/
def Outcome.AccountsFor : Outcome → Nat → Prop
  | .passedOver event, sequence =>
    event.sequence = sequence ∧ isCloudSessionEventType event.type = false
  | outcome, sequence => outcome.Announces sequence

/-- Each sequence between the cursor and a written event was dealt with before it. -/
def ClosedBy (deals : Outcome → Nat → Prop) (cursor : Nat) (log : List Outcome) : Prop :=
  ∀ earlier event later, log = earlier ++ .wrote event :: later →
    ∀ sequence, cursor < sequence → sequence < event.sequence →
      ∃ outcome ∈ earlier, deals outcome sequence

structure Ordered (cursor : Nat) (writer : Writer) : Prop where
  reached : cursor ≤ writer.lastSequence
  written : ∀ event ∈ writtenEvents writer.log,
    cursor < event.sequence ∧ event.sequence ≤ writer.lastSequence
  increasing : (writtenEvents writer.log).Pairwise fun first second =>
    first.sequence < second.sequence
  bounded : ∀ frame ∈ frames writer.log, frame.sequence ≤ writer.lastSequence
  monotone : (frames writer.log).Pairwise fun first second => first.sequence ≤ second.sequence
  accounted : 0 < cursor → ∀ sequence, cursor < sequence → sequence ≤ writer.lastSequence →
    ∃ outcome ∈ writer.log, outcome.AccountsFor sequence
  closed : 0 < cursor → ClosedBy Outcome.AccountsFor cursor writer.log

/-- One outcome at the end of the log, and the cursor moved to where it reaches. -/
structure Advance (cursor : Nat) (before after : Writer) (outcome : Outcome) : Prop where
  log : after.log = before.log ++ [outcome]
  forward : before.lastSequence ≤ after.lastSequence
  wrote : ∀ event, outcome = .wrote event →
    before.lastSequence < event.sequence ∧ event.sequence = after.lastSequence
  frame : ∀ frame, outcome.frame = some frame →
    before.lastSequence ≤ frame.sequence ∧ frame.sequence ≤ after.lastSequence
  accounts : 0 < cursor → ∀ sequence, before.lastSequence < sequence →
    sequence ≤ after.lastSequence → outcome.AccountsFor sequence

@[simp] theorem writtenEvents_append :
    writtenEvents (log ++ [outcome]) = writtenEvents log ++ writtenEvents [outcome] :=
  List.filterMap_append

@[simp] theorem frames_append : frames (log ++ [outcome]) = frames log ++ outcome.frame.toList := by
  rw [frames, List.filterMap_append]
  cases h : outcome.frame <;> simp [frames, h]

theorem eq_wrote_of_mem {outcome : Outcome} {event : SseEvent}
    (hmem : event ∈ writtenEvents [outcome]) : outcome = .wrote event := by
  cases outcome <;> simp_all [writtenEvents]

theorem writtenEvents_single (related : SseEvent → SseEvent → Prop) :
    (writtenEvents [outcome]).Pairwise related := by
  cases outcome <;> simp [writtenEvents]

namespace Ordered

variable {cursor : Nat} {before after : Writer} (hordered : Ordered cursor before)
include hordered

theorem of_eq (hlog : after.log = before.log)
    (hlast : after.lastSequence = before.lastSequence) : Ordered cursor after where
  reached := hlast ▸ hordered.reached
  written := by
    rw [hlog, hlast]
    exact hordered.written
  increasing := hlog ▸ hordered.increasing
  bounded := by
    rw [hlog, hlast]
    exact hordered.bounded
  monotone := hlog ▸ hordered.monotone
  accounted := by
    rw [hlog, hlast]
    exact hordered.accounted
  closed := hlog ▸ hordered.closed

theorem advance {outcome : Outcome}
    (hadvance : Advance cursor before after outcome) : Ordered cursor after where
  reached := Nat.le_trans hordered.reached hadvance.forward
  written := by
    intro event hevent
    rw [hadvance.log, writtenEvents_append, List.mem_append] at hevent
    rcases hevent with hevent | hevent
    · obtain ⟨hcursor, hlast⟩ := hordered.written event hevent
      exact ⟨hcursor, Nat.le_trans hlast hadvance.forward⟩
    · obtain ⟨hnew, hlast⟩ := hadvance.wrote event (eq_wrote_of_mem hevent)
      exact ⟨Nat.lt_of_le_of_lt hordered.reached hnew, Nat.le_of_eq hlast⟩
  increasing := by
    rw [hadvance.log, writtenEvents_append]
    refine List.pairwise_append.mpr ⟨hordered.increasing, writtenEvents_single _ _, ?_⟩
    intro first hfirst second hsecond
    have hnew := (hadvance.wrote second (eq_wrote_of_mem hsecond)).1
    exact Nat.lt_of_le_of_lt (hordered.written first hfirst).2 hnew
  bounded := by
    intro frame hframe
    rw [hadvance.log, frames_append, List.mem_append] at hframe
    rcases hframe with hframe | hframe
    · exact Nat.le_trans (hordered.bounded frame hframe) hadvance.forward
    · exact (hadvance.frame frame (Option.mem_toList.mp hframe)).2
  monotone := by
    rw [hadvance.log, frames_append]
    refine List.pairwise_append.mpr ⟨hordered.monotone, ?_, ?_⟩
    · cases outcome.frame <;> simp
    · intro first hfirst second hsecond
      have hnew := (hadvance.frame second (Option.mem_toList.mp hsecond)).1
      exact Nat.le_trans (hordered.bounded first hfirst) hnew
  accounted := by
    intro hpositive sequence hcursor hlast
    rw [hadvance.log]
    by_cases hold : sequence ≤ before.lastSequence
    · obtain ⟨earlier, hmem, haccounts⟩ := hordered.accounted hpositive sequence hcursor hold
      exact ⟨earlier, List.mem_append_left _ hmem, haccounts⟩
    · refine ⟨outcome, List.mem_append_right _ (List.mem_singleton_self _), ?_⟩
      exact hadvance.accounts hpositive sequence (Nat.lt_of_not_le hold) hlast
  closed := by
    intro hpositive earlier event later hsplit sequence hcursor hbelow
    rw [hadvance.log] at hsplit
    rcases List.eq_nil_or_concat later with rfl | ⟨middle, final, rfl⟩
    · -- The event just written is the next one, and the log before it reaches that far.
      obtain ⟨rfl, hwrote⟩ := List.append_inj' hsplit rfl
      have hevent := hadvance.wrote event (List.singleton_inj.mp hwrote)
      apply hordered.accounted hpositive sequence hcursor
      by_contra hbeyond
      have haccounts := hadvance.accounts hpositive sequence (Nat.lt_of_not_le hbeyond)
        (hevent.2 ▸ Nat.le_of_lt hbelow)
      rw [List.singleton_inj.mp hwrote] at haccounts
      exact Nat.ne_of_gt hbelow haccounts
    · have hshorter : before.log ++ [outcome] = (earlier ++ .wrote event :: middle) ++ [final] := by
        simpa using hsplit
      obtain ⟨hlog, -⟩ := List.append_inj' hshorter rfl
      exact hordered.closed hpositive earlier event middle hlog sequence hcursor hbelow

theorem writeGapSnapshot (options : StreamOptions) (earliestSequence latestSequence : Nat) :
    Ordered cursor (before.writeGapSnapshot options earliestSequence latestSequence) := by
  unfold Writer.writeGapSnapshot
  split
  · exact hordered
  · let notice : SnapshotNotice :=
      ⟨before.lastSequence, earliestSequence, max earliestSequence latestSequence⟩
    apply hordered.advance (show Advance cursor before _ (.required notice) from ?_)
    refine ⟨rfl, Nat.le_max_left _ _, by simp, ?_, ?_⟩
    · intro _ hframe
      obtain rfl := Option.some.inj hframe
      exact ⟨le_rfl, Nat.le_max_left _ _⟩
    · intro _ sequence hafter hreach
      change sequence ≤ max before.lastSequence (max earliestSequence latestSequence) at hreach
      have hobserved : sequence ≤ max earliestSequence latestSequence := by omega
      exact ⟨hafter, hobserved⟩

theorem next_of_no_gap {sequence : Nat}
    (hgap : ¬(0 < before.lastSequence ∧ before.lastSequence + 1 < sequence))
    (hpositive : 0 < cursor) : sequence ≤ before.lastSequence + 1 := by
  have hlast : 0 < before.lastSequence := Nat.lt_of_lt_of_le hpositive hordered.reached
  by_contra hbeyond
  exact hgap ⟨hlast, Nat.lt_of_not_le hbeyond⟩

theorem writeIfNew (options : StreamOptions)
    (event : SseEvent) : Ordered cursor (before.writeIfNew options event) := by
  unfold Writer.writeIfNew
  split
  · exact hordered
  · split
    · exact hordered
    next hnew =>
      have hafter : before.lastSequence < event.sequence := Nat.lt_of_not_le hnew
      split
      · exact hordered.writeGapSnapshot options event.sequence event.sequence
      next hgap =>
        have honly : 0 < cursor → ∀ sequence, before.lastSequence < sequence →
            sequence ≤ event.sequence → event.sequence = sequence := by
          intro hpositive sequence hlow hhigh
          have := hordered.next_of_no_gap hgap hpositive
          omega
        split
        next htype =>
          apply hordered.advance (show Advance cursor before _ (.passedOver event) from ?_)
          refine ⟨rfl, Nat.le_of_lt hafter, by simp, by simp [Outcome.frame], ?_⟩
          exact fun hpositive sequence hlow hhigh =>
            ⟨honly hpositive sequence hlow hhigh, htype⟩
        · apply hordered.advance (show Advance cursor before _ (.wrote event) from ?_)
          refine ⟨rfl, Nat.le_of_lt hafter, ?_, ?_, honly⟩
          · intro _ hwrote
            obtain rfl := Outcome.wrote.inj hwrote
            exact ⟨hafter, rfl⟩
          · intro _ hframe
            obtain rfl := Option.some.inj hframe
            exact ⟨Nat.le_of_lt hafter, le_rfl⟩

theorem writeBatch (options : StreamOptions)
    (batch : List SseEvent) : Ordered cursor (batch.foldl (Writer.writeIfNew options) before) := by
  induction batch generalizing before with
  | nil => exact hordered
  | cons event _ ih => exact ih (hordered.writeIfNew options event)

end Ordered

namespace SseStream

variable {cursor : Nat} {stream : SseStream}

theorem subscribe_writer (stream : SseStream) : stream.subscribe.writer = stream.writer := by
  unfold subscribe
  split <;> rfl

theorem hearBus_ordered (options : StreamOptions) (hordered : Ordered cursor stream.writer)
    (event : SseEvent) : Ordered cursor (stream.hearBus options event).2.writer := by
  unfold hearBus
  split
  · exact hordered
  · split
    · exact hordered.writeIfNew options event
    · exact hordered

theorem perform_ordered (options : StreamOptions) (hordered : Ordered cursor stream.writer)
    (input : StreamInput) : Ordered cursor (stream.perform options input).2.writer := by
  cases input with
  | cursor =>
    simp only [perform]
    split
    · split
      · split
        · simp only [subscribe_writer]
          exact hordered.writeGapSnapshot options _ _
        · exact hordered
      · exact hordered
    · exact hordered
  | backlog batch =>
    simp only [perform]
    split
    · split
      · simp only [subscribe_writer]
        exact hordered.writeBatch options batch
      · exact hordered.writeBatch options batch
    · exact hordered
  | bus event =>
    simp only [perform]
    split
    · split
      · exact hordered
      · exact hearBus_ordered options hordered event
    · exact hordered
  | hub event =>
    simp only [perform]
    split
    · split
      · exact hordered
      · exact hordered.writeIfNew options event
    · exact hordered
  | socket | cleanup | destroyed => exact hordered.of_eq rfl rfl

theorem opened_ordered (cursor : Nat) : Ordered cursor (opened cursor).writer := by
  refine ⟨le_rfl, by simp [opened, writtenEvents], List.Pairwise.nil,
    by simp [opened, frames], List.Pairwise.nil, ?_, ?_⟩
  · intro _ _ hlow hhigh
    exact absurd hhigh (Nat.not_le.mpr hlow)
  · intro _ _ _ _ hsplit
    simp [opened] at hsplit

/-- For every order of arrival: the events written increase, the ids on the wire
never decrease, and past a positive cursor nothing is skipped without a notice except
events of types outside the contract. -/
theorem run_ordered (options : StreamOptions) (cursor : Nat) (inputs : List StreamInput) :
    let log := ((machine options).run (opened cursor) inputs).writer.log
    ((writtenEvents log).Pairwise fun first second => first.sequence < second.sequence) ∧
      ((frames log).Pairwise fun first second => first.sequence ≤ second.sequence) ∧
      (0 < cursor → ClosedBy Outcome.AccountsFor cursor log) := by
  have hordered := (machine options).run_invariant
    (fun stream => Ordered cursor stream.writer)
    (fun stream input hstream => perform_ordered options hstream input)
    (opened cursor) (opened_ordered cursor) inputs
  exact ⟨hordered.increasing, hordered.monotone, hordered.closed⟩

/-- A backlog whose first event has a type outside the contract. -/
def unknownThenIdle : List StreamInput :=
  [.cursor (some 1) (some 3),
    .backlog [⟨2, "session.renamed", "e2", .null⟩, ⟨3, "session.idle", "e3", .null⟩]]

theorem resumed_ordered :
    ClosedBy Outcome.AccountsFor 1
      ((machine { sseReplayHub := true, frameBytes := fun _ => 1 }).run (opened 1)
        unknownThenIdle).writer.log :=
  (run_ordered { sseReplayHub := true, frameBytes := fun _ => 1 } 1 unknownThenIdle).2.2
    (by decide)

/-- The client never hears of the event that was passed over. -/
theorem passed_over_unannounced :
    ¬∀ inputs, ClosedBy Outcome.Announces 1
      ((machine { sseReplayHub := true, frameBytes := fun _ => 1 }).run (opened 1)
        inputs).writer.log := by
  intro hclosed
  obtain ⟨_, hmem, hannounces⟩ := hclosed unknownThenIdle
    [.passedOver ⟨2, "session.renamed", "e2", .null⟩] ⟨3, "session.idle", "e3", .null⟩ [] rfl
    2 (by decide) (by decide)
  rw [List.mem_singleton.mp hmem] at hannounces
  exact hannounces

end SseStream

end OpenCowork.Streams
