import OpenCowork.Streams.ReplayHub

/-! # Delivery of the replay hub

What a subscriber has received is always the window of the log between the
cursor it started at and the cursor it has reached. A poll that ends without
another one being requested leaves no subscriber behind what its read saw.
-/

namespace OpenCowork.Streams

open Foundation OrderedMap

variable {log : List Nat} {afterSequence : Nat} {topic : Topic} {done : List Nat}
  {read : ReadResult}

/-- What holds of the subscriptions of a topic between any two turns. -/
structure Subscriptions (log : List Nat) (topic : Topic) : Prop where
  received : ∀ subscriber ∈ topic.subscribers,
    subscriber.received = window log subscriber.start subscriber.lastSequence
  cursor : ∀ subscriber ∈ topic.subscribers, subscriber.start ≤ subscriber.lastSequence ∧
    (subscriber.lastSequence = subscriber.start ∨ subscriber.lastSequence ∈ log)
  heard : ∀ subscriber ∈ topic.subscribers, ∀ event ∈ subscriber.received, event ∈ topic.reached
  reached : ∀ event ∈ topic.reached, event ∈ log
  ids : (topic.subscribers.map Subscriber.id).Nodup

/-- What holds of a topic between any two turns. -/
structure TopicInvariant (log : List Nat) (topic : Topic) : Prop extends
    Subscriptions log topic where
  /-- A subscriber below the cursor of the poll in flight has asked for another. -/
  behind : ∀ poll, topic.poll = some poll → ∀ subscriber ∈ topic.subscribers,
    subscriber.lastSequence < poll.afterSequence → topic.pollRequested = true
  /-- An answered read starts right after its cursor, saw all that was reached
  before, and is either full or complete for what it saw. -/
  read : ∀ poll result, topic.poll = some poll → poll.read = some result →
    result.events <+: log.filter (fun sequence => decide (poll.afterSequence < sequence)) ∧
      (∀ event ∈ result.seen, event ∈ log) ∧ (∀ event ∈ topic.reached, event ∈ result.seen) ∧
      (∀ event ∈ result.events, event ∈ result.seen) ∧
      ((0 < topic.batchSize ∧ topic.batchSize ≤ result.events.length) ∨
        ∀ event ∈ result.seen, poll.afterSequence < event → event ∈ result.events)
  /-- At rest after a successful poll every subscriber is past what was reached. -/
  rest : topic.poll = none → topic.failed = false → ∀ subscriber ∈ topic.subscribers,
    ∀ event ∈ topic.reached, event ≤ subscriber.lastSequence

theorem Topic.replayAfterSequence_le (topic : Topic) :
    ∀ subscriber ∈ topic.subscribers, topic.replayAfterSequence ≤ subscriber.lastSequence := by
  unfold Topic.replayAfterSequence
  generalize topic.lastSequence = sequence
  have hle : ∀ (subscribers : List Subscriber) (sequence : Nat),
      subscribers.foldl (fun sequence subscriber => min sequence subscriber.lastSequence)
        sequence ≤ sequence := by
    intro subscribers
    induction subscribers with
    | nil => exact fun _ => Nat.le_refl _
    | cons _ _ ih => exact fun sequence => Nat.le_trans (ih _) (Nat.min_le_left _ _)
  induction topic.subscribers generalizing sequence with
  | nil => simp
  | cons _ rest ih =>
    intro subscriber hmem
    rcases List.mem_cons.mp hmem with rfl | hmem
    · exact Nat.le_trans (hle rest _) (Nat.min_le_right _ _)
    · exact ih _ subscriber hmem

namespace Subscriptions

variable {log : List Nat} {topic next : Topic} (hsubs : Subscriptions log topic)
include hsubs

theorem of_sublist (hsublist : next.subscribers.Sublist topic.subscribers)
    (hreached : next.reached = topic.reached) : Subscriptions log next where
  received := fun subscriber hmem => hsubs.received subscriber (hsublist.subset hmem)
  cursor := fun subscriber hmem => hsubs.cursor subscriber (hsublist.subset hmem)
  heard := fun subscriber hmem => by
    rw [hreached]
    exact hsubs.heard subscriber (hsublist.subset hmem)
  reached := hreached ▸ hsubs.reached
  ids := hsubs.ids.sublist (hsublist.map Subscriber.id)

theorem of_eq (hsubscribers : next.subscribers = topic.subscribers)
    (hreached : next.reached = topic.reached) : Subscriptions log next :=
  hsubs.of_sublist (hsubscribers ▸ List.Sublist.refl _) hreached

theorem reach {seen : List Nat}
    (hsubscribers : next.subscribers = topic.subscribers) (hreached : next.reached = seen)
    (hlog : ∀ event ∈ seen, event ∈ log) (hseen : ∀ event ∈ topic.reached, event ∈ seen) :
    Subscriptions log next where
  received := hsubscribers ▸ hsubs.received
  cursor := hsubscribers ▸ hsubs.cursor
  heard := by
    rw [hsubscribers, hreached]
    exact fun subscriber hmem event hevent => hseen event (hsubs.heard subscriber hmem event hevent)
  reached := hreached ▸ hlog
  ids := hsubscribers ▸ hsubs.ids

theorem append {sequence : Nat} (hsequence : ∀ earlier ∈ log, earlier < sequence) :
    Subscriptions (log ++ [sequence]) topic where
  received := by
    intro subscriber hmem
    rw [hsubs.received subscriber hmem]
    rcases (hsubs.cursor subscriber hmem).2 with hstart | hlog
    · rw [hstart, window_self, window_self]
    · exact (window_append_of_lt log (hsequence _ hlog)).symm
  cursor := by
    intro subscriber hmem
    obtain ⟨hle, hcursor⟩ := hsubs.cursor subscriber hmem
    exact ⟨hle, hcursor.imp id (List.mem_append_left _)⟩
  heard := hsubs.heard
  reached := fun event hevent => List.mem_append_left _ (hsubs.reached event hevent)
  ids := hsubs.ids

theorem add {id : Nat} (afterSequence : Nat)
    (hid : ∀ subscriber ∈ topic.subscribers, subscriber.id < id) :
    Subscriptions log (Hub.addSubscriber topic id afterSequence) where
  received := by
    intro subscriber hmem
    rcases List.mem_append.mp hmem with hmem | hmem
    · exact hsubs.received subscriber hmem
    · rw [List.mem_singleton.mp hmem, window_self]
  cursor := by
    intro subscriber hmem
    rcases List.mem_append.mp hmem with hmem | hmem
    · exact hsubs.cursor subscriber hmem
    · rw [List.mem_singleton.mp hmem]
      exact ⟨Nat.le_refl _, .inl rfl⟩
  heard := by
    intro subscriber hmem
    rcases List.mem_append.mp hmem with hmem | hmem
    · exact hsubs.heard subscriber hmem
    · rw [List.mem_singleton.mp hmem]
      exact fun _ hevent => absurd hevent (by simp)
  reached := hsubs.reached
  ids := by
    simp only [Hub.addSubscriber, List.map_append, List.map_cons, List.map_nil]
    refine List.nodup_append.mpr ⟨hsubs.ids, List.nodup_singleton _, ?_⟩
    intro _ hold _ hnew heq
    obtain ⟨subscriber, hmem, rfl⟩ := List.mem_map.mp hold
    have := hid subscriber hmem
    rw [heq, List.mem_singleton.mp hnew] at this
    exact Nat.lt_irrefl _ this

theorem startPoll : TopicInvariant log topic.startPoll where
  toSubscriptions := hsubs.of_eq rfl rfl
  behind := by
    intro poll hpoll subscriber hmem hbelow
    obtain rfl : ⟨topic.replayAfterSequence, none⟩ = poll := Option.some.inj hpoll
    have := topic.replayAfterSequence_le subscriber hmem
    exact absurd hbelow (Nat.not_lt.mpr this)
  read := by
    intro poll _ hpoll hread
    obtain rfl : ⟨topic.replayAfterSequence, none⟩ = poll := Option.some.inj hpoll
    simp at hread
  rest := by simp [Topic.startPoll]

end Subscriptions

namespace TopicInvariant

variable {log : List Nat} {topic : Topic}

section

variable (hinvariant : TopicInvariant log topic)
include hinvariant

theorem requestPoll : TopicInvariant log topic.requestPoll := by
  unfold Topic.requestPoll
  split
  next hpoll =>
    exact
      { toSubscriptions := hinvariant.toSubscriptions.of_eq rfl rfl
        behind := fun _ _ _ _ _ => rfl
        read := hinvariant.read
        rest := fun hnone => absurd (hpoll.symm.trans hnone) (by simp) }
  · exact hinvariant.toSubscriptions.startPoll

theorem subscribe {id : Nat} (afterSequence : Nat)
    (hid : ∀ subscriber ∈ topic.subscribers, subscriber.id < id) :
    TopicInvariant log (Hub.addSubscriber topic id afterSequence).requestPoll := by
  have hsubs := hinvariant.toSubscriptions.add afterSequence hid
  unfold Topic.requestPoll
  split
  next hpoll =>
    exact
      { toSubscriptions := hsubs.of_eq rfl rfl
        behind := fun _ _ _ _ _ => rfl
        read := hinvariant.read
        rest := fun hnone => absurd (hpoll.symm.trans hnone) (by simp) }
  · exact hsubs.startPoll

theorem unsubscribe (id : Nat) :
    TopicInvariant log
      { topic with
        subscribers := topic.subscribers.filter fun subscriber =>
          decide (subscriber.id ≠ id) } where
  toSubscriptions := hinvariant.toSubscriptions.of_sublist List.filter_sublist rfl
  behind := fun poll hpoll subscriber hmem =>
    hinvariant.behind poll hpoll subscriber (List.mem_of_mem_filter hmem)
  read := hinvariant.read
  rest := fun hnone hfailed subscriber hmem =>
    hinvariant.rest hnone hfailed subscriber (List.mem_of_mem_filter hmem)

theorem append {sequence : Nat} (hsequence : ∀ earlier ∈ log, earlier < sequence) :
    TopicInvariant (log ++ [sequence]) topic where
  toSubscriptions := hinvariant.toSubscriptions.append hsequence
  behind := hinvariant.behind
  read := by
    intro poll result hpoll hread
    obtain ⟨hstarts, hlog, hrest⟩ := hinvariant.read poll result hpoll hread
    refine ⟨?_, fun event hevent => List.mem_append_left _ (hlog event hevent), hrest⟩
    rw [List.filter_append]
    exact hstarts.trans (List.prefix_append _ _)
  rest := hinvariant.rest

theorem load {afterSequence : Nat} (hpoll : topic.poll = some ⟨afterSequence, none⟩) :
    TopicInvariant log
      { topic with
        poll := some ⟨afterSequence,
          some ⟨Topic.loadEvents topic.batchSize log afterSequence, log⟩⟩ } where
  toSubscriptions := hinvariant.toSubscriptions.of_eq rfl rfl
  behind := by
    intro poll hnext
    obtain rfl := Option.some.inj hnext
    exact hinvariant.behind ⟨afterSequence, none⟩ hpoll
  read := by
    intro poll _ hnext hread
    obtain rfl := Option.some.inj hnext
    obtain rfl := Option.some.inj hread
    have hstarts : Topic.loadEvents topic.batchSize log afterSequence <+:
        log.filter fun sequence => decide (afterSequence < sequence) := by
      unfold Topic.loadEvents
      split
      · exact List.prefix_refl _
      · exact List.take_prefix _ _
    refine ⟨hstarts, fun _ hevent => hevent, hinvariant.reached,
      fun event hevent => List.mem_of_mem_filter (hstarts.subset hevent), ?_⟩
    by_cases hfull : 0 < topic.batchSize ∧
        topic.batchSize ≤ (Topic.loadEvents topic.batchSize log afterSequence).length
    · exact .inl hfull
    · right
      intro event hevent hafter
      have hfilter : event ∈ log.filter fun sequence => decide (afterSequence < sequence) := by
        simpa using ⟨hevent, hafter⟩
      unfold Topic.loadEvents at hfull ⊢
      split at hfull
      next hzero => rwa [if_pos hzero]
      next hzero =>
        rw [if_neg hzero]
        rw [List.length_take] at hfull
        rw [List.take_of_length_le (by omega)]
        exact hfilter
  rest := fun hnone => absurd hnone (by simp)

end

theorem finishPoll (hsubs : Subscriptions log topic)
    (hrest : topic.failed = false → topic.pollRequested = false →
      ∀ subscriber ∈ topic.subscribers, ∀ event ∈ topic.reached,
        event ≤ subscriber.lastSequence) :
    TopicInvariant log topic.finishPoll := by
  unfold Topic.finishPoll
  cases hagain : (topic.pollRequested && !topic.subscribers.isEmpty) with
  | true => exact Subscriptions.startPoll (hsubs.of_eq rfl rfl)
  | false =>
    refine ⟨hsubs.of_eq rfl rfl, by simp, by simp, ?_⟩
    intro _ hfailed subscriber hmem event hevent
    have hnone : topic.pollRequested = false := by
      cases hrequested : topic.pollRequested with
      | false => rfl
      | true =>
        rw [hrequested, Bool.true_and, Bool.not_eq_false', List.isEmpty_iff] at hagain
        rw [hagain] at hmem
        simp at hmem
    exact hrest hfailed hnone subscriber hmem event hevent

end TopicInvariant

/-- What holds while a batch is delivered, `done` being its part already seen by
every subscriber at or above the poll's cursor. -/
structure Delivering (log : List Nat) (afterSequence : Nat) (done : List Nat) (topic : Topic) :
    Prop extends Subscriptions log topic where
  behind : ∀ subscriber ∈ topic.subscribers, subscriber.lastSequence < afterSequence →
    topic.pollRequested = true
  caughtUp : ∀ subscriber ∈ topic.subscribers, afterSequence ≤ subscriber.lastSequence →
    ∀ event ∈ done, event ≤ subscriber.lastSequence

/-- The event that follows the delivered part of a batch in the log. -/
structure NextEvent (log : List Nat) (afterSequence : Nat) (done : List Nat) (topic : Topic)
    (event : Nat) : Prop where
  logged : event ∈ log
  above : afterSequence < event
  reached : event ∈ topic.reached
  gapless : ∀ other ∈ log, afterSequence < other → other ≤ event → other = event ∨ other ∈ done

namespace Delivering

variable {log : List Nat} {afterSequence : Nat} {done : List Nat} {topic : Topic} {event : Nat}

theorem deliverTo (hlog : log.Pairwise (· < ·))
    (hdelivering : Delivering log afterSequence done topic)
    (hnext : NextEvent log afterSequence done topic event) {heard : Subscriber}
    (hmem : heard ∈ topic.subscribers) (hafter : afterSequence ≤ heard.lastSequence)
    (hnew : heard.lastSequence < event) (dropped : List Nat) :
    Delivering log afterSequence done (topic.deliverTo event heard.id dropped) := by
  have hcases : ∀ subscriber ∈ (topic.deliverTo event heard.id dropped).subscribers,
      subscriber ∈ topic.subscribers ∨ subscriber = Topic.hear heard event := by
    intro subscriber hsubscriber
    obtain ⟨_, hold, rfl⟩ := List.mem_map.mp (List.mem_of_mem_filter hsubscriber)
    split
    next hid => exact .inr (by rw [List.inj_on_of_nodup_map hdelivering.ids hold hmem hid])
    · exact .inl hold
  have hwindow : window log heard.start event =
      window log heard.start heard.lastSequence ++ [event] := by
    apply window_next hlog hnext.logged (hdelivering.cursor heard hmem).1 hnew
    intro other hother _ hhigh
    rcases hnext.gapless other hother (by omega) hhigh with h | h
    · exact h
    · have := hdelivering.caughtUp heard hmem hafter other h
      omega
  refine ⟨⟨?_, ?_, ?_, hdelivering.reached, ?_⟩, ?_, ?_⟩
  · intro subscriber hsubscriber
    rcases hcases subscriber hsubscriber with h | rfl
    · exact hdelivering.received subscriber h
    · change heard.received ++ [event] = window log heard.start event
      rw [hdelivering.received heard hmem, hwindow]
  · intro subscriber hsubscriber
    rcases hcases subscriber hsubscriber with h | rfl
    · exact hdelivering.cursor subscriber h
    · have := (hdelivering.cursor heard hmem).1
      exact ⟨Nat.le_trans this (Nat.le_of_lt hnew), .inr hnext.logged⟩
  · intro subscriber hsubscriber other hother
    rcases hcases subscriber hsubscriber with h | rfl
    · exact hdelivering.heard subscriber h other hother
    · rcases List.mem_append.mp hother with hother | hother
      · exact hdelivering.heard heard hmem other hother
      · rw [List.mem_singleton.mp hother]
        exact hnext.reached
  · have hids : (topic.subscribers.map fun subscriber =>
        if subscriber.id = heard.id then Topic.hear subscriber event else subscriber).map
          Subscriber.id = topic.subscribers.map Subscriber.id := by
      rw [List.map_map]
      apply List.map_congr_left
      intro subscriber _
      simp only [Function.comp_apply]
      split <;> rfl
    exact (hids ▸ hdelivering.ids).sublist (List.filter_sublist.map Subscriber.id)
  · intro subscriber hsubscriber hbelow
    rcases hcases subscriber hsubscriber with h | rfl
    · exact hdelivering.behind subscriber h hbelow
    · change event < afterSequence at hbelow
      exact absurd hbelow (Nat.not_lt.mpr (Nat.le_of_lt hnext.above))
  · intro subscriber hsubscriber habove other hother
    rcases hcases subscriber hsubscriber with h | rfl
    · exact hdelivering.caughtUp subscriber h habove other hother
    · have := hdelivering.caughtUp heard hmem hafter other hother
      exact Nat.le_trans this (Nat.le_of_lt hnew)

/-- The inner loop takes every subscriber that is not behind past the event. -/
theorem deliverEvent (hlog : log.Pairwise (· < ·)) (react : Nat → Nat → List Nat)
    (ids : List Nat) (hdelivering : Delivering log afterSequence done topic)
    (hnext : NextEvent log afterSequence done topic event)
    (hvisited : ∀ subscriber ∈ topic.subscribers, subscriber.id ∉ ids →
      afterSequence ≤ subscriber.lastSequence → event ≤ subscriber.lastSequence) :
    Delivering log afterSequence (done ++ [event])
      (Topic.deliverEvent afterSequence event react ids topic) := by
  induction ids generalizing topic with
  | nil =>
    refine ⟨hdelivering.toSubscriptions, hdelivering.behind, ?_⟩
    intro subscriber hmem hafter other hother
    rcases List.mem_append.mp hother with hother | hother
    · exact hdelivering.caughtUp subscriber hmem hafter other hother
    · rw [List.mem_singleton.mp hother]
      exact hvisited subscriber hmem (by simp) hafter
  | cons id rest ih =>
    rw [Topic.deliverEvent]
    cases hfind : topic.subscribers.find? (fun subscriber => decide (subscriber.id = id)) with
    | none =>
      refine ih hdelivering hnext fun subscriber hmem hrest => hvisited subscriber hmem ?_
      rw [List.find?_eq_none] at hfind
      have := hfind subscriber hmem
      simp only [decide_eq_true_eq] at this
      simp [this, hrest]
    | some heard =>
      have hmem := List.mem_of_find?_eq_some hfind
      have hid : heard.id = id := by simpa using List.find?_some hfind
      -- Another subscriber with this id would be this one.
      have hself : ∀ subscriber ∈ topic.subscribers, subscriber.id ∉ rest →
          subscriber ≠ heard → subscriber.id ∉ id :: rest := by
        intro subscriber hsubscriber hrest hne
        rw [List.mem_cons, not_or]
        refine ⟨fun heq => hne ?_, hrest⟩
        exact List.inj_on_of_nodup_map hdelivering.ids hsubscriber hmem (heq.trans hid.symm)
      simp only
      split
      next _ =>
        refine ih ⟨hdelivering.toSubscriptions.of_eq rfl rfl, fun _ _ _ => rfl,
          hdelivering.caughtUp⟩ ⟨hnext.logged, hnext.above, hnext.reached, hnext.gapless⟩ ?_
        intro subscriber hsubscriber hrest hafter
        refine hvisited subscriber hsubscriber (hself subscriber hsubscriber hrest ?_) hafter
        rintro rfl
        omega
      next hafter =>
        split
        next hold =>
          refine ih hdelivering hnext fun subscriber hsubscriber hrest habove => ?_
          by_cases heq : subscriber = heard
          · exact heq ▸ hold
          · exact hvisited subscriber hsubscriber (hself subscriber hsubscriber hrest heq) habove
        next _ =>
          subst hid
          refine ih (hdelivering.deliverTo hlog hnext hmem (by omega) (by omega) _)
            ⟨hnext.logged, hnext.above, hnext.reached, hnext.gapless⟩ ?_
          intro subscriber hsubscriber hrest habove
          obtain ⟨old, hold, rfl⟩ := List.mem_map.mp (List.mem_of_mem_filter hsubscriber)
          split
          · exact Nat.le_refl _
          next hne =>
            rw [if_neg hne] at hrest habove
            refine hvisited old hold (hself old hold hrest ?_) habove
            rintro rfl
            exact hne rfl

end Delivering

/-- What a delivery leaves alone, and that it never withdraws a request. -/
structure DeliveryFrame (before after : Topic) : Prop where
  reached : after.reached = before.reached
  failed : after.failed = before.failed
  requested : before.pollRequested = true → after.pollRequested = true

theorem DeliveryFrame.trans {first second third : Topic} (hfirst : DeliveryFrame first second)
    (hsecond : DeliveryFrame second third) : DeliveryFrame first third :=
  ⟨hsecond.reached.trans hfirst.reached, hsecond.failed.trans hfirst.failed,
    fun h => hsecond.requested (hfirst.requested h)⟩

theorem Topic.deliverEvent_frame (afterSequence event : Nat) (react : Nat → Nat → List Nat)
    (ids : List Nat) (topic : Topic) :
    DeliveryFrame topic (Topic.deliverEvent afterSequence event react ids topic) := by
  induction ids generalizing topic with
  | nil => exact ⟨rfl, rfl, id⟩
  | cons id _ ih =>
    rw [Topic.deliverEvent]
    split
    · exact ih topic
    · split
      · have hrequest : DeliveryFrame topic { topic with pollRequested := true } :=
          ⟨rfl, rfl, fun _ => rfl⟩
        exact hrequest.trans (ih _)
      · split
        · exact ih topic
        · have hheard : DeliveryFrame topic (topic.deliverTo event id (react id event)) :=
            ⟨rfl, rfl, fun h => h⟩
          exact hheard.trans (ih _)

theorem Topic.deliverEvents_frame (afterSequence : Nat) (react : Nat → Nat → List Nat)
    (events : List Nat) (topic : Topic) :
    DeliveryFrame topic (Topic.deliverEvents afterSequence react events topic) := by
  induction events generalizing topic with
  | nil => exact ⟨rfl, rfl, fun h => h⟩
  | cons event _ ih =>
    rw [Topic.deliverEvents]
    split
    · exact ih topic
    · have hraised : DeliveryFrame topic
          { topic with lastSequence := max topic.lastSequence event } :=
        ⟨rfl, rfl, fun h => h⟩
      have hevent := hraised.trans (Topic.deliverEvent_frame afterSequence event react
        (topic.subscribers.map Subscriber.id) _)
      exact hevent.trans (ih _)

theorem gapless_of_prefix {rest : List Nat} {event : Nat} (hlog : log.Pairwise (· < ·))
    (hstarts : done ++ event :: rest <+:
      log.filter fun sequence => decide (afterSequence < sequence))
    {other : Nat} (hother : other ∈ log) (hafter : afterSequence < other) (hle : other ≤ event) :
    other = event ∨ other ∈ done := by
  obtain ⟨tail, htail⟩ := hstarts
  have hmem : other ∈ done ++ event :: rest ++ tail := by
    rw [htail]
    simpa using ⟨hother, hafter⟩
  have hsorted : (done ++ event :: (rest ++ tail)).Pairwise (· < ·) := by
    have h : (done ++ event :: rest ++ tail).Pairwise (· < ·) :=
      htail ▸ hlog.sublist List.filter_sublist
    simpa using h
  rw [List.append_assoc, List.cons_append, List.mem_append, List.mem_cons] at hmem
  rcases hmem with h | h | h
  · exact .inr h
  · exact .inl h
  · rw [List.pairwise_append, List.pairwise_cons] at hsorted
    have := hsorted.2.1.1 other h
    omega

theorem Delivering.deliverEvents (hlog : log.Pairwise (· < ·)) (react : Nat → Nat → List Nat)
    (rest : List Nat) (hdelivering : Delivering log afterSequence done topic)
    (hstarts : done ++ rest <+: log.filter fun sequence => decide (afterSequence < sequence))
    (hreached : ∀ event ∈ rest, event ∈ topic.reached) :
    Delivering log afterSequence (done ++ rest)
      (Topic.deliverEvents afterSequence react rest topic) := by
  induction rest generalizing done topic with
  | nil => simpa [Topic.deliverEvents] using hdelivering
  | cons event _ ih =>
    have hevent : event ∈ log ∧ afterSequence < event := by
      have := hstarts.subset (List.mem_append_right done (.head _))
      simpa using this
    rw [Topic.deliverEvents, if_neg (by omega)]
    have hstep : Delivering log afterSequence (done ++ [event])
        (Topic.deliverEvent afterSequence event react (topic.subscribers.map Subscriber.id)
          { topic with lastSequence := max topic.lastSequence event }) := by
      refine Delivering.deliverEvent hlog react _
        ⟨hdelivering.toSubscriptions.of_eq rfl rfl, hdelivering.behind, hdelivering.caughtUp⟩
        ⟨hevent.1, hevent.2, hreached event (.head _), ?_⟩ ?_
      · intro other hother hafter hle
        exact gapless_of_prefix hlog hstarts hother hafter hle
      · intro _ hmem hid
        exact absurd (List.mem_map_of_mem hmem) hid
    have hframe := Topic.deliverEvent_frame afterSequence event react
      (topic.subscribers.map Subscriber.id)
      { topic with lastSequence := max topic.lastSequence event }
    have hrest := ih hstep (by simpa using hstarts) fun other hother => by
      rw [hframe.reached]
      exact hreached other (.tail _ hother)
    simpa using hrest

section

variable (hlog : log.Pairwise (· < ·)) (hinvariant : TopicInvariant log topic)
  (hpoll : topic.poll = some ⟨afterSequence, some read⟩) (react : Nat → Nat → List Nat)
include hlog hinvariant hpoll react

theorem TopicInvariant.delivering :
    Delivering log afterSequence read.events (topic.resolvePoll afterSequence read react) := by
  obtain ⟨hstarts, hseenLog, hreachedSeen, heventsSeen, -⟩ := hinvariant.read _ read hpoll rfl
  have hopened : Delivering log afterSequence []
      { topic with
        pollRequested := topic.pollRequested ||
          (decide (0 < topic.batchSize) && decide (topic.batchSize ≤ read.events.length))
        reached := read.seen
        failed := false } :=
    { toSubscriptions := hinvariant.toSubscriptions.reach rfl rfl hseenLog hreachedSeen
      behind := fun subscriber hmem hbelow => by
        have hrequested := hinvariant.behind _ hpoll subscriber hmem hbelow
        simp [hrequested]
      caughtUp := by simp }
  have h := hopened.deliverEvents hlog react read.events (by simpa using hstarts) heventsSeen
  rw [List.nil_append] at h
  exact h

theorem TopicInvariant.resolvePoll :
    TopicInvariant log (topic.resolvePoll afterSequence read react).finishPoll := by
  obtain ⟨-, -, -, -, hcomplete⟩ := hinvariant.read _ read hpoll rfl
  have hdelivered := hinvariant.delivering hlog hpoll react
  let full := decide (0 < topic.batchSize) && decide (topic.batchSize ≤ read.events.length)
  let opened : Topic :=
    { topic with
      pollRequested := topic.pollRequested || full
      reached := read.seen
      failed := false }
  have hframe := Topic.deliverEvents_frame afterSequence react read.events opened
  refine TopicInvariant.finishPoll hdelivered.toSubscriptions ?_
  intro _ hnone subscriber hmem event hevent
  have hseen : event ∈ read.seen := by
    have h : (topic.resolvePoll afterSequence read react).reached = read.seen := hframe.reached
    rwa [h] at hevent
  have hfull : full = false := by
    cases hfull : full with
    | false => rfl
    | true =>
      have hrequested := hframe.requested (by simp [opened, hfull])
      exact absurd (hnone.symm.trans hrequested) (by simp)
  have habove : afterSequence ≤ subscriber.lastSequence := by
    by_contra hbelow
    have hrequested := hdelivered.behind subscriber hmem (by omega)
    exact absurd (hnone.symm.trans hrequested) (by simp)
  by_cases hlate : afterSequence < event
  · have hread : event ∈ read.events := by
      rcases hcomplete with h | h
      · simp only [full, Bool.and_eq_false_iff, decide_eq_false_iff_not] at hfull
        omega
      · exact h event hseen hlate
    exact hdelivered.caughtUp subscriber hmem habove event hread
  · omega

end

/-! ## The hub -/

structure HubInvariant (hub : Hub) : Prop where
  logs : ∀ topicKey, (hub.logs topicKey).Pairwise (· < ·)
  topics : ∀ topicKey topic, hub.topics.get topicKey = some topic →
    TopicInvariant (hub.logs topicKey) topic
  fresh : ∀ topicKey topic, hub.topics.get topicKey = some topic →
    ∀ subscriber ∈ topic.subscribers, subscriber.id < hub.nextSubscriber

namespace HubInvariant

variable {hub : Hub} {topicKey : String} {topic : Topic}

theorem initial : HubInvariant Hub.initial where
  logs := fun _ => List.Pairwise.nil
  topics := by simp [Hub.initial]
  fresh := by simp [Hub.initial]

theorem set (hinvariant : HubInvariant hub)
    (wakeIndex : OrderedMap String (List String)) {nextSubscriber : Nat}
    (htopic : TopicInvariant (hub.logs topicKey) topic)
    (hnext : hub.nextSubscriber ≤ nextSubscriber)
    (hfresh : ∀ subscriber ∈ topic.subscribers, subscriber.id < nextSubscriber) :
    HubInvariant
      { hub with topics := hub.topics.set topicKey topic, wakeIndex, nextSubscriber } where
  logs := hinvariant.logs
  topics := by
    intro other found hfound
    change (hub.topics.set topicKey topic).get other = some found at hfound
    rw [get_set] at hfound
    split at hfound
    next h =>
      obtain rfl := Option.some.inj hfound
      exact h ▸ htopic
    · exact hinvariant.topics other found hfound
  fresh := by
    intro other found hfound
    change (hub.topics.set topicKey topic).get other = some found at hfound
    rw [get_set] at hfound
    split at hfound
    · obtain rfl := Option.some.inj hfound
      exact hfresh
    · intro subscriber hmem
      exact Nat.lt_of_lt_of_le (hinvariant.fresh other found hfound subscriber hmem) hnext

theorem updateTopic (hinvariant : HubInvariant hub) (topicKey : String) (update : Topic → Topic)
    (htopic : ∀ topic, hub.topics.get topicKey = some topic →
      TopicInvariant (hub.logs topicKey) topic →
        TopicInvariant (hub.logs topicKey) (update topic) ∧
          (update topic).subscribers = topic.subscribers) :
    HubInvariant (hub.updateTopic topicKey update) := by
  unfold Hub.updateTopic
  split
  · exact hinvariant
  next topic hget =>
    obtain ⟨hupdate, hsubscribers⟩ := htopic topic hget (hinvariant.topics topicKey topic hget)
    exact hinvariant.set _ hupdate (Nat.le_refl _)
      (hsubscribers ▸ hinvariant.fresh topicKey topic hget)

theorem requestPoll_subscribers (topic : Topic) :
    topic.requestPoll.subscribers = topic.subscribers := by
  unfold Topic.requestPoll
  split <;> rfl

variable (hinvariant : HubInvariant hub)
include hinvariant

theorem requestPoll (topicKey : String) : HubInvariant (hub.requestPoll topicKey) := by
  unfold Hub.requestPoll
  split
  · exact hinvariant
  · exact hinvariant.updateTopic topicKey _ fun topic _ htopic =>
      ⟨htopic.requestPoll, requestPoll_subscribers topic⟩

theorem settleTopic (htopic : topic.subscribers ≠ [] → TopicInvariant (hub.logs topicKey) topic)
    (hfresh : ∀ subscriber ∈ topic.subscribers, subscriber.id < hub.nextSubscriber) :
    HubInvariant (hub.settleTopic topicKey topic) := by
  unfold Hub.settleTopic
  split
  · constructor
    · exact hinvariant.logs
    · intro other found hfound
      change (hub.topics.erase topicKey).get other = some found at hfound
      by_cases hkey : topicKey = other
      · rw [hkey, get_erase_self] at hfound
        simp at hfound
      · rw [get_erase_of_ne _ hkey] at hfound
        exact hinvariant.topics other found hfound
    · intro other found hfound
      change (hub.topics.erase topicKey).get other = some found at hfound
      by_cases hkey : topicKey = other
      · rw [hkey, get_erase_self] at hfound
        simp at hfound
      · rw [get_erase_of_ne _ hkey] at hfound
        exact hinvariant.fresh other found hfound
  next hne => exact hinvariant.set _ (htopic hne) (Nat.le_refl _) hfresh

theorem join (hopen : hub.closed = false) (wakeIndex : OrderedMap String (List String))
    (afterSequence : Nat) (htopic : TopicInvariant (hub.logs topicKey) topic)
    (hfresh : ∀ subscriber ∈ topic.subscribers, subscriber.id < hub.nextSubscriber) :
    HubInvariant (Hub.requestPoll
      { hub with
        topics := hub.topics.set topicKey
          (Hub.addSubscriber topic hub.nextSubscriber afterSequence)
        wakeIndex
        nextSubscriber := hub.nextSubscriber + 1 } topicKey) := by
  have hjoined := htopic.subscribe afterSequence hfresh
  have hids : ∀ subscriber ∈ (Hub.addSubscriber topic hub.nextSubscriber
      afterSequence).requestPoll.subscribers, subscriber.id < hub.nextSubscriber + 1 := by
    intro subscriber hmem
    rw [requestPoll_subscribers] at hmem
    rcases List.mem_append.mp hmem with hmem | hmem
    · exact Nat.lt_succ_of_lt (hfresh subscriber hmem)
    · rw [List.mem_singleton.mp hmem]
      exact Nat.lt_succ_self _
  have hset := hinvariant.set wakeIndex hjoined (Nat.le_succ _) hids
  simpa [Hub.requestPoll, Hub.updateTopic, hopen, set_set] using hset

omit hinvariant

theorem newTopic (log : List Nat) (afterSequence batchSize : Nat) (wakeKey : Option String) :
    TopicInvariant log (Hub.newTopic afterSequence batchSize wakeKey) := by
  refine ⟨⟨?_, ?_, ?_, ?_, List.nodup_nil⟩, ?_, ?_, ?_⟩ <;> simp [Hub.newTopic]

variable (hinvariant : HubInvariant hub)
include hinvariant

theorem subscribe (topicKey : String) (afterSequence batchSize : Nat) (wakeKey : Option String) :
    HubInvariant (hub.subscribe topicKey afterSequence batchSize wakeKey) := by
  unfold Hub.subscribe
  by_cases hclosed : hub.closed = true
  · rw [if_pos hclosed]
    exact hinvariant
  · rw [if_neg hclosed]
    rw [Bool.not_eq_true] at hclosed
    cases hget : hub.topics.get topicKey with
    | some topic =>
      exact hinvariant.join hclosed hub.wakeIndex afterSequence
        (hinvariant.topics topicKey topic hget) (hinvariant.fresh topicKey topic hget)
    | none =>
      exact hinvariant.join hclosed _ afterSequence
        (newTopic (hub.logs topicKey) afterSequence batchSize wakeKey) (by simp [Hub.newTopic])

theorem unsubscribe (topicKey : String) (id : Nat) :
    HubInvariant (hub.unsubscribe topicKey id) := by
  unfold Hub.unsubscribe
  split
  · exact hinvariant
  next topic hget =>
    exact hinvariant.settleTopic
      (fun _ => (hinvariant.topics topicKey topic hget).unsubscribe id)
      (fun subscriber hmem => hinvariant.fresh topicKey topic hget subscriber
        (List.mem_of_mem_filter hmem))

theorem wake (wakeKey : String) : HubInvariant (hub.wake wakeKey) := by
  unfold Hub.wake
  split
  · exact hinvariant
  next hopen =>
    clear hopen
    generalize (hub.wakeIndex.get wakeKey).getD [] = keys
    induction keys generalizing hub with
    | nil => exact hinvariant
    | cons topicKey _ ih => exact ih (hinvariant.requestPoll topicKey)

theorem load (topicKey : String) : HubInvariant (hub.load topicKey) := by
  refine hinvariant.updateTopic topicKey _ fun _ _ htopic => ?_
  split
  next hpoll => exact ⟨htopic.load hpoll, rfl⟩
  · exact ⟨htopic, rfl⟩

omit hinvariant

theorem finishPoll_subscribers (topic : Topic) :
    topic.finishPoll.subscribers = topic.subscribers := by
  unfold Topic.finishPoll
  split
  · exact requestPoll_subscribers _
  · rfl

theorem deliverEvents_ids (afterSequence : Nat) (react : Nat → Nat → List Nat)
    (events : List Nat) (topic : Topic) (bound : Nat)
    (hbound : ∀ subscriber ∈ topic.subscribers, subscriber.id < bound) :
    ∀ subscriber ∈ (Topic.deliverEvents afterSequence react events topic).subscribers,
      subscriber.id < bound := by
  have hone : ∀ (event : Nat) (ids : List Nat) (topic : Topic),
      (∀ subscriber ∈ topic.subscribers, subscriber.id < bound) →
      ∀ subscriber ∈ (Topic.deliverEvent afterSequence event react ids topic).subscribers,
        subscriber.id < bound := by
    intro event ids
    induction ids with
    | nil => exact fun _ h => h
    | cons _ _ ih =>
      intro topic htopic
      rw [Topic.deliverEvent]
      split
      · exact ih topic htopic
      · split
        · exact ih _ htopic
        · split
          · exact ih topic htopic
          · apply ih
            intro subscriber hmem
            obtain ⟨old, hold, rfl⟩ := List.mem_map.mp (List.mem_of_mem_filter hmem)
            have := htopic old hold
            split <;> exact this
  induction events generalizing topic with
  | nil => exact hbound
  | cons event _ ih =>
    rw [Topic.deliverEvents]
    split
    · exact ih topic hbound
    · exact ih _ (hone event _ _ hbound)

section

variable (hinvariant : HubInvariant hub)
include hinvariant

theorem resolve (topicKey : String)
    (react : Nat → Nat → List Nat) : HubInvariant (hub.resolve topicKey react) := by
  unfold Hub.resolve
  split
  · exact hinvariant
  next topic hget =>
    split
    next afterSequence read hpoll =>
      have hfresh : ∀ subscriber ∈ (topic.resolvePoll afterSequence read react).subscribers,
          subscriber.id < hub.nextSubscriber :=
        deliverEvents_ids afterSequence react read.events _ hub.nextSubscriber
          (hinvariant.fresh topicKey topic hget)
      have htopic := (hinvariant.topics topicKey topic hget).resolvePoll
        (hinvariant.logs topicKey) hpoll react
      simp only
      split
      next hnone => exact hinvariant.settleTopic (absurd hnone) (by simp [hnone])
      · refine hinvariant.settleTopic (fun _ => htopic) ?_
        rw [finishPoll_subscribers]
        exact hfresh
    · exact hinvariant

theorem fail (topicKey : String) : HubInvariant (hub.fail topicKey) := by
  refine hinvariant.updateTopic topicKey _ fun _ _ htopic => ?_
  split
  · exact ⟨TopicInvariant.finishPoll (htopic.toSubscriptions.of_eq rfl rfl) (by simp),
      finishPoll_subscribers _⟩
  · exact ⟨htopic, rfl⟩

theorem append (topicKey : String) (sequence : Nat) :
    HubInvariant (hub.append topicKey sequence) := by
  unfold Hub.append
  split
  next hall =>
    have hbelow : ∀ earlier ∈ hub.logs topicKey, earlier < sequence := by
      simpa [List.all_eq_true] using hall
    constructor
    · intro other
      simp only
      split
      · refine List.pairwise_append.mpr ⟨hinvariant.logs topicKey, List.pairwise_singleton _ _,
          ?_⟩
        intro earlier hearlier _ hlater
        rw [List.mem_singleton.mp hlater]
        exact hbelow earlier hearlier
      · exact hinvariant.logs other
    · intro other topic hget
      simp only
      split
      next h =>
        subst h
        exact (hinvariant.topics _ topic hget).append hbelow
      · exact hinvariant.topics other topic hget
    · exact hinvariant.fresh
  · exact hinvariant

theorem perform (input : HubInput) : HubInvariant (hub.perform input) := by
  cases input with
  | append => exact hinvariant.append _ _
  | subscribe =>
    exact hinvariant.subscribe _ _ _ _
  | unsubscribe => exact hinvariant.unsubscribe _ _
  | timer => exact hinvariant.requestPoll _
  | wake wakeKey => exact hinvariant.wake wakeKey
  | load => exact hinvariant.load _
  | resolve => exact hinvariant.resolve _ _
  | fail => exact hinvariant.fail _
  | close =>
    exact ⟨hinvariant.logs, by simp [Hub.perform, Hub.close], by simp [Hub.perform, Hub.close]⟩

theorem run_of (inputs : List HubInput) : HubInvariant (Hub.machine.run hub inputs) :=
  Hub.machine.run_invariant HubInvariant (fun _ input hinvariant => hinvariant.perform input)
    hub hinvariant inputs

end

theorem run (inputs : List HubInput) : HubInvariant (Hub.machine.run Hub.initial inputs) :=
  initial.run_of inputs

end HubInvariant

end OpenCowork.Streams
